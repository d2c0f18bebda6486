import SiteConf.Check
import SiteConf.Proofs.Canonical
import SiteConf.Proofs.Words
import SiteConf.Proofs.Written

/-!
# Text without syntax errors

An argument need not be read back for a line to be sound: one that is written without quotes is read as
its words, however many, and one in quotes is one word if its closing quote is found (`Closes`). So a
statement whose arguments close ends where it is written to end, and `Clean` lines, which are read as some
statements, can be put together piece by piece.

Main statement: the text of a site is read without errors if every argument that is written for it
closes, and the directives that it keeps as text are sound and stay so when they are written in their
canonical form (`Site.errors_render`).
-/

namespace SiteConf
open Text Token

/-! ### What an argument is read as -/

/-- An argument that is written in quotes does not end with a backslash, which would escape the closing
quote. -/
def Closes (arg : String) : Prop := arg.toList.any needsQuotes = true → arg.toList.getLast? ≠ some '\\'

instance (arg : String) : Decidable (Closes arg) := inferInstanceAs (Decidable (_ → _))

theorem Quotable.closes {arg : String} (h : Quotable arg) : Closes arg := by
  intro hneed
  rcases h with hbare | hquoted
  · obtain ⟨c, hc, hq⟩ := List.any_eq_true.1 hneed
    rw [(hbare.2 c hc).2] at hq
    cases hq
  · exact hquoted.2.1

theorem closes_of_getLast? {arg : String} (h : arg.toList.getLast? ≠ some '\\') : Closes arg := fun _ => h

theorem readsWords_words {text : String} (h : ∀ w ∈ words text, IsName w) : ReadsWords [text] (words text) := by
  intro rest hr
  have hchars : ∀ w ∈ splitWords text.toList, IsName (.ofList w) := fun w hw => h _ (List.mem_map_of_mem hw)
  rw [joinWith_singleton, words, List.map_map]
  generalize text.toList = cs at hchars ⊢
  fun_induction splitWords cs with
  | case1 cs hnil =>
    exact lexemes_blanks (List.dropWhile_eq_nil_iff.1 hnil) rest
  | case2 cs c tail hcons ih =>
    have hlead : ∀ c ∈ cs.takeWhile isBlank, isBlank c = true := fun c hc => List.mem_takeWhile_imp hc
    have hcs : cs = cs.takeWhile isBlank ++ ((c :: tail.takeWhile (!isBlank ·)) ++ tail.dropWhile (!isBlank ·)) := by
      rw [List.cons_append, List.takeWhile_append_dropWhile, ← hcons, List.takeWhile_append_dropWhile]
    have hword := readsWord_of_isName (hchars _ (List.mem_cons_self ..))
    rw [String.toList_ofList] at hword
    -- the word ends at the white space after it, or where the text ends
    have hend : EndsWord (tail.dropWhile (!isBlank ·) ++ rest) := by
      cases hdrop : tail.dropWhile (!isBlank ·) with
      | nil => exact hr
      | cons d ds =>
        have hd : isBlank d = true := by simpa using head_dropWhile _ hdrop
        exact endsWord_cons (by simp [isWordChar, hd])
    rw [hcs, List.append_assoc, lexemes_blanks hlead, List.append_assoc, hword _ hend,
      ih fun w hw => hchars w (List.mem_cons_of_mem _ hw)]
    rfl

theorem isName_of_needsQuotes {w : String} (hw : IsWord w) (h : ∀ c ∈ w.toList, needsQuotes c = false) :
    IsName w := by
  have hstart : ∀ c ∈ w.toList, isWordStart c = true := fun c hc => isWordChar_of_bare (hw.2 c hc) (h c hc)
  simp only [isWordStart, Bool.and_eq_true] at hstart
  refine ⟨?_, fun c hc => (hstart c hc).1.1⟩
  cases hcs : w.toList with
  | nil => exact absurd hcs hw.1
  | cons c cs =>
    have hc := hstart c (by simp [hcs])
    simp [hc.1.2, hc.2]

theorem mem_of_mem_words {text w : String} (hw : w ∈ words text) : ∀ c ∈ w.toList, c ∈ text.toList := by
  obtain ⟨cs, hcs, rfl⟩ := List.mem_map.1 hw
  rw [String.toList_ofList]
  generalize text.toList = ts at hcs
  fun_induction splitWords ts with
  | case1 => simp at hcs
  | case2 ts c tail hcons ih =>
    have hmem : ∀ x ∈ c :: tail, x ∈ ts := fun x hx => (List.dropWhile_suffix isBlank).mem (hcons ▸ hx)
    intro x hx
    rcases List.mem_cons.1 hcs with rfl | hcs
    · refine hmem x ?_
      rcases List.mem_cons.1 hx with rfl | hx
      · exact List.mem_cons_self ..
      · exact List.mem_cons_of_mem _ ((List.takeWhile_sublist _).mem hx)
    · exact hmem x (List.mem_cons_of_mem _ ((List.dropWhile_suffix _).mem (ih hcs x hx)))

/-- An argument that closes is read as some words from its written form. -/
theorem Closes.readsWords {arg : String} (h : Closes arg) : ∃ vs, ReadsWords [quoteArg arg] vs := by
  by_cases hneed : arg.toList = [] ∨ arg.toList.any needsQuotes = true
  · have hlast : arg.toList.getLast? ≠ some '\\' := by
      rcases hneed with hnil | hneed
      · simp [hnil]
      · exact h hneed
    obtain ⟨v, hv, hwritten⟩ := exists_quotable (.inr ⟨hneed, hlast⟩)
    exact ⟨[v], hwritten ▸ readsWords_singleton (readsWord_quoteArg hv)⟩
  · rw [not_or, Bool.not_eq_true, List.any_eq_false] at hneed
    have hbare : ∀ c ∈ arg.toList, needsQuotes c = false := fun c hc => by simpa using hneed.2 c hc
    rw [quoteArg_eq_self hneed.1 hbare]
    exact ⟨_, readsWords_words fun w hw =>
      isName_of_needsQuotes (isWord_of_mem_words hw) fun c hc => hbare c (mem_of_mem_words hw c hc)⟩

theorem ReadsWords.append {ws ws' vs vs' : List String} (hne : ws ≠ []) (hne' : ws' ≠ [])
    (h : ReadsWords ws vs) (h' : ReadsWords ws' vs') : ReadsWords (ws ++ ws') (vs ++ vs') := by
  intro rest hr
  rw [joinWith_append " " hne hne', String.toList_append, String.toList_append, List.append_assoc,
    List.append_assoc, show " ".toList = [' '] from rfl, List.singleton_append, h _ (endsWord_cons (by decide)),
    lexemes_blank (by decide), h' rest hr, List.map_append, List.append_assoc]

theorem ReadsWords.arguments {ws vs args : List String} (hne : ws ≠ []) (h : ReadsWords ws vs)
    (ha : ∀ a ∈ args, Closes a) : ∃ us, ReadsWords (ws ++ args.map quoteArg) (vs ++ us) := by
  induction args generalizing ws vs with
  | nil => exact ⟨[], by simpa using h⟩
  | cons a args ih =>
    obtain ⟨us, hus⟩ := (ha a (by simp)).readsWords
    obtain ⟨us', hus'⟩ := ih (by simp) (h.append hne (by simp) hus) fun x hx => ha x (by simp [hx])
    exact ⟨us ++ us', by simpa [List.append_assoc] using hus'⟩

theorem readsWords_closes {name : String} {args : List String} (hn : IsName name) (ha : ∀ a ∈ args, Closes a) :
    ∃ us, ReadsWords (name :: args.map quoteArg) (name :: us) :=
  (readsWords_singleton (readsWord_of_isName hn)).arguments (by simp) ha

/-! ### Lines -/

/-- The lines are read as some statements, without a syntax error. -/
def Clean (lines : List String) : Prop := ∃ ns, Writes true lines ns

theorem Writes.clean {lines : List String} {ns : List Node} (h : Writes true lines ns) : Clean lines := ⟨ns, h⟩

namespace Clean
variable {lines lines' : List String} {name : String} {args : List String}

theorem errors_eq_nil (h : Clean lines) : (Tree.ofText (joinLines lines ++ "\n")).errors = [] := by
  obtain ⟨ns, h⟩ := h
  exact (h.ofText (.inr rfl)).1

theorem nil : Clean [] := Writes.nil.clean

theorem append (h : Clean lines) (h' : Clean lines') : Clean (lines ++ lines') := by
  obtain ⟨ns, h⟩ := h
  obtain ⟨ns', h'⟩ := h'
  exact (h.append h').clean

theorem cons {line : String} (h : Clean [line]) (h' : Clean lines) : Clean (line :: lines) := h.append h'

theorem ite {p : Prop} [Decidable p] (h : p → Clean lines) (h' : ¬p → Clean lines') :
    Clean (if p then lines else lines') := by
  split_ifs with hp
  · exact h hp
  · exact h' hp

theorem map {α : Type} {f : α → String} {xs : List α} (h : ∀ x ∈ xs, Clean [f x]) : Clean (xs.map f) := by
  induction xs with
  | nil => exact nil
  | cons x xs ih => exact (h x (by simp)).cons (ih fun y hy => h y (by simp [hy]))

theorem banner {title : String} (ht : '\n' ∉ title.toList) (h : Clean lines) :
    Clean (SiteConf.banner title :: lines) := by
  obtain ⟨ns, h⟩ := h
  exact (h.banner ht).clean

theorem titled {title : String} (ht : '\n' ∉ title.toList) (h : Clean lines) :
    Clean (SiteConf.titled title lines) := by
  obtain ⟨ns, h⟩ := h
  exact (h.titled ht).clean

theorem exists_writes {ls : List (List String)} (h : ∀ l ∈ ls, Clean l) :
    ∃ nss, List.Forall₂ (Writes true) ls nss := by
  induction ls with
  | nil => exact ⟨[], .nil⟩
  | cons l ls ih =>
    obtain ⟨ns, hl⟩ := h l (by simp)
    obtain ⟨nss, hls⟩ := ih fun x hx => h x (by simp [hx])
    exact ⟨ns :: nss, .cons hl hls⟩

theorem sections {ls : List (List String)} (h : ∀ l ∈ ls, Clean l) : Clean (joinSections ls) := by
  obtain ⟨nss, h⟩ := exists_writes h
  exact (Writes.sections h).clean

theorem nonEmpty {ls : List (List String)} (h : ∀ l ∈ ls, Clean l) : Clean (joinNonEmpty ls) := by
  obtain ⟨nss, h⟩ := exists_writes h
  exact (Writes.nonEmpty h).clean

theorem words {ws : List String} (h : ReadsWords ws (name :: args)) : Clean [joinWith " " ws ++ ";"] :=
  (Writes.words 0 h).clean

theorem directive (hn : IsName name) (ha : ∀ a ∈ args, Closes a) : Clean [directiveLine name args] := by
  obtain ⟨us, hus⟩ := readsWords_closes hn ha
  exact words hus

theorem consDirective (hn : IsName name) (ha : ∀ a ∈ args, Closes a) (h : Clean lines) :
    Clean (directiveLine name args :: lines) :=
  (directive hn ha).cons h

theorem braced {head : String} {ws : List String} (hhead : head = joinWith " " ws) (hw : ReadsWords ws (name :: args))
    (h : Clean lines) : Clean (SiteConf.braced head lines) := by
  obtain ⟨ns, h⟩ := h
  rw [hhead]
  exact (Writes.block 0 (List.forall_mem_nil _) rfl hw (h.indent 1) rfl).clean

end Clean

/-! ### Directives that are kept as text -/

/-- The text is read as words that can start a statement: it is not blank, and each of its words is a
name. Names are never written in quotes. -/
def NamesWords (name : String) : Prop := words name ≠ [] ∧ ∀ w ∈ words name, IsName w

instance (name : String) : Decidable (NamesWords name) := inferInstanceAs (Decidable (_ ∧ _))

mutual
/-- Names are words and arguments close, also in the children. -/
def Node.Closes : Node → Prop
  | .directive name args _ => NamesWords name ∧ ∀ a ∈ args, SiteConf.Closes a
  | .block name args _ children => (NamesWords name ∧ ∀ a ∈ args, SiteConf.Closes a) ∧ AllClose children

def AllClose : List Node → Prop
  | [] => True
  | n :: ns => n.Closes ∧ AllClose ns
end

theorem NamesWords.readsWords {name : String} {args : List String} (hn : NamesWords name)
    (ha : ∀ a ∈ args, Closes a) : ∃ first us, ReadsWords (name :: args.map quoteArg) (first :: us) := by
  obtain ⟨us, hus⟩ := (readsWords_words hn.2).arguments (by simp) ha
  cases hw : words name with
  | nil => exact absurd hw hn.1
  | cons first rest => exact ⟨first, rest ++ us, by rwa [hw] at hus⟩

mutual
theorem Node.clean_toLines (level : Int) : ∀ n : Node, n.Closes → Clean (n.toLines level)
  | .directive name args line, h => by
    rw [Node.Closes] at h
    obtain ⟨first, us, hus⟩ := h.1.readsWords h.2
    rw [Node.toLines]
    exact ((Writes.words 0 hus).blanks level).clean
  | .block name args line children, h => by
    rw [Node.Closes] at h
    obtain ⟨first, us, hus⟩ := h.1.1.readsWords h.1.2
    obtain ⟨ns, hns⟩ := clean_serialize (level + 1) children h.2
    rw [Node.toLines]
    exact (Writes.block 0 (isBlank_pad level)
      (by rw [String.toList_append]; rfl) hus hns (by simp [statement, String.toList_append])).clean

theorem clean_serialize (level : Int) : ∀ ns : List Node, AllClose ns → Clean (serialize level ns)
  | [], _ => by rw [serialize]; exact .nil
  | n :: ns, h => by
    rw [AllClose] at h
    rw [serialize]
    exact (n.clean_toLines level h.1).append (clean_serialize level ns h.2)
end

theorem clean_canonicalLines {text : String} (herrors : textErrors text = [])
    (hnodes : AllClose (Tree.ofText text).nodes) :
    Clean (if isBlankText text then [] else canonicalLines text) := by
  refine .ite (fun _ => .nil) fun hb => ?_
  rw [textErrors, if_neg hb] at herrors
  rw [canonicalLines, if_pos (by simp [herrors])]
  exact clean_serialize 0 _ hnodes

/-! ### What is written for a site -/

def Upstream.arguments (u : Upstream) : List String :=
  if u.enabled && !u.servers.isEmpty then orElse u.name "backend" :: u.servers.map (·.address) else []

def Site.fileArguments (s : Site) : List String :=
  if s.reverseProxy.enabled then [] else s.rootPath :: s.indexFiles

def Ssl.arguments (s : Ssl) : List String :=
  if s.enabled then
    orElse s.certificatePath placeholderCertificate :: orElse s.keyPath placeholderKey :: s.protocols
  else []

def Security.arguments (s : Security) : List String :=
  (s.ipAllowlist ++ s.ipDenylist).map trim ++
    (if s.basicAuth then [orElse s.basicAuthFile "/etc/nginx/.htpasswd"] else [])

def Performance.arguments (p : Performance) : List String :=
  (if p.gzip then p.effectiveGzipTypes else []) ++ (if p.brotli then p.effectiveBrotliTypes else [])

def Logging.arguments (l : Logging) : List String :=
  l.accessTarget :: (if l.errorLog then [l.errorTarget] else [])

def Location.arguments (l : Location) : List String :=
  l.path :: match l.kind with
    | .files => l.root :: (words l.tryFiles ++ words l.index ++ words l.cacheExpiry)
    | .proxy => l.proxyPass :: l.ownHeaders.flatMap fun h => [h.key, h.value]
    | .redirect => [l.redirectUrl]
    | .custom => []

namespace Site

/-- The arguments that are written for the fields of a site, in quotes if they need them. -/
def arguments (s : Site) : List String :=
  s.serverNames ++ s.fileArguments ++ s.upstream.arguments ++ s.ssl.arguments ++ s.security.arguments ++
    s.performance.arguments ++ s.logging.arguments ++ s.effectiveLocations.flatMap Location.arguments ++
    s.servedAssets.flatMap fun a => words (s.performance.assetExpiry a)

/-- The values that are written in quotes whether they need them or not. -/
def quotedValues (s : Site) : List String :=
  (if s.ssl.enabled then [s.ssl.effectiveCiphers] else []) ++
    (if s.security.basicAuth then [orElse s.security.basicAuthRealm "Restricted"] else [])

/-- The directives that are kept as text. -/
def keptTexts (s : Site) : List String :=
  s.customDirectives :: (s.locations.filter (·.kind = .custom)).map (·.customDirectives)

end Site

/-! ### Sections -/

theorem PoolMember.clean_line {m : PoolMember} (h : Closes m.address) : Clean [directiveLine "server" m.args] := by
  -- the other arguments do not depend on the address
  have hrest := PoolMember.quotable_args (m := { m with address := "a" }) (show Quotable "a" by decide)
  unfold PoolMember.args at hrest
  refine .directive (by decide) ?_
  unfold PoolMember.args
  simp only [List.cons_append, List.forall_mem_cons] at hrest ⊢
  exact ⟨h, fun a ha => (hrest.2 a ha).closes⟩

theorem Upstream.clean_lines {u : Upstream} (h : ∀ a ∈ u.arguments, Closes a) : Clean u.lines := by
  unfold Upstream.lines
  unfold Upstream.arguments at h
  refine .ite (fun hu => ?_) fun _ => .nil
  rw [if_pos hu, List.forall_mem_cons, List.forall_mem_map] at h
  obtain ⟨us, hus⟩ := readsWords_closes (show IsName "upstream" by decide)
    (show ∀ a ∈ [orElse u.name "backend"], Closes a by simpa using h.1)
  refine .banner (by decide) (.braced rfl hus (.append (.ite (fun _ => .nil) fun _ => ?_) (.map fun m hm => ?_)))
  · refine .directive ?_ (by simp)
    cases u.method <;> decide
  · exact PoolMember.clean_line (h.2 m hm)

theorem Site.clean_nameLines {s : Site} (h : ∀ n ∈ s.serverNames, Closes n) : Clean s.nameLines :=
  .ite (fun _ => .nil) fun _ => .directive (by decide) h

theorem Site.clean_httpsRedirectLines {s : Site} (h : ∀ n ∈ s.serverNames, Closes n) :
    Clean s.httpsRedirectLines := by
  refine .ite (fun _ => .banner (by decide) (.braced rfl (readsWords_singleton (w := "server")
    (readsWord_of_isName (by decide))) ?_)) fun _ => .nil
  refine .append (.append (.append ?_ ?_) (clean_nameLines h)) ?_
  · exact .directive (by decide) (by decide)
  · exact .ite (fun _ => .directive (by decide) (by decide)) fun _ => .nil
  · exact .directive (by decide) (by decide)

theorem Site.clean_headLines {s : Site} (hn : ∀ n ∈ s.serverNames, Closes n) (hf : ∀ a ∈ s.fileArguments, Closes a) :
    Clean s.headLines := by
  have hflags : ∀ {a : String}, Quotable a → ∀ x ∈ a :: s.listenFlags, Closes x := fun ha =>
    List.forall_mem_cons.2 ⟨ha.closes, fun x hx => (s.quotable_listenFlags x hx).closes⟩
  unfold Site.fileArguments at hf
  unfold Site.headLines
  refine .append (.append (.append ?_ ?_) (clean_nameLines hn)) (.ite (fun _ => .nil) fun hp => ?_)
  · exact .directive (by decide) (hflags (quotable_toString _))
  · exact .ite (fun _ => .directive (by decide) (hflags (quotable_append_toString (by decide) _))) fun _ => .nil
  · rw [if_neg hp, List.forall_mem_cons] at hf
    exact .append (.ite (fun _ => .nil) fun _ => .directive (by decide) (by simpa using hf.1))
      (.ite (fun _ => .nil) fun _ => .directive (by decide) hf.2)

/-- A value that stands in quotes, or as it needs to if it holds such a quote. -/
theorem readsWords_quotes {q : Char} {value : String} (quoted : String) (hq : isQuote q = true)
    (hquoted : quoted.toList = q :: value.toList ++ [q]) (h : value.toList.getLast? ≠ some '\\') :
    ∃ vs, ReadsWords [if value.toList.contains q then quoteArg value else quoted] vs := by
  have hne : q ≠ '\\' := by
    rintro rfl
    exact absurd hq (by decide)
  split_ifs with hc
  · exact (closes_of_getLast? h).readsWords
  · have hw := readsWord_quotes hq hne value (by simpa using hc) h
    exact ⟨[value], readsWords_singleton (hquoted ▸ hw)⟩

theorem Clean.quotedValue {name word : String} (hn : IsName name) (h : ∃ vs, ReadsWords [word] vs) :
    Clean [name ++ " " ++ word ++ ";"] := by
  obtain ⟨vs, hvs⟩ := h
  have hline := Clean.words ((readsWords_singleton (readsWord_of_isName hn)).append (by simp) (by simp) hvs)
  rwa [List.singleton_append, joinWith_cons_cons, joinWith_singleton] at hline

theorem Ssl.clean_lines {s : Ssl} (h : ∀ a ∈ s.arguments, Closes a)
    (hciphers : s.enabled = true → s.effectiveCiphers.toList.getLast? ≠ some '\\') : Clean s.lines := by
  unfold Ssl.arguments at h
  unfold Ssl.lines
  refine .ite (fun he => ?_) fun _ => .nil
  rw [if_pos he, List.forall_mem_cons, List.forall_mem_cons] at h
  obtain ⟨hcert, hkey, hprot⟩ := h
  refine .append (.append (.append (.append (.banner (by decide) ?_) ?_) ?_) ?_) ?_
  · exact .consDirective (by decide) (by simpa using hcert) (.directive (by decide) (by simpa using hkey))
  · exact .ite (fun _ => .nil) fun _ => .directive (by decide) hprot
  · refine .cons ?_ (.append (writes_onOff (by decide) _).clean ?_)
    · have hline := Clean.quotedValue (show IsName "ssl_ciphers" by decide)
        (readsWords_quotes ("'" ++ s.effectiveCiphers ++ "'") (q := '\'') (by decide)
          (by rw [String.toList_append, String.toList_append]; rfl) (hciphers he))
      have hquotes : "ssl_ciphers '" ++ s.effectiveCiphers ++ "';" =
          "ssl_ciphers" ++ " " ++ ("'" ++ s.effectiveCiphers ++ "'") ++ ";" := by
        simp only [String.append_assoc]
        rfl
      rw [hquotes]
      split_ifs at hline ⊢
      · exact hline
      · exact hline
    · refine .consDirective (by decide) ?_ (.consDirective (by decide) (by decide)
        (writes_onOff (by decide) _).clean)
      cases s.preset <;> decide
  · refine .ite (fun _ => ?_) fun _ => .nil
    have hname : IsName "Strict-Transport-Security" := by decide
    exact (writes_addHeader (c := true) hname (by decide) (by decide)).clean
  · exact .ite (fun _ => .consDirective (by decide) (by decide)
      (.directive (by decide) (by decide))) fun _ => .nil

theorem clean_addressLines {name : String} (hn : IsName name) {addresses : List String}
    (h : ∀ a ∈ addresses.map trim, Closes a) : Clean (addressLines name addresses) := by
  refine .map fun a ha => .directive hn ?_
  rw [List.forall_mem_singleton]
  exact h _ (List.mem_map_of_mem (List.mem_of_mem_filter ha))

theorem Security.clean_lines {s : Security} (h : ∀ a ∈ s.arguments, Closes a)
    (hrealm : s.basicAuth = true → (orElse s.basicAuthRealm "Restricted").toList.getLast? ≠ some '\\') :
    Clean s.lines := by
  unfold Security.arguments at h
  rw [List.map_append, List.forall_mem_append, List.forall_mem_append] at h
  obtain ⟨⟨hallow, hdeny⟩, hfile⟩ := h
  unfold Security.lines
  refine .titled (by decide) (.append (.append (.append (.append ?_ ?_) ?_) ?_) ?_)
  · exact .ite (fun _ => .directive (by decide) (by decide)) fun _ => .nil
  · refine .ite (fun _ => .map fun x hx => ?_) fun _ => .nil
    obtain ⟨hn, hv, hl⟩ := legible_hardeningHeaders x hx
    exact (writes_addHeader hn hv hl).clean
  · exact clean_addressLines (by decide) hallow
  · exact clean_addressLines (by decide) hdeny
  · refine .ite (fun hb => ?_) fun _ => .nil
    rw [if_pos hb] at hfile
    refine .cons ?_ (.directive (by decide) hfile)
    exact Clean.quotedValue (show IsName "auth_basic" by decide)
      (readsWords_quotes _ (q := '"') (by decide) (by rw [String.toList_append, String.toList_append]; rfl)
        (hrealm hb))

theorem Performance.clean_lines {p : Performance} (h : ∀ a ∈ p.arguments, Closes a) : Clean p.lines := by
  unfold Performance.arguments at h
  obtain ⟨hgzip, hbrotli⟩ := List.forall_mem_append.1 h
  unfold Performance.lines
  refine .titled (by decide) (.append (.append (.append ?_ ?_) ?_) ?_)
  · refine .ite (fun hg => ?_) fun _ => .nil
    rw [if_pos hg] at hgzip
    iterate 4 refine .consDirective (by decide) (by decide) ?_
    exact .directive (by decide) hgzip
  · refine .ite (fun hb => ?_) fun _ => .nil
    rw [if_pos hb] at hbrotli
    iterate 2 refine .consDirective (by decide) (by decide) ?_
    exact .directive (by decide) hbrotli
  · refine .ite (fun _ => ?_) fun _ => .nil
    show Clean [directiveLine "client_max_body_size" [toString p.clientMaxBodySize ++ p.clientMaxBodyUnit.letter]]
    refine .directive (by decide) ?_
    rw [List.forall_mem_singleton]
    refine (quotable_toString_append _ ?_).closes
    cases p.clientMaxBodyUnit <;> decide
  · refine .ite (fun _ => .directive (by decide) ?_) fun _ => .nil
    rw [List.forall_mem_singleton]
    exact (quotable_toString_append _ (by decide)).closes

theorem Logging.clean_lines {l : Logging} (h : ∀ a ∈ l.arguments, Closes a) : Clean l.lines := by
  unfold Logging.arguments at h
  obtain ⟨haccess, herror⟩ := List.forall_mem_cons.1 h
  unfold Logging.lines
  refine .append (.banner (by decide) (.directive (by decide) ?_)) (.ite (fun he => ?_) fun _ => .nil)
  · rw [List.forall_mem_singleton]
    exact haccess
  · rw [if_pos he, List.forall_mem_singleton] at herror
    refine .directive (by decide) (List.forall_mem_cons.2 ⟨herror, ?_⟩)
    cases l.errorLogLevel <;> decide

/-! ### Locations -/

namespace Location

theorem clean_fileLines {l : Location} (hroot : Closes l.root) (htry : ∀ w ∈ words l.tryFiles, Closes w)
    (hindex : ∀ w ∈ words l.index, Closes w) (hexpires : ∀ w ∈ words l.cacheExpiry, Closes w) :
    Clean l.fileLines := by
  unfold fileLines
  refine .append (.append (.append (.append ?_ ?_) ?_) ?_) ?_
  · exact .ite (fun _ => .nil) fun _ => .directive (by decide) (by simpa using hroot)
  · exact .ite (fun _ => .nil) fun _ => .directive (by decide) htry
  · exact .ite (fun _ => .nil) fun _ => .directive (by decide) hindex
  · exact .ite (fun _ => .directive (by decide) (by decide)) fun _ => .nil
  · exact .ite (fun _ => .nil) fun _ => .directive (by decide) hexpires

theorem clean_headers {hs : List Header} (h : ∀ x ∈ hs, Closes x.key ∧ Closes x.value) :
    Clean (hs.map headerLine) := by
  refine .map fun x hx => .directive (by decide) ?_
  simpa using h x hx

theorem clean_proxyLines {l : Location} (realIp : Bool) (hpass : Closes l.proxyPass)
    (hown : ∀ x ∈ l.ownHeaders, Closes x.key ∧ Closes x.value) : Clean (l.proxyLines realIp) := by
  unfold proxyLines
  refine .append (.append (.append (.append (.append ?_ ?_) ?_) (clean_headers hown)) l.writes_timeoutLines.clean) ?_
  · refine .cons ?_ (.directive (by decide) (by decide))
    split_ifs
    · exact (.directive (by decide) (by simp) : Clean [directiveLine "proxy_pass" []])
    · exact .directive (by decide) (by simpa using hpass)
  · exact .ite (fun _ => writes_upgradeLines.clean) fun _ => .nil
  · exact .ite (fun _ => clean_headers (by decide)) fun _ => .nil
  · exact .ite (fun _ => .nil) fun _ => .directive (by decide) (by decide)

theorem clean_redirectLines {l : Location} (h : Closes l.redirectUrl) : Clean l.redirectLines := by
  refine .directive (by decide) (List.forall_mem_cons.2 ⟨(quotable_toString _).closes, ?_⟩)
  split_ifs
  · simp
  · simpa using h

theorem clean_body {l : Location} (realIp : Bool) (ha : ∀ a ∈ l.arguments, Closes a)
    (ht : l.kind = .custom → textErrors l.customDirectives = [] ∧ AllClose (Tree.ofText l.customDirectives).nodes) :
    Clean (l.body realIp) := by
  unfold arguments at ha
  unfold body
  cases hk : l.kind with
  | files =>
    rw [hk] at ha
    simp only [List.forall_mem_cons, List.forall_mem_append] at ha
    exact clean_fileLines ha.2.1 ha.2.2.1.1 ha.2.2.1.2 ha.2.2.2
  | proxy =>
    rw [hk] at ha
    refine clean_proxyLines realIp (ha _ (by simp)) fun x hx => ⟨ha _ ?_, ha _ ?_⟩
    · exact List.mem_cons_of_mem _ (List.mem_cons_of_mem _ (List.mem_flatMap.2 ⟨x, hx, by simp⟩))
    · exact List.mem_cons_of_mem _ (List.mem_cons_of_mem _ (List.mem_flatMap.2 ⟨x, hx, by simp⟩))
  | redirect =>
    rw [hk] at ha
    exact clean_redirectLines (ha _ (by simp))
  | custom =>
    obtain ⟨herrors, hnodes⟩ := ht hk
    exact clean_canonicalLines herrors hnodes

end Location

namespace Site
variable {s : Site}

theorem clean_locationLines {l : Location} (ha : ∀ a ∈ l.arguments, Closes a)
    (ht : l.kind = .custom → textErrors l.customDirectives = [] ∧ AllClose (Tree.ofText l.customDirectives).nodes) :
    Clean (s.locationLines l) := by
  have hbody := s.security.writes_limitLines.clean.append (l.clean_body s.reverseProxy.realIpHeaders ha ht)
  obtain ⟨us, hus⟩ := (ha _ (List.mem_cons_self ..)).readsWords
  have hlocation : ReadsWords ["location", quoteArg l.path] ("location" :: us) :=
    readsWords_cons (readsWord_of_isName (by decide)) (by simp) hus
  have hmodified : ∀ {m : String}, IsName m → ReadsWords ["location", m, quoteArg l.path] ("location" :: m :: us) :=
    fun hm => readsWords_cons (readsWord_of_isName (by decide)) (by simp)
      (readsWords_cons (readsWord_of_isName hm) (by simp) hus)
  unfold locationLines
  cases l.matchType with
  | start => exact .braced (by rfl) hlocation hbody
  | exact => exact .braced (by rfl) (hmodified (show IsName "=" by decide)) hbody
  | regex => exact .braced (by rfl) (hmodified (show IsName "~" by decide)) hbody
  | regexIgnoreCase => exact .braced (by rfl) (hmodified (show IsName "~*" by decide)) hbody

theorem mem_keptTexts {l : Location} (hl : l ∈ s.effectiveLocations) (hk : l.kind = .custom) :
    l.customDirectives ∈ s.keptTexts := by
  unfold effectiveLocations at hl
  split_ifs at hl
  · obtain rfl := List.mem_singleton.1 hl
    cases hk
  · obtain rfl := List.mem_singleton.1 hl
    cases hk
  · exact List.mem_cons_of_mem _ (List.mem_map_of_mem (List.mem_filter.2 ⟨hl, by simpa using hk⟩))

theorem clean_locationSection (ha : ∀ l ∈ s.effectiveLocations, ∀ a ∈ l.arguments, Closes a)
    (ht : ∀ t ∈ s.keptTexts, textErrors t = [] ∧ AllClose (Tree.ofText t).nodes) : Clean s.locationSection := by
  refine .banner (by decide) (.sections (List.forall_mem_map.2 fun l hl => ?_))
  exact clean_locationLines (ha l hl) fun hk => ht _ (mem_keptTexts hl hk)

theorem clean_cachingSection
    (h : ∀ a ∈ s.servedAssets, ∀ w ∈ words (s.performance.assetExpiry a), Closes w) : Clean s.cachingSection := by
  unfold cachingSection
  unfold servedAssets at h
  refine .ite (fun hc => ?_) fun _ => .nil
  rw [if_pos hc] at h
  refine .titled (by decide) (.sections (List.forall_mem_map.2 fun a ha => ?_))
  have hcontrol : "add_header Cache-Control \"" ++ assetCacheControl ++ "\";" =
      directiveLine "add_header" ["Cache-Control", assetCacheControl] := by decide
  obtain ⟨us, hus⟩ := readsWords_closes (show IsName "location" by decide)
    (show ∀ w ∈ ["~*", a.pattern], Closes w by cases a <;> decide)
  unfold Performance.assetLines
  rw [hcontrol]
  refine .braced ?_ hus (.consDirective (by decide) (h a ha) (.directive (by decide) (by decide)))
  rfl

/-! ### The whole text -/

theorem clean_serverLines (ha : ∀ a ∈ s.arguments, Closes a)
    (hq : ∀ v ∈ s.quotedValues, v.toList.getLast? ≠ some '\\')
    (ht : ∀ t ∈ s.keptTexts, textErrors t = [] ∧ AllClose (Tree.ofText t).nodes) : Clean s.serverLines := by
  simp only [arguments, List.forall_mem_append, List.forall_mem_flatMap] at ha
  obtain ⟨⟨⟨⟨⟨⟨⟨⟨hnames, hfiles⟩, -⟩, hssl⟩, hsecurity⟩, hperformance⟩, hlogging⟩, hlocations⟩, hcaching⟩ := ha
  have hciphers : s.ssl.enabled = true → s.ssl.effectiveCiphers.toList.getLast? ≠ some '\\' := fun h =>
    hq _ (by simp [quotedValues, h])
  have hrealm : s.security.basicAuth = true →
      (orElse s.security.basicAuthRealm "Restricted").toList.getLast? ≠ some '\\' := fun h =>
    hq _ (by simp [quotedValues, h])
  have hcustom := ht s.customDirectives (List.mem_cons_self ..)
  refine .banner (by decide) (.braced rfl (readsWords_singleton (w := "server") (readsWord_of_isName (by decide)))
    (.nonEmpty ?_))
  simp only [List.forall_mem_cons, List.not_mem_nil, false_implies, implies_true, and_true]
  refine ⟨clean_headLines hnames hfiles, Ssl.clean_lines hssl hciphers, Security.clean_lines hsecurity hrealm,
    Performance.clean_lines hperformance, Logging.clean_lines hlogging, clean_locationSection hlocations ht,
    clean_cachingSection hcaching, ?_⟩
  have hlines := clean_canonicalLines hcustom.1 hcustom.2
  unfold customSection
  split_ifs at hlines ⊢
  · exact .nil
  · exact .banner (by decide) hlines

/-- The text of a site has no syntax errors if all arguments that are written for it close, no value that
always stands in quotes ends with a backslash, and the directives that it keeps as text have no syntax
errors, names that are words and arguments that close. It is written just if no number for it, and no rate limit that
there is a message about, has too many digits. -/
theorem errors_render (ht : ∀ t ∈ s.keptTexts, textErrors t = [])
    (ha : ∀ a ∈ s.arguments, Closes a) (hq : ∀ v ∈ s.quotedValues, v.toList.getLast? ≠ some '\\')
    (hc : ∀ t ∈ s.keptTexts, AllClose (Tree.ofText t).nodes) : (Tree.ofText s.render).errors = [] ∧
      ((∃ ps, s.generate = .ok (s.render, ps)) ↔ (∀ n ∈ s.writtenIntegers, FewDigits n) ∧
        (s.security.rateLimiting = true → s.security.rateLimit ≤ 0 → FewDigits s.security.rateLimit)) := by
  refine ⟨?_, exists_generate_iff⟩
  have hserver := clean_serverLines ha hq fun t hmem => ⟨ht t hmem, hc t hmem⟩
  simp only [arguments, List.forall_mem_append, List.forall_mem_flatMap] at ha
  obtain ⟨⟨⟨⟨⟨⟨⟨⟨hnames, -⟩, hupstream⟩, -⟩, -⟩, -⟩, -⟩, -⟩, -⟩ := ha
  refine Clean.errors_eq_nil (.nonEmpty ?_)
  simp only [List.forall_mem_cons, List.not_mem_nil, false_implies, implies_true, and_true]
  exact ⟨Upstream.clean_lines hupstream, s.security.writes_zoneLines.clean, clean_httpsRedirectLines hnames, hserver⟩

/-- White space, quotes, a brace and a semicolon in the fields, and a quoted name in the kept text. -/
theorem errors_render_odd :
    let s : Site :=
      { serverNames := ["a\u00a0b", "it's \"x\""]
        rootPath := "/srv/a \"b\";\t\x7bc"
        security := { basicAuth := true, basicAuthRealm := "say \"hi\", it's\\ me" }
        customDirectives := "\"add_header X\" 'a;b';" }
    (∀ t ∈ s.keptTexts, textErrors t = []) ∧ (∀ a ∈ s.arguments, Closes a) ∧
      (∀ v ∈ s.quotedValues, v.toList.getLast? ≠ some '\\') ∧
      (∀ t ∈ s.keptTexts, AllClose (Tree.ofText t).nodes) ∧ (Tree.ofText s.render).errors = [] ∧
      ∃ ps, s.generate = .ok (s.render, ps) := by
  intro s
  have htree : Tree.ofText s.customDirectives = ⟨[.directive "add_header X" ["a;b"] 1], []⟩ := by cbv
  have htexts : s.keptTexts = [s.customDirectives] := by rfl
  have ht : ∀ t ∈ s.keptTexts, textErrors t = [] := by
    rw [htexts, List.forall_mem_singleton, textErrors, htree, ite_self]
  have hc : ∀ t ∈ s.keptTexts, AllClose (Tree.ofText t).nodes := by
    rw [htexts, List.forall_mem_singleton, htree]
    exact ⟨⟨by decide +kernel, by decide⟩, trivial⟩
  have ha : ∀ a ∈ s.arguments, Closes a := by decide +kernel
  have hq : ∀ v ∈ s.quotedValues, v.toList.getLast? ≠ some '\\' := by decide +kernel
  obtain ⟨herrors, hgenerate⟩ := errors_render ht ha hq hc
  exact ⟨ht, ha, hq, hc, herrors, hgenerate.2 ⟨by decide, by decide⟩⟩

end Site
end SiteConf
