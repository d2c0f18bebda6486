import SiteConf.Proofs.Legible
import SiteConf.Proofs.Numbers

/-!
# The text of a site says its statements

Section by section, the lines that are written for a legible site write the statements of the site.
The whole text is then read without errors, and as these statements (`ofText_render`).
-/

namespace SiteConf
open Text Token

variable {c : Bool}

/-! ### Written words -/

theorem IsBare.append {xs ys : List Char} (hx : IsBare xs) (hy : IsBare ys) : IsBare (xs ++ ys) := by
  refine ⟨by simp [hx.1], fun c hc => ?_⟩
  rcases List.mem_append.1 hc with hc | hc
  · exact hx.2 c hc
  · exact hy.2 c hc

theorem isBare_of_isDigit {ds : List Char} (hne : ds ≠ []) (h : ∀ c ∈ ds, c.isDigit = true) : IsBare ds := by
  refine ⟨hne, fun c hc => ?_⟩
  have hd := h c hc
  simp only [Char.isDigit, Bool.and_eq_true, decide_eq_true_eq] at hd
  have h1 : 48 ≤ c.toNat := hd.1
  have h2 : c.toNat ≤ 57 := hd.2
  refine ⟨?_, ?_⟩
  · simp only [isBlank, Bool.or_eq_false_iff, Bool.and_eq_false_iff, decide_eq_false_iff_not, beq_eq_false_iff_ne]
    omega
  · simp only [needsQuotes, List.contains_eq_mem, decide_eq_false_iff_not, List.mem_cons, List.not_mem_nil,
      or_false, not_or]
    refine ⟨?_, ?_, ?_, ?_, ?_, ?_, ?_, ?_, ?_, ?_⟩ <;> rintro rfl <;> exact absurd (h _ hc) (by decide)

theorem isBare_toString (n : Int) : IsBare (toString n).toList := by
  have hd : IsBare (Nat.toDigits 10 n.natAbs) := isBare_of_isDigit Nat.toDigits_ne_nil (isDigit_toDigits _)
  rw [toList_toString_int]
  split_ifs
  · have hsign : IsBare ['-'] := by decide
    exact hsign.append hd
  · exact hd

theorem quotable_toString (n : Int) : Quotable (toString n) := .inl (isBare_toString n)

theorem quotable_toString_append (n : Int) {unit : String} (h : IsBare unit.toList) :
    Quotable (toString n ++ unit) := by
  refine .inl ?_
  rw [String.toList_append]
  exact (isBare_toString n).append h

theorem quotable_append_toString {key : String} (h : IsBare key.toList) (n : Int) :
    Quotable (key ++ toString n) := by
  refine .inl ?_
  rw [String.toList_append]
  exact h.append (isBare_toString n)

theorem quotable_append_toString_append {key unit : String} (hk : IsBare key.toList) (n : Int)
    (hu : IsBare unit.toList) : Quotable (key ++ toString n ++ unit) := by
  refine .inl ?_
  rw [String.toList_append, String.toList_append]
  exact (hk.append (isBare_toString n)).append hu

theorem readsWord_quotes {q : Char} (hq : isQuote q = true) (hne : q ≠ '\\') (value : String)
    (hin : q ∉ value.toList) (hl : value.toList.getLast? ≠ some '\\') :
    ReadsWord (q :: value.toList ++ [q]) value := by
  have h := readsWord_quoted hq (closesAfter_of_not_mem hin (getLast?_cons_quote hne hl))
  rwa [String.ofList_toList] at h

theorem readsWords_of_forall₂ {ws vs : List String} (hne : ws ≠ [])
    (h : List.Forall₂ (fun w v => ReadsWord w.toList v) ws vs) : ReadsWords ws vs := by
  induction h with
  | nil => exact absurd rfl hne
  | @cons w v ws vs hw hws ih =>
    cases hws with
    | nil => exact readsWords_singleton hw
    | cons hw' hws' => exact readsWords_cons hw (by simp) (ih (by simp))

/-! ### Lines -/

namespace Writes
variable {lines lines' : List String} {ns ns' : List Node}

theorem stmt {name : String} {args : List String} (hn : IsName name) (ha : ∀ a ∈ args, Quotable a) :
    Writes c [directiveLine name args] [.stmt name args] := .directive 0 hn ha

theorem consStmt {name : String} {args : List String} (hn : IsName name) (ha : ∀ a ∈ args, Quotable a)
    (h : Writes c lines ns) : Writes c (directiveLine name args :: lines) (.stmt name args :: ns) :=
  (stmt hn ha).append h

theorem spelled {line name : String} (ws : List String) {args : List String}
    (hline : line = joinWith " " ws ++ ";") (hne : ws ≠ [])
    (h : List.Forall₂ (fun w v => ReadsWord w.toList v) ws (name :: args)) :
    Writes c [line] [.stmt name args] := by
  rw [hline]
  exact .words 0 (readsWords_of_forall₂ hne h)

theorem ite {p : Prop} [Decidable p] (h : p → Writes c lines ns) (h' : ¬p → Writes c lines' ns') :
    Writes c (if p then lines else lines') (if p then ns else ns') := by
  split_ifs with hp
  · exact h hp
  · exact h' hp

theorem flatMap {α : Type} {f : α → List String} {g : α → List Node} {xs : List α}
    (h : ∀ x ∈ xs, Writes c (f x) (g x)) : Writes c (xs.flatMap f) (xs.flatMap g) := by
  induction xs with
  | nil => exact .nil
  | cons x xs ih =>
    rw [List.flatMap_cons, List.flatMap_cons]
    exact (h x (by simp)).append (ih fun y hy => h y (by simp [hy]))

theorem map {α : Type} {f : α → String} {g : α → Node} {xs : List α}
    (h : ∀ x ∈ xs, Writes c [f x] [g x]) : Writes c (xs.map f) (xs.map g) := by
  rw [← List.flatMap_pure_eq_map, ← List.flatMap_pure_eq_map]
  exact flatMap h

theorem eq_nil (h : Writes c [] ns) : ns = [] := by
  obtain ⟨lx, h1, h2⟩ := h
  cases h1
  cases h2
  rfl

theorem banner {title : String} (ht : '\n' ∉ title.toList) (h : Writes true lines ns) :
    Writes true (SiteConf.banner title :: lines) ns := by
  refine commentLine (?_ : _ = '#' :: (" ─── ".toList ++ title.toList ++ " ───".toList)) ?_ h
  · rw [SiteConf.banner, String.toList_append, String.toList_append]
    rfl
  · intro c hc
    rintro rfl
    rcases List.mem_append.1 hc with hc | hc
    · rcases List.mem_append.1 hc with hc | hc
      · exact absurd hc (by decide)
      · exact ht hc
    · exact absurd hc (by decide)

theorem titled {title : String} (ht : '\n' ∉ title.toList) (h : Writes true lines ns) :
    Writes true (SiteConf.titled title lines) ns := by
  cases lines with
  | nil => exact h
  | cons l lines => exact h.banner ht

theorem sections {ls : List (List String)} {nss : List (List Node)} (h : List.Forall₂ (Writes c) ls nss) :
    Writes c (joinSections ls) nss.flatten := by
  induction h with
  | nil => exact .nil
  | @cons l ns ls nss hl hls ih =>
    cases hls with
    | nil => simpa [joinSections] using hl
    | cons hl' hls' =>
      rw [List.flatten_cons]
      exact hl.append ih.blankLine

theorem nonEmpty {ls : List (List String)} {nss : List (List Node)} (h : List.Forall₂ (Writes c) ls nss) :
    Writes c (joinNonEmpty ls) nss.flatten := by
  -- a section without lines has no statements either
  suffices ∃ nss', List.Forall₂ (Writes c) (ls.filter (!·.isEmpty)) nss' ∧ nss'.flatten = nss.flatten by
    obtain ⟨nss', h', hn⟩ := this
    rw [← hn]
    exact sections h'
  induction h with
  | nil => exact ⟨[], .nil, rfl⟩
  | @cons l ns ls nss hl hls ih =>
    obtain ⟨nss', h', hn⟩ := ih
    cases l with
    | nil => exact ⟨nss', by simpa using h', by rw [hn, eq_nil hl]; rfl⟩
    | cons x l => exact ⟨ns :: nss', by simpa using ⟨hl, h'⟩, by rw [List.flatten_cons, List.flatten_cons, hn]⟩

theorem braced {head name : String} (ws : List String) {args : List String} (hhead : head = joinWith " " ws)
    (hne : ws ≠ [])
    (hw : List.Forall₂ (fun w v => ReadsWord w.toList v) ws (name :: args)) (h : Writes c lines ns) :
    Writes c (SiteConf.braced head lines) [.scope name args ns] := by
  rw [hhead]
  exact block 0 (List.forall_mem_nil _) rfl (readsWords_of_forall₂ hne hw) (h.indent 1) rfl

end Writes

/-! ### File level -/

theorem PoolMember.quotable_args {m : PoolMember} (h : Quotable m.address) : ∀ a ∈ m.args, Quotable a := by
  unfold PoolMember.args
  simp only [List.forall_mem_cons, List.forall_mem_append]
  refine ⟨⟨⟨h, ?_⟩, ?_⟩, ?_⟩
  · split_ifs
    · simp
    · simpa using quotable_append_toString (by decide) m.weight
  · split_ifs
    · simp
    · simpa using quotable_append_toString (by decide) m.maxFails
  · split_ifs
    · simp
    · simpa using quotable_append_toString_append (by decide) m.failTimeout (by decide)

theorem Upstream.writes_poolNodes {u : Upstream} (h : ∀ m ∈ u.servers, Quotable m.address) :
    Writes c ((if u.method = .roundRobin then [] else [directiveLine (spell u.method) []]) ++
      u.servers.map fun m => directiveLine "server" m.args) u.poolNodes := by
  refine .append (.ite (fun _ => .nil) fun _ => .stmt ?_ (by simp)) (.map fun m hm => ?_)
  · cases u.method <;> decide
  · exact .stmt (by decide) (PoolMember.quotable_args (h m hm))

theorem Upstream.writes_lines {u : Upstream} (h : u.Legible) : Writes true u.lines u.nodes := by
  unfold Upstream.lines Upstream.nodes
  refine .ite (fun hu => ?_) fun _ => .nil
  simp only [Bool.and_eq_true, Bool.not_eq_true', List.isEmpty_eq_false_iff] at hu
  obtain ⟨hname, hservers⟩ := h hu.1 hu.2
  refine .banner (by decide) (.braced ["upstream", quoteArg _] rfl (by simp) ?_
    (writes_poolNodes hservers))
  exact .cons (readsWord_of_isName (by decide)) (.cons (readsWord_quoteArg hname) .nil)

theorem quoteArg_of_isBare {arg : String} (h : IsBare arg.toList) : quoteArg arg = arg :=
  quoteArg_eq_self h.1 fun c hc => (h.2 c hc).2

theorem Security.bare_zoneArgs (s : Security) : ∀ a ∈ s.zoneArgs, IsBare a.toList := by
  unfold Security.zoneArgs
  simp only [List.forall_mem_cons, String.toList_append]
  refine ⟨by decide, ?_, ?_, by simp⟩
  · rw [← String.toList_append, ← String.toList_append]
    decide
  · exact (IsBare.append (by decide) (isBare_toString s.rate)).append (by decide)

theorem Security.writes_zoneLines (s : Security) : Writes true s.zoneLines s.zoneNodes := by
  unfold Security.zoneLines Security.zoneNodes
  refine .ite (fun _ => .banner (by decide) ?_) fun _ => .nil
  have hline : directiveLine "limit_req_zone" s.zoneArgs =
      "limit_req_zone $binary_remote_addr zone=" ++ rateLimitZone ++ ":10m rate=" ++ toString s.rate ++ "r/s;" := by
    have hmap : s.zoneArgs.map quoteArg = s.zoneArgs := List.map_congr_left
      (fun a ha => quoteArg_of_isBare (s.bare_zoneArgs a ha)) |>.trans (List.map_id _)
    rw [directiveLine, statement, hmap]
    simp only [zoneArgs, joinWith_cons_cons, joinWith_singleton, String.append_assoc]
    rfl
  show Writes true ["limit_req_zone $binary_remote_addr zone=" ++ rateLimitZone ++ ":10m rate=" ++
    toString s.rate ++ "r/s;"] _
  rw [← hline]
  exact .stmt (by decide) fun a ha => .inl (s.bare_zoneArgs a ha)

theorem Site.writes_nameLines {s : Site} (h : ∀ n ∈ s.serverNames, Quotable n) :
    Writes c s.nameLines s.nameNodes :=
  .ite (fun _ => .nil) fun _ => .stmt (by decide) h

theorem Site.writes_httpsRedirectLines {s : Site} (h : ∀ n ∈ s.serverNames, Quotable n) :
    Writes true s.httpsRedirectLines s.httpsRedirectNodes := by
  refine .ite (fun _ => .banner (by decide) (.braced ["server"] rfl (by simp) ?_ ?_)) fun _ => .nil
  · exact .cons (readsWord_of_isName (by decide)) .nil
  · refine .append (.append (.append ?_ ?_) (writes_nameLines h)) ?_
    · exact .stmt (by decide) (by decide)
    · exact .ite (fun _ => .stmt (by decide) (by decide)) fun _ => .nil
    · exact .stmt (by decide) (by decide)

/-! ### Groups of the main server -/

theorem Site.quotable_listenFlags (s : Site) : ∀ a ∈ s.listenFlags, Quotable a := by
  unfold Site.listenFlags
  split_ifs <;> decide

theorem Site.writes_headLines {s : Site} (h : s.Legible) : Writes c s.headLines s.headNodes := by
  unfold Site.headLines Site.headNodes Site.listenNodes
  refine .append (.append (.append ?_ ?_) (writes_nameLines h.names)) ?_
  · refine .stmt (by decide) ?_
    rw [List.forall_mem_cons]
    exact ⟨quotable_toString _, s.quotable_listenFlags⟩
  · refine .ite (fun _ => .stmt (by decide) ?_) fun _ => .nil
    rw [List.forall_mem_cons]
    exact ⟨quotable_append_toString (by decide) _, s.quotable_listenFlags⟩
  · refine .ite (fun _ => .nil) fun hp => ?_
    obtain ⟨hroot, hindex⟩ := h.files (by simpa using hp)
    refine .append (.ite (fun _ => .nil) fun hr => .stmt (by decide) ?_)
      (.ite (fun _ => .nil) fun _ => .stmt (by decide) hindex)
    simpa using hroot (by simpa using hr)

theorem readsWord_ite_quotes {q : Char} {value : String} (quoted : String) (hq : isQuote q = true) (hne : q ≠ '\\')
    (hquoted : quoted.toList = q :: value.toList ++ [q]) (h : FitsQuotes q value) :
    ReadsWord (if value.toList.contains q then quoteArg value else quoted).toList value := by
  unfold FitsQuotes at h
  split_ifs with hc
  · rw [if_pos hc] at h
    exact readsWord_quoteArg h
  · rw [if_neg hc] at h
    rw [hquoted]
    exact readsWord_quotes hq hne value (by simpa using hc) h

theorem writes_onOff {name : String} (hn : IsName name) (b : Bool) :
    Writes c [directiveLine name [onOff b]] [.stmt name [onOff b]] := by
  refine .stmt hn ?_
  cases b <;> decide

theorem Ssl.writes_ciphers {s : Ssl} (h : FitsQuotes '\'' s.effectiveCiphers) :
    Writes c [if s.effectiveCiphers.toList.contains '\'' then directiveLine "ssl_ciphers" [s.effectiveCiphers]
      else "ssl_ciphers '" ++ s.effectiveCiphers ++ "';"] [.stmt "ssl_ciphers" [s.effectiveCiphers]] := by
  have hw := readsWord_ite_quotes ("'" ++ s.effectiveCiphers ++ "'") (by decide) (by decide)
    (by rw [String.toList_append, String.toList_append]; rfl) h
  refine .spelled ["ssl_ciphers", _] ?_ (by simp)
    (.cons (readsWord_of_isName (by decide)) (.cons hw .nil))
  rw [joinWith_cons_cons, joinWith_singleton]
  split_ifs
  · rfl
  · simp only [String.append_assoc]
    rfl

theorem writes_addHeader {name value : String} (hn : IsName name) (hv : '"' ∉ value.toList)
    (hl : value.toList.getLast? ≠ some '\\') :
    Writes c ["add_header " ++ name ++ " \"" ++ value ++ "\" always;"]
      [.stmt "add_header" [name, value, "always"]] := by
  refine .spelled ["add_header", name, "\"" ++ value ++ "\"", "always"] ?_ (by simp)
    (.cons (readsWord_of_isName (by decide)) (.cons (readsWord_of_isName hn) (.cons ?_
      (.cons (readsWord_of_isName (by decide)) .nil))))
  · simp only [joinWith_cons_cons, joinWith_singleton, String.append_assoc]
    rfl
  · rw [String.toList_append, String.toList_append]
    exact readsWord_quotes (by decide) (by decide) value hv hl

theorem Ssl.writes_lines {s : Ssl} (h : s.Legible) : Writes true s.lines s.nodes := by
  unfold Ssl.lines Ssl.nodes
  refine .ite (fun he => ?_) fun _ => .nil
  obtain ⟨hcert, hkey, hprot, hciphers⟩ := h he
  refine .append (.append (.append (.append (.banner (by decide) ?_) ?_) ?_) ?_) ?_
  · exact .consStmt (by decide) (by simpa using hcert) (.stmt (by decide) (by simpa using hkey))
  · exact .ite (fun _ => .nil) fun _ => .stmt (by decide) hprot
  · refine .append (Ssl.writes_ciphers hciphers) (.append (writes_onOff (by decide) _) ?_)
    refine .consStmt (by decide) ?_ (.consStmt (by decide) (by decide)
      (writes_onOff (by decide) _))
    cases s.preset <;> decide
  · refine .ite (fun _ => ?_) fun _ => .nil
    have hline : "add_header Strict-Transport-Security \"" ++ hstsValue ++ "\" always;" =
        "add_header " ++ "Strict-Transport-Security" ++ " \"" ++ hstsValue ++ "\" always;" := by decide
    rw [hline]
    exact writes_addHeader (by decide) (by decide) (by decide)
  · exact .ite (fun _ => .consStmt (by decide) (by decide)
      (.stmt (by decide) (by decide))) fun _ => .nil

theorem writes_addressLines {name : String} (hn : IsName name) {addresses : List String}
    (h : LegibleAddresses addresses) : Writes c (addressLines name addresses) (addressNodes name addresses) := by
  refine .map fun a ha => .stmt hn ?_
  rw [List.mem_filter, Bool.not_eq_true'] at ha
  simpa using h a ha.1 ha.2

theorem Security.writes_authRealm {realm : String} (h : FitsQuotes '"' realm) :
    Writes c ["auth_basic " ++ doubleQuoted realm ++ ";"] [.stmt "auth_basic" [realm]] := by
  have hw := readsWord_ite_quotes ("\"" ++ realm ++ "\"") (by decide) (by decide)
    (by rw [String.toList_append, String.toList_append]; rfl) h
  refine .spelled ["auth_basic", doubleQuoted realm] ?_ (by simp)
    (.cons (readsWord_of_isName (by decide)) (.cons hw .nil))
  simp only [joinWith_cons_cons, joinWith_singleton, String.append_assoc]
  rfl

theorem legible_hardeningHeaders :
    ∀ h ∈ hardeningHeaders, IsName h.1 ∧ '"' ∉ h.2.toList ∧ h.2.toList.getLast? ≠ some '\\' := by
  decide

theorem Security.writes_lines {s : Security} (h : s.Legible) : Writes true s.lines s.nodes := by
  obtain ⟨hallow, hdeny, hauth⟩ := h
  refine .titled (by decide) (.append (.append (.append (.append ?_ ?_) ?_) ?_) ?_)
  · exact .ite (fun _ => .stmt (by decide) (by decide)) fun _ => .nil
  · refine .ite (fun _ => .map fun h hh => ?_) fun _ => .nil
    obtain ⟨hn, hv, hl⟩ := legible_hardeningHeaders h hh
    exact writes_addHeader hn hv hl
  · exact writes_addressLines (by decide) hallow
  · exact writes_addressLines (by decide) hdeny
  · refine .ite (fun hb => ?_) fun _ => .nil
    obtain ⟨hrealm, hfile⟩ := hauth hb
    exact .append (Security.writes_authRealm hrealm) (.stmt (by decide) (by simpa using hfile))

theorem Performance.writes_lines {p : Performance} (h : p.Legible) : Writes true p.lines p.nodes := by
  obtain ⟨hgzip, hbrotli⟩ := h
  refine .titled (by decide) (.append (.append (.append ?_ ?_) ?_) ?_)
  · refine .ite (fun hg => ?_) fun _ => .nil
    iterate 4 refine .consStmt (by decide) (by decide) ?_
    exact .stmt (by decide) (hgzip hg)
  · refine .ite (fun hb => ?_) fun _ => .nil
    iterate 2 refine .consStmt (by decide) (by decide) ?_
    exact .stmt (by decide) (hbrotli hb)
  · refine .ite (fun _ => ?_) fun _ => .nil
    show Writes true [directiveLine "client_max_body_size"
      [toString p.clientMaxBodySize ++ p.clientMaxBodyUnit.letter]] _
    refine .stmt (by decide) ?_
    rw [List.forall_mem_singleton]
    refine quotable_toString_append _ ?_
    cases p.clientMaxBodyUnit <;> decide
  · refine .ite (fun _ => .stmt (by decide) ?_) fun _ => .nil
    rw [List.forall_mem_singleton]
    exact quotable_toString_append _ (by decide)

theorem Logging.writes_lines {l : Logging} (h : l.Legible) : Writes true l.lines l.nodes := by
  obtain ⟨haccess, herror⟩ := h
  refine .append (.banner (by decide) (.stmt (by decide) ?_)) (.ite (fun he => ?_) fun _ => .nil)
  · rw [List.forall_mem_singleton]
    exact haccess
  · refine .stmt (by decide) ?_
    simp only [List.forall_mem_cons]
    refine ⟨herror he, ?_, by simp⟩
    cases l.errorLogLevel <;> decide

/-! ### Locations -/

namespace Location

theorem writes_fileLines {l : Location} (hroot : l.root ≠ "" → Quotable l.root)
    (htry : ∀ w ∈ words l.tryFiles, Quotable w) (hindex : ∀ w ∈ words l.index, Quotable w)
    (hexpires : ∀ w ∈ words l.cacheExpiry, Quotable w) : Writes c l.fileLines l.fileNodes := by
  unfold fileLines fileNodes
  refine .append (.append (.append (.append ?_ ?_) ?_) ?_) ?_
  · refine .ite (fun _ => .nil) fun hr => .stmt (by decide) ?_
    rw [List.forall_mem_singleton]
    exact hroot (by simpa using hr)
  · exact .ite (fun _ => .nil) fun _ => .stmt (by decide) htry
  · exact .ite (fun _ => .nil) fun _ => .stmt (by decide) hindex
  · exact .ite (fun _ => .stmt (by decide) (by decide)) fun _ => .nil
  · exact .ite (fun _ => .nil) fun _ => .stmt (by decide) hexpires

theorem writes_headers {hs : List Header} (h : ∀ x ∈ hs, Quotable x.key ∧ Quotable x.value) :
    Writes c (hs.map headerLine) (hs.map headerNode) := by
  refine .map fun x hx => .stmt (by decide) ?_
  simpa using h x hx

theorem writes_upgradeLines : Writes c [directiveLine "proxy_set_header" ["Upgrade", "$http_upgrade"],
    "proxy_set_header Connection \"upgrade\";"] (upgradeHeaders.map headerNode) := by
  refine .consStmt (by decide) (by decide)
    (.spelled ["proxy_set_header", "Connection", "\"upgrade\""] rfl (by simp) ?_)
  refine .cons (readsWord_of_isName (by decide)) (.cons (readsWord_of_isName (by decide)) (.cons ?_ .nil))
  exact readsWord_quotes (q := '"') (by decide) (by decide) "upgrade" (by decide) (by decide)

theorem writes_timeoutLines (l : Location) :
    Writes c (if 0 < l.proxyTimeout then [directiveLine "proxy_read_timeout" [toString l.proxyTimeout ++ "s"],
      directiveLine "proxy_send_timeout" [toString l.proxyTimeout ++ "s"]] else []) l.timeoutNodes := by
  have hseconds : ∀ a ∈ [toString l.proxyTimeout ++ "s"], Quotable a := by
    rw [List.forall_mem_singleton]
    exact quotable_toString_append _ (by decide)
  exact .ite (fun _ => .consStmt (by decide) hseconds (.stmt (by decide) hseconds)) fun _ => .nil

theorem writes_proxyLines {l : Location} (realIp : Bool) (hpass : l.proxyPass ≠ "" → Quotable l.proxyPass)
    (hown : ∀ x ∈ l.ownHeaders, Quotable x.key ∧ Quotable x.value) :
    Writes c (l.proxyLines realIp) (l.proxyNodes realIp) := by
  unfold proxyLines proxyNodes writtenHeaders
  simp only [List.map_append, ← List.append_assoc]
  refine .append (.append (.append (.append (.append ?_ ?_) ?_) (writes_headers hown)) l.writes_timeoutLines) ?_
  · have hversion : Writes c [directiveLine "proxy_http_version" ["1.1"]] [.stmt "proxy_http_version" ["1.1"]] :=
      .stmt (by decide) (by decide)
    refine Writes.append (?_ : Writes c [_] [_]) hversion
    split_ifs with hp
    · exact (.stmt (by decide) (by simp) : Writes c [directiveLine "proxy_pass" []] [.stmt "proxy_pass" []])
    · refine .stmt (by decide) ?_
      rw [List.forall_mem_singleton]
      exact hpass (by simpa using hp)
  · split_ifs
    · exact writes_upgradeLines
    · exact .nil
  · split_ifs
    · exact writes_headers (by decide)
    · exact .nil
  · exact .ite (fun _ => .nil) fun _ => .stmt (by decide) (by decide)

theorem writes_redirectLines {l : Location} (h : l.redirectUrl ≠ "" → Quotable l.redirectUrl) :
    Writes c l.redirectLines l.redirectNodes := by
  refine .stmt (by decide) ?_
  rw [List.forall_mem_cons]
  refine ⟨quotable_toString _, ?_⟩
  split_ifs with hu
  · simp
  · rw [List.forall_mem_singleton]
    exact h (by simpa using hu)

theorem writes_body {l : Location} (realIp : Bool) (h : l.LegibleBody) :
    Writes c (l.body realIp) (l.bodyNodes realIp) := by
  unfold LegibleBody at h
  unfold body bodyNodes
  cases hk : l.kind with
  | files =>
    rw [hk] at h
    exact writes_fileLines h.1 h.2.1 h.2.2.1 h.2.2.2
  | proxy =>
    rw [hk] at h
    exact writes_proxyLines realIp h.1 h.2
  | redirect =>
    rw [hk] at h
    exact writes_redirectLines h
  | custom =>
    rw [hk] at h
    dsimp only
    split_ifs with hb
    · exact .nil
    · obtain ⟨herrors, hlegible⟩ := h (by simpa using hb)
      rw [canonicalLines, if_pos (by simp [herrors])]
      exact writes_serialize 0 _ hlegible

end Location

theorem Security.writes_limitLines (s : Security) : Writes c s.limitLines s.limitNodes := by
  refine .ite (fun _ => .stmt (by decide) ?_) fun _ => .nil
  simp only [List.forall_mem_cons]
  exact ⟨by decide, quotable_append_toString (by decide) s.burst, by decide, by simp⟩

theorem Site.writes_locationLines {s : Site} {l : Location} (h : l.Legible) :
    Writes c (s.locationLines l) [s.locationNode l] := by
  have hbody := (s.security.writes_limitLines (c := c)).append (l.writes_body s.reverseProxy.realIpHeaders h.2)
  have hpath := readsWord_quoteArg h.1
  have hword : ∀ {w : String}, IsName w → ReadsWord w.toList w := readsWord_of_isName
  unfold Site.locationLines Site.locationNode
  cases hm : l.matchType with
  | start =>
    rw [Location.headArgs, hm]
    exact .braced ["location", quoteArg l.path] (by rfl) (by simp)
      (.cons (hword (by decide)) (.cons hpath .nil)) hbody
  | exact =>
    rw [Location.headArgs, hm]
    exact .braced ["location", "=", quoteArg l.path] (by rfl) (by simp)
      (.cons (hword (by decide)) (.cons (hword (by decide)) (.cons hpath .nil))) hbody
  | regex =>
    rw [Location.headArgs, hm]
    exact .braced ["location", "~", quoteArg l.path] (by rfl) (by simp)
      (.cons (hword (by decide)) (.cons (hword (by decide)) (.cons hpath .nil))) hbody
  | regexIgnoreCase =>
    rw [Location.headArgs, hm]
    exact .braced ["location", "~*", quoteArg l.path] (by rfl) (by simp)
      (.cons (hword (by decide)) (.cons (hword (by decide)) (.cons hpath .nil))) hbody

theorem Writes.sectionsMap {α : Type} {f : α → List String} {g : α → Node} {xs : List α}
    (h : ∀ x ∈ xs, Writes c (f x) [g x]) : Writes c (joinSections (xs.map f)) (xs.map g) := by
  have hall : List.Forall₂ (Writes c) (xs.map f) (xs.map fun x => [g x]) := by
    rw [List.forall₂_map_left_iff, List.forall₂_map_right_iff, List.forall₂_same]
    exact h
  have hflat : (xs.map fun x => [g x]).flatten = xs.map g := by
    rw [← List.flatMap_def]
    exact List.flatMap_pure_eq_map g xs
  exact hflat ▸ sections hall

theorem Site.writes_locationSection {s : Site} (h : ∀ l ∈ s.effectiveLocations, l.Legible) :
    Writes true s.locationSection s.locationNodes :=
  .banner (by decide) (.sectionsMap fun l hl => writes_locationLines (h l hl))

/-! ### Static caching -/

theorem Performance.writes_assetLines {p : Performance} {a : AssetClass}
    (h : ∀ w ∈ words (p.assetExpiry a), Quotable w) : Writes c (p.assetLines a) [p.assetNode a] := by
  have hcontrol : "add_header Cache-Control \"" ++ assetCacheControl ++ "\";" =
      directiveLine "add_header" ["Cache-Control", assetCacheControl] := by decide
  unfold Performance.assetLines
  rw [hcontrol]
  refine .braced ["location", "~*", quoteArg a.pattern] rfl (by simp)
    (.cons (readsWord_of_isName (by decide)) (.cons (readsWord_of_isName (by decide))
      (.cons (readsWord_quoteArg ?_) .nil))) (.consStmt (by decide) h (.stmt (by decide) (by decide)))
  cases a <;> decide

theorem Site.writes_cachingSection {s : Site}
    (h : ∀ a ∈ s.servedAssets, ∀ w ∈ words (s.performance.assetExpiry a), Quotable w) :
    Writes true s.cachingSection s.cachingNodes := by
  unfold Site.cachingSection Site.cachingNodes
  unfold Site.servedAssets at h ⊢
  split_ifs at h ⊢
  · exact .titled (by decide) (.sectionsMap fun a ha => Performance.writes_assetLines (h a ha))
  · exact .nil

/-! ### The whole text -/

theorem Site.writes_serverLines {s : Site} (h : s.Legible) (hc : isBlankText s.customDirectives = true) :
    Writes true s.serverLines [.scope "server" [] s.serverNodes] := by
  have hcustom : s.customSection = [] := by rw [Site.customSection, if_pos hc]
  refine .banner (by decide) (.braced ["server"] rfl (by simp) (.cons (readsWord_of_isName (by decide)) .nil) ?_)
  rw [hcustom]
  have hgroups : List.Forall₂ (Writes true)
      [s.headLines, s.ssl.lines, s.security.lines, s.performance.lines, s.logging.lines, s.locationSection,
        s.cachingSection, []]
      [s.headNodes, s.ssl.nodes, s.security.nodes, s.performance.nodes, s.logging.nodes, s.locationNodes,
        s.cachingNodes, []] :=
    .cons (writes_headLines h) (.cons (Ssl.writes_lines h.ssl) (.cons (Security.writes_lines h.security)
      (.cons (Performance.writes_lines h.performance) (.cons (Logging.writes_lines h.logging)
        (.cons (writes_locationSection h.locations) (.cons (writes_cachingSection h.caching)
          (.cons .nil .nil)))))))
  simpa [Site.serverNodes, List.append_assoc] using Writes.nonEmpty hgroups

/-- The text of a legible site is read without errors and as its statements, up to their lines. -/
theorem Site.ofText_render {s : Site} (h : s.Legible) (hc : isBlankText s.customDirectives = true) :
    (Tree.ofText s.render).errors = [] ∧ withoutLines (Tree.ofText s.render).nodes = withoutLines s.nodes := by
  have hsections : List.Forall₂ (Writes true)
      [s.upstream.lines, s.security.zoneLines, s.httpsRedirectLines, s.serverLines]
      [s.upstream.nodes, s.security.zoneNodes, s.httpsRedirectNodes, [.scope "server" [] s.serverNodes]] :=
    .cons (Upstream.writes_lines h.upstream) (.cons s.security.writes_zoneLines
      (.cons (writes_httpsRedirectLines h.names) (.cons (writes_serverLines h hc) .nil)))
  have hall := Writes.nonEmpty hsections
  have hnodes : [s.upstream.nodes, s.security.zoneNodes, s.httpsRedirectNodes,
      [Node.scope "server" [] s.serverNodes]].flatten = s.nodes := by
    simp [Site.nodes, List.append_assoc]
  rw [hnodes] at hall
  exact hall.ofText (.inr rfl)

end SiteConf
