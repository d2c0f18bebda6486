import SiteConf.Proofs.Bounds
import SiteConf.Proofs.Regenerated

/-!
# What a typed reading leaves out

A block is read as a proxy only if the location writes as many headers as the block sets
(`Location.countP_headers_of_reproduces`). So no header that is written stands before the upgrade headers
unseen (`Location.keepsUpgrade_of_reproduces`).
-/

namespace SiteConf
open Text

/-! ### The first words of lines -/

/-- The characters of a line up to the first space or semicolon. -/
def headWord (line : String) : List Char := line.toList.takeWhile fun c => c != ' ' && c != ';'

theorem headWord_statement {name tail : String} (h : ∀ c ∈ name.toList, (c != ' ' && c != ';') = true)
    (htail : ∀ c ∈ tail.toList.head?, (c != ' ' && c != ';') = false) (args : List String) :
    headWord (statement name args ++ tail) = name.toList := by
  have hword : ∀ rest : List Char, (∀ c ∈ rest.head?, (c != ' ' && c != ';') = false) →
      (name.toList ++ rest).takeWhile (fun c => c != ' ' && c != ';') = name.toList := by
    intro rest hrest
    rw [List.takeWhile_append_of_pos h]
    cases rest with
    | nil => rw [List.takeWhile_nil, List.append_nil]
    | cons c rest => rw [List.takeWhile_cons, hrest c rfl, if_neg Bool.false_ne_true, List.append_nil]
  cases args with
  | nil =>
    rw [headWord, statement, List.map_nil, joinWith_singleton, String.toList_append]
    exact hword _ htail
  | cons a as =>
    rw [headWord, statement, List.map_cons, joinWith_cons_cons, String.append_assoc, String.append_assoc,
      String.toList_append, String.toList_append]
    refine hword _ fun c hc => ?_
    cases hc
    rfl

theorem headWord_directiveLine {name : String} (h : ∀ c ∈ name.toList, (c != ' ' && c != ';') = true)
    (args : List String) : headWord (directiveLine name args) = name.toList := by
  refine headWord_statement h (fun c hc => ?_) args
  cases hc
  rfl

/-- The lines that set a header. -/
def headerCount (lines : List String) : Nat := lines.countP fun l => headWord l == "proxy_set_header".toList

namespace Location

theorem headerCount_serialize {ns : List Node} (h : ∀ n ∈ ns, n.isBlock = false ∧ n.name ∈ proxyDirectives) :
    headerCount (serialize 0 ns) = ns.countP (·.name == "proxy_set_header") := by
  induction ns with
  | nil => rfl
  | cons n ns ih =>
    obtain ⟨hb, hname⟩ := h n (by simp)
    have hall : (proxyDirectives.all fun name => name.toList.all fun c => c != ' ' && c != ';') = true := by decide
    have hchars : ∀ name ∈ proxyDirectives, ∀ c ∈ name.toList, (c != ' ' && c != ';') = true := fun name hn =>
      List.all_eq_true.1 (List.all_eq_true.1 hall name hn)
    have hline : headerCount (n.toLines 0) = [n].countP (·.name == "proxy_set_header") := by
      cases n with
      | block => cases hb
      | directive name args line =>
        rw [Node.toLines, show pad 0 ++ directiveLine name args = directiveLine name args from String.empty_append,
          headerCount, List.countP_singleton, List.countP_singleton, headWord_directiveLine (hchars name hname)]
        have hiff : (name.toList == "proxy_set_header".toList) = (name == "proxy_set_header") := by
          rw [Bool.eq_iff_iff, beq_iff_eq, beq_iff_eq, String.toList_inj]
        rw [hiff]
        rfl
    rw [serialize, headerCount, List.countP_append, ← headerCount, ← headerCount, hline,
      ih fun x hx => h x (by simp [hx]), ← List.singleton_append (l := ns), List.countP_append]

/-! ### What proxy directives do -/

/-- `m` is `l` after directives that set `k` headers. -/
structure Adds (k : Nat) (l m : Location) : Prop where
  path : m.path = l.path
  matchType : m.matchType = l.matchType
  kind : m.kind = l.kind
  redirectCode : m.redirectCode = l.redirectCode
  webSocket : m.proxyWebSocket = l.proxyWebSocket
  timeout : FewDigits l.proxyTimeout → FewDigits m.proxyTimeout
  headers : m.proxyHeaders.length = l.proxyHeaders.length + k

theorem Adds.refl (l : Location) : Adds 0 l l := ⟨rfl, rfl, rfl, rfl, rfl, id, rfl⟩

theorem Adds.trans {i j : Nat} {k l m : Location} (h : Adds i k l) (h' : Adds j l m) : Adds (i + j) k m where
  path := h'.path.trans h.path
  matchType := h'.matchType.trans h.matchType
  kind := h'.kind.trans h.kind
  redirectCode := h'.redirectCode.trans h.redirectCode
  webSocket := h'.webSocket.trans h.webSocket
  timeout := h'.timeout ∘ h.timeout
  headers := by rw [h'.headers, h.headers, Nat.add_assoc]

theorem ensures_positiveSeconds (s : String) :
    Ensures (positiveSeconds s) fun o => ∀ n ∈ o, FewDigits (n : Int) := by
  unfold positiveSeconds
  refine (ensures_readSeconds s).bind fun o ho => ?_
  split
  · next n => exact .ok (by simpa using ho (n + 1) rfl)
  · exact .ok (by simp)

/-- What a directive can do to the proxy location `l`. -/
inductive AddsDirective (l : Location) (n : Node) : Location → Prop
  | target (name : n.name = "proxy_pass") : AddsDirective l n { l with proxyPass := n.arg 0 }
  | header {key value : String} (name : n.name = "proxy_set_header") (args : n.args = [key, value]) :
      AddsDirective l n { l with proxyHeaders := l.proxyHeaders ++ [⟨key, value⟩] }
  | timeout {s : Nat} (name : n.name = "proxy_read_timeout") (digits : FewDigits s) :
      AddsDirective l n { l with proxyTimeout := s }
  | buffering {b : Bool} (name : n.name = "proxy_buffering") : AddsDirective l n { l with proxyBuffering := b }
  | nothing (name : n.name ≠ "proxy_set_header") : AddsDirective l n l

theorem ensures_addsDirective (l : Location) (n : Node) : Ensures (l.addProxyDirective n) fun o =>
    ∀ m ∈ o, AddsDirective l n m := by
  unfold addProxyDirective
  split
  · next hn =>
    refine .ok fun m hm => ?_
    split_ifs at hm
    · cases hm
    · cases hm
      exact .target hn
  · next hn =>
    refine .ok fun m hm => ?_
    split at hm
    · next hargs =>
      cases hm
      exact .header hn hargs
    · cases hm
  · next hn =>
    refine (ensures_positiveSeconds _).bind fun o ho => ?_
    split
    · next s =>
      refine .ok fun m hm => ?_
      cases hm
      exact .timeout hn (ho s rfl)
    · exact .ok (by simp)
  · next hn =>
    refine (ensures_positiveSeconds _).bind fun o ho => ?_
    split
    · refine .ok fun m hm => ?_
      cases hm
      exact .nothing (by simp [hn])
    · exact .ok (by simp)
  · next hn =>
    refine .ok fun m hm => ?_
    split at hm
    · cases hm
      exact .buffering hn
    · cases hm
      exact .buffering hn
    · cases hm
  · next hne _ _ _ =>
    refine .ok fun m hm => ?_
    cases hm
    exact .nothing hne

/-- `m` is `l` with the directives `ns`, one after the other. -/
inductive AddsDirectives : Location → List Node → Location → Prop
  | nil (l : Location) : AddsDirectives l [] l
  | cons {k l m : Location} {n : Node} {ns : List Node} (first : AddsDirective k n l)
      (rest : AddsDirectives l ns m) : AddsDirectives k (n :: ns) m

theorem ensures_addsDirectives (l : Location) (ns : List Node) : Ensures (l.addProxyDirectives ns) fun o =>
    ∀ m ∈ o, AddsDirectives l ns m := by
  induction ns generalizing l with
  | nil =>
    refine .ok fun m hm => ?_
    cases hm
    exact .nil l
  | cons n ns ih =>
    rw [addProxyDirectives]
    refine (ensures_addsDirective l n).bind fun o ho => ?_
    split
    · next l' => exact (ih l').mono fun o' ho' m hm => .cons (ho l' rfl) (ho' m hm)
    · exact .ok (by simp)

theorem AddsDirective.adds {l m : Location} {n : Node} (h : AddsDirective l n m) :
    Adds ([n].countP (·.name == "proxy_set_header")) l m := by
  rw [List.countP_singleton]
  cases h with
  | target hn => rw [hn]; exact ⟨rfl, rfl, rfl, rfl, rfl, id, rfl⟩
  | header hn hargs => rw [hn]; exact ⟨rfl, rfl, rfl, rfl, rfl, id, by simp⟩
  | timeout hn hs => rw [hn]; exact ⟨rfl, rfl, rfl, rfl, rfl, fun _ => hs, rfl⟩
  | buffering hn => rw [hn]; exact ⟨rfl, rfl, rfl, rfl, rfl, id, rfl⟩
  | nothing hne =>
    rw [if_neg (by simpa using hne)]
    exact Adds.refl l

theorem AddsDirectives.adds {l m : Location} {ns : List Node} (h : AddsDirectives l ns m) :
    Adds (ns.countP (·.name == "proxy_set_header")) l m := by
  induction h with
  | nil l => exact Adds.refl l
  | cons first _ ih =>
    rw [← List.singleton_append, List.countP_append]
    exact first.adds.trans ih

theorem ensures_proxy? (path : String) (m : MatchType) (ns : List Node) : Ensures (proxy? path m ns) fun o =>
    ∀ l ∈ o, (∀ n ∈ ns, n.isBlock = false ∧ n.name ∈ proxyDirectives) ∧
      ∃ k, addProxyDirectives { path, matchType := m, kind := .proxy } ns = .ok (some k) ∧ l = k.liftUpgrade := by
  unfold proxy?
  dsimp only
  split_ifs with h1 h2 h3
  · exact .ok (by simp)
  · exact .ok (by simp)
  · exact .ok (by simp)
  · refine (Ensures.self (addProxyDirectives { path, matchType := m, kind := .proxy } ns)).bind fun o ho => ?_
    split
    · next k =>
      refine .ok fun l hl => ?_
      cases hl
      refine ⟨fun n hn => ?_, k, ho, rfl⟩
      have hany := List.any_eq_false.1 (Bool.not_eq_true _ ▸ h2) n hn
      simpa [not_or] using hany
    · exact .ok (by simp)

theorem countP_proxyNodes (realIp : Bool) (l : Location) :
    (l.proxyNodes realIp).countP (·.name == "proxy_set_header") = (l.writtenHeaders realIp).length := by
  have hheaders : ((l.writtenHeaders realIp).map headerNode).countP (·.name == "proxy_set_header") =
      (l.writtenHeaders realIp).length := by
    rw [List.countP_eq_length.2, List.length_map]
    intro n hn
    obtain ⟨h, -, rfl⟩ := List.mem_map.1 hn
    rfl
  have htimeout : l.timeoutNodes.countP (·.name == "proxy_set_header") = 0 := by
    unfold timeoutNodes
    split_ifs <;> rfl
  have hbuffering : l.bufferingNodes.countP (·.name == "proxy_set_header") = 0 := by
    unfold bufferingNodes
    split_ifs <;> rfl
  unfold proxyNodes
  rw [List.countP_append, List.countP_append, List.countP_append, hheaders, htimeout, hbuffering]
  exact Nat.zero_add _

/-- A location that is kept writes as many headers as its block sets. -/
theorem countP_headers_of_reproduces {l : Location} {ns : List Node} (hl : l.LegibleBody)
    (hns : ∀ n ∈ ns, n.isBlock = false ∧ n.name ∈ proxyDirectives) (hr : l.reproduces ns = true)
    (hk : l.kind = .proxy) :
    (l.writtenHeaders false).length = ns.countP (·.name == "proxy_set_header") := by
  obtain ⟨-, hnodes⟩ := (writes_body false hl).ofText (.inl (Eq.refl (joinLines (l.body false))))
  have hwritten : headerCount (serialize 0 (Tree.ofText (joinLines (l.body false))).nodes) =
      (l.writtenHeaders false).length := by
    rw [serialize_congr hnodes 0, bodyNodes, hk]
    rw [headerCount_serialize fun n hn => mem_proxyNodes hn]
    exact countP_proxyNodes false l
  have hfilter : ∀ ls : List String, headerCount (ls.filter (· != impliedLine)) = headerCount ls := by
    intro ls
    have himplied : headWord impliedLine ≠ "proxy_set_header".toList := by decide
    rw [headerCount, List.countP_filter]
    refine List.countP_congr fun line _ => ?_
    simp only [Bool.and_eq_true, beq_iff_eq, bne_iff_ne, and_iff_left_iff_imp]
    rintro hline rfl
    exact himplied hline
  rw [← hwritten, ← headerCount_serialize hns]
  unfold reproduces at hr
  dsimp only at hr
  rw [Bool.and_eq_true, beq_iff_eq] at hr
  rw [← hr.2]
  split_ifs
  · rw [hfilter]
  · rfl

/-- So no header hides another one: the upgrade headers of a location that is kept are its flag. -/
theorem keepsUpgrade_of_reproduces {k : Location} {path : String} {m : MatchType} {ns : List Node}
    (hns : ∀ n ∈ ns, n.isBlock = false ∧ n.name ∈ proxyDirectives)
    (hk : Adds (ns.countP (·.name == "proxy_set_header")) { path, matchType := m, kind := .proxy } k)
    (hr : k.liftUpgrade.reproduces ns = true) (hl : k.liftUpgrade.LegibleBody) :
    k.liftUpgrade.KeepsUpgrade false := by
  intro hkind hown
  refine .inl ?_
  by_contra hws
  have hcount := countP_headers_of_reproduces hl hns hr hkind
  by_cases hu : k.proxyHeaders.take 2 = upgradeHeaders
  · exact hws (by rw [liftUpgrade, if_pos hu])
  · have hlift : k.liftUpgrade = k := if_neg hu
    rw [hlift] at hcount hown hws
    have hlength : k.ownHeaders.length = k.proxyHeaders.length := by
      rw [hk.headers, List.length_nil, Nat.zero_add, ← hcount, writtenHeaders, if_neg hws]
      rfl
    have hall : k.ownHeaders = k.proxyHeaders := List.filter_eq_self.2 (List.length_filter_eq_length_iff.1 hlength)
    rw [hall] at hown
    exact hu hown

/-! ### Every reading -/

/-- What an import ensures of each location. -/
structure Sound (l : Location) : Prop where
  valid : l.Valid
  timeout : FewDigits l.proxyTimeout
  upgrade : l.LegibleBody → l.KeepsUpgrade false

/-- Only a proxy can hold a timeout and headers. -/
theorem sound_of_kind {l : Location} (hv : l.Valid) (ht : l.proxyTimeout = 0) (hk : l.kind ≠ .proxy) : l.Sound where
  valid := hv
  timeout := by
    rw [ht]
    decide
  upgrade := fun _ hkind => absurd hkind hk

theorem redirect?_eq_some {path : String} {m : MatchType} {ns : List Node} {l : Location}
    (h : redirect? path m ns = some l) :
    l.path = path ∧ l.matchType = m ∧ l.redirectCode ∈ redirectCodes ∧ l.proxyTimeout = 0 ∧ l.kind = .redirect := by
  unfold redirect? at h
  split at h
  · split_ifs at h
    split at h
    · cases h
      exact ⟨rfl, rfl, (by decide : (301 : Int) ∈ redirectCodes), rfl, rfl⟩
    · cases h
      exact ⟨rfl, rfl, (by decide : (302 : Int) ∈ redirectCodes), rfl, rfl⟩
    · cases h
  · cases h

theorem sound_of_redirect? {path : String} {m : MatchType} {ns : List Node} {l : Location} (hp : path ≠ "")
    (h : redirect? path m ns = some l) : l.Sound := by
  obtain ⟨h1, -, h2, h3, h4⟩ := redirect?_eq_some h
  exact sound_of_kind ⟨by rwa [h1], h2⟩ h3 (by simp [h4])

theorem addFileDirective_other {l l' : Location} {n : Node} (h : l.addFileDirective n = some l') :
    l'.path = l.path ∧ l'.matchType = l.matchType ∧ l'.redirectCode = l.redirectCode ∧
      l'.proxyTimeout = l.proxyTimeout ∧ l'.kind = l.kind := by
  have hset : ∀ {k : Location}, some k = some l' → k.path = l.path ∧ k.matchType = l.matchType ∧
      k.redirectCode = l.redirectCode ∧ k.proxyTimeout = l.proxyTimeout ∧ k.kind = l.kind →
        l'.path = l.path ∧ l'.matchType = l.matchType ∧ l'.redirectCode = l.redirectCode ∧
          l'.proxyTimeout = l.proxyTimeout ∧ l'.kind = l.kind := by
    rintro k ⟨⟩ hk
    exact hk
  unfold addFileDirective at h
  dsimp only at h
  split at h
  · cases h
  · split at h
    · exact hset h ⟨rfl, rfl, rfl, rfl, rfl⟩
    · exact hset h ⟨rfl, rfl, rfl, rfl, rfl⟩
    · exact hset h ⟨rfl, rfl, rfl, rfl, rfl⟩
    · split_ifs at h
      · exact hset h ⟨rfl, rfl, rfl, rfl, rfl⟩
      · exact hset h ⟨rfl, rfl, rfl, rfl, rfl⟩
    · exact hset h ⟨rfl, rfl, rfl, rfl, rfl⟩
    · cases h

theorem files?_eq_some {path : String} {m : MatchType} {ns : List Node} {l : Location}
    (h : files? path m ns = some l) :
    l.path = path ∧ l.matchType = m ∧ l.redirectCode = 301 ∧ l.proxyTimeout = 0 ∧ l.kind = .files := by
  have hfold : ∀ (ns : List Node) (b l : Location), ns.foldlM addFileDirective b = some l →
      l.path = b.path ∧ l.matchType = b.matchType ∧ l.redirectCode = b.redirectCode ∧
        l.proxyTimeout = b.proxyTimeout ∧ l.kind = b.kind := by
    intro ns
    induction ns with
    | nil =>
      rintro b l ⟨⟩
      exact ⟨rfl, rfl, rfl, rfl, rfl⟩
    | cons n ns ih =>
      intro b l h
      rw [List.foldlM_cons] at h
      obtain ⟨b', hb, hl⟩ := Option.bind_eq_some_iff.1 h
      obtain ⟨h1, h2, h3, h4, h5⟩ := addFileDirective_other hb
      obtain ⟨h6, h7, h8, h9, h10⟩ := ih b' l hl
      exact ⟨h6.trans h1, h7.trans h2, h8.trans h3, h9.trans h4, h10.trans h5⟩
  unfold files? at h
  split_ifs at h
  exact hfold _ _ _ h

theorem sound_of_files? {path : String} {m : MatchType} {ns : List Node} {l : Location} (hp : path ≠ "")
    (h : files? path m ns = some l) : l.Sound := by
  obtain ⟨h1, -, h2, h3, h4⟩ := files?_eq_some h
  refine sound_of_kind ⟨by rwa [h1], ?_⟩ h3 (by simp [h4])
  rw [h2]
  exact (by decide : (301 : Int) ∈ redirectCodes)

theorem sound_asText {path : String} (hp : path ≠ "") (m : MatchType) (ns : List Node) : (asText path m ns).Sound :=
  sound_of_kind ⟨hp, (by decide : (301 : Int) ∈ redirectCodes)⟩ rfl (by simp [asText])

/-- How a typed location is read from statements. -/
inductive TypedFrom (path : String) (m : MatchType) (ns : List Node) : Location → Prop
  | redirect {l : Location} (read : redirect? path m ns = some l) : TypedFrom path m ns l
  | proxy {k : Location} (plain : ∀ n ∈ ns, n.isBlock = false ∧ n.name ∈ proxyDirectives)
      (adds : AddsDirectives { path, matchType := m, kind := .proxy } ns k) : TypedFrom path m ns k.liftUpgrade
  | files {l : Location} (read : files? path m ns = some l) : TypedFrom path m ns l

theorem ensures_typedFrom (path : String) (m : MatchType) (ns : List Node) :
    Ensures (typed? path m ns) fun o => ∀ l ∈ o, TypedFrom path m ns l := by
  unfold typed?
  split
  · next l h =>
    refine .ok fun l' hl => ?_
    cases hl
    exact .redirect h
  · refine (ensures_proxy? path m ns).bind fun o ho => ?_
    split
    · next l =>
      refine .ok fun l' hl => ?_
      cases hl
      obtain ⟨hplain, k, hrun, rfl⟩ := ho l rfl
      exact .proxy hplain (ensures_addsDirectives _ ns _ hrun k rfl)
    · exact .ok fun l hl => .files hl

/-- A block is kept as a text, or it is read as a typed location that gives its statements back. -/
theorem ensures_ofChildren_of {path : String} {m : MatchType} {ns : List Node} {P : Location → Prop}
    (text : P (asText path m ns)) (typed : ∀ l, TypedFrom path m ns l → l.reproduces ns = true → P l) :
    Ensures (ofChildren path m ns) P := by
  unfold ofChildren
  refine (ensures_typedFrom path m ns).bind fun o ho => ?_
  split
  · next l =>
    refine .ok ?_
    split_ifs with hr
    · exact typed l (ho l rfl) hr
    · exact text
  · exact .ok text

/-- A block is read as a sound location. -/
theorem ensures_ofChildren {path : String} (hp : path ≠ "") (m : MatchType) (ns : List Node) :
    Ensures (ofChildren path m ns) Sound := by
  refine ensures_ofChildren_of (sound_asText hp m ns) fun l hl hr => ?_
  cases hl with
  | redirect h => exact sound_of_redirect? hp h
  | files h => exact sound_of_files? hp h
  | @proxy k hplain hadds =>
    have hk := hadds.adds
    obtain ⟨hpath, -, -, -, htime, -⟩ := k.liftUpgrade_other
    refine ⟨⟨?_, ?_⟩, ?_, keepsUpgrade_of_reproduces hplain hk hr⟩
    · rw [hpath, hk.path]
      exact hp
    · have hcode : k.liftUpgrade.redirectCode = k.redirectCode := by
        unfold liftUpgrade
        split_ifs <;> rfl
      rw [hcode, hk.redirectCode]
      exact (by decide : (301 : Int) ∈ redirectCodes)
    · rw [htime]
      exact hk.timeout (by decide : FewDigits 0)

end Location
end SiteConf
