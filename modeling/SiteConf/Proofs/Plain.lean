import SiteConf.Proofs.Legible
import SiteConf.Proofs.Words

/-!
# Plain texts

A text is `Plain` if a reader finds it again wherever a writer puts it: by itself, trimmed, and cut into
words. A site of plain texts is legible (`Site.legible_of_plain`).
-/

namespace SiteConf
open Text

/-- A text without quotes, whose only white space is the space, and without a backslash at its end or
directly before a space. -/
def Plain (s : String) : Prop :=
  (∀ c ∈ s.toList, c ≠ '"' ∧ c ≠ '\'' ∧ (isBlank c = true → c = ' ')) ∧
    s.toList.getLast? ≠ some '\\' ∧ s.toList.IsChain fun c d => ¬(c = '\\' ∧ d = ' ')

-- not by instance search, which may find the instance that tries all characters
instance (s : String) : Decidable (Plain s) :=
  @instDecidableAnd _ _ (List.decidableBAll _ s.toList) inferInstance

/-! ### Parts of a text -/

theorem trimChars_part (cs : List Char) :
    ∃ pre post, cs = pre ++ trimChars cs ++ post ∧ ∀ c ∈ post, isBlank c = true := by
  refine ⟨cs.takeWhile isBlank, ((cs.dropWhile isBlank).reverse.takeWhile isBlank).reverse, ?_, fun c hc => ?_⟩
  · rw [trimChars, List.append_assoc, ← List.reverse_append, List.takeWhile_append_dropWhile, List.reverse_reverse,
      List.takeWhile_append_dropWhile]
  · rw [List.mem_reverse] at hc
    exact List.mem_takeWhile_imp hc

theorem splitWords_part {cs w : List Char} (h : w ∈ splitWords cs) :
    ∃ pre post, cs = pre ++ w ++ post ∧ ∀ c ∈ post.head?, isBlank c = true := by
  fun_induction splitWords cs with
  | case1 => simp at h
  | case2 cs c rest hd ih =>
    have hcs : cs = cs.takeWhile isBlank ++ c :: rest := by
      rw [← hd, List.takeWhile_append_dropWhile]
    have hrest := List.takeWhile_append_dropWhile (p := (!isBlank ·)) (l := rest)
    rcases List.mem_cons.1 h with rfl | h
    · refine ⟨cs.takeWhile isBlank, rest.dropWhile (!isBlank ·), ?_, fun x hx => ?_⟩
      · rw [List.append_assoc, List.cons_append, hrest]
        exact hcs
      · simpa using head?_dropWhile (!isBlank ·) rest x hx
    · obtain ⟨pre, post, hpart, hpost⟩ := ih h
      refine ⟨cs.takeWhile isBlank ++ c :: (rest.takeWhile (!isBlank ·) ++ pre), post, ?_, hpost⟩
      rw [hpart] at hrest
      calc cs = cs.takeWhile isBlank ++ c :: rest := hcs
        _ = cs.takeWhile isBlank ++ c :: (rest.takeWhile (!isBlank ·) ++ (pre ++ w ++ post)) := by rw [hrest]
        _ = _ := by simp only [List.append_assoc, List.cons_append]

namespace Plain
variable {s : String}

/-- A part that ends where the text ends or before white space is written so that it is read back. -/
theorem quotable_part (h : Plain s) {pre w post : List Char} (hs : s.toList = pre ++ w ++ post)
    (hpost : ∀ c ∈ post.head?, isBlank c = true) : Quotable (.ofList w) := by
  obtain ⟨hchars, hend, hspace⟩ := h
  have hmem : ∀ c ∈ w, c ≠ '"' ∧ c ≠ '\'' ∧ (isBlank c = true → c = ' ') := by
    intro c hc
    exact hchars c (by simp [hs, hc])
  have hlast : w.getLast? ≠ some '\\' := by
    intro hw
    obtain ⟨ws, rfl⟩ := List.getLast?_eq_some_iff.1 hw
    cases post with
    | nil =>
      refine hend ?_
      rw [hs]
      simp
    | cons c post =>
      have hc : c = ' ' := (hchars c (by simp [hs])).2.2 (hpost c (by simp))
      have hsplit : s.toList = (pre ++ ws) ++ '\\' :: c :: post := by
        rw [hs]
        simp
      exact List.isChain_iff_forall_rel_of_append_cons_cons.1 hspace hsplit ⟨rfl, hc⟩
  unfold Quotable
  rw [String.toList_ofList]
  by_cases hneed : w = [] ∨ w.any needsQuotes = true
  · exact .inr ⟨hneed, hlast, .inl fun hq => (hmem _ hq).1 rfl⟩
  · rw [not_or, Bool.not_eq_true, List.any_eq_false] at hneed
    refine .inl ⟨hneed.1, fun c hc => ?_⟩
    have hq : needsQuotes c = false := by simpa using hneed.2 c hc
    refine ⟨?_, hq⟩
    cases hb : isBlank c with
    | false => rfl
    | true =>
      rw [(hmem c hc).2.2 hb] at hq
      exact absurd hq (by decide)

theorem quotable (h : Plain s) : Quotable s := by
  have hwhole : s.toList = [] ++ s.toList ++ [] := by simp
  have hpart := h.quotable_part hwhole (by simp)
  rwa [String.ofList_toList] at hpart

theorem quotable_trim (h : Plain s) : Quotable (trim s) := by
  obtain ⟨pre, post, hs, hpost⟩ := trimChars_part s.toList
  exact h.quotable_part hs fun c hc => hpost c (List.mem_of_mem_head? hc)

theorem quotable_words (h : Plain s) : ∀ w ∈ words s, Quotable w := by
  intro w hw
  obtain ⟨cs, hcs, rfl⟩ := List.mem_map.1 hw
  obtain ⟨pre, post, hs, hpost⟩ := splitWords_part hcs
  exact h.quotable_part hs hpost

theorem append {t : String} (h : Plain s) (h' : Plain t) : Plain (s ++ t) := by
  obtain ⟨hchars, hend, hspace⟩ := h
  obtain ⟨hchars', hend', hspace'⟩ := h'
  unfold Plain
  rw [String.toList_append]
  refine ⟨List.forall_mem_append.2 ⟨hchars, hchars'⟩, fun hlast => ?_, List.isChain_append.2 ⟨hspace, hspace', ?_⟩⟩
  · rw [List.getLast?_append] at hlast
    cases ht : t.toList.getLast? with
    | none =>
      rw [ht] at hlast
      exact hend hlast
    | some c =>
      rw [ht] at hlast
      exact hend' (ht.trans hlast)
  · rintro c hc d - ⟨rfl, -⟩
    exact hend hc

theorem fitsQuotes (h : Plain s) (q : Char) : FitsQuotes q s := by
  unfold FitsQuotes
  split_ifs
  · exact h.quotable
  · exact h.2.1

theorem orElse {fallback : String} (h : Plain s) (h' : Plain fallback) : Plain (orElse s fallback) := by
  unfold SiteConf.orElse
  split_ifs
  · exact h'
  · exact h

end Plain

/-! ### The texts of a site -/

def Header.strings (h : Header) : List String := [h.key, h.value]

def Ssl.strings (s : Ssl) : List String := s.certificatePath :: s.keyPath :: s.ciphers :: s.protocols

def ReverseProxy.strings (p : ReverseProxy) : List String :=
  p.backendAddress :: p.customHeaders.flatMap Header.strings

def Security.strings (s : Security) : List String :=
  s.basicAuthRealm :: s.basicAuthFile :: (s.ipAllowlist ++ s.ipDenylist)

def Performance.strings (p : Performance) : List String :=
  p.cacheExpiry :: (p.gzipTypes ++ p.brotliTypes ++ p.assetCacheExpiry.flatMap fun e => [e.1, e.2])

def Logging.strings (l : Logging) : List String := [l.accessLogPath, l.errorLogPath]

def Upstream.strings (u : Upstream) : List String := u.name :: u.servers.map (·.address)

def Location.strings (l : Location) : List String :=
  [l.path, l.root, l.tryFiles, l.index, l.cacheExpiry, l.proxyPass, l.redirectUrl, l.customDirectives] ++
    l.proxyHeaders.flatMap Header.strings

/-- Every text in a site. -/
def Site.strings (s : Site) : List String :=
  s.rootPath :: s.customDirectives :: (s.serverNames ++ s.indexFiles ++ s.ssl.strings ++ s.reverseProxy.strings ++
    s.security.strings ++ s.performance.strings ++ s.logging.strings ++ s.upstream.strings ++
    s.locations.flatMap Location.strings)

/-! ### Sites of plain texts -/

theorem Upstream.legible_of_plain {u : Upstream} (h : ∀ t ∈ u.strings, Plain t) : u.Legible := by
  intro _ _
  refine ⟨((h u.name (by simp [strings])).orElse (by decide)).quotable, fun m hm => ?_⟩
  exact (h m.address (by simpa [strings] using .inr ⟨m, hm, rfl⟩)).quotable

/-- The cipher lists are long, so their parts are looked at one by one. -/
theorem CipherProfile.plain_ciphers (p : CipherProfile) : Plain p.suite.ciphers := by
  have haesGcm : Plain aesGcm := .append (by decide +kernel) (by decide +kernel)
  cases p with
  | modern => exact haesGcm.append (by decide)
  | intermediate => exact haesGcm.append (by decide)
  | legacy => exact (haesGcm.append (by decide +kernel)).append (by decide +kernel)

theorem Ssl.legible_of_plain {s : Ssl} (h : ∀ t ∈ s.strings, Plain t) : s.Legible := by
  have hciphers : Plain s.effectiveCiphers := by
    unfold effectiveCiphers
    split_ifs
    · exact s.preset.plain_ciphers
    · exact h s.ciphers (by simp [strings])
  intro _
  refine ⟨((h s.certificatePath (by simp [strings])).orElse (by decide)).quotable,
    ((h s.keyPath (by simp [strings])).orElse (by decide)).quotable, fun p hp => ?_, hciphers.fitsQuotes _⟩
  exact (h p (by simp [strings, hp])).quotable

theorem Security.legible_of_plain {s : Security} (h : ∀ t ∈ s.strings, Plain t) : s.Legible := by
  refine ⟨fun a ha _ => ?_, fun a ha _ => ?_, fun _ => ⟨?_, ?_⟩⟩
  · exact (h a (by simp [strings, ha])).quotable_trim
  · exact (h a (by simp [strings, ha])).quotable_trim
  · exact ((h s.basicAuthRealm (by simp [strings])).orElse (by decide)).fitsQuotes _
  · exact ((h s.basicAuthFile (by simp [strings])).orElse (by decide)).quotable

theorem Performance.legible_of_plain {p : Performance} (h : ∀ t ∈ p.strings, Plain t) : p.Legible := by
  have hgzip : ∀ t ∈ p.effectiveGzipTypes, Plain t := by
    intro t ht
    unfold effectiveGzipTypes at ht
    split_ifs at ht
    · exact (by decide : ∀ t ∈ defaultGzipTypes, Plain t) t ht
    · exact h t (by simp [strings, ht])
  refine ⟨fun _ t ht => (hgzip t ht).quotable, fun _ t ht => ?_⟩
  unfold effectiveBrotliTypes at ht
  split_ifs at ht
  · exact (hgzip t ht).quotable
  · exact (h t (by simp [strings, ht])).quotable

theorem Performance.plain_assetExpiry {p : Performance} (h : ∀ t ∈ p.strings, Plain t) (a : AssetClass) :
    Plain (p.assetExpiry a) := by
  refine Plain.orElse ?_ ((h p.cacheExpiry (by simp [strings])).orElse (by decide))
  cases hl : p.assetCacheExpiry.lookup (spell a) with
  | none => decide
  | some v =>
    obtain ⟨before, after, hentries, -⟩ := List.lookup_eq_some_iff.1 hl
    exact h v (by simp [strings, hentries])

theorem Logging.legible_of_plain {l : Logging} (h : ∀ t ∈ l.strings, Plain t) : l.Legible := by
  refine ⟨Plain.quotable ?_, fun _ => ((h l.errorLogPath (by simp [strings])).orElse (by decide)).quotable⟩
  unfold accessTarget
  split_ifs
  · exact (h l.accessLogPath (by simp [strings])).orElse (by decide)
  · decide

theorem Location.legible_of_plain {l : Location} (h : ∀ t ∈ l.strings, Plain t) (hk : l.kind ≠ .custom) :
    l.Legible := by
  refine ⟨(h l.path (by simp [strings])).quotable, ?_⟩
  unfold LegibleBody
  cases hkind : l.kind with
  | files =>
    exact ⟨fun _ => (h l.root (by simp [strings])).quotable, (h l.tryFiles (by simp [strings])).quotable_words,
      (h l.index (by simp [strings])).quotable_words, (h l.cacheExpiry (by simp [strings])).quotable_words⟩
  | proxy =>
    refine ⟨fun _ => (h l.proxyPass (by simp [strings])).quotable, fun x hx => ?_⟩
    have hmem : x ∈ l.proxyHeaders := (List.mem_filter.1 hx).1
    have hstrings : ∀ t ∈ x.strings, t ∈ l.strings := fun t ht =>
      List.mem_append_right _ (List.mem_flatMap.2 ⟨x, hmem, ht⟩)
    exact ⟨(h x.key (hstrings _ (by simp [Header.strings]))).quotable,
      (h x.value (hstrings _ (by simp [Header.strings]))).quotable⟩
  | redirect => exact fun _ => (h l.redirectUrl (by simp [strings])).quotable
  | custom => exact absurd hkind hk

namespace Site

/-- What holds of all locations of a site and of the two that can stand in for none holds of what is
written. -/
theorem forall_effectiveLocations {s : Site} {P : Location → Prop} (h : ∀ l ∈ s.locations, P l)
    (hproxy : P { path := "/", kind := .proxy, proxyPass := s.reverseProxy.backendAddress,
                  proxyWebSocket := s.reverseProxy.webSocket, proxyHeaders := s.reverseProxy.customHeaders })
    (hfiles : P { path := "/", root := s.rootPath, tryFiles := defaultTryFiles }) :
    ∀ l ∈ s.effectiveLocations, P l := by
  unfold effectiveLocations
  split_ifs
  · simpa using hproxy
  · simpa using hfiles
  · exact h

/-- A site of plain texts is legible. -/
theorem legible_of_plain {s : Site} (h : ∀ t ∈ s.strings, Plain t) (hk : ∀ l ∈ s.locations, l.kind ≠ .custom) :
    s.Legible where
  names n hn := (h n (by simp [strings, hn])).quotable
  files _ := ⟨fun _ => (h s.rootPath (by simp [strings])).quotable,
    fun f hf => (h f (by simp [strings, hf])).quotable⟩
  upstream := Upstream.legible_of_plain fun t ht => h t (by simp [strings, ht])
  ssl := Ssl.legible_of_plain fun t ht => h t (by simp [strings, ht])
  security := Security.legible_of_plain fun t ht => h t (by simp [strings, ht])
  performance := Performance.legible_of_plain fun t ht => h t (by simp [strings, ht])
  logging := Logging.legible_of_plain fun t ht => h t (by simp [strings, ht])
  locations := by
    refine forall_effectiveLocations (fun l hl => ?_) ?_ ?_
    · refine Location.legible_of_plain (fun t ht => h t ?_) (hk l hl)
      simp only [strings, List.mem_cons, List.mem_append, List.mem_flatMap]
      exact .inr (.inr (.inr ⟨l, hl, ht⟩))
    · refine Location.legible_of_plain (fun t ht => ?_) (by simp)
      have hproxy : ∀ t ∈ s.reverseProxy.strings, Plain t := fun t ht => h t (by simp [strings, ht])
      rcases List.mem_append.1 ht with ht | ht
      · rcases (by simpa using ht : t = "/" ∨ t = "" ∨ t = s.reverseProxy.backendAddress ∨ t = "") with
          rfl | rfl | rfl | rfl
        · decide
        · decide
        · exact hproxy _ (by simp [ReverseProxy.strings])
        · decide
      · exact hproxy t (List.mem_cons_of_mem _ ht)
    · refine Location.legible_of_plain (fun t ht => ?_) (by simp)
      rcases (by simpa [Location.strings] using ht : t = "/" ∨ t = s.rootPath ∨ t = defaultTryFiles ∨ t = "") with
        rfl | rfl | rfl | rfl
      · decide
      · exact h s.rootPath (by simp [strings])
      · decide
      · decide
  caching a _ := (Performance.plain_assetExpiry (fun t ht => h t (by simp [strings, ht])) a).quotable_words

end Site
end SiteConf
