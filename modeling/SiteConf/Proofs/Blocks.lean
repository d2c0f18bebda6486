import SiteConf.Proofs.Ledger
import SiteConf.Proofs.Numbers

/-!
# What a location block says

A location block names its match type and its path by its arguments (`Targets`). What it holds are its children, but
for a rate limit that is the first of them (`Contents`). A block that does nothing but let browsers keep the files of a
class is a caching location (`Node.Caches`). An import reads blocks just so (`Node.targets_iff`, `Node.contents_iff`,
`Node.caches_iff`).
-/

namespace SiteConf
open Text

/-! ### Where a location stands -/

/-- The modifiers of location blocks, with the match types that they stand for. -/
def modifiers : List (String × MatchType) :=
  [("=", .exact), ("~", .regex), ("~*", .regexIgnoreCase), ("^~", .start)]

/-- Arguments start with a modifier and a path, or with a path that is no modifier. -/
inductive Targets : List String → MatchType → String → Prop
  | modified {modifier path : String} {m : MatchType} {rest : List String} (h : (modifier, m) ∈ modifiers) :
    Targets (modifier :: path :: rest) m path
  | plain {path : String} {rest : List String} (h : ∀ m, (path, m) ∉ modifiers) : Targets (path :: rest) .start path

namespace Node
variable {n : Node} {m : MatchType} {path : String}

/-- The block has a path. -/
def HasPath (n : Node) : Prop := ∃ m path, Targets n.args m path ∧ path ≠ ""

theorem target_of_modifier {modifier : String} (h : (modifier, m) ∈ modifiers) (harg : n.arg 0 = modifier) :
    n.matchType = m ∧ n.path = n.arg 1 := by
  unfold Node.matchType Node.path locationTarget
  simp only [modifiers, List.mem_cons, Prod.mk.injEq, List.not_mem_nil, or_false] at h
  rcases h with ⟨rfl, rfl⟩ | ⟨rfl, rfl⟩ | ⟨rfl, rfl⟩ | ⟨rfl, rfl⟩ <;> simp [harg]

theorem target_of_plain (h : ∀ m, (n.arg 0, m) ∉ modifiers) : n.matchType = .start ∧ n.path = n.arg 0 := by
  unfold Node.matchType Node.path locationTarget
  split
  · next harg => exact absurd (by simp [modifiers]) (harg ▸ h .exact)
  · next harg => exact absurd (by simp [modifiers]) (harg ▸ h .regex)
  · next harg => exact absurd (by simp [modifiers]) (harg ▸ h .regexIgnoreCase)
  · next harg => exact absurd (by simp [modifiers]) (harg ▸ h .start)
  · exact ⟨rfl, rfl⟩

theorem targets_iff (hp : path ≠ "") : Targets n.args m path ↔ n.matchType = m ∧ n.path = path := by
  constructor
  · intro h
    generalize hargs : n.args = args at h
    cases h with
    | modified h =>
      obtain ⟨hm, hpath⟩ := target_of_modifier (n := n) h (by simp [arg, hargs])
      exact ⟨hm, by simp [hpath, arg, hargs]⟩
    | plain h =>
      have harg : n.arg 0 = path := by simp [arg, hargs]
      obtain ⟨hm, hpath⟩ := target_of_plain (n := n) (harg ▸ h)
      exact ⟨hm, hpath.trans harg⟩
  · rintro ⟨rfl, rfl⟩
    by_cases hmodifier : ∃ m, (n.arg 0, m) ∈ modifiers
    · obtain ⟨m, hm⟩ := hmodifier
      obtain ⟨htype, hpath⟩ := target_of_modifier hm rfl
      rw [hpath] at hp ⊢
      rw [htype]
      rcases hargs : n.args with _ | ⟨modifier, _ | ⟨path, rest⟩⟩
      · simp [arg, hargs] at hp
      · simp [arg, hargs] at hp
      · simp only [arg, hargs, List.getElem?_cons_zero, List.getElem?_cons_succ, Option.getD_some] at hm ⊢
        exact .modified hm
    · rw [not_exists] at hmodifier
      obtain ⟨htype, hpath⟩ := target_of_plain hmodifier
      rw [hpath] at hp ⊢
      rw [htype]
      rcases hargs : n.args with _ | ⟨path, rest⟩
      · simp [arg, hargs] at hp
      · simp only [arg, hargs, List.getElem?_cons_zero, Option.getD_some] at hmodifier ⊢
        exact .plain hmodifier

theorem hasPath_iff : n.HasPath ↔ n.path ≠ "" := by
  constructor
  · rintro ⟨m, path, htarget, hp⟩
    rw [((targets_iff hp).1 htarget).2]
    exact hp
  · exact fun hp => ⟨_, _, (targets_iff hp).2 ⟨rfl, rfl⟩, hp⟩

instance : Decidable n.HasPath := decidable_of_iff _ hasPath_iff.symm

end Node

/-! ### What a location holds -/

/-- What may stand at the end of a limit: that there is no delay, and one line feed. -/
def IsLimitEnd (cs : List Char) : Prop :=
  ∃ delay stop, (delay = [] ∨ delay = " nodelay".toList) ∧ (stop = [] ∨ stop = ['\n']) ∧ cs = delay ++ stop

/-- Arguments of a limit on the zone of a site, with a burst or without. -/
def IsLimit (args : List String) : Prop :=
  ∃ burst tail, (burst = [] ∨ ∃ ds, ds ≠ [] ∧ (∀ d ∈ ds, isDecimal d = true) ∧ burst = " burst=".toList ++ ds) ∧
    IsLimitEnd tail ∧ (joinWith " " args).toList = "zone=req_limit".toList ++ (burst ++ tail)

/-- What a block with the children holds: all but a rate limit that is the first of them. -/
inductive Contents (rateLimiting : Bool) : List Node → List Node → Prop
  | limited {args : List String} {line : Int} {rest : List Node} (hon : rateLimiting = true) (h : IsLimit args) :
    Contents rateLimiting (.directive "limit_req" args line :: rest) rest
  | all {children : List Node} (h : ∀ args line rest, children = .directive "limit_req" args line :: rest →
      ¬(rateLimiting = true ∧ IsLimit args)) : Contents rateLimiting children children

theorem isLimitEnd_iff {cs : List Char} :
    IsLimitEnd cs ↔ atEnd (if " nodelay".toList.isPrefixOf cs then cs.drop 8 else cs) = true := by
  constructor
  · rintro ⟨delay, stop, rfl | rfl, rfl | rfl, rfl⟩ <;> decide
  · intro h
    split_ifs at h with hdelay
    · obtain ⟨rest, rfl⟩ := List.isPrefixOf_iff_prefix.1 hdelay
      exact ⟨_, rest, .inr rfl, by simpa [atEnd] using h, rfl⟩
    · exact ⟨[], cs, .inl rfl, by simpa [atEnd] using h, rfl⟩

theorem IsLimitEnd.takeWhile_eq_nil {cs : List Char} (h : IsLimitEnd cs) : cs.takeWhile isDecimal = [] := by
  obtain ⟨delay, stop, rfl | rfl, rfl | rfl, rfl⟩ := h <;> decide

theorem IsLimitEnd.not_burst {cs : List Char} (h : IsLimitEnd cs) : " burst=".toList.isPrefixOf cs = false := by
  obtain ⟨delay, stop, rfl | rfl, rfl | rfl, rfl⟩ := h <;> decide

theorem isSome_ite_some {α : Type} {p : Prop} [Decidable p] {a : α} :
    (if p then some a else none).isSome = true ↔ p := by
  split_ifs with h <;> simp [h]

theorem isSome_of_isLimit {args : List String} (h : IsLimit args) : (limitBurst? args).isSome = true := by
  obtain ⟨burst, tail, hburst, htail, hcs⟩ := h
  have hzone : ("zone=" ++ rateLimitZone).toList = "zone=req_limit".toList := rfl
  have hseven : 7 = " burst=".toList.length := rfl
  unfold limitBurst?
  rw [hzone, hcs]
  dsimp only
  rw [isPrefixOf_append_self, List.drop_left]
  rcases hburst with rfl | ⟨ds, hne, hdigits, rfl⟩
  · rw [List.nil_append, htail.not_burst]
    exact isSome_ite_some.2 (isLimitEnd_iff.1 htail)
  · rw [List.append_assoc, isPrefixOf_append_self, hseven, List.drop_left,
      spanDigits_append hdigits htail.takeWhile_eq_nil]
    rw [← List.isEmpty_eq_false_iff] at hne
    dsimp only
    rw [hne]
    exact isSome_ite_some.2 (isLimitEnd_iff.1 htail)

theorem isLimit_of_isSome {args : List String} (h : (limitBurst? args).isSome = true) : IsLimit args := by
  have hzone : ("zone=" ++ rateLimitZone).toList = "zone=req_limit".toList := rfl
  have hseven : 7 = " burst=".toList.length := rfl
  unfold limitBurst? at h
  rw [hzone] at h
  dsimp only at h
  cases hlead : "zone=req_limit".toList.isPrefixOf (joinWith " " args).toList with
  | false =>
    rw [hlead] at h
    cases h
  | true =>
    obtain ⟨tail, hcs⟩ := List.isPrefixOf_iff_prefix.1 hlead
    rw [← hcs, isPrefixOf_append_self, List.drop_left] at h
    cases hburst : " burst=".toList.isPrefixOf tail with
    | false =>
      rw [hburst] at h
      exact ⟨[], tail, .inl rfl, isLimitEnd_iff.2 (isSome_ite_some.1 h), by rw [← hcs, List.nil_append]⟩
    | true =>
      obtain ⟨rest, rfl⟩ := List.isPrefixOf_iff_prefix.1 hburst
      rw [isPrefixOf_append_self, hseven, List.drop_left] at h
      cases hempty : (spanDigits rest).1.isEmpty with
      | true =>
        -- without a digit, the word itself would have to be the end
        rw [hempty] at h
        have hend : IsLimitEnd (" burst=".toList ++ rest) :=
          isLimitEnd_iff.2 ((isSome_ite_some (a := (none : Option (List Char)))).1 h)
        have hno := hend.not_burst
        rw [isPrefixOf_append_self] at hno
        cases hno
      | false =>
        rw [hempty] at h
        refine ⟨_, _, .inr ⟨(spanDigits rest).1, List.isEmpty_eq_false_iff.1 hempty, fun d hd => ?_, rfl⟩,
          isLimitEnd_iff.2 (isSome_ite_some.1 h), ?_⟩
        · exact List.mem_takeWhile_imp hd
        · rw [← hcs, List.append_assoc]
          exact congrArg _ (congrArg _ (List.takeWhile_append_dropWhile ..).symm)

theorem isLimit_iff {args : List String} : IsLimit args ↔ (limitBurst? args).isSome = true :=
  ⟨isSome_of_isLimit, isLimit_of_isSome⟩

theorem contents_splitLimit (rateLimiting : Bool) (children : List Node) :
    Contents rateLimiting children (splitLimit rateLimiting children).1 := by
  unfold splitLimit
  split
  · next args line rest =>
    split_ifs with hon
    · split
      · next burst hb => exact .limited hon (isLimit_iff.2 (by rw [hb]; rfl))
      · next hb =>
        refine .all fun args' line' rest' h hlimit => ?_
        cases h
        have hsome := isLimit_iff.1 hlimit.2
        rw [hb] at hsome
        cases hsome
    · exact .all fun _ _ _ _ hlimit => hon hlimit.1
  · next hnot => exact .all fun args line rest h => absurd h (hnot args line rest)

theorem Contents.unique {rateLimiting : Bool} {children ns ns' : List Node} (h : Contents rateLimiting children ns)
    (h' : Contents rateLimiting children ns') : ns = ns' := by
  cases h with
  | limited hon hl => cases h' with
    | limited => rfl
    | all hno => exact absurd ⟨hon, hl⟩ (hno _ _ _ rfl)
  | all hno => cases h' with
    | limited hon hl => exact absurd ⟨hon, hl⟩ (hno _ _ _ rfl)
    | all => rfl

theorem Node.contents_iff {n : Node} {rateLimiting : Bool} {ns : List Node} :
    Contents rateLimiting n.children ns ↔ n.contents rateLimiting = ns :=
  ⟨fun h => (contents_splitLimit rateLimiting n.children).unique h,
    fun h => h ▸ contents_splitLimit rateLimiting n.children⟩

/-! ### Caching locations -/

/-- Directives that let browsers keep files, and nothing else. -/
inductive IsCaching : List Node → Prop
  | mk {expires : List String} {line line' : Int} (h : expires ≠ []) :
    IsCaching [.directive "expires" expires line,
      .directive "add_header" ["Cache-Control", "public, immutable"] line']

namespace Node

/-- The block is a caching location of an asset class. -/
def Caches (rateLimiting : Bool) (n : Node) (a : AssetClass) : Prop :=
  Targets n.args .regexIgnoreCase a.pattern ∧ ∃ ns, Contents rateLimiting n.children ns ∧ IsCaching ns

theorem caches_iff {rateLimiting : Bool} {n : Node} {a : AssetClass} :
    n.Caches rateLimiting a ↔ ∃ expiry, n.stanza? rateLimiting = some (a, expiry) := by
  have hpattern : a.pattern ≠ "" := by cases a <;> decide
  unfold Caches stanza?
  rw [targets_iff hpattern]
  simp only [contents_iff, exists_eq_left']
  constructor
  · rintro ⟨⟨hm, hp⟩, hcaching⟩
    generalize n.contents rateLimiting = ns at hcaching
    cases hcaching with
    | mk hexpires =>
      rw [if_pos hm, hp]
      unfold cachingStanza?
      rw [AssetClass.ofPattern?_eq_some_iff.2 rfl]
      simp [hexpires, assetCacheControl]
  · rintro ⟨expiry, h⟩
    split_ifs at h with hm
    unfold cachingStanza? at h
    split at h
    · next b expires line header line' hb hns =>
      split_ifs at h with hno
      simp only [Option.some.injEq, Prod.mk.injEq] at h
      obtain ⟨rfl, -⟩ := h
      simp only [Bool.or_eq_true, List.isEmpty_iff, bne_iff_ne, not_or, not_not] at hno
      rw [AssetClass.ofPattern?_eq_some_iff] at hb
      rw [hns, hno.2]
      exact ⟨⟨hm, hb⟩, .mk hno.1⟩
    · cases h

instance {rateLimiting : Bool} {n : Node} {a : AssetClass} : Decidable (n.Caches rateLimiting a) :=
  decidable_of_iff ((n.stanza? rateLimiting).map Prod.fst = some a) (by
    rw [caches_iff, Option.map_eq_some_iff]
    exact ⟨fun ⟨s, hs, ha⟩ => ⟨s.2, ha ▸ hs⟩, fun ⟨expiry, h⟩ => ⟨_, h, rfl⟩⟩)

end Node

end SiteConf
