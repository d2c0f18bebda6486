import SiteConf.Proofs.Openings

/-!
# Which extensions a pattern takes from static caching

Static caching leaves out an asset class if a pattern of the site's own names one of its extensions. A pattern names
what stands alone between bars after a literal dot and the start of a group, if nothing but letters, digits and bars
comes between (`mem_patternExtensions`). So an alternation takes its alternatives from static caching only up to the
first one that holds anything else. Main statement: `Site.mem_lines_caching`.
-/

namespace SiteConf
open Text

/-! ### Pieces between separators -/

/-- The piece goes from a separator, or the start of the text, to the next one, or the end. -/
def IsPiece (sep : Char) (piece cs : List Char) : Prop :=
  ∃ lead back, cs = lead ++ (piece ++ back) ∧ (lead = [] ∨ [sep] <:+ lead) ∧ (back = [] ∨ [sep] <+: back)

theorem splitAtChar_eq_splitOn (sep : Char) (cs : List Char) : splitAtChar sep cs = cs.splitOn sep := by
  induction cs with
  | nil => rfl
  | cons c cs ih =>
    rw [splitAtChar, ih, List.splitOn_cons_eq_if_modifyHead]
    cases h : cs.splitOn sep with
    | nil => exact absurd h (List.splitOn_ne_nil sep cs)
    | cons p ps => simp

theorem isPiece_intercalate (sep : Char) (piece : List Char) (before after : List (List Char)) :
    IsPiece sep piece ([sep].intercalate (before ++ piece :: after)) := by
  induction before with
  | nil =>
    cases after with
    | nil => exact ⟨[], [], by simp, .inl rfl, .inl rfl⟩
    | cons q qs =>
      exact ⟨[], sep :: [sep].intercalate (q :: qs), by simp, .inl rfl, .inr (List.prefix_append [sep] _)⟩
  | cons p ps ih =>
    obtain ⟨lead, back, hcs, hlead, hback⟩ := ih
    refine ⟨p ++ sep :: lead, back, ?_, .inr ?_, hback⟩
    · rw [List.cons_append, List.intercalate_cons_of_ne_nil (by simp), hcs]
      simp
    · obtain rfl | hlead := hlead
      · exact List.suffix_append p [sep]
      · exact (hlead.trans (List.suffix_cons sep lead)).trans (List.suffix_append p _)

theorem mem_splitAtChar {sep : Char} {piece : List Char} (h : sep ∉ piece) (cs : List Char) :
    piece ∈ splitAtChar sep cs ↔ IsPiece sep piece cs := by
  rw [splitAtChar_eq_splitOn]
  constructor
  · intro hmem
    obtain ⟨before, after, hsplit⟩ := List.append_of_mem hmem
    have hjoin : [sep].intercalate (cs.splitOn sep) = cs := List.intercalate_splitOn sep
    rw [← hjoin, hsplit]
    exact isPiece_intercalate sep piece before after
  · rintro ⟨lead, back, rfl, hlead, hback⟩
    have hfirst : piece ∈ (piece ++ back).splitOn sep := by
      obtain rfl | ⟨rest, rfl⟩ := hback
      · rw [List.append_nil, List.splitOn_eq_singleton h]
        exact List.mem_singleton_self piece
      · rw [List.singleton_append, List.splitOn_append_cons_self, List.splitOn_eq_singleton h]
        exact List.mem_cons_self
    obtain rfl | ⟨front, rfl⟩ := hlead
    · exact hfirst
    · rw [List.append_assoc, List.singleton_append, List.splitOn_append_cons_self]
      exact List.mem_append_right _ hfirst

/-! ### Names in a pattern -/

/-- What can stand between a literal dot and the extensions. -/
def groupStarts : List String := ["", "(", "(?:", "?:"]

/-- After a literal dot and the start of a group, the extension stands between bars, with nothing but letters, digits
and bars before it; what follows is a bar or no part of an extension. -/
def Names (cs extension : List Char) : Prop :=
  ∃ front lead back, ∃ group ∈ groupStarts,
    cs = front ++ '\\' :: '.' :: (group.toList ++ (lead ++ (extension ++ back))) ∧
      (∀ c ∈ lead, isExtensionChar c = true) ∧ (lead = [] ∨ ['|'] <:+ lead) ∧
      ∀ c ∈ back.head?, c = '|' ∨ isExtensionChar c = false

/-- Letters and digits, and at least one. -/
def IsExtension (cs : List Char) : Prop := cs ≠ [] ∧ ∀ c ∈ cs, isExtensionChar c = true ∧ c ≠ '|'

theorem AssetClass.isExtension {a : AssetClass} {e : String} (h : e ∈ a.extensions) : IsExtension e.toList := by
  have hall : (a.extensions.all fun e =>
      !e.toList.isEmpty && e.toList.all fun c => isExtensionChar c && c != '|') = true := by
    cases a <;> decide
  simpa [IsExtension] using List.all_eq_true.1 hall e h

theorem patternExtensions_subset_cons (c : Char) (cs : List Char) :
    patternExtensions cs ⊆ patternExtensions (c :: cs) := by
  by_cases hdot : c = '\\' ∧ ∃ rest, cs = '.' :: rest
  · obtain ⟨rfl, rest, rfl⟩ := hdot
    rw [show patternExtensions ('.' :: rest) = patternExtensions rest from rfl, patternExtensions]
    exact List.subset_append_right _ _
  · have hskip : patternExtensions (c :: cs) = patternExtensions cs :=
      patternExtensions.eq_3 c cs fun rest hc hcs => hdot ⟨hc, rest, hcs⟩
    rw [hskip]
    exact List.Subset.refl _

theorem mem_patternExtensions_iff_exists (e cs : List Char) : e ∈ patternExtensions cs ↔
    ∃ front rest, cs = front ++ '\\' :: '.' :: rest ∧
      e ∈ splitAtChar '|' ((skipGroupStart rest).takeWhile isExtensionChar) := by
  constructor
  · intro he
    fun_induction patternExtensions cs with
    | case1 => cases he
    | case2 rest ih =>
      obtain he | he := List.mem_append.1 he
      · exact ⟨[], rest, rfl, he⟩
      · obtain ⟨front, rest', rfl, he'⟩ := ih he
        exact ⟨'\\' :: '.' :: front, rest', rfl, he'⟩
    | case3 c rest _ ih =>
      obtain ⟨front, rest', rfl, he'⟩ := ih he
      exact ⟨c :: front, rest', rfl, he'⟩
  · rintro ⟨front, rest, rfl, he⟩
    induction front with
    | nil =>
      rw [List.nil_append, patternExtensions]
      exact List.mem_append_left _ he
    | cons c front ih => exact patternExtensions_subset_cons c _ ih

theorem exists_skipGroupStart (cs : List Char) : ∃ group ∈ groupStarts, cs = group.toList ++ skipGroupStart cs := by
  unfold skipGroupStart
  split
  · dsimp only
    split
    · exact ⟨"(?:", by decide, rfl⟩
    · exact ⟨"(", by decide, rfl⟩
  · dsimp only
    split
    · exact ⟨"?:", by decide, rfl⟩
    · exact ⟨"", by decide, rfl⟩

theorem skipGroupStart_append {group : String} (hgroup : group ∈ groupStarts) {c : Char} (hc : isExtensionChar c = true)
    (cs : List Char) : skipGroupStart (group.toList ++ c :: cs) = c :: cs := by
  have hparen : c ≠ '(' := by rintro rfl; exact absurd hc (by decide)
  have hmark : c ≠ '?' := by rintro rfl; exact absurd hc (by decide)
  fin_cases hgroup <;> simp [skipGroupStart, hparen, hmark]

/-- A pattern names an extension if its piece is one of those that are looked for. -/
theorem mem_patternExtensions {e : List Char} (he : IsExtension e) (cs : List Char) :
    e ∈ patternExtensions cs ↔ Names cs e := by
  have hbar : '|' ∉ e := fun hmem => (he.2 '|' hmem).2 rfl
  rw [mem_patternExtensions_iff_exists]
  constructor
  · rintro ⟨front, rest, rfl, hpiece⟩
    obtain ⟨group, hgroup, hrest⟩ := exists_skipGroupStart rest
    obtain ⟨lead, back, hrun, hlead, hback⟩ := (mem_splitAtChar hbar _).1 hpiece
    refine ⟨front, lead, back ++ (skipGroupStart rest).dropWhile isExtensionChar, group, hgroup, ?_, ?_, hlead, ?_⟩
    · rw [← List.append_assoc e, ← List.append_assoc lead, ← hrun, List.takeWhile_append_dropWhile, ← hrest]
    · intro c hc
      have hmem : c ∈ (skipGroupStart rest).takeWhile isExtensionChar := by
        rw [hrun]
        exact List.mem_append_left _ hc
      exact List.mem_takeWhile_imp hmem
    · intro c hc
      obtain rfl | ⟨tail, rfl⟩ := hback
      · have hdrop := List.head?_dropWhile_not isExtensionChar (skipGroupStart rest)
        rw [List.nil_append] at hc
        rw [Option.mem_def.1 hc] at hdrop
        exact .inr (by simpa using hdrop)
      · exact .inl (Option.some.inj hc).symm
  · rintro ⟨front, lead, back, group, hgroup, rfl, hplain, hlead, hback⟩
    have hrun : ∀ c ∈ lead ++ e, isExtensionChar c = true :=
      List.forall_mem_append.2 ⟨hplain, fun c hc => (he.2 c hc).1⟩
    have hskip : skipGroupStart (group.toList ++ (lead ++ (e ++ back))) = lead ++ (e ++ back) := by
      rw [← List.append_assoc lead]
      cases h : lead ++ e with
      | nil => exact absurd (List.append_eq_nil_iff.1 h).2 he.1
      | cons c cs => exact skipGroupStart_append hgroup (hrun c (by simp [h])) (cs ++ back)
    refine ⟨front, _, rfl, (mem_splitAtChar hbar _).2 ⟨lead, back.takeWhile isExtensionChar, ?_, hlead, ?_⟩⟩
    · rw [hskip, ← List.append_assoc, List.takeWhile_append_of_pos hrun, List.append_assoc]
    · cases back with
      | nil => exact .inl rfl
      | cons c back =>
        obtain rfl | hc := hback c rfl
        · exact .inr ⟨back.takeWhile isExtensionChar, rfl⟩
        · exact .inl (List.takeWhile_cons_of_neg (by simp [hc]))

/-! ### Lower case inside a pattern -/

theorem exists_lowerAfter_append (before xs ys : List Char) :
    ∃ front, lowerAfter before (xs ++ ys) = front ++ lowerAfter (xs.reverse ++ before) ys := by
  induction xs generalizing before with
  | nil => exact ⟨[], rfl⟩
  | cons c xs ih =>
    obtain ⟨front, hfront⟩ := ih (c :: before)
    rw [List.cons_append, lowerAfter, hfront, ← List.append_assoc, List.reverse_cons, List.append_assoc xs.reverse]
    exact ⟨_, rfl⟩

/-- Only a capital sigma looks at its neighbours. -/
theorem lowerAfter_append_of_not_mem {xs : List Char} (h : 'Σ' ∉ xs) (before ys : List Char) :
    lowerAfter before (xs ++ ys) = xs.flatMap lowerChar ++ lowerAfter (xs.reverse ++ before) ys := by
  induction xs generalizing before with
  | nil => rfl
  | cons c xs ih =>
    obtain ⟨hc, hxs⟩ : c ≠ 'Σ' ∧ 'Σ' ∉ xs := by simpa [eq_comm] using h
    rw [List.cons_append, lowerAfter, if_neg (by simp [hc]), ih hxs, List.flatMap_cons, List.reverse_cons,
      List.append_assoc, List.append_assoc xs.reverse]
    rfl

/-- A part without a capital sigma has its own lower case in any text. -/
theorem exists_lowerChars_append {middle : List Char} (h : 'Σ' ∉ middle) (front back : List Char) :
    ∃ start before, lowerChars (front ++ (middle ++ back)) =
      start ++ (middle.flatMap lowerChar ++ lowerAfter before back) := by
  obtain ⟨start, hstart⟩ := exists_lowerAfter_append [] front (middle ++ back)
  rw [lowerAfter_append_of_not_mem h] at hstart
  exact ⟨start, _, hstart⟩

theorem lower_eq_flatMap {s : String} (h : 'Σ' ∉ s.toList) : lower s = s.toList.flatMap lowerChar := by
  have happend := lowerAfter_append_of_not_mem h [] []
  rwa [List.append_nil, lowerAfter, List.append_nil] at happend

theorem not_mem_of_forall_lower {s : String} (h : ∀ c ∈ lower s, isExtensionChar c = true) : 'Σ' ∉ s.toList := by
  intro hmem
  obtain ⟨xs, ys, hs⟩ := List.append_of_mem hmem
  obtain ⟨front, hfront⟩ := exists_lowerAfter_append [] xs ('Σ' :: ys)
  have hlower : lower s = front ++ lowerAfter (xs.reverse ++ []) ('Σ' :: ys) := by rw [lower, lowerChars, hs, hfront]
  have hsmall : lowerChar 'Σ' = ['σ'] := by decide +kernel
  rw [hlower, lowerAfter, hsmall] at h
  split_ifs at h
  · exact absurd (h 'ς' (by simp)) (by decide)
  · exact absurd (h 'σ' (by simp)) (by decide)

theorem head?_lowerAfter {c : Char} (hascii : c.toNat < 128) (hlower : c.toLower = c) (hsigma : c ≠ 'Σ')
    (before cs : List Char) : (lowerAfter before (c :: cs)).head? = some c := by
  rw [lowerAfter, if_neg (by simp [hsigma]), lowerChar_of_ascii hascii, hlower]
  rfl

/-! ### Alternations -/

/-- The pattern has the alternatives after a literal dot, in a group. -/
def Alternation (path : String) (alternatives : List String) : Prop :=
  ∃ front group back, (group = "(" ∨ group = "(?:") ∧
    path = front ++ ("\\." ++ (group ++ (joinWith "|" alternatives ++ (")" ++ back))))

/-- Alternatives with a bar after each. -/
def barred (alternatives : List String) : List Char := alternatives.flatMap fun b => b.toList ++ ['|']

theorem toList_joinWith_bar (before : List String) (alternative : String) (after : List String) :
    (joinWith "|" (before ++ alternative :: after)).toList =
      barred before ++ (alternative.toList ++ after.flatMap fun b => '|' :: b.toList) := by
  induction before with
  | nil =>
    induction after generalizing alternative with
    | nil => simp [barred]
    | cons b after ih =>
      rw [List.nil_append, joinWith_cons_cons, String.toList_append, ← List.nil_append (b :: after), ih b]
      simp [barred]
  | cons b before ih =>
    have hne : before ++ alternative :: after ≠ [] := by simp
    rw [List.cons_append, ← List.singleton_append, joinWith_append "|" (by simp) hne, String.toList_append,
      String.toList_append, ih]
    simp [barred]

theorem mem_barred {alternatives : List String} {c : Char} (h : c ∈ barred alternatives) :
    (∃ b ∈ alternatives, c ∈ b.toList) ∨ c = '|' := by
  obtain ⟨b, hb, hc⟩ := List.mem_flatMap.1 h
  obtain hc | hc := List.mem_append.1 hc
  · exact .inl ⟨b, hb, hc⟩
  · exact .inr (List.mem_singleton.1 hc)

theorem isExtensionChar_barred {alternatives : List String}
    (h : ∀ b ∈ alternatives, ∀ c ∈ lower b, isExtensionChar c = true) :
    ∀ c ∈ (barred alternatives).flatMap lowerChar, isExtensionChar c = true := by
  intro c hc
  obtain ⟨x, hx, hc⟩ := List.mem_flatMap.1 hc
  obtain ⟨b, hb, hx⟩ | rfl := mem_barred hx
  · refine h b hb c ?_
    rw [lower_eq_flatMap (not_mem_of_forall_lower (h b hb))]
    exact List.mem_flatMap.2 ⟨x, hx, hc⟩
  · rw [lowerChar_of_ascii (by decide), List.mem_singleton] at hc
    rw [hc]
    decide

theorem suffix_barred (alternatives : List String) :
    (barred alternatives).flatMap lowerChar = [] ∨ ['|'] <:+ (barred alternatives).flatMap lowerChar := by
  obtain rfl | ⟨init, last, rfl⟩ := List.eq_nil_or_concat alternatives
  · exact .inl rfl
  · have hbar : lowerChar '|' = ['|'] := by decide
    refine .inr ⟨(barred init).flatMap lowerChar ++ last.toList.flatMap lowerChar, ?_⟩
    simp [barred, hbar]

/-- An alternative is named if all those before it hold letters and digits only. -/
theorem Alternation.names {path alternative : String} {before after : List String}
    (h : Alternation path (before ++ alternative :: after))
    (hbefore : ∀ b ∈ before, ∀ c ∈ lower b, isExtensionChar c = true) (he : IsExtension (lower alternative)) :
    Names (lower path) (lower alternative) := by
  obtain ⟨front, group, back, hgroup, rfl⟩ := h
  obtain ⟨hstart, hgroupLower, hgroupSigma⟩ : group ∈ groupStarts ∧ group.toList.flatMap lowerChar = group.toList ∧
      'Σ' ∉ group.toList := by
    obtain rfl | rfl := hgroup <;> decide
  have hsigma : 'Σ' ∉ alternative.toList := not_mem_of_forall_lower fun c hc => (he.2 c hc).1
  have hbarred : 'Σ' ∉ barred before := by
    intro hmem
    obtain ⟨b, hb, hmem⟩ | hbar := mem_barred hmem
    · exact not_mem_of_forall_lower (hbefore b hb) hmem
    · exact absurd hbar (by decide)
  -- up to the alternative no character looks at its neighbours
  have hhead : 'Σ' ∉ "\\.".toList ++ (group.toList ++ (barred before ++ alternative.toList)) := by
    simp only [List.mem_append, not_or]
    exact ⟨by decide, hgroupSigma, hbarred, hsigma⟩
  obtain ⟨start, context, hlower⟩ := exists_lowerChars_append hhead front.toList
    ((after.flatMap fun b => '|' :: b.toList) ++ ')' :: back.toList)
  refine ⟨start, (barred before).flatMap lowerChar, lowerAfter context ((after.flatMap fun b => '|' :: b.toList) ++
    ')' :: back.toList), group, hstart, ?_, isExtensionChar_barred hbefore, suffix_barred before, ?_⟩
  · have hdot : "\\.".toList.flatMap lowerChar = ['\\', '.'] := by decide
    simp only [List.flatMap_append, hgroupLower, hdot] at hlower
    rw [lower_eq_flatMap hsigma, lower]
    simpa [toList_joinWith_bar] using hlower
  · intro c hc
    cases after with
    | nil =>
      rw [List.flatMap_nil, List.nil_append, head?_lowerAfter (by decide) (by decide) (by decide)] at hc
      exact .inr (Option.some.inj hc ▸ by decide)
    | cons b after =>
      rw [List.flatMap_cons, List.cons_append, List.cons_append,
        head?_lowerAfter (by decide) (by decide) (by decide)] at hc
      exact .inl (Option.some.inj hc).symm

/-! ### Static caching -/

/-- The path of the location is a pattern. -/
def Location.HasPattern (l : Location) : Prop := l.matchType = .regex ∨ l.matchType = .regexIgnoreCase

namespace Site
variable (s : Site) (a : AssetClass)

theorem mem_claimedExtensions {e : String} (he : IsExtension e.toList) : e ∈ s.claimedExtensions ↔
    ∃ l ∈ s.locations, l.HasPattern ∧ Names (lower l.path) e.toList := by
  rw [claimedExtensions, List.mem_flatMap]
  refine exists_congr fun l => and_congr_right fun _ => ?_
  split_ifs with hpattern
  · rw [← mem_patternExtensions he, List.mem_map]
    constructor
    · rintro ⟨cs, hcs, rfl⟩
      rw [String.toList_ofList]
      exact ⟨hpattern, hcs⟩
    · rintro ⟨-, hcs⟩
      exact ⟨e.toList, hcs, String.ofList_toList⟩
  · exact iff_of_false List.not_mem_nil fun h => hpattern h.1

theorem servesAssets_iff : s.servesAssets a = true ↔
    ∀ l ∈ s.locations, l.HasPattern → ∀ e ∈ a.extensions, ¬Names (lower l.path) e.toList := by
  rw [servesAssets, List.all_eq_true]
  constructor
  · intro h l hl hpattern e he hnames
    have hclaimed := (s.mem_claimedExtensions (AssetClass.isExtension he)).2 ⟨l, hl, hpattern, hnames⟩
    simpa [hclaimed] using h e he
  · intro h e he
    rw [Bool.not_eq_true', Bool.eq_false_iff, Ne, List.contains_iff_mem]
    intro hclaimed
    obtain ⟨l, hl, hpattern, hnames⟩ := (s.mem_claimedExtensions (AssetClass.isExtension he)).1 hclaimed
    exact h l hl hpattern e he hnames

/-- Static caching covers the asset classes none of whose extensions a pattern of the site's own names. So it leaves
out a class with an extension that is an alternative of a pattern, in either case, if the alternatives before it hold
letters and digits only. -/
theorem mem_lines_caching (hcaching : s.performance.staticCaching = true) :
    (a.openingLine ∈ s.cachingSection ↔
      ∀ l ∈ s.locations, l.HasPattern → ∀ e ∈ a.extensions, ¬Names (lower l.path) e.toList) ∧
    ∀ l ∈ s.locations, l.HasPattern → ∀ before alternative after,
      Alternation l.path (before ++ alternative :: after) →
      (∀ b ∈ before, ∀ c ∈ lower b, isExtensionChar c = true) →
      String.ofList (lower alternative) ∈ a.extensions →
        a.openingLine ∉ s.cachingSection ∧
          (pad 1 ++ a.openingLine ∈ s.lines ↔
            (∃ own ∈ s.locations, own.matchType = .regexIgnoreCase ∧ own.path = a.pattern) ∨
              a.openingLine ∈ s.customSection) := by
  have hsection : a.openingLine ∈ s.cachingSection ↔ s.servesAssets a = true := by
    rw [openingLine_mem_cachingSection, hcaching]
    exact and_iff_right rfl
  refine ⟨hsection.trans (s.servesAssets_iff a), ?_⟩
  intro l hl hpattern before alternative after halternation hbefore he
  have hextension := AssetClass.isExtension he
  rw [String.toList_ofList] at hextension
  have hserves : s.servesAssets a ≠ true := fun h =>
    (s.servesAssets_iff a).1 h l hl hpattern _ he (String.toList_ofList ▸ halternation.names hbefore hextension)
  refine ⟨fun h => hserves (hsection.1 h), ?_⟩
  rw [mem_lines_opening, or_congr_right]
  exact or_iff_right fun h => hserves h.2

theorem mem_lines_caching_png :
    AssetClass.images.openingLine ∉
      ({ performance := { staticCaching := true }
         locations := [{ path := "\\.(PNG|jpe?g)$", matchType := .regex }] } : Site).cachingSection :=
  ((mem_lines_caching _ .images rfl).2 _ List.mem_cons_self (.inl rfl) [] "PNG" ["jpe?g"]
    ⟨"", "(", "$", .inl rfl, by decide⟩ (by simp) (by decide)).1

/-- The mark in the first alternative hides the second one. -/
example : AssetClass.images.openingLine ∈
      ({ performance := { staticCaching := true }
         locations := [{ path := "\\.(jpe?g|png)$", matchType := .regex }] } : Site).cachingSection := by
  rw [Site.openingLine_mem_cachingSection]
  exact ⟨rfl, by decide +kernel⟩

end Site
end SiteConf
