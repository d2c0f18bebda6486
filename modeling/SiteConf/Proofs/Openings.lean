import SiteConf.Proofs.RoundTrip
import SiteConf.Render.Server

/-!
# Lines that open blocks

A line that opens a block ends with a brace, which no directive does (`Flat`). At the level of the server such
lines come from locations, from static caching and from the directives that are kept as text only
(`Site.mem_lines_of_opens`), and the line over the files of an asset class tells which location or class it comes
from. Main statement: `Site.mem_lines_opening`.
-/

namespace SiteConf
open Text

/-! ### Lists of lines -/

theorem mem_joinSections {l : String} (hl : l ≠ "") {sections : List (List String)} :
    l ∈ joinSections sections ↔ ∃ s ∈ sections, l ∈ s := by
  induction sections with
  | nil => simp [joinSections]
  | cons s rest ih =>
    cases rest with
    | nil => simp [joinSections]
    | cons s' rest =>
      show l ∈ s ++ "" :: joinSections (s' :: rest) ↔ _
      rw [List.mem_append, List.mem_cons, ih, List.exists_mem_cons_iff _ s]
      simp only [hl, false_or]

theorem mem_joinNonEmpty {l : String} (hl : l ≠ "") {sections : List (List String)} :
    l ∈ joinNonEmpty sections ↔ ∃ s ∈ sections, l ∈ s := by
  rw [joinNonEmpty, mem_joinSections hl]
  constructor
  · rintro ⟨s, hs, hmem⟩
    exact ⟨s, (List.mem_filter.1 hs).1, hmem⟩
  · rintro ⟨s, hs, hmem⟩
    refine ⟨s, List.mem_filter.2 ⟨hs, ?_⟩, hmem⟩
    cases s with
    | nil => cases hmem
    | cons => rfl

theorem mem_titled {l title : String} (hl : l ≠ banner title) (ls : List String) : l ∈ titled title ls ↔ l ∈ ls := by
  cases ls with
  | nil => rfl
  | cons x ls => exact List.mem_cons.trans (or_iff_right hl)

/-- The line starts with a space. -/
def Indented (l : String) : Prop := l.toList.head? = some ' '

instance (l : String) : Decidable (Indented l) := inferInstanceAs (Decidable (_ = _))

theorem indented_pad {level : Int} (h : 0 < level) (l : String) : Indented (pad level ++ l) := by
  obtain ⟨k, hk⟩ : ∃ k, 4 * level.toNat = k + 1 := ⟨4 * level.toNat - 1, by omega⟩
  rw [Indented, String.toList_append, pad, String.toList_ofList, hk]
  rfl

theorem mem_indentLines {l : String} (hl : l ≠ "") (ls : List String) : pad 1 ++ l ∈ indentLines 1 ls ↔ l ∈ ls := by
  rw [indentLines, List.mem_map]
  constructor
  · rintro ⟨x, hx, hxl⟩
    split_ifs at hxl with hempty
    · have hpad := indented_pad (by decide : (0 : Int) < 1) l
      rw [← hxl, String.isEmpty_iff.1 hempty] at hpad
      cases hpad
    · rwa [← (String.append_right_inj (pad 1)).1 hxl]
  · intro hmem
    exact ⟨l, hmem, if_neg fun hempty => hl (String.isEmpty_iff.1 hempty)⟩

theorem mem_braced_of_pad {l head : String} (hl : l ≠ "") (hhead : ¬Indented (head ++ " \x7b")) (body : List String) :
    pad 1 ++ l ∈ braced head body ↔ l ∈ body := by
  have hpad := indented_pad (by decide : (0 : Int) < 1) l
  have hbrace : ¬Indented "\x7d" := by decide
  have hfirst : pad 1 ++ l ≠ head ++ " \x7b" := fun h => hhead (h ▸ hpad)
  have hlast : pad 1 ++ l ≠ "\x7d" := fun h => hbrace (h ▸ hpad)
  rw [braced, List.cons_append, List.mem_cons, List.mem_append, List.mem_singleton, mem_indentLines hl]
  simp only [hfirst, hlast, false_or, or_false]

/-- A line that stands no deeper than a block is its first or its last one. -/
theorem mem_braced_of_not_indented {l head : String} (hl : l ≠ "") (hindent : ¬Indented l) (hbrace : l ≠ "\x7d")
    (body : List String) : l ∈ braced head body ↔ l = head ++ " \x7b" := by
  have hbody : l ∉ indentLines 1 body := by
    intro hmem
    obtain ⟨x, -, hx⟩ := List.mem_map.1 hmem
    split_ifs at hx with hempty
    · exact hl (hx.symm.trans (String.isEmpty_iff.1 hempty))
    · exact hindent (hx ▸ indented_pad (by decide) x)
  rw [braced, List.cons_append, List.mem_cons, List.mem_append, List.mem_singleton]
  simp only [hbody, hbrace, or_false]

/-! ### Lines that open nothing -/

/-- The line ends with an opening brace. -/
def Opens (l : String) : Prop := l.toList.getLast? = some '\x7b'

instance (l : String) : Decidable (Opens l) := inferInstanceAs (Decidable (_ = _))

theorem Opens.ne_empty {l : String} (h : Opens l) : l ≠ "" := by
  rintro rfl
  cases h

theorem opens_append {s t : String} (ht : t ≠ "") : Opens (s ++ t) ↔ Opens t := by
  have hne : t.toList ≠ [] := fun h => ht (String.toList_eq_nil_iff.1 h)
  rw [Opens, Opens, String.toList_append, List.getLast?_append_of_ne_nil _ hne]

/-- No line opens a block. -/
def Flat (ls : List String) : Prop := ∀ l ∈ ls, ¬Opens l

namespace Flat
variable {ls ls' : List String}

theorem nil : Flat [] := List.forall_mem_nil _

theorem cons {l : String} (h : ¬Opens l) (hls : Flat ls) : Flat (l :: ls) := List.forall_mem_cons.2 ⟨h, hls⟩

theorem append (h : Flat ls) (h' : Flat ls') : Flat (ls ++ ls') := List.forall_mem_append.2 ⟨h, h'⟩

theorem ite {p : Prop} [Decidable p] (h : Flat ls) (h' : Flat ls') : Flat (if p then ls else ls') := by
  split_ifs
  · exact h
  · exact h'

theorem map {α : Type} {f : α → String} (h : ∀ x, ¬Opens (f x)) (xs : List α) : Flat (xs.map f) := by
  intro l hl
  obtain ⟨x, -, rfl⟩ := List.mem_map.1 hl
  exact h x

end Flat

theorem not_opens_append {s t : String} (hne : t ≠ "") (ht : ¬Opens t) : ¬Opens (s ++ t) := (opens_append hne).not.2 ht

theorem not_opens_semicolon (s : String) : ¬Opens (s ++ ";") := not_opens_append (by decide) (by decide)

theorem not_opens_directiveLine (name : String) (args : List String) : ¬Opens (directiveLine name args) :=
  not_opens_semicolon _

theorem not_opens_banner (title : String) : ¬Opens (banner title) :=
  not_opens_append (by decide) (by decide)

theorem Flat.directive (name : String) (args : List String) : Flat [directiveLine name args] :=
  .cons (not_opens_directiveLine name args) .nil

theorem Flat.titled {ls : List String} (h : Flat ls) (title : String) : Flat (titled title ls) :=
  .ite .nil (.cons (not_opens_banner title) h)

/-! ### The sections of a site -/

theorem not_mem_ite_block {l title head : String} (hl : Opens l) (hhead : ¬Indented (head ++ " \x7b"))
    {body : List String} (hbody : Flat body) (p : Prop) [Decidable p] :
    pad 1 ++ l ∉ (if p then banner title :: braced head body else []) := by
  split_ifs
  · rw [List.mem_cons, mem_braced_of_pad hl.ne_empty hhead, not_or]
    exact ⟨fun h => not_opens_banner title (h ▸ (opens_append hl.ne_empty).2 hl), fun h => hbody l h hl⟩
  · exact List.not_mem_nil

theorem Upstream.not_mem_lines (u : Upstream) {l : String} (hl : Opens l) : pad 1 ++ l ∉ u.lines := by
  refine not_mem_ite_block hl (fun h => ?_)
    (.append (.ite .nil (.directive _ _)) (.map (fun m => not_opens_directiveLine _ _) _)) _
  rw [Indented, String.append_assoc, String.toList_append] at h
  exact absurd (Option.some.inj h) (by decide)

theorem Security.flat_zoneLines (s : Security) : Flat s.zoneLines :=
  .ite (.cons (not_opens_banner _) (.cons (not_opens_append (by decide) (by decide)) .nil)) .nil

namespace Site
variable (s : Site)

theorem flat_nameLines : Flat s.nameLines := .ite .nil (.directive _ _)

theorem not_indented_server : ¬Indented ("server" ++ " \x7b") := by decide

theorem not_mem_httpsRedirectLines {l : String} (hl : Opens l) : pad 1 ++ l ∉ s.httpsRedirectLines :=
  not_mem_ite_block hl not_indented_server
    (.append (.append (.append (.directive _ _) (.ite (.directive _ _) .nil)) s.flat_nameLines) (.directive _ _)) _

theorem flat_headLines : Flat s.headLines :=
  .append (.append (.append (.directive _ _) (.ite (.directive _ _) .nil)) s.flat_nameLines)
    (.ite .nil (.append (.ite .nil (.directive _ _)) (.ite .nil (.directive _ _))))

end Site

theorem Ssl.flat_lines (s : Ssl) : Flat s.lines := by
  refine .ite (.append (.append (.append (.append ?_ (.ite .nil (.directive _ _))) ?_) (.ite ?_ .nil)) (.ite ?_ .nil))
    .nil
  · exact .cons (not_opens_banner _) (.cons (not_opens_directiveLine _ _) (.directive _ _))
  · refine .cons ?_ (.cons (not_opens_directiveLine _ _) (.cons (not_opens_directiveLine _ _)
      (.cons (not_opens_directiveLine _ _) (.directive _ _))))
    split_ifs
    · exact not_opens_directiveLine _ _
    · exact not_opens_append (by decide) (by decide)
  · exact .cons (not_opens_append (by decide) (by decide)) .nil
  · exact .cons (not_opens_directiveLine _ _) (.directive _ _)

theorem flat_addressLines (name : String) (addresses : List String) : Flat (addressLines name addresses) :=
  .map (fun _ => not_opens_directiveLine _ _) _

theorem Security.flat_lines (s : Security) : Flat s.lines := by
  refine .titled (.append (.append (.append (.append (.ite (.directive _ _) .nil) (.ite ?_ .nil))
    (flat_addressLines _ _)) (flat_addressLines _ _)) (.ite ?_ .nil)) _
  · exact .map (fun h => not_opens_append (by decide) (by decide)) _
  · exact .cons (not_opens_semicolon _) (.directive _ _)

theorem Performance.flat_lines (p : Performance) : Flat p.lines := by
  refine .titled (.append (.append (.append (.ite ?_ .nil) (.ite ?_ .nil)) (.ite (.directive _ _) .nil))
    (.ite (.directive _ _) .nil)) _
  · exact .cons (not_opens_directiveLine _ _) (.cons (not_opens_directiveLine _ _)
      (.cons (not_opens_directiveLine _ _) (.cons (not_opens_directiveLine _ _) (.directive _ _))))
  · exact .cons (not_opens_directiveLine _ _) (.cons (not_opens_directiveLine _ _) (.directive _ _))

theorem Logging.flat_lines (l : Logging) : Flat l.lines :=
  .append (.cons (not_opens_banner _) (.directive _ _)) (.ite (.directive _ _) .nil)

namespace Site
variable (s : Site)

/-- The lines of the text of a site. -/
def lines : List String :=
  joinNonEmpty [s.upstream.lines, s.security.zoneLines, s.httpsRedirectLines, s.serverLines]

/-- At the level of the server, blocks are opened by locations, by caching and by the kept text only. -/
theorem mem_lines_of_opens {l : String} (hl : Opens l) :
    pad 1 ++ l ∈ s.lines ↔ l ∈ s.locationSection ∨ l ∈ s.cachingSection ∨ l ∈ s.customSection := by
  have hopens : Opens (pad 1 ++ l) := (opens_append hl.ne_empty).2 hl
  have hbanner : ∀ title, pad 1 ++ l ≠ banner title := fun title h => not_opens_banner title (h ▸ hopens)
  have hserver : pad 1 ++ l ∈ s.serverLines ↔ l ∈ joinNonEmpty [s.headLines, s.ssl.lines, s.security.lines,
      s.performance.lines, s.logging.lines, s.locationSection, s.cachingSection, s.customSection] := by
    rw [serverLines, List.mem_cons, mem_braced_of_pad hl.ne_empty not_indented_server]
    exact or_iff_right (hbanner _)
  have hhead : l ∉ s.headLines := fun h => s.flat_headLines l h hl
  have hssl : l ∉ s.ssl.lines := fun h => s.ssl.flat_lines l h hl
  have hsecurity : l ∉ s.security.lines := fun h => s.security.flat_lines l h hl
  have hperformance : l ∉ s.performance.lines := fun h => s.performance.flat_lines l h hl
  have hlogging : l ∉ s.logging.lines := fun h => s.logging.flat_lines l h hl
  have hzone : pad 1 ++ l ∉ s.security.zoneLines := fun h => s.security.flat_zoneLines _ h hopens
  rw [lines, mem_joinNonEmpty hopens.ne_empty]
  simp only [List.exists_mem_cons_iff, List.not_mem_nil, false_and, exists_false, or_false, s.upstream.not_mem_lines hl,
    hzone, s.not_mem_httpsRedirectLines hl, false_or]
  rw [hserver, mem_joinNonEmpty hl.ne_empty]
  simp only [List.exists_mem_cons_iff, List.not_mem_nil, false_and, exists_false, or_false, hhead, hssl, hsecurity,
    hperformance, hlogging, false_or]

end Site

/-! ### Locations for files of an asset class -/

namespace AssetClass

/-- The line that opens the location for the files of a class. -/
def openingLine (a : AssetClass) : String := "location ~* " ++ a.pattern ++ " \x7b"

theorem opens_openingLine (a : AssetClass) : Opens a.openingLine :=
  (opens_append (by decide)).2 rfl

theorem not_indented_openingLine (a : AssetClass) : ¬Indented a.openingLine := by
  cases a <;> decide

theorem openingLine_ne_brace (a : AssetClass) : a.openingLine ≠ "\x7d" := by
  cases a <;> decide

theorem quoteArg_pattern (a : AssetClass) : quoteArg a.pattern = a.pattern := by
  cases a <;> decide

theorem pattern_injective : Function.Injective pattern := by
  intro a b h
  cases a <;> cases b <;> first | rfl | exact absurd h (by decide)

end AssetClass

theorem quoteArg_cases (arg : String) :
    (quoteArg arg = arg ∧ ' ' ∉ arg.toList) ∨ (quoteArg arg).toList.head? = some '"' ∨
      (quoteArg arg).toList.head? = some '\'' := by
  rw [quoteArg, String.toList_ofList, quoteChars]
  split_ifs with hbare hdouble hsingle
  · refine .inl ⟨String.ofList_toList, fun hspace => ?_⟩
    rw [Bool.and_eq_true, Bool.not_eq_true', Bool.not_eq_true', List.any_eq_false] at hbare
    exact hbare.2 ' ' hspace (by decide)
  · exact .inr (.inl rfl)
  · exact .inr (.inr rfl)
  · exact .inr (.inl rfl)

theorem modifier_append_quoteArg (m : MatchType) (path : String) (a : AssetClass) :
    m.modifier ++ quoteArg path = "~* " ++ a.pattern ↔ m = .regexIgnoreCase ∧ path = a.pattern := by
  have htilde : ∀ q : Char, q ≠ '~' → ("~* " ++ a.pattern).toList.head? ≠ some q := by
    intro q hq h
    rw [String.toList_append] at h
    exact hq (Option.some.inj h).symm
  have hpattern : a.pattern.toList.head? = some '\\' := by cases a <;> rfl
  constructor
  · intro h
    cases m with
    | start =>
      rw [show MatchType.start.modifier ++ quoteArg path = quoteArg path from String.empty_append] at h
      rcases quoteArg_cases path with ⟨hself, hspace⟩ | hquote | hquote
      · rw [hself] at h
        rw [h, String.toList_append] at hspace
        exact absurd (List.mem_append_left _ (by decide)) hspace
      · exact absurd (h ▸ hquote) (htilde _ (by decide))
      · exact absurd (h ▸ hquote) (htilde _ (by decide))
    | exact =>
      have hchars := congrArg String.toList h
      rw [String.toList_append, String.toList_append] at hchars
      exact absurd (List.cons.inj hchars).1 (by decide)
    | regex =>
      have hchars := congrArg String.toList h
      rw [String.toList_append, String.toList_append] at hchars
      exact absurd (List.cons.inj (List.cons.inj hchars).2).1 (by decide)
    | regexIgnoreCase =>
      have hpath : quoteArg path = a.pattern := (String.append_right_inj "~* ").1 h
      rcases quoteArg_cases path with ⟨hself, -⟩ | hquote | hquote
      · exact ⟨rfl, hself.symm.trans hpath⟩
      · rw [hpath, hpattern] at hquote
        exact absurd (Option.some.inj hquote) (by decide)
      · rw [hpath, hpattern] at hquote
        exact absurd (Option.some.inj hquote) (by decide)
  · rintro ⟨rfl, rfl⟩
    rw [a.quoteArg_pattern]
    rfl

namespace Site
variable (s : Site) (a : AssetClass)

theorem openingLine_mem_locationLines (l : Location) :
    a.openingLine ∈ s.locationLines l ↔ l.matchType = .regexIgnoreCase ∧ l.path = a.pattern := by
  rw [locationLines, mem_braced_of_not_indented a.opens_openingLine.ne_empty a.not_indented_openingLine
    a.openingLine_ne_brace, ← modifier_append_quoteArg, AssetClass.openingLine,
    show "location ~* " ++ a.pattern = "location " ++ ("~* " ++ a.pattern) by rw [← String.append_assoc]; rfl,
    String.append_left_inj, String.append_assoc, String.append_right_inj]
  exact eq_comm

theorem openingLine_mem_locationSection : a.openingLine ∈ s.locationSection ↔
    ∃ l ∈ s.locations, l.matchType = .regexIgnoreCase ∧ l.path = a.pattern := by
  have hbanner : a.openingLine ≠ banner "Location Blocks" := fun h => not_opens_banner _ (h ▸ a.opens_openingLine)
  have heffective : (∃ l ∈ s.effectiveLocations, l.matchType = .regexIgnoreCase ∧ l.path = a.pattern) ↔
      ∃ l ∈ s.locations, l.matchType = .regexIgnoreCase ∧ l.path = a.pattern := by
    unfold effectiveLocations
    split_ifs with hempty <;> simp_all
  rw [locationSection, List.mem_cons, mem_joinSections a.opens_openingLine.ne_empty, ← heffective]
  simp only [hbanner, false_or, List.mem_map, exists_exists_and_eq_and, openingLine_mem_locationLines]

theorem openingLine_mem_cachingSection : a.openingLine ∈ s.cachingSection ↔
    s.performance.staticCaching = true ∧ s.servesAssets a = true := by
  have hbanner : a.openingLine ≠ banner "Static File Caching" := fun h => not_opens_banner _ (h ▸ a.opens_openingLine)
  have hlines : ∀ b, a.openingLine ∈ s.performance.assetLines b ↔ b = a := by
    intro b
    rw [Performance.assetLines, mem_braced_of_not_indented a.opens_openingLine.ne_empty a.not_indented_openingLine
      a.openingLine_ne_brace, b.quoteArg_pattern, AssetClass.openingLine, String.append_left_inj,
      String.append_right_inj]
    exact ⟨fun h => (AssetClass.pattern_injective h).symm, fun h => h ▸ rfl⟩
  have hall : a ∈ (Keyword.all : List AssetClass) := by cases a <;> decide
  unfold cachingSection
  split_ifs with hcaching
  · rw [mem_titled hbanner, mem_joinSections a.opens_openingLine.ne_empty]
    simp only [List.mem_map, exists_exists_and_eq_and, hlines, exists_eq_right, List.mem_filter, hall, true_and,
      hcaching]
  · simp [hcaching]

/-- The text has the location for the files of a class if the site has it, if static caching covers the class, or if
the kept text has it. -/
theorem mem_lines_opening : pad 1 ++ a.openingLine ∈ s.lines ↔
    (∃ l ∈ s.locations, l.matchType = .regexIgnoreCase ∧ l.path = a.pattern) ∨
      (s.performance.staticCaching = true ∧ s.servesAssets a = true) ∨ a.openingLine ∈ s.customSection := by
  rw [s.mem_lines_of_opens a.opens_openingLine, openingLine_mem_locationSection, openingLine_mem_cachingSection]

end Site
end SiteConf
