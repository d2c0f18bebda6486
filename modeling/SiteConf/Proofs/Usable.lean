import SiteConf.Cli.Run
import SiteConf.Proofs.Reports
import SiteConf.Proofs.Shape

/-!
# Settings that can be used

The settings of a map are its values under four keys, with defaults for what it does not name
(`Settings.ofEntries_eq_ok_iff`). A format or a number of sweeps of another kind makes all of them the defaults. The
rules to hide and the switch for explanations are kept whatever they are, so these are usable if the map names no other
data for them. Main statement: `Settings.load_usable`.
-/

namespace SiteConf

namespace Settings

/-! ### Values of a map -/

section
variable {d : Data}

theorem readFormat_of_ne (h : ∀ f : OutputFormat, d ≠ .text (spell f)) : readFormat d = .error .outputFormat := by
  unfold readFormat
  split
  · split
    · next hread => exact absurd (congrArg Data.text (Keyword.spell_of_read? hread).symm) (h _)
    · rfl
  · rfl

theorem readFormat_eq_ok_iff {f : OutputFormat} : readFormat d = .ok f ↔ d = .text (spell f) := by
  have hspell : ∀ g : OutputFormat, readFormat (.text (spell g)) = .ok g := fun g => by simp [readFormat]
  refine ⟨fun h => ?_, fun h => h ▸ hspell f⟩
  by_cases hd : ∀ g : OutputFormat, d ≠ .text (spell g)
  · rw [readFormat_of_ne hd] at h
    cases h
  · obtain ⟨g, rfl⟩ := Classical.not_forall_not.1 hd
    rw [hspell g] at h
    cases h
    rfl

theorem readPasses_eq_ok_iff {n : Int} : readPasses d = .ok n ↔ d = .int n ∧ 1 ≤ n := by
  constructor
  · intro h
    unfold readPasses at h
    split at h
    · split_ifs at h with hn
      cases h
      exact ⟨rfl, not_lt.1 hn⟩
    · cases h
  · rintro ⟨rfl, hn⟩
    exact if_neg (not_lt.2 hn)

end

/-- The keys of the settings, in their order. -/
def keys : List String := (toEntries {}).map Prod.fst

/-- What a map says under a key, or the default. -/
def named (es : Entries) (key : String) : Data := ((es.lookup key).or ((toEntries {}).lookup key)).getD .null

theorem toEntries_eq_iff {s : Settings} {es : Entries} : s.toEntries = keys.map (fun key => (key, named es key)) ↔
    named es "output_format" = .text (spell s.outputFormat) ∧ named es "max_fix_passes" = .int s.maxFixPasses ∧
      named es "ignored_rules" = s.ignoredRules ∧ named es "explain" = s.explain := by
  have hkeys : keys.map (fun key => (key, named es key)) = [("output_format", named es "output_format"),
    ("max_fix_passes", named es "max_fix_passes"), ("ignored_rules", named es "ignored_rules"),
    ("explain", named es "explain")] := rfl
  rw [hkeys, eq_comm, toEntries]
  simp only [List.cons.injEq, Prod.mk.injEq, true_and, and_true]

theorem ofEntries_eq (es : Entries) : ofEntries es = readFormat (named es "output_format") >>= fun format =>
    readPasses (named es "max_fix_passes") >>= fun passes =>
      pure ⟨format, passes, named es "ignored_rules", named es "explain"⟩ := by
  unfold ofEntries named
  cases es.lookup "output_format" <;> cases es.lookup "max_fix_passes" <;>
    cases es.lookup "ignored_rules" <;> cases es.lookup "explain" <;> rfl

/-- The settings of a map have its values, if the number of sweeps is positive. -/
theorem ofEntries_eq_ok_iff {es : Entries} {s : Settings} :
    ofEntries es = .ok s ↔ s.toEntries = keys.map (fun key => (key, named es key)) ∧ 1 ≤ s.maxFixPasses := by
  rw [ofEntries_eq, toEntries_eq_iff]
  simp only [bind_eq_ok_iff, pure_eq_ok_iff, readFormat_eq_ok_iff, readPasses_eq_ok_iff]
  constructor
  · rintro ⟨format, hformat, passes, ⟨hpasses, hpos⟩, rfl⟩
    exact ⟨⟨hformat, hpasses, rfl, rfl⟩, hpos⟩
  · rintro ⟨⟨hformat, hpasses, hrules, hexplain⟩, hpos⟩
    exact ⟨_, hformat, _, ⟨hpasses, hpos⟩, by rw [hrules, hexplain]⟩

theorem ofEntries_eq_error {es : Entries} {e : SettingsFault} (h : ofEntries es = .error e) :
    readFormat (named es "output_format") = .error e ∨ readPasses (named es "max_fix_passes") = .error e := by
  rw [ofEntries_eq] at h
  cases hformat : readFormat (named es "output_format") with
  | error e' =>
    rw [hformat] at h
    cases h
    exact .inl rfl
  | ok f =>
    rw [hformat] at h
    cases hpasses : readPasses (named es "max_fix_passes") with
    | error e' =>
      simp only [hpasses] at h
      cases h
      exact .inr rfl
    | ok n =>
      simp only [hpasses] at h
      cases h

theorem ofEntries_toEntries {s : Settings} (h : 1 ≤ s.maxFixPasses) : ofEntries s.toEntries = .ok s :=
  ofEntries_eq_ok_iff.2 ⟨rfl, h⟩

/-- The map names no format and no number of sweeps that is of another kind. -/
def Readable (es : Entries) : Prop :=
  (∃ f : OutputFormat, named es "output_format" = .text (spell f)) ∧
    ∃ n : Int, named es "max_fix_passes" = .int n ∧ 1 ≤ n

theorem exists_ofEntries_iff {es : Entries} : (∃ s, ofEntries es = .ok s) ↔ Readable es := by
  constructor
  · rintro ⟨s, hs⟩
    obtain ⟨hentries, hpos⟩ := ofEntries_eq_ok_iff.1 hs
    obtain ⟨hformat, hpasses, -, -⟩ := toEntries_eq_iff.1 hentries
    exact ⟨⟨_, hformat⟩, _, hpasses, hpos⟩
  · rintro ⟨⟨f, hf⟩, n, hn, hpos⟩
    exact ⟨⟨f, n, _, _⟩, ofEntries_eq_ok_iff.2 ⟨toEntries_eq_iff.2 ⟨hf, hn, rfl, rfl⟩, hpos⟩⟩

/-! ### Loading -/

theorem load_map (es : Entries) : load (.data (.map es)) =
    match ofEntries es with
    | .ok s => (s, [])
    | .error f => ({}, [.invalid f]) := by
  cases es <;> rfl

theorem load_toData {s : Settings} (h : 1 ≤ s.maxFixPasses) : load (.data s.toData) = (s, []) := by
  rw [toData, load_map, ofEntries_toEntries h]

theorem one_le_maxFixPasses_load (file : SettingsFile) : 1 ≤ (load file).1.maxFixPasses := by
  have hdefault : 1 ≤ ({} : Settings).maxFixPasses := by decide
  unfold load
  split
  case h_3 d =>
    split
    · exact hdefault
    · split
      · split
        · next hread => exact (ofEntries_eq_ok_iff.1 hread).2
        · exact hdefault
      · exact hdefault
  all_goals exact hdefault

end Settings

/-! ### Reports -/

/-- The outcome of a command that prints a lint report on a site. -/
def Cli.reportOutcome {m : Type → Type} [Monad m] (target : String) (format : OutputFormat) (explain : Bool)
    (site : Site) (r : LintReport) : Run m Outcome := do
  return { exit := r.exitCode
           stdout := ← orMarkup (format.lintText explain (fileName target) r)
           stderr := incidentLog (lintIncidents ruleTable site) }

namespace Settings

theorem idTexts_map_text (ids : List String) : idTexts (ids.map .text) = .ok ids := by
  induction ids with
  | nil => rfl
  | cons id ids ih =>
    rw [List.map_cons, idTexts, ih]
    rfl

/-- Settings from which every report can be printed, without the findings of the rules with the ids. Findings are
explained if `b`. -/
structure Usable (s : Settings) (ids : List String) (b : Bool) : Prop where
  format : spell s.outputFormat ∈ ["rich", "plain", "json"]
  passes : 1 ≤ s.maxFixPasses
  rules : s.ignoredRules = .list (ids.map .text)
  explain : s.explain = .bool b
  explains : s.explains = b
  report : ∀ {m : Type → Type} [Monad m] [Cli.Files m] (c : Cli.Context) (target : String) (format : OutputFormat)
    (explain : Bool) (site : Site), c.settings = s → ∃ r : LintReport,
      Cli.lintSite (m := m) c target format explain site = Cli.reportOutcome target format explain site r ∧
      ∀ f, f ∈ r.findings ↔ f ∈ (lint ruleTable site).findings ∧ f.ruleId ∉ ids

theorem Usable.of_kinds {s : Settings} {ids : List String} {b : Bool} (hpasses : 1 ≤ s.maxFixPasses)
    (hrules : s.ignoredRules = .list (ids.map .text)) (hexplain : s.explain = .bool b) : s.Usable ids b where
  format := by cases s.outputFormat <;> decide
  passes := hpasses
  rules := hrules
  explain := hexplain
  explains := by
    rw [Settings.explains, hexplain]
    exact Bool.not_not b
  report c target format explain site hc := by
    have hids : c.settings.ignoredIds = .ok ids := by
      rw [hc, ignoredIds, hrules]
      exact idTexts_map_text ids
    refine ⟨(lint ruleTable site).ignoring ids, ?_, fun f => ?_⟩
    · rw [Cli.lintSite, hids]
      rfl
    · rw [lint, ignoring_ofFindings]
      show f ∈ List.filter _ _ ↔ f ∈ List.mergeSort _ _ ∧ _
      simp only [List.mem_filter, Bool.not_eq_true', List.contains_eq_mem, decide_eq_false_iff_not]

/-- The settings of a map are usable if the rules to hide are texts and the switch for explanations is a truth value.
They are what the map says if it can be read, and else the defaults, with a warning. -/
theorem load_usable {es : Entries}
    (hrules : ∀ d, es.lookup "ignored_rules" = some d → ∃ ids : List String, d = .list (ids.map .text))
    (hexplain : ∀ d, es.lookup "explain" = some d → ∃ b, d = .bool b) :
    ∃ (s : Settings) (ws : List SettingsWarning) (ids : List String) (b : Bool),
      load (.data (.map es)) = (s, ws) ∧ s.Usable ids b ∧
      (Readable es → s.toEntries = keys.map (fun key => (key, named es key)) ∧ ws = []) ∧
      (¬Readable es → s = {} ∧ ∃ f, ws = [.invalid f]) := by
  rw [load_map]
  cases hread : ofEntries es with
  | error f =>
    have hnot : ¬Readable es := fun h => by
      obtain ⟨s, hs⟩ := exists_ofEntries_iff.2 h
      rw [hread] at hs
      cases hs
    exact ⟨{}, _, [], false, rfl, .of_kinds (by decide) rfl rfl, fun h => absurd h hnot, fun _ => ⟨rfl, f, rfl⟩⟩
  | ok s =>
    obtain ⟨hentries, hpos⟩ := ofEntries_eq_ok_iff.1 hread
    obtain ⟨-, -, hignored, hswitch⟩ := toEntries_eq_iff.1 hentries
    have hids : ∃ ids : List String, named es "ignored_rules" = .list (ids.map .text) := by
      unfold named
      cases hlookup : es.lookup "ignored_rules" with
      | none => exact ⟨[], rfl⟩
      | some d => exact hrules d hlookup
    have hbool : ∃ b, named es "explain" = .bool b := by
      unfold named
      cases hlookup : es.lookup "explain" with
      | none => exact ⟨false, rfl⟩
      | some d => exact hexplain d hlookup
    obtain ⟨ids, hids⟩ := hids
    obtain ⟨b, hb⟩ := hbool
    exact ⟨s, [], ids, b, rfl, .of_kinds hpos (hignored ▸ hids) (hswitch ▸ hb), fun _ => ⟨hentries, rfl⟩,
      fun h => absurd (exists_ofEntries_iff.1 ⟨s, hread⟩) h⟩

/-- A map with a rule to hide, a switch, and a key that is unknown. -/
theorem load_usable_theme :
    let es : Entries := [("max_fix_passes", .int 5), ("ignored_rules", .list [.text "perf-gzip-disabled"]),
      ("theme", .null), ("explain", .bool true)]
    (∀ d, es.lookup "ignored_rules" = some d → ∃ ids : List String, d = .list (ids.map .text)) ∧
      (∀ d, es.lookup "explain" = some d → ∃ b, d = .bool b) ∧
      ∃ (s : Settings) (ws : List SettingsWarning) (ids : List String) (b : Bool),
        load (.data (.map es)) = (s, ws) ∧ s.Usable ids b ∧
        (Readable es → s.toEntries = keys.map (fun key => (key, named es key)) ∧ ws = []) ∧
        (¬Readable es → s = {} ∧ ∃ f, ws = [.invalid f]) := by
  intro es
  have hrules : ∀ d, es.lookup "ignored_rules" = some d → ∃ ids : List String, d = .list (ids.map .text) := by
    rintro d ⟨⟩
    exact ⟨["perf-gzip-disabled"], rfl⟩
  have hexplain : ∀ d, es.lookup "explain" = some d → ∃ b, d = .bool b := by
    rintro d ⟨⟩
    exact ⟨true, rfl⟩
  exact ⟨hrules, hexplain, load_usable hrules hexplain⟩

/-- A number in the place of the rules to hide is kept, and is no set of rules. -/
example : (load (.data (.map [("ignored_rules", .int 5)]))).1.ignoredIds = .error (.notIterable "int") := rfl

end Settings
end SiteConf
