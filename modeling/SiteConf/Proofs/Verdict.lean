import SiteConf.Proofs.Fixable

/-!
# Fixing never makes the verdict worse

Every rule that fires after a fix is charged to one that fired before it, to each at most one and of no lesser
severity (`NoWorse`). This is the rule itself, but for one case: when the proxy without a backend is switched off,
the site may come to lack a root, and that warning is charged to the error that is gone (`Rules.noWorse_mend`). Then
neither the score nor the number of errors gets worse by any trace of fixes. Main statement: `lint_after_fixes`.
-/

namespace SiteConf

/-! ### Weights of findings -/

section
variable {α : Type}

/-- What the rules that fire on a model weigh together. -/
def burden (w : Severity → Nat) (rules : List (Rule α)) (a : α) : Nat :=
  ((rules.filter (·.fires a)).map fun r => w r.severity).sum

theorem penaltySum_eq_sum (fs : List Finding) : penaltySum fs = (fs.map (·.severity.penalty)).sum := by
  induction fs with
  | nil => rfl
  | cons f fs ih => rw [penaltySum, ih, List.map_cons, List.sum_cons]

theorem sum_map_findings (w : Severity → Nat) (rules : List (Rule α)) (a : α) :
    ((lint rules a).findings.map (w ·.severity)).sum = burden w rules a := by
  have hperm : (lint rules a).findings.Perm (firedFindings rules a) := List.mergeSort_perm _ _
  rw [(hperm.map _).sum_eq, firedFindings, List.map_map]
  rfl

theorem score_lint (rules : List (Rule α)) (a : α) : (lint rules a).score = 100 - burden Severity.penalty rules a := by
  rw [← sum_map_findings, ← penaltySum_eq_sum]
  rfl

/-- One for each error. -/
def Severity.isError (v : Severity) : Nat := if v = .error then 1 else 0

theorem errors_lint (rules : List (Rule α)) (a : α) :
    (lint rules a).counts.error = burden Severity.isError rules a := by
  rw [← sum_map_findings]
  show (lint rules a).findings.countP _ = _
  induction (lint rules a).findings with
  | nil => rfl
  | cons f fs ih =>
    rw [List.countP_cons, ih, List.map_cons, List.sum_cons, Severity.isError, Nat.add_comm]
    simp only [decide_eq_true_eq]

/-! ### Charging -/

/-- Every rule that fires on the second model is charged to one that fires on the first, to each at most one. -/
structure Charges (rules : List (Rule α)) (a b : α) (σ : Rule α → Rule α) : Prop where
  mem : ∀ r ∈ rules, r.fires b = true → σ r ∈ rules
  fires : ∀ r ∈ rules, r.fires b = true → (σ r).fires a = true
  severity : ∀ r ∈ rules, r.fires b = true → (σ r).severity.rank ≤ r.severity.rank
  injective : ∀ r ∈ rules, ∀ r' ∈ rules, r.fires b = true → r'.fires b = true → σ r = σ r' → r = r'

/-- The rules find nothing on the second model that is not made up for by what they found on the first. -/
def NoWorse (rules : List (Rule α)) (a b : α) : Prop := ∃ σ, Charges rules a b σ

variable {rules : List (Rule α)} {a b c : α}

theorem NoWorse.of_fires (h : ∀ r ∈ rules, r.fires b = true → r.fires a = true) : NoWorse rules a b :=
  ⟨id, fun _ hr _ => hr, h, fun _ _ _ => Nat.le_refl _, fun _ _ _ _ _ _ heq => heq⟩

theorem NoWorse.refl (rules : List (Rule α)) (a : α) : NoWorse rules a a := .of_fires fun _ _ h => h

theorem NoWorse.trans (hab : NoWorse rules a b) (hbc : NoWorse rules b c) : NoWorse rules a c := by
  obtain ⟨σ, hσ⟩ := hab
  obtain ⟨τ, hτ⟩ := hbc
  refine ⟨σ ∘ τ, ⟨fun r hr hf => ?_, fun r hr hf => ?_, fun r hr hf => ?_, fun r hr r' hr' hf hf' heq => ?_⟩⟩
  · exact hσ.mem _ (hτ.mem r hr hf) (hτ.fires r hr hf)
  · exact hσ.fires _ (hτ.mem r hr hf) (hτ.fires r hr hf)
  · exact Nat.le_trans (hσ.severity _ (hτ.mem r hr hf) (hτ.fires r hr hf)) (hτ.severity r hr hf)
  · have hmid := hσ.injective _ (hτ.mem r hr hf) _ (hτ.mem r' hr' hf') (hτ.fires r hr hf) (hτ.fires r' hr' hf') heq
    exact hτ.injective r hr r' hr' hf hf' hmid

theorem NoWorse.burden_le (h : NoWorse rules a b) (hnodup : rules.Nodup) {w : Severity → Nat}
    (hw : ∀ v v' : Severity, v.rank ≤ v'.rank → w v' ≤ w v) : burden w rules b ≤ burden w rules a := by
  obtain ⟨σ, hσ⟩ := h
  have hcharged : ((rules.filter (·.fires b)).map σ).Nodup := by
    refine List.Nodup.map_on ?_ (hnodup.filter _)
    intro r hr r' hr' heq
    rw [List.mem_filter] at hr hr'
    exact hσ.injective r hr.1 r' hr'.1 hr.2 hr'.2 heq
  have hsub : (rules.filter (·.fires b)).map σ ⊆ rules.filter (·.fires a) := by
    intro r' hr'
    obtain ⟨r, hr, rfl⟩ := List.mem_map.1 hr'
    rw [List.mem_filter] at hr ⊢
    exact ⟨hσ.mem r hr.1 hr.2, hσ.fires r hr.1 hr.2⟩
  obtain ⟨l, hperm, hl⟩ := hcharged.subperm hsub
  calc burden w rules b
      ≤ ((rules.filter (·.fires b)).map fun r => w (σ r).severity).sum := by
        refine List.sum_le_sum fun r hr => hw _ _ ?_
        rw [List.mem_filter] at hr
        exact hσ.severity r hr.1 hr.2
    _ = (l.map fun r => w r.severity).sum := by
        rw [(hperm.map _).sum_eq, List.map_map]
        rfl
    _ ≤ burden w rules a := (hl.map _).sum_le_sum fun _ _ => Nat.zero_le _

/-- A model on which the rules find nothing worse gets no lower score and no more errors. -/
theorem NoWorse.lint (h : NoWorse rules a b) (hnodup : rules.Nodup) :
    (lint rules a).score ≤ (lint rules b).score ∧ (lint rules b).counts.error ≤ (lint rules a).counts.error := by
  rw [score_lint, score_lint, errors_lint, errors_lint]
  constructor
  · exact Nat.sub_le_sub_left (h.burden_le hnodup fun v v' => by cases v <;> cases v' <;> decide) 100
  · exact h.burden_le hnodup fun v v' => by cases v <;> cases v' <;> decide

end

/-! ### What a fix makes of the other rules -/

namespace Rules
open Text

theorem any_map_retarget {backend : String} {p : Location → Bool}
    (hp : ∀ l t, p { l with proxyPass := t } = p l) (ls : List Location) :
    (ls.map (retarget backend)).any p = ls.any p := by
  induction ls with
  | nil => rfl
  | cons l ls ih =>
    have hl : p (retarget backend l) = p l := by
      rw [retarget]
      split_ifs
      · exact hp l backend
      · rfl
    rw [List.map_cons, List.any_cons, List.any_cons, hl, ih]

theorem lowKeepalive_fires {s : Site} : lowKeepalive.fires s = true ↔
    0 < s.performance.keepaliveTimeout ∧ s.performance.keepaliveTimeout < 10 := by
  show (decide _ && decide _) = true ↔ _
  rw [Bool.and_eq_true, decide_eq_true_eq, decide_eq_true_eq]

/-- By this change of a site no other rule comes to fire. -/
def Harmless (r : Rule Site) (f : Site → Site) : Prop :=
  ∀ s, ∀ r' ∈ ruleTable, r'.id ≠ r.id → r'.fires (f s) = true → r'.fires s = true

/-- No other rule of the table reads what this one writes. -/
theorem harmless_of_unread {r : Rule Site} {f : Site → Site} (i : Nat) (hi : ruleTable[i]? = some r)
    (h : ∀ s, (ruleTable.eraseIdx i).map (·.fires (f s)) = (ruleTable.eraseIdx i).map (·.fires s)) :
    Harmless r f := by
  intro s r' hr' hne hfires
  have hrest : r' ∈ ruleTable.eraseIdx i := by
    obtain ⟨j, hj⟩ := List.mem_iff_getElem?.1 hr'
    refine List.mem_eraseIdx_iff_getElem?.2 ⟨j, ?_, hj⟩
    rintro rfl
    exact hne (by rw [Option.some.inj (hj.symm.trans hi)])
  rw [← List.map_inj_left.1 (h s) r' hrest]
  exact hfires

theorem exists_mends_harmless {r : Rule Site} (hr : r ∈ ruleTable) (hid : r.id ≠ proxyEnabledWithoutBackend.id) :
    ∃ f, r.Mends f ∧ Harmless r f := by
  simp only [ruleTable, List.mem_cons, List.not_mem_nil, or_false] at hr
  rcases hr with rfl | rfl | rfl | rfl | rfl | rfl | rfl | rfl | rfl | rfl | rfl | rfl | rfl | rfl | rfl |
    rfl | rfl | rfl | rfl | rfl | rfl | rfl | rfl | rfl | rfl | rfl
  · exact ⟨_, serverTokens_mends, harmless_of_unread 0 rfl fun _ => rfl⟩
  · exact ⟨_, headersMissing_mends, harmless_of_unread 1 rfl fun _ => rfl⟩
  · exact ⟨_, Rule.mends_of_no_fix rfl, fun _ _ _ _ h => h⟩
  · exact ⟨_, Rule.mends_of_no_fix rfl, fun _ _ _ _ h => h⟩
  · exact ⟨_, httpRedirectWithoutSsl_mends, harmless_of_unread 4 rfl fun _ => rfl⟩
  · exact ⟨_, Rule.mends_of_no_fix rfl, fun _ _ _ _ h => h⟩
  · exact absurd rfl hid
  · exact ⟨_, gzipDisabled_mends, harmless_of_unread 7 rfl fun _ => rfl⟩
  · exact ⟨_, http2Disabled_mends, harmless_of_unread 8 rfl fun _ => rfl⟩
  · exact ⟨_, workerConnectionsLow_mends, fun _ _ _ _ h => h⟩
  · refine ⟨_, keepaliveTimeoutHigh_mends, fun s r hr hne h => ?_⟩
    fin_cases hr <;> try first | exact h | exact absurd rfl hne
    -- the rule about low timeouts reads the new one
    obtain ⟨hpos, hlow⟩ := lowKeepalive_fires.1 h
    dsimp only at hpos hlow
    split_ifs at hpos hlow with hhigh
    · exact absurd hlow (by decide)
    · exact lowKeepalive_fires.2 ⟨hpos, hlow⟩
  · exact ⟨_, sslProtocolsOutdated_mends, harmless_of_unread 11 rfl fun _ => rfl⟩
  · exact ⟨_, noRateLimiting_mends, harmless_of_unread 12 rfl fun _ => rfl⟩
  · exact ⟨_, Rule.mends_of_no_fix rfl, fun _ _ _ _ h => h⟩
  · exact ⟨_, Rule.mends_of_no_fix rfl, fun _ _ _ _ h => h⟩
  · exact ⟨_, brotliDisabled_mends, harmless_of_unread 15 rfl fun _ => rfl⟩
  · exact ⟨_, noStaticCaching_mends, harmless_of_unread 16 rfl fun _ => rfl⟩
  · exact ⟨_, Rule.mends_of_no_fix rfl, fun _ _ _ _ h => h⟩
  · refine ⟨_, lowKeepalive_mends, fun s r hr hne h => ?_⟩
    fin_cases hr <;> try first | exact h | exact absurd rfl hne
    -- the rule about high timeouts reads the new one
    have hhigh := of_decide_eq_true h
    dsimp only at hhigh
    split_ifs at hhigh with hlow
    · exact absurd hhigh (by decide)
    · exact decide_eq_true hhigh
  · exact ⟨_, Rule.mends_of_no_fix rfl, fun _ _ _ _ h => h⟩
  · exact ⟨_, Rule.mends_of_no_fix rfl, fun _ _ _ _ h => h⟩
  · exact ⟨_, loggingDisabled_mends, harmless_of_unread 21 rfl fun _ => rfl⟩
  · refine ⟨_, upstreamWithoutServers_mends, fun s r hr hne h => ?_⟩
    fin_cases hr <;> try first | exact h | exact absurd rfl hne
    -- a pool that is on afterwards was on before
    obtain ⟨hon, hsingle⟩ := Bool.and_eq_true_iff.1 h
    exact Bool.and_eq_true_iff.2 ⟨(Bool.and_eq_true_iff.1 hon).1, hsingle⟩
  · refine ⟨_, proxyLocationWithoutTarget_mends, fun s r hr hne h => ?_⟩
    fin_cases hr <;> try first | exact h | exact absurd rfl hne
    -- other tests of locations do not read targets
    · exact (any_map_retarget (fun _ _ => rfl) s.locations).symm.trans h
    · obtain ⟨hempty, hoff⟩ := Bool.and_eq_true_iff.1 h
      exact Bool.and_eq_true_iff.2 ⟨by simpa using hempty, hoff⟩
    · exact (any_map_retarget (fun _ _ => rfl) s.locations).symm.trans h
  · exact ⟨_, Rule.mends_of_no_fix rfl, fun _ _ _ _ h => h⟩
  · exact ⟨_, hstsMissing_mends, harmless_of_unread 25 rfl fun _ => rfl⟩

theorem fires_of_fires_without_proxy {s : Site} (hs : s.Valid) {r : Rule Site} (hr : r ∈ ruleTable)
    (hroot : r.id ≠ missingRootOrProxy.id) (h : r.fires (proxyEnabledWithoutBackend.mend s) = true) :
    r.fires s = true := by
  rw [proxyEnabledWithoutBackend_mends.mend s hs] at h
  fin_cases hr <;> try first | exact h | exact absurd rfl hroot
  · obtain ⟨hremote, hlocal⟩ := Bool.and_eq_true_iff.1 h
    obtain ⟨hon, hplain⟩ := Bool.and_eq_true_iff.1 hremote
    have hwas := (Bool.and_eq_true_iff.1 hon).1
    exact Bool.and_eq_true_iff.2 ⟨Bool.and_eq_true_iff.2 ⟨hwas, hplain⟩, hlocal⟩
  · obtain ⟨hon, hblank⟩ := Bool.and_eq_true_iff.1 h
    exact Bool.and_eq_true_iff.2 ⟨(Bool.and_eq_true_iff.1 hon).1, hblank⟩

/-- The warning that a site without a proxy lacks a root is charged to the error that its proxy had no backend. -/
theorem noWorse_without_proxy {s : Site} (hs : s.Valid) (hfires : proxyEnabledWithoutBackend.fires s = true) :
    NoWorse ruleTable s (proxyEnabledWithoutBackend.mend s) := by
  have hmem : proxyEnabledWithoutBackend ∈ ruleTable := by simp [ruleTable]
  have hquiet : proxyEnabledWithoutBackend.fires (proxyEnabledWithoutBackend.mend s) ≠ true := by
    intro hagain
    exact absurd ((fires_mend hs hmem rfl).1 hagain).2.1 (by decide)
  refine ⟨fun r => if r.id = missingRootOrProxy.id then proxyEnabledWithoutBackend else r, ⟨?_, ?_, ?_, ?_⟩⟩
  · intro r hr _
    split_ifs
    · exact hmem
    · exact hr
  · intro r hr hf
    split_ifs with hroot
    · exact hfires
    · exact fires_of_fires_without_proxy hs hr hroot hf
  · intro r _ _
    split_ifs
    · exact Nat.zero_le _
    · exact Nat.le_refl _
  · intro r hr r' hr' hf hf' heq
    split_ifs at heq with hroot hroot' hroot'
    · exact List.inj_on_of_nodup_map ruleTable_ids_nodup hr hr' (hroot.trans hroot'.symm)
    · exact absurd (heq ▸ hf') hquiet
    · exact absurd (heq ▸ hf) hquiet
    · exact heq

theorem noWorse_mend {s : Site} (hs : s.Valid) {r : Rule Site} (hr : r ∈ ruleTable) :
    NoWorse ruleTable s (r.mend s) := by
  by_cases hfires : r.fires s = true
  · by_cases hid : r.id = proxyEnabledWithoutBackend.id
    · obtain rfl := List.inj_on_of_nodup_map ruleTable_ids_nodup hr (by simp [ruleTable]) hid
      exact noWorse_without_proxy hs hfires
    · obtain ⟨f, hf, hharmless⟩ := exists_mends_harmless hr hid
      refine .of_fires fun r' hr' h => ?_
      by_cases hne : r'.id = r.id
      · rwa [List.inj_on_of_nodup_map ruleTable_ids_nodup hr' hr hne]
      · rw [hf.mend s hs] at h
        exact hharmless s r' hr' hne h
  · rw [Rule.mend_of_quiet (by simpa using hfires)]
    exact .refl ruleTable s

end Rules

/-! ### Runs -/

theorem Rules.noWorse_mendAll {rules : List (Rule Site)} (hsub : ∀ r ∈ rules, r ∈ ruleTable) {s : Site}
    (hs : s.Valid) : NoWorse ruleTable s (mendAll rules s) := by
  induction rules generalizing s with
  | nil => exact .refl ruleTable s
  | cons r rules ih =>
    rw [List.forall_mem_cons] at hsub
    exact (noWorse_mend hs hsub.1).trans (ih hsub.2 (mend_valid hs hsub.1))

theorem Rules.noWorse_mended {s : Site} (hs : s.Valid) : NoWorse ruleTable s s.mended := by
  rw [← (mendAll_ruleTable hs).1]
  exact noWorse_mendAll (fun _ hr => hr) hs

/-- The second report has no lower score and no more errors. -/
def LintReport.NoWorse (old new : LintReport) : Prop :=
  old.score ≤ new.score ∧ new.counts.error ≤ old.counts.error

theorem applyFix_of_nothing {s : Site} {id : String}
    (h : ∀ r ∈ ruleTable, r.id = id → r.fixable = true → r.fires s = false) :
    (applyFix ruleTable id s).map (·.1) = .ok ⟨s, false, []⟩ := by
  cases hfind : ruleTable.find? (·.id == id) with
  | none => exact applyFix_of_unknown hfind
  | some r =>
    have hid : r.id = id := by simpa using List.find?_some hfind
    refine applyFix_of_quiet hfind fun b hb => ?_
    have hquiet := h r (List.mem_of_find?_eq_some hfind) hid hb.fixable
    rw [hb.fires] at hquiet
    cases hquiet

theorem applyFix_noWorse {s : Site} (hs : s.Valid) (hfew : ∀ n ∈ s.integers, Text.FewDigits n) (id : String) :
    ∃ result, (applyFix ruleTable id s).map (·.1) = .ok result ∧ NoWorse ruleTable s result.model := by
  cases hfind : ruleTable.find? (·.id == id) with
  | none => exact ⟨_, applyFix_of_unknown hfind, .refl ruleTable s⟩
  | some r =>
    obtain ⟨result, hresult, hmodel, -⟩ := applyFix_model mendable_ruleTable ⟨hs, hfew⟩ hfind
    exact ⟨result, hresult, hmodel ▸ Rules.noWorse_mend hs (List.mem_of_find?_eq_some hfind)⟩

/-- Fixing, by one rule or by all of them, gives a site with no lower score and no more errors. With a number of too
many digits in the site it breaks off, unless there is nothing to fix. -/
theorem lint_after_fixes {s : Site} (hs : s.Valid) :
    ((∀ n ∈ s.integers, Text.FewDigits n) →
      (∀ id : String, ∃ result, (applyFix ruleTable id s).map (·.1) = .ok result ∧
        (lint ruleTable s).NoWorse (lint ruleTable result.model)) ∧
      ∀ maxPasses : Int, ∃ t, (applyAllFixes ruleTable maxPasses s).map (·.1.model) = .ok t ∧
        (lint ruleTable s).NoWorse (lint ruleTable t)) ∧
    ((¬∀ n ∈ s.integers, Text.FewDigits n) →
      (∀ maxPasses : Int, applyAllFixes ruleTable maxPasses s = .error .unwritable) ∧
      (∀ r ∈ ruleTable, r.fixable = true → r.fires s = true →
        applyFix ruleTable r.id s = .error .unwritable) ∧
      ∀ id : String, (∀ r ∈ ruleTable, r.id = id → r.fixable = true → r.fires s = false) →
        (applyFix ruleTable id s).map (·.1) = .ok ⟨s, false, []⟩) := by
  have hnodup : ruleTable.Nodup := ruleTable_ids_nodup.of_map _
  refine ⟨fun hfew => ⟨fun id => ?_, fun n => ⟨_, applyAllFixes_ruleTable hs hfew n, ?_⟩⟩, fun hmany => ⟨?_, ?_, ?_⟩⟩
  · obtain ⟨result, hresult, hworse⟩ := applyFix_noWorse hs hfew id
    exact ⟨result, hresult, hworse.lint hnodup⟩
  · split_ifs
    · exact (Rules.noWorse_mended hs).lint hnodup
    · exact ⟨Nat.le_refl _, Nat.le_refl _⟩
  · exact applyAllFixes_unwritable hmany
  · intro r hr hfix hfires
    exact applyFix_of_unsigned (find?_of_ids_nodup ruleTable_ids_nodup hr) (Site.signature_eq_error hmany)
      (proposes_mend hs hr hfix hfires)
  · exact fun id => applyFix_of_nothing

/-- A site with no locations, whose proxy has no backend: fixing that error makes a warning appear. -/
theorem lint_after_fixes_without_backend :
    let s : Site := { reverseProxy := { enabled := true, backendAddress := " " }, locations := [] }
    s.Valid ∧ Rules.missingRootOrProxy.fires s = false ∧
      (∃ result, (applyFix ruleTable "correctness-proxy-enabled-without-backend" s).map (·.1) = .ok result ∧
        (lint ruleTable s).NoWorse (lint ruleTable result.model)) ∧
      ∃ t, (applyAllFixes ruleTable 3 s).map (·.1.model) = .ok t ∧
        (lint ruleTable s).NoWorse (lint ruleTable t) := by
  intro s
  have hs : s.Valid := by decide
  obtain ⟨hone, hall⟩ := (lint_after_fixes hs).1 (by decide)
  exact ⟨hs, rfl, hone _, hall 3⟩

end SiteConf
