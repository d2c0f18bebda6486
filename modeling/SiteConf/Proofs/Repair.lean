import Mathlib
import SiteConf.Lint.Fix

/-!
# Sweeps of fixes

`Rule.mend` is what a rule makes of a model. A step breaks off if what the rule proposes has no signature; else it
takes the proposal, or nothing happens (`Repair.step_cases`). Where all models have signatures that show every change
(`Mendable`), a sweep mends the model by all rules in turn (`Repair.sweep_model`); on a model that no rule changes any
more, all sweeps do nothing (`Repair.sweeps_of_mended`). So if one sweep leads to such a model, fixing ends there,
however many sweeps are allowed (`applyAllFixes_model`).
-/

namespace SiteConf

variable {α ε : Type}

/-- The model after the fix of the rule, if the rule fires and its fix does not fail. -/
def Rule.mend (r : Rule α) (a : α) : α :=
  match r.fix with
  | none => a
  | some fix =>
    if r.fires a then
      match fix a with
      | .ok b => b
      | .error _ => a
    else a

/-- The rule fires on the first model, and its fix gives the second one. -/
structure Rule.Proposes (r : Rule α) (a b : α) : Prop where
  fires : r.fires a = true
  fixes : ∃ fix, r.fix = some fix ∧ fix a = .ok b

namespace Rule
variable {r : Rule α} {a b : α}

theorem mend_of_quiet (h : r.fires a = false) : r.mend a = a := by
  unfold mend
  cases r.fix with
  | none => rfl
  | some fix => simp [h]

theorem mend_of_fires {fix : α → Except String α} (hr : r.fix = some fix) (h : r.fires a = true)
    (hb : fix a = .ok b) : r.mend a = b := by
  simp [mend, hr, h, hb]

theorem Proposes.mend (h : r.Proposes a b) : r.mend a = b := by
  obtain ⟨fix, hfix, hb⟩ := h.fixes
  exact mend_of_fires hfix h.fires hb

theorem Proposes.fixable (h : r.Proposes a b) : r.fixable = true := by
  obtain ⟨fix, hfix, -⟩ := h.fixes
  rw [Rule.fixable, hfix]
  rfl

theorem proposes_or_mend_eq (r : Rule α) (a : α) : r.Proposes a (r.mend a) ∨ (∀ b, ¬r.Proposes a b) ∧ r.mend a = a := by
  by_cases h : ∃ b, r.Proposes a b
  · obtain ⟨b, hb⟩ := h
    exact .inl (hb.mend.symm ▸ hb)
  · rw [not_exists] at h
    refine .inr ⟨h, ?_⟩
    unfold mend
    cases hfix : r.fix with
    | none => rfl
    | some fix =>
      dsimp only
      split_ifs with hfires
      · cases hb : fix a with
        | error m => rfl
        | ok b => exact absurd ⟨hfires, fix, hfix, hb⟩ (h b)
      · rfl

end Rule

/-- The model after the fixes of all rules, one after the other. -/
def mendAll (rules : List (Rule α)) (a : α) : α := rules.foldl (fun a r => r.mend a) a

section
variable [Signed α ε]

theorem sameSignature_of_ok {a b : α} {s t : String} (ha : signature a = (.ok s : Except ε _))
    (hb : signature b = (.ok t : Except ε _)) : sameSignature a b = (.ok (s == t) : Except ε _) := by
  rw [sameSignature, ha, hb]
  rfl

theorem sameSignature_self {a : α} {t : String} (h : signature a = (.ok t : Except ε _)) :
    sameSignature a a = (.ok true : Except ε _) := by
  rw [sameSignature_of_ok h h, beq_self_eq_true]

theorem sameSignature_of_unsigned {a : α} {e : ε} (h : signature a = .error e) (b : α) :
    sameSignature a b = .error e := by
  rw [sameSignature, h]
  rfl

def HasSignature (a : α) : Prop := ∃ t, signature a = (.ok t : Except ε _)

/-- A class of models that the rules do not leave. They have signatures, which show every change. -/
structure Mendable (rules : List (Rule α)) (P : α → Prop) : Prop where
  signed : ∀ a, P a → HasSignature a
  mend : ∀ r ∈ rules, ∀ a, P a → P (r.mend a)
  shows : ∀ r ∈ rules, ∀ a, P a → signature a = signature (r.mend a) → r.mend a = a

namespace Mendable
variable {rules : List (Rule α)} {P : α → Prop} {r : Rule α} {a : α}

theorem tail (h : Mendable (r :: rules) P) : Mendable rules P where
  signed := h.signed
  mend r' hr' := h.mend r' (List.mem_cons_of_mem _ hr')
  shows r' hr' := h.shows r' (List.mem_cons_of_mem _ hr')

theorem holds_mendAll (h : Mendable rules P) (ha : P a) : P (mendAll rules a) := by
  induction rules generalizing a with
  | nil => exact ha
  | cons r rules ih => exact ih h.tail (h.mend r List.mem_cons_self a ha)

theorem sameSignature_mend (h : Mendable rules P) (hr : r ∈ rules) (ha : P a) :
    ∃ b, sameSignature a (r.mend a) = (.ok b : Except ε _) ∧ (b = true → r.mend a = a) := by
  obtain ⟨s, hs⟩ := h.signed a ha
  obtain ⟨t, ht⟩ := h.signed _ (h.mend r hr a ha)
  refine ⟨s == t, sameSignature_of_ok hs ht, fun hst => h.shows r hr a ha ?_⟩
  rw [hs, ht, eq_of_beq hst]

end Mendable

namespace Repair
variable {rules : List (Rule α)} {r : Rule α} {st : Repair α} {t : String}

theorem step_of_proposes {b : α} (h : r.Proposes st.model b) : st.step r = (sameSignature st.model b).bind fun same =>
    (.ok (if same then { st with incidents := st.incidents ++ r.testIncidents st.model }
      else { st with model := b, ruleIds := st.ruleIds ++ [r.id],
                     incidents := st.incidents ++ r.testIncidents st.model }) : Except ε _) := by
  obtain ⟨hfires, fix, hfix, hb⟩ := h
  unfold step
  rw [hfix]
  dsimp only
  rw [if_pos hfires, hb]
  rfl

theorem step_of_quiet (st : Repair α) (h : ∀ b, ¬r.Proposes st.model b) :
    ∃ st' : Repair α, (st.step r : Except ε _) = .ok st' ∧ st'.model = st.model ∧ st'.ruleIds = st.ruleIds := by
  unfold step
  cases hfix : r.fix with
  | none => exact ⟨st, rfl, rfl, rfl⟩
  | some fix =>
    dsimp only
    split_ifs with hfires
    · cases hb : fix st.model with
      | error m => exact ⟨_, rfl, rfl, rfl⟩
      | ok b => exact absurd ⟨hfires, fix, hfix, hb⟩ (h b)
    · exact ⟨_, rfl, rfl, rfl⟩

/-- All that a step can do, its incidents apart. -/
theorem step_cases (st : Repair α) (r : Rule α) :
    (∃ (b : α) (e : ε), r.Proposes st.model b ∧ sameSignature st.model b = .error e ∧ st.step r = .error e) ∨
    (∃ (b : α) (st' : Repair α), r.Proposes st.model b ∧ sameSignature st.model b = .ok false ∧
      st.step r = .ok st' ∧ st'.model = b ∧ st'.ruleIds = st.ruleIds ++ [r.id]) ∨
    (∃ st' : Repair α, (∀ b, r.Proposes st.model b → sameSignature st.model b = .ok true) ∧
      st.step r = .ok st' ∧ st'.model = st.model ∧ st'.ruleIds = st.ruleIds) := by
  by_cases h : ∃ b, r.Proposes st.model b
  · obtain ⟨b, hb⟩ := h
    rw [step_of_proposes hb]
    cases hsame : (sameSignature st.model b : Except ε _) with
    | error e => exact .inl ⟨b, e, hb, hsame, rfl⟩
    | ok same =>
      cases same with
      | false => exact .inr (.inl ⟨b, _, hb, hsame, rfl, rfl, rfl⟩)
      | true =>
        refine .inr (.inr ⟨_, fun c hc => ?_, rfl, rfl, rfl⟩)
        rw [← hc.mend, hb.mend, hsame]
  · rw [not_exists] at h
    obtain ⟨st', hstep⟩ := step_of_quiet st h
    exact .inr (.inr ⟨st', fun b hb => absurd hb (h b), hstep⟩)

/-- A step mends a model of a mendable class. -/
theorem step_model (st : Repair α) {P : α → Prop} (h : Mendable rules P) (hr : r ∈ rules) (hst : P st.model) :
    ∃ st' : Repair α, st.step r = .ok st' ∧ st'.model = r.mend st.model := by
  obtain ⟨b, hb, hquiet⟩ := h.sameSignature_mend hr hst
  rcases step_cases st r with ⟨c, e, hc, hsame, -⟩ | ⟨c, st', hc, -, hstep, hmodel, -⟩ | ⟨st', hno, hstep, hmodel, -⟩
  · rw [← hc.mend, hb] at hsame
    cases hsame
  · exact ⟨st', hstep, hmodel.trans hc.mend.symm⟩
  · refine ⟨st', hstep, hmodel.trans ?_⟩
    rcases r.proposes_or_mend_eq st.model with hc | ⟨-, hsame⟩
    · rw [hno _ hc] at hb
      exact (hquiet (Except.ok.inj hb).symm).symm
    · exact hsame.symm

/-- A step with a rule that does not change the model leaves no trace. -/
theorem step_of_mended (ht : signature st.model = (.ok t : Except ε _)) (h : r.mend st.model = st.model) :
    ∃ st' : Repair α, st.step r = .ok st' ∧ st'.model = st.model ∧ st'.ruleIds = st.ruleIds := by
  rcases step_cases st r with ⟨c, e, hc, hsame, -⟩ | ⟨c, st', hc, hsame, -⟩ | ⟨st', -, hstep, hmodel, hids⟩
  · rw [← hc.mend, h, sameSignature_self ht] at hsame
    cases hsame
  · rw [← hc.mend, h, sameSignature_self ht] at hsame
    cases hsame
  · exact ⟨st', hstep, hmodel, hids⟩

theorem step_of_unsigned {b : α} {e : ε} (h : signature st.model = .error e) (hb : r.Proposes st.model b) :
    st.step r = .error e := by
  rw [step_of_proposes hb, sameSignature_of_unsigned h]
  rfl

theorem sweep_model {P : α → Prop} (h : Mendable rules P) (hst : P st.model) :
    ∃ st' : Repair α, st.sweep rules = .ok st' ∧ st'.model = mendAll rules st.model := by
  induction rules generalizing st with
  | nil => exact ⟨st, rfl, rfl⟩
  | cons r rules ih =>
    obtain ⟨st₁, hstep, hmodel⟩ := step_model st h List.mem_cons_self hst
    have hst₁ : P st₁.model := hmodel ▸ h.mend r List.mem_cons_self _ hst
    obtain ⟨st₂, hrest, hmended⟩ := ih h.tail hst₁
    refine ⟨st₂, ?_, ?_⟩
    · rw [sweep, List.foldlM_cons, hstep]
      exact hrest
    · rw [hmended, hmodel]
      rfl

theorem sweep_of_mended (ht : signature st.model = (.ok t : Except ε _))
    (h : ∀ r ∈ rules, r.mend st.model = st.model) :
    ∃ st' : Repair α, st.sweep rules = .ok st' ∧ st'.model = st.model ∧ st'.ruleIds = st.ruleIds := by
  induction rules generalizing st with
  | nil => exact ⟨st, rfl, rfl, rfl⟩
  | cons r rules ih =>
    obtain ⟨st₁, hstep, hmodel, hids⟩ := step_of_mended ht (h r List.mem_cons_self)
    have hrest : ∀ r' ∈ rules, r'.mend st₁.model = st₁.model := by
      rw [hmodel]
      exact fun r' hr' => h r' (List.mem_cons_of_mem _ hr')
    obtain ⟨st₂, hsweep, hmodel₂, hids₂⟩ := ih (hmodel ▸ ht) hrest
    refine ⟨st₂, ?_, hmodel₂.trans hmodel, hids₂.trans hids⟩
    rw [sweep, List.foldlM_cons, hstep]
    exact hsweep

theorem sweeps_succ {st' : Repair α} (h : st.sweep rules = .ok st')
    (ht : signature st'.model = (.ok t : Except ε _)) (seen : List String) (n : Nat) :
    st.sweeps rules seen (n + 1) = if st'.ruleIds.length = st.ruleIds.length ∨ t ∈ seen then .ok st'
      else st'.sweeps rules (t :: seen) n := by
  rw [sweeps, h]
  show (signature st'.model >>= _) = _
  rw [ht]
  rfl

theorem sweeps_of_mended (st : Repair α) (ht : signature st.model = (.ok t : Except ε _))
    (h : ∀ r ∈ rules, r.mend st.model = st.model) (seen : List String) (n : Nat) :
    ∃ st' : Repair α, st.sweeps rules seen n = .ok st' ∧ st'.model = st.model ∧ st'.ruleIds = st.ruleIds := by
  cases n with
  | zero => exact ⟨st, rfl, rfl, rfl⟩
  | succ n =>
    obtain ⟨st', hsweep, hmodel, hids⟩ := sweep_of_mended ht h
    refine ⟨st', ?_, hmodel, hids⟩
    rw [sweeps_succ hsweep (hmodel ▸ ht), if_pos (.inl (by rw [hids]))]

/-- If a sweep leads to a model that no rule changes, this is where sweeping ends. -/
theorem sweeps_model (st : Repair α) {P : α → Prop} (h : Mendable rules P) (hst : P st.model)
    (hfix : ∀ r ∈ rules, r.mend (mendAll rules st.model) = mendAll rules st.model)
    (seen : List String) (n : Nat) :
    ∃ st' : Repair α, st.sweeps rules seen (n + 1) = .ok st' ∧ st'.model = mendAll rules st.model := by
  obtain ⟨st₁, hsweep, hmodel⟩ := sweep_model h hst
  obtain ⟨t, ht⟩ := h.signed st₁.model (hmodel ▸ h.holds_mendAll hst)
  rw [sweeps_succ hsweep ht]
  split_ifs
  · exact ⟨st₁, rfl, hmodel⟩
  · rw [← hmodel] at hfix
    obtain ⟨st₂, hsweeps, hmodel₂, -⟩ := sweeps_of_mended st₁ ht hfix (t :: seen) n
    exact ⟨st₂, hsweeps, hmodel₂.trans hmodel⟩

end Repair

/-! ### Fixing by one rule -/

variable {rules : List (Rule α)} {r : Rule α} {a : α} {id : String}

theorem applyFix_of_unknown (h : rules.find? (·.id == id) = none) :
    (applyFix rules id a).map (·.1) = (.ok ⟨a, false, []⟩ : Except ε _) := by
  rw [applyFix, h]
  rfl

theorem applyFix_of_step {st : Repair α} (hfind : rules.find? (·.id == id) = some r)
    (h : ({ model := a } : Repair α).step r = .ok st) :
    (applyFix rules id a).map (·.1) = (.ok ⟨st.model, !st.ruleIds.isEmpty, st.ruleIds⟩ : Except ε _) := by
  rw [applyFix, hfind]
  show Except.map _ (({ model := a } : Repair α).step r >>= _) = _
  rw [h]
  rfl

theorem applyFix_of_quiet (hfind : rules.find? (·.id == id) = some r) (h : ∀ b, ¬r.Proposes a b) :
    (applyFix rules id a).map (·.1) = (.ok ⟨a, false, []⟩ : Except ε _) := by
  obtain ⟨st, hstep, hmodel, hids⟩ := Repair.step_of_quiet { model := a } h
  dsimp only at hmodel hids
  rw [applyFix_of_step hfind hstep, hmodel, hids]
  rfl

theorem applyFix_of_unsigned {b : α} {e : ε} (hfind : rules.find? (·.id == id) = some r)
    (ha : signature a = .error e) (h : r.Proposes a b) : applyFix rules id a = .error e := by
  rw [applyFix, hfind]
  show ({ model := a } : Repair α).step r >>= _ = _
  rw [Repair.step_of_unsigned ha h]
  rfl

/-- Fixing by a rule mends the model, and says whether that changes it. -/
theorem applyFix_model {P : α → Prop} (h : Mendable rules P) (ha : P a)
    (hfind : rules.find? (·.id == id) = some r) :
    ∃ result, (applyFix rules id a).map (·.1) = (.ok result : Except ε _) ∧ result.model = r.mend a ∧
      (result.applied = true ↔ r.mend a ≠ a) := by
  have hr := List.mem_of_find?_eq_some hfind
  obtain ⟨st, hstep, hmodel⟩ := Repair.step_model { model := a } h hr ha
  refine ⟨_, applyFix_of_step hfind hstep, hmodel, ?_⟩
  show (!st.ruleIds.isEmpty) = true ↔ _
  obtain ⟨t, ht⟩ := h.signed a ha
  rcases Repair.step_cases { model := a } r with ⟨b, e, -, -, herror⟩ | ⟨b, st', hb, hsame, hstep', hmodel', hids⟩ |
    ⟨st', -, hstep', hmodel', hids⟩
  · rw [hstep] at herror
    cases herror
  · cases hstep.symm.trans hstep'
    rw [hids]
    refine ⟨fun _ heq => ?_, fun _ => rfl⟩
    rw [← hb.mend, heq, sameSignature_self ht] at hsame
    cases hsame
  · cases hstep.symm.trans hstep'
    rw [hids, ← hmodel, hmodel']
    exact ⟨(fun h => by cases h), fun h => absurd rfl h⟩

/-! ### Fixing by all rules -/

theorem applyAllFixes_of_unsigned {e : ε} (h : signature a = .error e) (n : Int) :
    applyAllFixes rules n a = .error e := by
  rw [applyAllFixes, h]
  rfl

theorem applyAllFixes_of_sweeps {n : Int} {s t : String} {st : Repair α} (hs : signature a = (.ok s : Except ε _))
    (h : ({ model := a } : Repair α).sweeps rules [s] n.toNat = .ok st)
    (ht : signature st.model = (.ok t : Except ε _)) :
    applyAllFixes rules n a = (.ok (⟨st.model, !(s == t), st.ruleIds⟩, st.incidents) : Except ε _) := by
  rw [applyAllFixes, hs]
  show (Repair.sweeps rules [s] { model := a } n.toNat >>= _) = _
  rw [h]
  show (sameSignature a st.model >>= _) = _
  rw [sameSignature_of_ok hs ht]
  rfl

theorem applyAllFixes_of_nonpos {n : Int} (hn : n ≤ 0) {t : String} (ht : signature a = (.ok t : Except ε _)) :
    (applyAllFixes rules n a).map (·.1) = (.ok ⟨a, false, []⟩ : Except ε _) := by
  have hrun : ({ model := a } : Repair α).sweeps rules [t] n.toNat = .ok { model := a } := by
    rw [Int.toNat_of_nonpos hn]
    rfl
  rw [applyAllFixes_of_sweeps ht hrun ht, Except.map, beq_self_eq_true]
  rfl

/-- Fixing leads to the mended model, if no rule changes that one again. -/
theorem applyAllFixes_model {P : α → Prop} (h : Mendable rules P) (ha : P a)
    (hfix : ∀ r ∈ rules, r.mend (mendAll rules a) = mendAll rules a) {n : Int} (hn : 1 ≤ n) :
    (applyAllFixes rules n a).map (·.1.model) = .ok (mendAll rules a) := by
  obtain ⟨k, hk⟩ : ∃ k, n.toNat = k + 1 := ⟨n.toNat - 1, by omega⟩
  obtain ⟨s, hs⟩ := h.signed a ha
  obtain ⟨st, hst, hmodel⟩ := Repair.sweeps_model { model := a } h ha hfix [s] k
  obtain ⟨t, ht⟩ := h.signed st.model (hmodel ▸ h.holds_mendAll ha)
  rw [← hk] at hst
  rw [applyAllFixes_of_sweeps hs hst ht, Except.map, hmodel]

theorem applyAllFixes_of_mended {t : String} (ht : signature a = (.ok t : Except ε _))
    (h : ∀ r ∈ rules, r.mend a = a) (n : Int) :
    (applyAllFixes rules n a).map (·.1) = .ok ⟨a, false, []⟩ := by
  obtain ⟨st, hst, hmodel, hids⟩ := Repair.sweeps_of_mended { model := a } ht h [t] n.toNat
  dsimp only at hmodel hids
  rw [applyAllFixes_of_sweeps ht hst (hmodel ▸ ht), Except.map, hmodel, hids, beq_self_eq_true]
  rfl

end
end SiteConf
