import SiteConf.Proofs.Repair

/-!
# The trace of a repair

For any table of rules, the ids that fixing records are a trace: applied one after the other to the first
model, the fixes of these rules lead to the last one (`Trace`). How many sweeps are made is known from the
signatures alone, as sweeping goes on while they are new (`Repair.EndsAfter`). A sweep breaks off where a rule
proposes a model without a signature (`Repair.BreaksOff`). Main statement: `applyAllFixes_traced`.

All of it comes from what one step can do (`Repair.step_cases`).
-/

namespace SiteConf

variable {α β ε : Type}

/-! ### Computations that may fail -/

/-- The value of a computation satisfies `P`, or its error `E`. -/
def Ends (x : Except ε α) (P : α → Prop) (E : ε → Prop) : Prop :=
  match x with
  | .ok a => P a
  | .error e => E e

namespace Ends
variable {x : Except ε α} {P : α → Prop} {E E' : ε → Prop}

theorem mono {Q : α → Prop} (h : Ends x P E') (herror : ∀ e, E' e → E e) (hok : ∀ a, P a → Q a) : Ends x Q E := by
  cases x with
  | error e => exact herror e h
  | ok a => exact hok a h

theorem of_ok {a : α} (h : Ends x P E) (hx : x = .ok a) : P a := by
  subst hx
  exact h

end Ends

/-! ### Traces -/

/-- The test of the rule fails on the model, or its fix does. -/
def Rule.Fails (r : Rule α) (a : α) : Prop :=
  (∃ m, r.test a = .error m) ∨ ∃ fix m, r.fix = some fix ∧ fix a = .error m

theorem Rule.Fails.not_proposes {r : Rule α} {a : α} (h : r.Fails a) (b : α) : ¬r.Proposes a b := by
  rintro ⟨hfires, fix, hfix, hb⟩
  rcases h with ⟨m, hm⟩ | ⟨fix', m, hfix', hm⟩
  · rw [Rule.fires, hm] at hfires
    cases hfires
  · rw [Option.some.inj (hfix.symm.trans hfix'), hm] at hb
    cases hb

variable [Signed α ε]

/-- The rule fires on the first model, and its fix gives the second one, with another signature. -/
structure Rule.Repairs (r : Rule α) (a b : α) : Prop extends r.Proposes a b where
  changes : sameSignature a b = (.ok false : Except ε _)

/-- Whatever rules that fire on the model make of it has its signature. -/
def Settled (rules : List (Rule α)) (a : α) : Prop :=
  ∀ r ∈ rules, ∀ b, r.Proposes a b → sameSignature a b = (.ok true : Except ε _)

/-- The second model comes from the first one by the fixes of rules with these ids, one after the other. -/
inductive Trace (rules : List (Rule α)) : α → List String → α → Prop
  | nil (a : α) : Trace rules a [] a
  | cons {a b c : α} {ids : List String} (r : Rule α) (hr : r ∈ rules) (h : r.Repairs a b)
    (hrest : Trace rules b ids c) : Trace rules a (r.id :: ids) c

namespace Trace
variable {rules rules' : List (Rule α)} {a b c : α} {ids ids' : List String}

theorem append (h : Trace rules a ids b) (h' : Trace rules b ids' c) : Trace rules a (ids ++ ids') c := by
  induction h with
  | nil a => exact h'
  | cons r hr h _ ih => exact .cons r hr h (ih h')

theorem mono (hsub : rules ⊆ rules') (h : Trace rules a ids b) : Trace rules' a ids b := by
  induction h with
  | nil a => exact .nil a
  | cons r hr h _ ih => exact .cons r (hsub hr) h ih

end Trace

/-- After the fixes of some rules, one proposes a model that has no signature. -/
def Strays (rules : List (Rule α)) (a : α) (e : ε) : Prop :=
  ∃ ids b, Trace rules a ids b ∧ ∃ r ∈ rules, ∃ c, r.Proposes b c ∧ signature c = .error e

namespace Strays
variable {rules rules' : List (Rule α)} {a b : α} {e : ε}

theorem of_trace {ids : List String} (h : Trace rules a ids b) : Strays rules b e → Strays rules a e := by
  rintro ⟨ids', c, htrace, hrule⟩
  exact ⟨_, c, h.append htrace, hrule⟩

theorem mono (hsub : rules ⊆ rules') : Strays rules a e → Strays rules' a e := by
  rintro ⟨ids, b, htrace, r, hr, hrule⟩
  exact ⟨ids, b, htrace.mono hsub, r, hsub hr, hrule⟩

end Strays

theorem signature_of_sameSignature_error {a b : α} {e : ε} (ha : HasSignature a)
    (h : sameSignature a b = .error e) : signature b = .error e := by
  obtain ⟨s, hs⟩ := ha
  rw [sameSignature, hs] at h
  cases hb : signature b with
  | error e' =>
    rw [hb] at h
    cases h
    rfl
  | ok t =>
    rw [hb] at h
    cases h

theorem hasSignature_of_sameSignature {a b : α} {same : Bool} (h : sameSignature a b = (.ok same : Except ε _)) :
    HasSignature b := by
  rw [sameSignature] at h
  cases ha : signature a with
  | error e =>
    rw [ha] at h
    cases h
  | ok s =>
    rw [ha] at h
    cases hb : signature b with
    | error e =>
      rw [hb] at h
      cases h
    | ok t => exact ⟨t, hb⟩

namespace Repair
variable {rules : List (Rule α)} {st : Repair α} {a : α}

/-! ### Sweeps -/

/-- The ids that a sweep adds are a trace with at most one id for each rule that has a fix. If it adds none,
nothing happened, and nothing can. -/
theorem sweep_trace (rules : List (Rule α)) (st : Repair α) (hst : HasSignature st.model) :
    Ends (st.sweep rules) (fun st' => HasSignature st'.model ∧ ∃ ids, st'.ruleIds = st.ruleIds ++ ids ∧
      Trace rules st.model ids st'.model ∧ ids.length ≤ rules.countP Rule.fixable ∧
      (ids = [] → st'.model = st.model ∧ Settled rules st.model)) (Strays rules st.model) := by
  induction rules generalizing st with
  | nil =>
    exact ⟨hst, [], (List.append_nil _).symm, .nil _, Nat.le_refl _, fun _ => ⟨rfl, fun r hr => by cases hr⟩⟩
  | cons r rules ih =>
    have hsub := List.subset_cons_self r rules
    rw [sweep, List.foldlM_cons]
    rcases step_cases st r with ⟨b, e, hb, hsame, hstep⟩ | ⟨b, st₁, hb, hsame, hstep, hmodel, hid⟩ |
      ⟨st₁, hno, hstep, hmodel, hid⟩
    · rw [hstep]
      exact ⟨[], st.model, .nil _, r, List.mem_cons_self, b, hb, signature_of_sameSignature_error hst hsame⟩
    · have hrepairs : Trace (r :: rules) st.model [r.id] st₁.model := by
        rw [hmodel]
        exact .cons r List.mem_cons_self ⟨hb, hsame⟩ (.nil b)
      rw [hstep]
      refine (ih st₁ (hmodel ▸ hasSignature_of_sameSignature hsame)).mono
        (fun e he => .of_trace hrepairs (he.mono hsub)) ?_
      rintro st₂ ⟨hst₂, ids, hids, htrace, hlength, -⟩
      refine ⟨hst₂, r.id :: ids, ?_, hrepairs.append (htrace.mono hsub), ?_, fun h => by cases h⟩
      · rw [List.append_cons, ← hid]
        exact hids
      · rw [List.length_cons, List.countP_cons_of_pos hb.fixable]
        omega
    · rw [hstep]
      have hrest := ih st₁ (hmodel ▸ hst)
      rw [hmodel] at hrest
      refine hrest.mono (fun e he => he.mono hsub) ?_
      rintro st₂ ⟨hst₂, ids, hids, htrace, hlength, hnone⟩
      refine ⟨hst₂, ids, hid ▸ hids, htrace.mono hsub, ?_, fun h => ⟨(hnone h).1, ?_⟩⟩
      · rw [List.countP_cons]
        omega
      · exact List.forall_mem_cons.2 ⟨hno, (hnone h).2⟩

/-- The repair of a model after `k` sweeps, whatever comes of them. -/
def after (rules : List (Rule α)) (a : α) : Nat → Except ε (Repair α)
  | 0 => .ok { model := a }
  | k + 1 => after rules a k >>= sweep rules

/-- The signature of the model after `k` sweeps. -/
def stateAfter (rules : List (Rule α)) (a : α) (k : Nat) : Except ε String :=
  after rules a k >>= fun st => signature st.model

theorem stateAfter_of_after {k : Nat} {t : String} (hst : after rules a k = .ok st)
    (ht : signature st.model = (.ok t : Except ε _)) : stateAfter rules a k = (.ok t : Except ε _) := by
  rw [stateAfter, hst]
  exact ht

theorem after_trace (ha : HasSignature a) {k : Nat} (hst : after rules a k = .ok st) : HasSignature st.model ∧
    Trace rules a st.ruleIds st.model ∧ st.ruleIds.length ≤ k * rules.countP Rule.fixable := by
  induction k generalizing st with
  | zero =>
    cases hst
    exact ⟨ha, .nil a, Nat.zero_le _⟩
  | succ k ih =>
    rw [after] at hst
    cases hbefore : after rules a k with
    | error e =>
      rw [hbefore] at hst
      cases hst
    | ok st₀ =>
      rw [hbefore] at hst
      obtain ⟨hst₀, htrace₀, hlength₀⟩ := ih hbefore
      obtain ⟨hsigned, ids, hids, htrace, hlength, -⟩ := (sweep_trace rules st₀ hst₀).of_ok hst
      rw [hids]
      refine ⟨hsigned, htrace₀.append htrace, ?_⟩
      rw [List.length_append, Nat.succ_mul]
      exact Nat.add_le_add hlength₀ hlength

/-- The models before each of the first `k` sweeps differ. -/
def Fresh (rules : List (Rule α)) (a : α) (k : Nat) : Prop :=
  ∀ i j, i < j → j < k → stateAfter rules a i ≠ (stateAfter rules a j : Except ε _)

theorem Fresh.succ {k : Nat} {t : String} (h : Fresh rules a (k + 1)) (hk : stateAfter rules a (k + 1) = .ok t)
    (hnew : ¬∃ j ≤ k, stateAfter rules a j = .ok t) : Fresh rules a (k + 1 + 1) := by
  intro i j hij hj
  rcases Nat.lt_or_eq_of_le (Nat.le_of_lt_succ hj) with hlt | rfl
  · exact h i j hij hlt
  · exact fun hs => hnew ⟨i, by omega, hs.trans hk⟩

theorem mem_cons_states {k : Nat} {t : String} {seen : List String}
    (hseen : ∀ t, t ∈ seen ↔ ∃ j ≤ k, stateAfter rules a j = .ok t) (hk : stateAfter rules a (k + 1) = .ok t)
    (t' : String) : t' ∈ t :: seen ↔ ∃ j ≤ k + 1, stateAfter rules a j = .ok t' := by
  rw [List.mem_cons, hseen]
  constructor
  · rintro (rfl | ⟨j, hj, hs⟩)
    · exact ⟨k + 1, Nat.le_refl _, hk⟩
    · exact ⟨j, by omega, hs⟩
  · rintro ⟨j, hj, hs⟩
    rcases Nat.lt_or_eq_of_le hj with hlt | rfl
    · exact .inr ⟨j, by omega, hs⟩
    · exact .inl (Except.ok.inj (hs.symm.trans hk))

/-- Of at most `n` sweeps on a model, `k` are made: none after one that leads to a model that was there before. -/
structure EndsAfter (rules : List (Rule α)) (a : α) (n k : Nat) (st : Repair α) : Prop where
  run : after rules a k = .ok st
  le : k ≤ n
  fresh : Fresh rules a k
  /-- If more sweeps are allowed, the last one found nothing to change, or its model was there before. -/
  early : k < n →
    (∃ j st', k = j + 1 ∧ after rules a j = .ok st' ∧ st.ruleIds = st'.ruleIds ∧ Settled rules st.model) ∨
      ∃ j < k, stateAfter rules a k = stateAfter rules a j

/-- Of at most `n` sweeps on a model, the one after the first `k` breaks off, because a rule proposes a model without a
signature. -/
structure BreaksOff (rules : List (Rule α)) (a : α) (n k : Nat) (e : ε) : Prop where
  run : after rules a (k + 1) = .error e
  lt : k < n
  fresh : Fresh rules a (k + 1)
  strays : Strays rules a e

/-- Sweeping from a model that is known to be new, as are all before it. `seen` are their signatures. -/
theorem sweeps_ends (ha : HasSignature a) (n : Nat) {i : Nat} (seen : List String) (hst : after rules a i = .ok st)
    (hseen : ∀ t, t ∈ seen ↔ ∃ j ≤ i, stateAfter rules a j = .ok t) (hfresh : Fresh rules a (i + 1)) :
    Ends (st.sweeps rules seen n) (fun st' => ∃ k, EndsAfter rules a (i + n) k st')
      fun e => ∃ k, BreaksOff rules a (i + n) k e := by
  induction n generalizing i seen st with
  | zero =>
    exact ⟨i, hst, Nat.le_refl i, fun p q hpq hq => hfresh p q hpq (by omega), fun h => absurd h (by omega)⟩
  | succ n ih =>
    obtain ⟨hsigned, htrace, -⟩ := after_trace ha hst
    have hnext : after rules a (i + 1) = st.sweep rules := by
      rw [after, hst]
      rfl
    have hsweep := sweep_trace rules st hsigned
    cases hrun : st.sweep rules with
    | error e =>
      rw [hrun] at hsweep hnext
      rw [sweeps, hrun]
      exact ⟨i, hnext, by omega, hfresh, .of_trace htrace hsweep⟩
    | ok st₁ =>
      rw [hrun] at hsweep hnext
      obtain ⟨⟨t, ht⟩, ids, hids, -, -, hnone⟩ := hsweep
      have hstate := stateAfter_of_after hnext ht
      rw [sweeps_succ hrun ht]
      split_ifs with hstop
      · refine ⟨i + 1, hnext, by omega, hfresh, fun _ => ?_⟩
        rcases hstop with hlength | hmem
        · rw [hids, List.length_append] at hlength
          have hnil : ids = [] := List.eq_nil_of_length_eq_zero (by omega)
          obtain ⟨hmodel, hsettled⟩ := hnone hnil
          rw [hnil, List.append_nil] at hids
          exact .inl ⟨i, st, rfl, hst, hids, hmodel ▸ hsettled⟩
        · obtain ⟨j, hj, hs⟩ := (hseen t).1 hmem
          exact .inr ⟨j, by omega, hstate.trans hs.symm⟩
      · rw [not_or] at hstop
        have hfresh' := hfresh.succ hstate (hstop.2 ∘ (hseen t).2)
        have hrest := ih (i := i + 1) (t :: seen) hnext (mem_cons_states hseen hstate) hfresh'
        rwa [Nat.add_right_comm i 1 n] at hrest

end Repair

open Repair in
/-- Fixing by any rules is traced by the ids it records, which are at most one for each rule with a fix and each
sweep. It says whether the signature has changed, a rule that fails changes nothing, and it ends early only where
no rule can change the model or the model was there before. It breaks off only at a model that has no signature: the
first one, or one that a rule proposes. -/
theorem applyAllFixes_traced (rules : List (Rule α)) (maxPasses : Int) (a : α) :
    ((∃ e, applyAllFixes rules maxPasses a = .error e ∧
        (signature a = .error e ∨ HasSignature a ∧ ∃ k, BreaksOff rules a maxPasses.toNat k e)) ∨
      ∃ result incidents, applyAllFixes rules maxPasses a = .ok (result, incidents) ∧
        Trace rules a result.ruleIds result.model ∧
        result.ruleIds.length ≤ maxPasses.toNat * rules.countP Rule.fixable ∧
        (result.applied = true ↔ signature result.model ≠ signature a) ∧
        ∃ k st, EndsAfter rules a maxPasses.toNat k st ∧ result.model = st.model ∧ result.ruleIds = st.ruleIds) ∧
    ∀ (st : Repair α) (r : Rule α), r.Fails st.model →
      ∃ st', st.step r = .ok st' ∧ st'.model = st.model ∧ st'.ruleIds = st.ruleIds := by
  refine ⟨?_, fun st r h => step_of_quiet st h.not_proposes⟩
  cases ha : signature a with
  | error e => exact .inl ⟨e, applyAllFixes_of_unsigned ha maxPasses, .inl rfl⟩
  | ok s =>
    have hsigned : HasSignature a := ⟨s, ha⟩
    have hstart : stateAfter rules a 0 = .ok s := stateAfter_of_after rfl ha
    have hends : Ends (({ model := a } : Repair α).sweeps rules [s] maxPasses.toNat) _ _ :=
      sweeps_ends hsigned maxPasses.toNat (i := 0) [s] rfl (fun t => by simp [hstart, eq_comm])
        fun p q hpq hq => by omega
    rw [Nat.zero_add] at hends
    cases hrun : ({ model := a } : Repair α).sweeps rules [s] maxPasses.toNat with
    | error e =>
      rw [hrun] at hends
      refine .inl ⟨e, ?_, .inr ⟨hsigned, hends⟩⟩
      rw [applyAllFixes, ha]
      show (Repair.sweeps rules [s] { model := a } maxPasses.toNat >>= _) = _
      rw [hrun]
      rfl
    | ok st =>
      rw [hrun] at hends
      obtain ⟨k, hk⟩ := hends
      obtain ⟨⟨t, ht⟩, htrace, hlength⟩ := after_trace hsigned hk.run
      refine .inr ⟨_, _, applyAllFixes_of_sweeps ha hrun ht, htrace, ?_, ?_, k, st, hk, rfl, rfl⟩
      · exact Nat.le_trans hlength (Nat.mul_le_mul_right _ hk.le)
      · show (!(s == t)) = true ↔ signature st.model ≠ _
        rw [ht, Bool.not_eq_true', beq_eq_false_iff_ne, ne_comm, ne_eq, ne_eq, Except.ok.injEq]

end SiteConf
