import SiteConf.Proofs.Verdict
import SiteConf.Report.Lint

/-!
# Reports and the order of rules

The order of findings is total and transitive, but findings with the same severity and title are not told apart by
it. Sorting by it is stable, so it commutes with leaving out findings (`filter_mergeSort`), and findings that it tells
apart have one sorted order only (`findings_eq_of_perm`). What a report counts and sums up is the same for every order.

Main statements: a report that ignores rules is that of a run without them, but for the score (`ignoring_lint`), and
a report depends on the order of the rules only where findings have the same severity and title (`lint_perm`).
-/

namespace SiteConf

/-! ### Stable sorting -/

section
variable {β : Type} {le : β → β → Bool}

/-- A sorted list is cut at one place only into what comes before an element and what comes after it. -/
theorem append_inj_of_cut {p : β → Bool} {xs ys xs' ys' : List β} (h : xs ++ ys = xs' ++ ys')
    (hxs : ∀ x ∈ xs, p x = true) (hys : ∀ y ∈ ys, p y = false) (hxs' : ∀ x ∈ xs', p x = true)
    (hys' : ∀ y ∈ ys', p y = false) : xs = xs' ∧ ys = ys' := by
  have hcut : ∀ us vs : List β, (∀ u ∈ us, p u = true) → (∀ v ∈ vs, p v = false) → (us ++ vs).filter p = us := by
    intro us vs hus hvs
    have hnone : vs.filter p = [] := List.filter_eq_nil_iff.2 fun v hv => by simp [hvs v hv]
    rw [List.filter_append, List.filter_eq_self.2 hus, hnone, List.append_nil]
  have hfst : xs = xs' := by rw [← hcut xs ys hxs hys, h, hcut xs' ys' hxs' hys']
  subst hfst
  exact ⟨rfl, List.append_cancel_left h⟩

/-- Sorting is stable: what is left of a sorted list stands as if it had been sorted alone. -/
theorem filter_mergeSort (htrans : ∀ a b c, le a b = true → le b c = true → le a c = true)
    (htotal : ∀ a b, (le a b || le b a) = true) (p : β → Bool) (xs : List β) :
    (xs.mergeSort le).filter p = (xs.filter p).mergeSort le := by
  induction xs with
  | nil => simp
  | cons x xs ih =>
    obtain ⟨before, after, hsort, hrest, hbefore⟩ := List.mergeSort_cons htrans htotal x xs
    rw [hsort, List.filter_append]
    rw [hrest, List.filter_append] at ih
    by_cases hp : p x = true
    · obtain ⟨us, vs, hsort', hrest', hus⟩ := List.mergeSort_cons htrans htotal x (xs.filter p)
      -- in both lists the element stands behind those that it is not below
      have hsorted := List.pairwise_mergeSort htrans htotal (x :: xs)
      have hsorted' := List.pairwise_mergeSort htrans htotal (x :: xs.filter p)
      rw [hsort, List.pairwise_append, List.pairwise_cons] at hsorted
      rw [hsort', List.pairwise_append, List.pairwise_cons] at hsorted'
      obtain ⟨hleft, hright⟩ := append_inj_of_cut (p := fun y => !le x y) (ih.trans hrest')
        (fun y hy => hbefore y (List.mem_of_mem_filter hy))
        (fun y hy => by simp [hsorted.2.1.1 y (List.mem_of_mem_filter hy)]) hus
        (fun y hy => by simp [hsorted'.2.1.1 y hy])
      rw [List.filter_cons_of_pos hp, List.filter_cons_of_pos hp, hsort', hleft, hright]
    · rw [List.filter_cons_of_neg hp, List.filter_cons_of_neg hp, ih]

end

/-! ### The order of findings -/

namespace Finding
variable {f g h : Finding}

theorem le_iff : f.le g = true ↔
    f.severity.rank < g.severity.rank ∨ f.severity.rank = g.severity.rank ∧ f.title ≤ g.title := by
  simp [Finding.le]

theorem le_trans (f g h : Finding) (hfg : f.le g = true) (hgh : g.le h = true) : f.le h = true := by
  rw [le_iff] at hfg hgh ⊢
  rcases hfg with hfg | ⟨hfg, hft⟩
  · rcases hgh with hgh | ⟨hgh, -⟩
    · exact .inl (Nat.lt_trans hfg hgh)
    · exact .inl (hgh ▸ hfg)
  · rcases hgh with hgh | ⟨hgh, hgt⟩
    · exact .inl (hfg ▸ hgh)
    · exact .inr ⟨hfg.trans hgh, hft.trans hgt⟩

theorem le_total (f g : Finding) : (f.le g || g.le f) = true := by
  rw [Bool.or_eq_true, le_iff, le_iff]
  rcases Nat.lt_trichotomy f.severity.rank g.severity.rank with hlt | heq | hgt
  · exact .inl (.inl hlt)
  · rcases Std.le_total (a := f.title) (b := g.title) with ht | ht
    · exact .inl (.inr ⟨heq, ht⟩)
    · exact .inr (.inr ⟨heq.symm, ht⟩)
  · exact .inr (.inl hgt)

theorem rank_injective : Function.Injective Severity.rank := by
  intro v w hvw
  cases v <;> cases w <;> first | rfl | cases hvw

theorem eq_of_le_le (hfg : f.le g = true) (hgf : g.le f = true) : f.severity = g.severity ∧ f.title = g.title := by
  rw [le_iff] at hfg hgf
  rcases hfg with hfg | ⟨hrank, hft⟩
  · rcases hgf with hgf | ⟨hgf, -⟩ <;> omega
  · rcases hgf with hgf | ⟨-, hgt⟩
    · omega
    · exact ⟨rank_injective hrank, String.le_antisymm hft hgt⟩

end Finding

/-! ### Ignored rules -/

section
variable {α : Type}

theorem firedFindings_filter (rules : List (Rule α)) (a : α) (ids : List String) :
    firedFindings (rules.filter fun r => !ids.contains r.id) a =
      (firedFindings rules a).filter fun f => !ids.contains f.ruleId := by
  rw [firedFindings, firedFindings, List.filter_map, List.filter_filter, List.filter_filter]
  congr 2
  funext r
  exact Bool.and_comm _ _

/-- Ignoring rules leaves out their findings and counts what is left. -/
theorem ignoring_ofFindings (ids : List String) (fs : List Finding) :
    (LintReport.ofFindings fs).ignoring ids = { LintReport.ofFindings (fs.filter fun f => !ids.contains f.ruleId) with
      score := (LintReport.ofFindings fs).score
      categoryPenalties := (LintReport.ofFindings fs).categoryPenalties } := by
  cases ids with
  | nil =>
    have hall : fs.filter (fun f => !([] : List String).contains f.ruleId) = fs := List.filter_eq_self.2 fun f _ => rfl
    rw [hall]
    rfl
  | cons id ids => rfl

theorem ignoring_lint_eq (rules : List (Rule α)) (a : α) (ids : List String) :
    (lint rules a).ignoring ids = { lint (rules.filter fun r => !ids.contains r.id) a with
      score := (lint rules a).score
      categoryPenalties := (lint rules a).categoryPenalties } := by
  rw [lint, ignoring_ofFindings, filter_mergeSort Finding.le_trans Finding.le_total, ← firedFindings_filter]
  rfl

theorem LintReport.exitCode_le {r r' : LintReport} (herror : r.counts.error ≤ r'.counts.error)
    (hwarning : r.counts.warning ≤ r'.counts.warning) : r.exitCode ≤ r'.exitCode := by
  unfold exitCode
  split_ifs <;> omega

theorem penaltySum_perm {fs gs : List Finding} (h : fs.Perm gs) : penaltySum fs = penaltySum gs := by
  rw [penaltySum_eq_sum, penaltySum_eq_sum, (h.map _).sum_eq]

/-- Every finding belongs to one category. -/
theorem sum_categoryPenalty (fs : List Finding) :
    ((Keyword.all : List Category).map (categoryPenalty fs)).sum = penaltySum fs := by
  show categoryPenalty fs .security + (categoryPenalty fs .performance + (categoryPenalty fs .correctness +
    (categoryPenalty fs .bestPractice + 0))) = penaltySum fs
  induction fs with
  | nil => rfl
  | cons f fs ih =>
    simp only [categoryPenalty, List.filter_cons] at ih ⊢
    rw [penaltySum, ← ih]
    cases f.category <;> simp [penaltySum] <;> omega

/-- All of a report but the list of findings is the same for every order of the findings. -/
theorem LintReport.ofFindings_perm {fs gs : List Finding} (h : fs.Perm gs) :
    LintReport.ofFindings fs = { LintReport.ofFindings gs with findings := fs } := by
  have hcounts : Counts.ofFindings fs = Counts.ofFindings gs := by
    simp only [Counts.ofFindings, h.countP_eq]
  have hcategories : categoryPenalty fs = categoryPenalty gs := by
    funext c
    exact penaltySum_perm (h.filter _)
  have hscore : SiteConf.score fs = SiteConf.score gs := by rw [SiteConf.score, SiteConf.score, penaltySum_perm h]
  simp only [LintReport.ofFindings, hcounts, hcategories, hscore]

theorem findings_perm_fired (rules : List (Rule α)) (a : α) : (lint rules a).findings.Perm (firedFindings rules a) :=
  List.mergeSort_perm _ _

theorem findings_perm {rules rules' : List (Rule α)} (h : rules.Perm rules') (a : α) :
    (lint rules a).findings.Perm (lint rules' a).findings := by
  have hfired : (firedFindings rules a).Perm (firedFindings rules' a) := (h.filter _).map _
  exact (findings_perm_fired rules a).trans (hfired.trans (findings_perm_fired rules' a).symm)

theorem pairwise_findings (rules : List (Rule α)) (a : α) :
    (lint rules a).findings.Pairwise fun f g => f.le g = true :=
  List.pairwise_mergeSort Finding.le_trans Finding.le_total _

/-- Findings that are told apart by severity and title have one sorted order. -/
theorem findings_eq_of_perm {rules rules' : List (Rule α)} (h : rules.Perm rules') {a : α}
    (hapart : ∀ r ∈ rules, ∀ r' ∈ rules, r.fires a = true → r'.fires a = true → r.severity = r'.severity →
      r.title = r'.title → r = r') : (lint rules a).findings = (lint rules' a).findings := by
  refine (findings_perm h a).eq_of_pairwise ?_ (pairwise_findings rules a) (pairwise_findings rules' a)
  intro f g hf hg hfg hgf
  obtain ⟨r, hr, hfires, rfl⟩ := mem_findings_lint.1 hf
  obtain ⟨r', hr', hfires', rfl⟩ := mem_findings_lint.1 hg
  obtain ⟨hseverity, htitle⟩ := Finding.eq_of_le_le hfg hgf
  rw [hapart r hr r' (h.mem_iff.2 hr') hfires hfires' hseverity htitle]

theorem sum_categoryPenalties (rules : List (Rule α)) (a : α) :
    ((lint rules a).categoryPenalties.map (·.2)).sum = penaltySum (lint rules a).findings := by
  rw [← sum_categoryPenalty]
  rfl

theorem score_le_of_subperm {rules more : List (Rule α)} (h : rules.Subperm more) (a : α) :
    (lint more a).score ≤ (lint rules a).score := by
  obtain ⟨kept, hperm, hsub⟩ := h
  rw [score_lint, score_lint]
  refine Nat.sub_le_sub_left ?_ 100
  calc burden Severity.penalty rules a
      = burden Severity.penalty kept a := by rw [burden, burden, ((hperm.filter _).map _).sum_eq]
    _ ≤ burden Severity.penalty more a := ((hsub.filter _).map _).sum_le_sum fun _ _ => Nat.zero_le _

end
end SiteConf
