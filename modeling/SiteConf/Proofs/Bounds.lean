import SiteConf.Proofs.Numbers

/-!
# What is ensured of numbers that are read

`Ensures x P` says that whatever `x` succeeds with satisfies `P`. A number that was read has so few
digits that it can be written and read again (`ensures_readNumber`).
-/

namespace SiteConf
open Text

/-! ### Results of computations that can fail -/

theorem exists_of_isOk {ε α : Type} {x : Except ε α} (h : x.isOk = true) : ∃ a, x = .ok a := by
  cases x with
  | error e => cases h
  | ok a => exact ⟨a, rfl⟩

def Ensures {ε α : Type} (x : Except ε α) (P : α → Prop) : Prop := ∀ a, x = .ok a → P a

namespace Ensures
variable {ε α β : Type} {P Q : α → Prop} {x : Except ε α}

theorem ok {a : α} (h : P a) : Ensures (.ok a : Except ε α) P := by
  rintro _ ⟨⟩
  exact h

theorem error {e : ε} : Ensures (.error e : Except ε α) P := by
  rintro _ ⟨⟩

theorem mono (h : Ensures x P) (hPQ : ∀ a, P a → Q a) : Ensures x Q := fun a ha => hPQ a (h a ha)

theorem bind {R : β → Prop} {f : α → Except ε β} (h : Ensures x P) (hf : ∀ a, P a → Ensures (f a) R) :
    Ensures (x >>= f) R := by
  intro b hb
  cases x with
  | error e => cases hb
  | ok a => exact hf a (h a rfl) b hb

theorem of_bind {R : β → Prop} {f : α → Except ε β} (hf : ∀ a, Ensures (f a) R) : Ensures (x >>= f) R :=
  bind (P := fun _ => True) (fun _ _ => trivial) fun a _ => hf a

theorem self (x : Except ε α) : Ensures x fun a => x = .ok a := fun _ h => h

theorem map {R : β → Prop} {f : α → β} (h : Ensures x P) (hf : ∀ a, P a → R (f a)) : Ensures (x.map f) R := by
  intro b hb
  cases x with
  | error e => cases hb
  | ok a =>
    cases hb
    exact hf a (h a rfl)

theorem foldlM_of_mem {I : β → Prop} {f : β → α → Except ε β} {as : List α}
    (hf : ∀ a ∈ as, ∀ b, I b → Ensures (f b a) I) {b : β} (hb : I b) : Ensures (as.foldlM f b) I := by
  induction as generalizing b with
  | nil => exact ok hb
  | cons a as ih =>
    rw [List.forall_mem_cons] at hf
    rw [List.foldlM_cons]
    exact (hf.1 b hb).bind fun b' hb' => ih hf.2 hb'

/-- What each step of a run keeps holds at its end if it holds at its start. -/
theorem foldlM {I : β → Prop} {f : β → α → Except ε β} (hf : ∀ b a, I b → Ensures (f b a) I) {b : β} (hb : I b)
    (as : List α) : Ensures (as.foldlM f b) I := foldlM_of_mem (fun a _ b => hf b a) hb

/-- What each element of a kind sets, and no other changes, is at the end of a run as the last of its kind says. -/
theorem foldlM_last {γ : Type} {get : β → γ} {p : α → Bool} {value : α → γ} {f : β → α → Except ε β}
    (hf : ∀ b a, Ensures (f b a) fun b' => get b' = if p a then value a else get b) (b : β) (as : List α) :
    Ensures (as.foldlM f b) fun b' => get b' = ((as.filter p).getLast?.map value).getD (get b) := by
  induction as generalizing b with
  | nil => exact ok rfl
  | cons a as ih =>
    rw [List.foldlM_cons]
    refine (hf b a).bind fun b' hb' => (ih b').mono fun c hc => ?_
    rw [hc, hb']
    cases ha : p a with
    | false => rw [List.filter_cons_of_neg (by simp [ha]), if_neg Bool.false_ne_true]
    | true =>
      -- with one more before it, the last is the same, unless there is no other
      rw [List.filter_cons_of_pos ha, List.getLast?_cons, if_pos rfl]
      cases (as.filter p).getLast? <;> rfl

/-- What only the elements of a kind change is at the end of a run as the step of the last of them left it. -/
theorem foldlM_at_last {γ : Type} {get : β → γ} {p : α → Bool} {f : β → α → Except ε β}
    (hf : ∀ b a, p a = false → Ensures (f b a) fun b' => get b' = get b) {as : List α} {a : α}
    (ha : (as.filter p).getLast? = some a) (b : β) :
    Ensures (as.foldlM f b) fun c => ∃ b₁ b₂, f b₁ a = .ok b₂ ∧ get c = get b₂ := by
  obtain ⟨others, hothers⟩ := List.getLast?_eq_some_iff.1 ha
  obtain ⟨before, rest, rfl, -, hrest⟩ := List.filter_eq_append_iff.1 hothers
  obtain ⟨between, after, rfl, -, -, hafter⟩ := List.filter_eq_cons_iff.1 hrest
  rw [← List.append_assoc, List.foldlM_append]
  refine of_bind fun b₁ => ?_
  rw [List.foldlM_cons]
  refine (self _).bind fun b₂ hb₂ => ?_
  have hkept : Ensures (after.foldlM f b₂) fun c => get c = get b₂ := by
    refine foldlM_of_mem (fun x hx b hb => ?_) rfl
    have hpx : p x = false := by simpa using List.filter_eq_nil_iff.1 hafter x hx
    exact (hf b x hpx).mono fun _ hb' => hb'.trans hb
  exact hkept.mono fun c hc => ⟨b₁, b₂, hb₂, hc⟩

end Ensures

/-! ### Numbers -/

theorem fewDigits_natCast {n : Nat} : FewDigits (n : Int) ↔ n < 10 ^ digitLimit := by
  unfold FewDigits
  rw [Int.natAbs_natCast]
  exact Nat.length_toDigits_le_iff (by omega) (by decide)

theorem fewDigits_of_le {m n : Nat} (hle : m ≤ n) (h : FewDigits (n : Int)) : FewDigits (m : Int) := by
  rw [fewDigits_natCast] at h ⊢
  omega

theorem digitValue_lt (c : Char) : (digitValue? c).getD 0 < 10 := by
  unfold digitValue?
  split_ifs with h1 h2
  · simp only [Option.getD_some]
    omega
  · simp
  · cases hz : zeroCodes.find? fun z => z ≤ c.toNat && c.toNat < z + 10 with
    | none => simp
    | some z =>
      have hrange := List.find?_some hz
      simp only [Bool.and_eq_true, decide_eq_true_eq] at hrange
      simp only [Option.map_some, Option.getD_some]
      omega

theorem digitsValue_lt (ds : List Char) : digitsValue ds < 10 ^ ds.length := by
  have hfold : ∀ n, ds.foldl (fun n c => 10 * n + (digitValue? c).getD 0) n < (n + 1) * 10 ^ ds.length := by
    induction ds with
    | nil => intro n; simp
    | cons c ds ih =>
      intro n
      have hc := digitValue_lt c
      have hstep : (10 * n + (digitValue? c).getD 0 + 1) * 10 ^ ds.length ≤ (10 * (n + 1)) * 10 ^ ds.length :=
        Nat.mul_le_mul_right _ (by omega)
      have hpow : (10 * (n + 1)) * 10 ^ ds.length = (n + 1) * 10 ^ (c :: ds).length := by
        rw [List.length_cons, Nat.pow_succ, Nat.mul_comm 10 (n + 1), Nat.mul_assoc, Nat.mul_comm 10]
      rw [List.foldl_cons, ← hpow]
      exact Nat.lt_of_lt_of_le (ih _) hstep
  simpa [digitsValue] using hfold 0

theorem ensures_readNumber (ds : List Char) : Ensures (readNumber ds) fun n => FewDigits (n : Int) := by
  unfold readNumber
  split_ifs with h
  · exact .error
  · refine .ok (fewDigits_natCast.2 (Nat.lt_of_lt_of_le (digitsValue_lt ds) ?_))
    exact Nat.pow_le_pow_right (by omega) (by omega)

theorem ensures_digitsValue (ds : List Char) : Ensures (readNumber ds) (· = digitsValue ds) := by
  unfold readNumber
  split_ifs
  · exact .error
  · exact .ok rfl

theorem ensures_readSeconds (s : String) :
    Ensures (readSeconds s) fun o => ∀ n ∈ o, FewDigits (n : Int) := by
  unfold readSeconds
  dsimp only
  split_ifs
  · refine (ensures_readNumber _).map fun n hn m hm => ?_
    rw [← Option.some.inj hm]
    exact hn
  · exact .ok (by simp)

theorem ensures_numberFrom {least fallback : Nat} (hl : least ≤ fallback) (hf : FewDigits (fallback : Int))
    (s : String) : Ensures (numberFrom least fallback s) fun n => least ≤ n ∧ FewDigits (n : Int) := by
  unfold numberFrom
  split_ifs
  · refine (ensures_readNumber _).bind fun n hn => .ok ?_
    split_ifs with h
    · exact ⟨h, hn⟩
    · exact ⟨hl, hf⟩
  · exact .ok ⟨hl, hf⟩

theorem ensures_megabytes (kilobytes : Nat) : Ensures (megabytes kilobytes) fun n => FewDigits (n : Int) := by
  have hexponent : 1034 < digitLimit := by decide
  unfold megabytes
  dsimp only
  -- the bound is never evaluated
  generalize 1034 = e at hexponent ⊢
  split_ifs with h
  · exact .error
  · have hfew : FewDigits (Nat.pow 2 e : Nat) := fewDigits_natCast.2
      (Nat.lt_of_le_of_lt (Nat.pow_le_pow_left (by decide) e) (Nat.pow_lt_pow_right (by decide) hexponent))
    exact .ok (fewDigits_of_le (by omega) hfew)

end SiteConf
