import Mathlib
import SiteConf.Text.Blank
import SiteConf.Text.Split

/-!
# Words and white space

Cutting a text into words undoes joining words with spaces (`words_joinWith`), and trimming is done
once for all (`trim_trim`).
-/

namespace SiteConf.Text

/-! ### Trimming -/

theorem mem_dropWhile {α : Type} {p : α → Bool} {xs : List α} {x : α} (hx : x ∈ xs) (hp : p x = false) :
    x ∈ xs.dropWhile p := by
  induction xs with
  | nil => exact hx
  | cons y xs ih =>
    rw [List.dropWhile_cons]
    split
    · next hy =>
      rcases List.mem_cons.1 hx with rfl | hx
      · rw [hp] at hy
        exact absurd hy (by simp)
      · exact ih hx
    · exact hx

theorem mem_of_mem_trimChars {cs : List Char} {c : Char} (h : c ∈ trimChars cs) : c ∈ cs := by
  rw [trimChars, List.mem_reverse] at h
  have h := (List.dropWhile_suffix isBlank).subset h
  rw [List.mem_reverse] at h
  exact (List.dropWhile_suffix isBlank).subset h

theorem mem_trimChars {cs : List Char} {c : Char} (hc : c ∈ cs) (hb : isBlank c = false) :
    c ∈ trimChars cs := by
  rw [trimChars, List.mem_reverse]
  refine mem_dropWhile ?_ hb
  rw [List.mem_reverse]
  exact mem_dropWhile hc hb

theorem isBlankText_trim (s : String) : isBlankText (trim s) = isBlankText s := by
  rw [Bool.eq_iff_iff, isBlankText, isBlankText, trim, String.toList_ofList, List.all_eq_true, List.all_eq_true]
  constructor
  · intro h c hc
    cases hb : isBlank c with
    | true => rfl
    | false => exact hb ▸ h c (mem_trimChars hc hb)
  · intro h c hc
    exact h c (mem_of_mem_trimChars hc)

theorem dropWhile_of_head {α : Type} {p : α → Bool} {xs : List α} (h : ∀ x ∈ xs.head?, p x = false) :
    xs.dropWhile p = xs := by
  cases xs with
  | nil => rfl
  | cons x xs => simp [h x (by simp)]

theorem head?_dropWhile {α : Type} (p : α → Bool) (xs : List α) : ∀ x ∈ (xs.dropWhile p).head?, p x = false := by
  intro x hx
  cases hd : xs.dropWhile p with
  | nil => simp [hd] at hx
  | cons y ys =>
    rw [hd, List.head?_cons, Option.mem_some_iff] at hx
    exact hx ▸ head_dropWhile p hd

theorem ends_trimChars (cs : List Char) :
    (∀ c ∈ (trimChars cs).head?, isBlank c = false) ∧ ∀ c ∈ (trimChars cs).getLast?, isBlank c = false := by
  constructor
  · intro c hc
    rw [trimChars, List.head?_reverse] at hc
    -- the last of what is left of the reversed text is its last
    obtain ⟨pre, hpre⟩ := List.dropWhile_suffix isBlank (l := (cs.dropWhile isBlank).reverse)
    have hlast : c ∈ (cs.dropWhile isBlank).reverse.getLast? := by
      rw [← hpre, List.getLast?_append]
      rw [Option.mem_def] at hc ⊢
      rw [hc]
      rfl
    rw [List.getLast?_reverse] at hlast
    exact head?_dropWhile isBlank cs c hlast
  · intro c hc
    rw [trimChars, List.getLast?_reverse] at hc
    exact head?_dropWhile isBlank _ c hc

theorem trimChars_of_ends {cs : List Char} (hh : ∀ c ∈ cs.head?, isBlank c = false)
    (hl : ∀ c ∈ cs.getLast?, isBlank c = false) : trimChars cs = cs := by
  rw [trimChars, dropWhile_of_head hh, dropWhile_of_head (by rwa [List.head?_reverse]), List.reverse_reverse]

theorem trim_trim (s : String) : trim (trim s) = trim s := by
  obtain ⟨hh, hl⟩ := ends_trimChars s.toList
  rw [trim, trim, String.toList_ofList, trimChars_of_ends hh hl]

/-! ### Words -/

/-- A text that is one word. -/
def IsWord (w : String) : Prop := w.toList ≠ [] ∧ ∀ c ∈ w.toList, isBlank c = false

theorem isWord_of_mem_words {s w : String} (h : w ∈ words s) : IsWord w := by
  obtain ⟨cs, hcs, rfl⟩ := List.mem_map.1 h
  rw [IsWord, String.toList_ofList]
  exact isBlank_of_mem_splitWords hcs

theorem splitWords_of_nil {cs : List Char} (h : cs.dropWhile isBlank = []) : splitWords cs = [] := by
  rw [splitWords]
  split
  · rfl
  · next h' => rw [h] at h'; simp at h'

@[simp] theorem splitWords_nil : splitWords [] = [] := splitWords_of_nil rfl

theorem splitWords_of_cons {cs rest : List Char} {c : Char} (h : cs.dropWhile isBlank = c :: rest) :
    splitWords cs = (c :: rest.takeWhile (!isBlank ·)) :: splitWords (rest.dropWhile (!isBlank ·)) := by
  rw [splitWords]
  split
  · next h' => rw [h] at h'; simp at h'
  · next h' => rw [h, List.cons.injEq] at h'; rw [h'.1, h'.2]

theorem splitWords_blank {c : Char} (hc : isBlank c = true) (cs : List Char) :
    splitWords (c :: cs) = splitWords cs := by
  have hdrop : (c :: cs).dropWhile isBlank = cs.dropWhile isBlank := by simp [hc]
  cases hd : cs.dropWhile isBlank with
  | nil => rw [splitWords_of_nil hd, splitWords_of_nil (hdrop.trans hd)]
  | cons x rest => rw [splitWords_of_cons hd, splitWords_of_cons (hdrop.trans hd)]

theorem splitWords_append {w cs : List Char} (hne : w ≠ []) (hw : ∀ c ∈ w, isBlank c = false)
    (hcs : ∀ c ∈ cs.head?, isBlank c = true) : splitWords (w ++ cs) = w :: splitWords cs := by
  cases w with
  | nil => exact absurd rfl hne
  | cons c w =>
    have hdrop : (c :: w ++ cs).dropWhile isBlank = c :: (w ++ cs) := by
      simp [hw c (by simp)]
    have hw' : ∀ x ∈ w, (!isBlank x) = true := fun x hx => by simp [hw x (by simp [hx])]
    have htake : cs.takeWhile (!isBlank ·) = [] ∧ cs.dropWhile (!isBlank ·) = cs := by
      cases cs with
      | nil => simp
      | cons x cs => simp [hcs x (by simp)]
    rw [splitWords_of_cons hdrop, List.takeWhile_append_of_pos hw', List.dropWhile_append_of_pos hw', htake.1,
      htake.2, List.append_nil]

theorem words_joinWith {ws : List String} (h : ∀ w ∈ ws, IsWord w) : words (joinWith " " ws) = ws := by
  induction ws with
  | nil => simp [words]
  | cons w ws ih =>
    obtain ⟨hne, hw⟩ := h w (by simp)
    have ih := ih fun x hx => h x (by simp [hx])
    cases ws with
    | nil =>
      have hsplit : splitWords (w.toList ++ []) = w.toList :: splitWords [] :=
        splitWords_append hne hw (by simp)
      rw [List.append_nil, splitWords_nil] at hsplit
      rw [joinWith_singleton, words, hsplit]
      simp
    | cons w' ws =>
      rw [joinWith_cons_cons, words, String.toList_append, String.toList_append, List.append_assoc,
        show " ".toList = [' '] from rfl, List.singleton_append, splitWords_append hne hw (by simp; decide),
        splitWords_blank (by decide), List.map_cons, String.ofList_toList]
      rw [words] at ih
      rw [ih]

theorem words_joinWith_words (s : String) : words (joinWith " " (words s)) = words s :=
  words_joinWith fun _ => isWord_of_mem_words

theorem words_eq_nil_iff (s : String) : words s = [] ↔ isBlankText s = true := by
  rw [words, List.map_eq_nil_iff, isBlankText, List.all_eq_true, ← List.dropWhile_eq_nil_iff]
  cases h : s.toList.dropWhile isBlank with
  | nil => simp [splitWords_of_nil h]
  | cons c rest => simp [splitWords_of_cons h]

end SiteConf.Text
