/-!
# White space

Which characters separate words, and the three things that are done with them: trimming, cutting
a text into words, cutting a text into lines. All work on `List Char`; the forms on `String` are
the same functions between `String.toList` and `String.ofList`.

Main statement: a word holds no white space (`isBlank_of_mem_splitWords`).
-/

namespace SiteConf.Text

/-- White space: the characters of bidirectional type B, S or WS and the space separators. -/
def isBlank (c : Char) : Bool :=
  let n := c.toNat
  (9 ≤ n && n ≤ 13) || (28 ≤ n && n ≤ 32) || n == 0x85 || n == 0xA0 || n == 0x1680 ||
    (0x2000 ≤ n && n ≤ 0x200A) || n == 0x2028 || n == 0x2029 || n == 0x202F || n == 0x205F ||
    n == 0x3000

/-- A text of white space only, the empty one included. -/
def isBlankText (s : String) : Bool := s.toList.all isBlank

/-! ### Trimming -/

/-- The text without the white space at both ends. -/
def trimChars (cs : List Char) : List Char :=
  ((cs.dropWhile isBlank).reverse.dropWhile isBlank).reverse

def trim (s : String) : String := .ofList (trimChars s.toList)

theorem head_dropWhile {α : Type} (p : α → Bool) {xs rest : List α} {x : α}
    (h : xs.dropWhile p = x :: rest) : p x = false := by
  have hhead := List.head?_dropWhile_not p xs
  rw [h] at hhead
  exact hhead

/-! ### Words -/

/-- The maximal runs of characters that are no white space. -/
def splitWords (cs : List Char) : List (List Char) :=
  match _h : cs.dropWhile isBlank with
  | [] => []
  | c :: rest => (c :: rest.takeWhile (!isBlank ·)) :: splitWords (rest.dropWhile (!isBlank ·))
termination_by cs.length
decreasing_by
  have h1 := (List.dropWhile_suffix isBlank (l := cs)).length_le
  have h2 := (List.dropWhile_suffix (!isBlank ·) (l := rest)).length_le
  simp only [_h, List.length_cons] at h1
  omega

def words (s : String) : List String := (splitWords s.toList).map .ofList

theorem isBlank_of_mem_splitWords {cs w : List Char} (h : w ∈ splitWords cs) :
    w ≠ [] ∧ ∀ c ∈ w, isBlank c = false := by
  fun_induction splitWords cs with
  | case1 => simp at h
  | case2 cs c rest hd ih =>
    rcases List.mem_cons.1 h with rfl | h
    · refine ⟨by simp, fun x hx => ?_⟩
      rcases List.mem_cons.1 hx with rfl | hx
      · exact head_dropWhile _ hd
      · simpa using List.all_eq_true.1 List.all_takeWhile x hx
    · exact ih h

/-! ### Lines -/

/-- The characters that end a line; a carriage return takes a line feed after it along. -/
def isLineBreak (c : Char) : Bool :=
  let n := c.toNat
  (10 ≤ n && n ≤ 13) || (28 ≤ n && n ≤ 30) || n == 0x85 || n == 0x2028 || n == 0x2029

/-- The lines of a text, without what ended them. -/
def splitLines : List Char → List (List Char)
  | [] => []
  | '\r' :: '\n' :: cs => [] :: splitLines cs
  | c :: cs =>
    if isLineBreak c then [] :: splitLines cs
    else match splitLines cs with
      | [] => [[c]]
      | l :: ls => (c :: l) :: ls

def lines (s : String) : List String := (splitLines s.toList).map .ofList

/-- Every way to end a line written as a line feed. -/
def unifyLineEnds : List Char → List Char
  | [] => []
  | '\r' :: '\n' :: cs => '\n' :: unifyLineEnds cs
  | c :: cs => (if c = '\r' then '\n' else c) :: unifyLineEnds cs

end SiteConf.Text
