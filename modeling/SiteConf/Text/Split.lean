/-!
# Parts of a text

Looking for one text inside another, cutting at a separator, and joining with one. `joinWith` is
the way back from a list of lines to a text.
-/

namespace SiteConf.Text

/-- `part` occurs somewhere in the text. -/
def hasPart (part : List Char) : List Char → Bool
  | [] => part.isEmpty
  | c :: cs => part.isPrefixOf (c :: cs) || hasPart part cs

def contains (s part : String) : Bool := hasPart part.toList s.toList

def startsWith (s start : String) : Bool := start.toList.isPrefixOf s.toList

/-- What stands between two neighbouring separators; always at least one piece. -/
def splitAtChar (sep : Char) : List Char → List (List Char)
  | [] => [[]]
  | c :: cs =>
    if c = sep then [] :: splitAtChar sep cs
    else match splitAtChar sep cs with
      | [] => [[c]]
      | p :: ps => (c :: p) :: ps

/-- The text before the first separator and the text after it, empty if there is none. -/
def cutAtChar (sep : Char) (s : String) : String × String :=
  (.ofList (s.toList.takeWhile (· != sep)), .ofList ((s.toList.dropWhile (· != sep)).drop 1))

/-- What follows the last separator, the whole text if there is none. -/
def afterLast (sep : Char) (cs : List Char) : List Char :=
  (cs.reverse.takeWhile (· != sep)).reverse

/-- The texts one after the other, with `sep` between neighbours. -/
def joinWith (sep : String) : List String → String
  | [] => ""
  | [s] => s
  | s :: rest => s ++ sep ++ joinWith sep rest

/-- Lines as one text, without a line feed at the end. -/
def joinLines (ls : List String) : String := joinWith "\n" ls

@[simp] theorem joinWith_nil (sep : String) : joinWith sep [] = "" := rfl

@[simp] theorem joinWith_singleton (sep s : String) : joinWith sep [s] = s := rfl

theorem joinWith_cons_cons (sep s t : String) (rest : List String) :
    joinWith sep (s :: t :: rest) = s ++ sep ++ joinWith sep (t :: rest) := rfl

theorem joinWith_append (sep : String) {xs ys : List String} (hx : xs ≠ []) (hy : ys ≠ []) :
    joinWith sep (xs ++ ys) = joinWith sep xs ++ sep ++ joinWith sep ys := by
  induction xs with
  | nil => exact absurd rfl hx
  | cons x xs ih =>
    cases xs with
    | nil =>
      cases ys with
      | nil => exact absurd rfl hy
      | cons y ys => rfl
    | cons x' xs =>
      rw [List.cons_append, List.cons_append, joinWith_cons_cons, joinWith_cons_cons,
        ← List.cons_append, ih (by simp)]
      simp [String.append_assoc]

end SiteConf.Text
