/-!
# Runs of characters

A class of characters as the first and last code points of its runs, in ascending order. A run may
carry more than its two ends.
-/

namespace SiteConf.Text

/-- Each run starts after the one before it ends. -/
def ascending : List (Nat × Nat) → Bool
  | [] => true
  | [r] => r.1 ≤ r.2
  | r :: s :: rs => r.1 ≤ r.2 && r.2 < s.1 && ascending (s :: rs)

/-- The run with code point `n` among those numbered from `lo` on and before `hi`, which are in
ascending order. The ends of a run are its `span`. -/
def findRun? {α : Type} (span : α → Nat × Nat) (runs : Array α) (n lo hi : Nat) : Option α :=
  if _h : lo < hi then
    let mid := (lo + hi) / 2
    match runs[mid]? with
    | none => none
    | some r =>
      if n < (span r).1 then findRun? span runs n lo mid
      else if (span r).2 < n then findRun? span runs n (mid + 1) hi
      else some r
  else none
termination_by hi - lo

/-- The character belongs to one of the runs. -/
def inSomeRun (runs : Array (Nat × Nat)) (c : Char) : Bool :=
  (findRun? id runs c.toNat 0 runs.size).isSome

end SiteConf.Text
