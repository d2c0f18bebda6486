import SiteConf.Data.Double

/-!
# Plain data

What files and messages exchange: null, truth values, whole numbers, doubles, texts, lists, and
maps from text keys in the order in which the keys came first.
-/

namespace SiteConf

inductive Data where
  | null
  | bool (b : Bool)
  | int (n : Int)
  | float (x : Double)
  | text (s : String)
  | list (items : List Data)
  | map (entries : List (String × Data))
  deriving Inhabited, Repr

/-- The entries of a map. -/
abbrev Entries := List (String × Data)

namespace Data

/-- The word for a kind of data in messages. -/
def kind : Data → String
  | null => "NoneType"
  | bool _ => "bool"
  | int _ => "int"
  | float _ => "float"
  | text _ => "str"
  | list _ => "list"
  | map _ => "dict"

/-- A value that counts as nothing: null, false, zero and all that is empty. -/
def isEmpty : Data → Bool
  | null => true
  | bool b => !b
  | int n => n == 0
  | float (.finite _ m _) => m == 0
  | float _ => false
  | text s => s == ""
  | list items => items.isEmpty
  | map entries => entries.isEmpty

end Data

namespace Entries

/-- The entries with `key` set to `value`: in its old place if the key was there, else last. -/
def insert (key : String) (value : Data) : Entries → Entries
  | [] => [(key, value)]
  | (k, v) :: rest => if k = key then (key, value) :: rest else (k, v) :: insert key value rest

/-- Entries with each key once; of several values of a key the last counts. -/
def ofList (pairs : List (String × Data)) : Entries :=
  pairs.foldl (fun es (p : String × Data) => insert p.1 p.2 es) []

theorem lookup_insert_self (key : String) (value : Data) (es : Entries) :
    (insert key value es).lookup key = some value := by
  induction es with
  | nil => simp [insert]
  | cons e es ih =>
    obtain ⟨k, v⟩ := e
    by_cases h : k = key
    · simp [insert, h]
    · simp [insert, h, List.lookup_cons, beq_eq_false_iff_ne.2 (Ne.symm h), ih]

theorem lookup_insert_of_ne {key other : String} (h : other ≠ key) (value : Data) (es : Entries) :
    (insert key value es).lookup other = es.lookup other := by
  induction es with
  | nil => simp [insert, List.lookup_cons, beq_eq_false_iff_ne.2 h]
  | cons e es ih =>
    obtain ⟨k, v⟩ := e
    by_cases hk : k = key
    · subst hk
      simp [insert, List.lookup_cons, beq_eq_false_iff_ne.2 h]
    · by_cases ho : other = k
      · simp [insert, hk, ho]
      · simp [insert, hk, List.lookup_cons, beq_eq_false_iff_ne.2 ho, ih]

theorem lookup_insert (key other : String) (value : Data) (es : Entries) :
    (insert key value es).lookup other = if other = key then some value else es.lookup other := by
  split
  · next h => rw [h, lookup_insert_self]
  · next h => exact lookup_insert_of_ne h value es

end Entries

namespace Data

mutual
/-- Equality of values across kinds: a truth value is the number 0 or 1, a double that is whole is
that number, and the order of a map's keys does not count. -/
def same : Data → Data → Bool
  | null, null => true
  | bool a, bool b => a == b
  | bool a, int n => (if a then 1 else 0) == n
  | int n, bool a => (if a then 1 else 0) == n
  | bool a, float x => x.isInt (if a then 1 else 0)
  | float x, bool a => x.isInt (if a then 1 else 0)
  | int m, int n => m == n
  | int n, float x => x.isInt n
  | float x, int n => x.isInt n
  | float x, float y => x.same y
  | text s, text t => s == t
  | list xs, list ys => sameItems xs ys
  | map xs, map ys => xs.length == ys.length && sameEntries xs ys
  | _, _ => false

def sameItems : List Data → List Data → Bool
  | [], [] => true
  | x :: xs, y :: ys => same x y && sameItems xs ys
  | _, _ => false

/-- Every entry of the first list has its like in the second. -/
def sameEntries : List (String × Data) → List (String × Data) → Bool
  | [], _ => true
  | (k, v) :: rest, ys =>
    (match ys.lookup k with
      | none => false
      | some w => same v w) && sameEntries rest ys
end

end Data
end SiteConf
