/-!
# Binary numbers of double precision

The numbers `± m · 2^e` with `m < 2^53` and `-1074 ≤ e ≤ 971`, the infinities, and the value that is
no number. Two directions:
`Double.ofDecimal` is the double nearest to a decimal number, and `Double.digits` the fewest
decimal digits that lie nearer to a double than to any other. Both are exact arithmetic on natural
numbers.

Main statement: a quotient is rounded by at most half a unit (`roundQuotient_near`).
-/

namespace SiteConf

/-- A double: a sign and an absolute value. -/
inductive Double where
  | finite (negative : Bool) (mantissa : Nat) (exponent : Int)
  | infinite (negative : Bool)
  | notNumber
  deriving DecidableEq, Repr

namespace Double

/-- `num / den` to the nearest whole number, a half to the even neighbour. -/
def roundQuotient (num den : Nat) : Nat :=
  let q := num / den
  let r := num % den
  if 2 * r < den then q else if den < 2 * r then q + 1 else q + q % 2

/-- The quotient that is taken is at most half a unit away. -/
theorem roundQuotient_near (num : Nat) {den : Nat} (h : 0 < den) :
    2 * (roundQuotient num den * den) ≤ 2 * num + den ∧
      2 * num ≤ 2 * (roundQuotient num den * den) + den := by
  have h1 := Nat.div_add_mod num den
  have h2 := Nat.mod_lt num h
  rw [roundQuotient]
  generalize num / den = q at *
  generalize num % den = r at *
  rw [Nat.mul_comm] at h1
  split
  · omega
  · split
    · rw [Nat.add_mul]; omega
    · rcases Nat.mod_two_eq_zero_or_one q with h3 | h3 <;> rw [h3, Nat.add_mul] <;> omega

/-- `m · 2^e` as a fraction. -/
def ratio (m : Nat) (e : Int) : Nat × Nat :=
  if 0 ≤ e then (m * Nat.pow 2 e.toNat, 1) else (m, Nat.pow 2 (-e).toNat)

/-- The double nearest to `num / den`. The exponent is the least one that leaves at most 53 bits,
and at least -1074. -/
def ofRatio (negative : Bool) (num den : Nat) : Double :=
  let guess : Int := max (-1074) ((num.log2 : Int) - den.log2 - 53)
  let at_ (e : Int) : Nat := if 0 ≤ e then roundQuotient num (den * Nat.pow 2 e.toNat)
    else roundQuotient (num * Nat.pow 2 (-e).toNat) den
  let floorAt : Nat := if 0 ≤ guess then num / (den * Nat.pow 2 guess.toNat)
    else num * Nat.pow 2 (-guess).toNat / den
  let e := if floorAt < Nat.pow 2 53 then guess else guess + 1
  let m := at_ e
  let (m, e) := if m = Nat.pow 2 53 then (Nat.pow 2 52, e + 1) else (m, e)
  if 971 < e then .infinite negative else .finite negative m (if m = 0 then 0 else e)

/-- The double nearest to `digits · 10^exponent`. A number of absolute value beyond `10^400` or
below `10^(-400)` is decided by its size alone. -/
def ofDecimal (negative : Bool) (digits : Nat) (exponent : Int) : Double :=
  if digits = 0 then .finite negative 0 0
  else
    let size := (Nat.toDigits 10 digits).length + exponent
    if 400 < size then .infinite negative
    else if size < -400 then .finite negative 0 0
    else if 0 ≤ exponent then ofRatio negative (digits * Nat.pow 10 exponent.toNat) 1
    else ofRatio negative digits (Nat.pow 10 (-exponent).toNat)

/-! ### The fewest digits -/

/-- Twice the distance is compared on the grid of multiples of `10^k`: whether `c · 10^k` rounds to
the double `m · 2^e`, whose neighbours are half a step away on both sides (a quarter step below a
power of two). -/
def roundsTo (m : Nat) (e : Int) (c : Nat) (k : Int) : Bool :=
  let below := if m = Nat.pow 2 52 ∧ -1074 < e then 1 else 2
  -- all in quarters of the last place
  let (loNum, loDen) := ratio (4 * m - below) (e - 2)
  let (hiNum, hiDen) := ratio (4 * m + 2) (e - 2)
  let (num, den) := if 0 ≤ k then (c * Nat.pow 10 k.toNat, 1) else (c, Nat.pow 10 (-k).toNat)
  if m % 2 = 0 then loNum * den ≤ num * loDen && num * hiDen ≤ hiNum * den
  else loNum * den < num * loDen && num * hiDen < hiNum * den

/-- The best multiple of `10^k` that rounds to the double, if there is one: of the two neighbours
of the value, the nearer. -/
def onGrid (m : Nat) (e : Int) (k : Int) : Option Nat :=
  let (num, den) := ratio m e
  let (num, den) := if 0 ≤ k then (num, den * Nat.pow 10 k.toNat)
    else (num * Nat.pow 10 (-k).toNat, den)
  let low := num / den
  let lowFits := roundsTo m e low k
  let highFits := roundsTo m e (low + 1) k
  if lowFits && highFits then
    let r := num % den
    some (if 2 * r < den then low else if den < 2 * r then low + 1 else low + low % 2)
  else if lowFits && low != 0 then some low
  else if highFits then some (low + 1)
  else none

/-- The position of the leading digit of `num / den`, for a positive quotient: the `p` with
`10^p ≤ num / den < 10^(p+1)`. -/
def leadingPlace (num den : Nat) : Int :=
  if den ≤ num then (Nat.toDigits 10 (num / den)).length - 1
  else
    let zeros := (Nat.toDigits 10 (den / num)).length
    if den ≤ num * Nat.pow 10 (zeros - 1) then -((zeros : Int) - 1) else -(zeros : Int)

/-- The fewest decimal digits that read back as the positive double `m · 2^e`, and the power of
ten of the last of them. -/
def digits (m : Nat) (e : Int) : Nat × Int :=
  let (num, den) := ratio m e
  let place := leadingPlace num den
  let tries := (List.range 18).filterMap fun (n : Nat) =>
    let k := place - n
    (onGrid m e k).map (·, k)
  tries.headD (m, e)

/-- Digits without the zeros at the end, and the power of ten of the last one that stays. -/
def dropZeros (c : Nat) (k : Int) : Nat × Int :=
  if _h : c ≠ 0 ∧ c % 10 = 0 then dropZeros (c / 10) (k + 1) else (c, k)
termination_by c
decreasing_by omega

/-- The text of a double: the fewest digits, positional for leading digits from `10^(-4)` up to
`10^15`, else with an exponent of at least two digits. -/
def text : Double → String
  | .notNumber => "nan"
  | .infinite negative => if negative then "-inf" else "inf"
  | .finite negative 0 _ => if negative then "-0.0" else "0.0"
  | .finite negative m e =>
    let (c, k) := digits m e
    let (c, k) := dropZeros c k
    let ds := Nat.toDigits 10 c
    let place : Int := ds.length - 1 + k
    let body :=
      if -4 ≤ place ∧ place < 16 then
        if 0 ≤ k then String.ofList (ds ++ List.replicate k.toNat '0') ++ ".0"
        else if 0 ≤ place then
          let whole := place.toNat + 1
          String.ofList (ds.take whole) ++ "." ++ String.ofList (ds.drop whole)
        else "0." ++ String.ofList (List.replicate (-place - 1).toNat '0' ++ ds)
      else
        let fraction := if ds.length ≤ 1 then "" else "." ++ String.ofList (ds.drop 1)
        let ex := toString place.natAbs
        String.ofList (ds.take 1) ++ fraction ++ "e" ++ (if place < 0 then "-" else "+") ++
          (if ex.length < 2 then "0" ++ ex else ex)
    (if negative then "-" else "") ++ body

/-- A finite double as a fraction. -/
def signedRatio (negative : Bool) (m : Nat) (e : Int) : Int × Nat :=
  let (num, den) := ratio m e
  (if negative then -(num : Int) else num, den)

/-- Whether a double is the whole number `n`. -/
def isInt (x : Double) (n : Int) : Bool :=
  match x with
  | .finite negative m e =>
    let (num, den) := signedRatio negative m e
    num == n * den
  | _ => false

/-- Whether a double is less than the whole number `n`. -/
def isBelow (x : Double) (n : Int) : Bool :=
  match x with
  | .finite negative m e =>
    let (num, den) := signedRatio negative m e
    decide (num < n * den)
  | .infinite negative => negative
  | .notNumber => false

/-- The double nearest to the sum of a double and a whole number. -/
def plus (x : Double) (n : Int) : Double :=
  match x with
  | .finite negative m e =>
    let (num, den) := signedRatio negative m e
    let sum := num + n * den
    ofRatio (decide (sum < 0)) sum.natAbs den
  | x => x

/-- Equality of numbers: both zeros are equal, and the value that is no number differs from
itself. -/
def same (x y : Double) : Bool := (x == y && x != .notNumber) || (x.isInt 0 && y.isInt 0)

end Double
end SiteConf
