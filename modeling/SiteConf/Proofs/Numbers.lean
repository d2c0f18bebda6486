import Mathlib
import SiteConf.Import.Location
import SiteConf.Import.Server
import SiteConf.Import.Upstream

/-!
# Written numbers are read back

A number that is no less than zero and has few digits is read back wherever an import looks for one:
in ports, times, sizes, rates and the parameters of a pool member.
-/

namespace SiteConf
open Text

theorem toList_toString_int (n : Int) :
    (toString n).toList = if n < 0 then '-' :: Nat.toDigits 10 n.natAbs else Nat.toDigits 10 n.natAbs := by
  cases n with
  | ofNat n =>
    rw [if_neg (by simp), show toString (Int.ofNat n) = n.repr from rfl, Nat.toList_repr]
    rfl
  | negSucc n =>
    rw [if_pos (by omega), show toString (Int.negSucc n) = "-" ++ (n + 1).repr from rfl, String.toList_append,
      Nat.toList_repr]
    rfl

theorem toList_toString {n : Int} (h : 0 ≤ n) : (toString n).toList = Nat.toDigits 10 n.natAbs := by
  rw [toList_toString_int, if_neg (by omega)]

theorem isDigit_toDigits (n : Nat) : ∀ c ∈ Nat.toDigits 10 n, c.isDigit = true := fun _ hc =>
  Nat.isDigit_of_mem_toDigits (by omega) (by omega) hc

theorem isDecimal_toDigits (n : Nat) : ∀ c ∈ Nat.toDigits 10 n, isDecimal c = true := fun c hc =>
  isDecimal_of_isDigit (isDigit_toDigits n c hc)

theorem isEmpty_toDigits (n : Nat) : (Nat.toDigits 10 n).isEmpty = false := by
  rw [List.isEmpty_eq_false_iff]
  exact Nat.toDigits_ne_nil

theorem readNumber_toDigits {n : Int} (h : FewDigits n) : readNumber (Nat.toDigits 10 n.natAbs) = .ok n.natAbs := by
  rw [readNumber_eq_ok h, digitsValue_toDigits]

theorem isNumber_toDigits (n : Nat) : isNumber (Nat.toDigits 10 n) = true := by
  rw [isNumber, isEmpty_toDigits, Bool.not_false, Bool.true_and, List.all_eq_true]
  exact isDecimal_toDigits n

theorem spanDigits_toDigits {cs : List Char} (hc : cs.takeWhile isDecimal = []) (n : Nat) :
    spanDigits (Nat.toDigits 10 n ++ cs) = (Nat.toDigits 10 n, cs) :=
  spanDigits_append (isDecimal_toDigits n) hc

/-! ### Ports -/

theorem ne_colon_of_mem_toDigits {n : Nat} {c : Char} (hc : c ∈ Nat.toDigits 10 n) : (c != ':') = true := by
  have hd := isDigit_toDigits n c hc
  rw [bne_iff_ne]
  rintro rfl
  exact absurd hd (by decide)

theorem afterLast_append {ds : List Char} (h : ∀ c ∈ ds, (c != ':') = true) (pre : List Char) :
    afterLast ':' (pre ++ ':' :: ds) = ds := by
  have h' : ∀ c ∈ ds.reverse, (c != ':') = true := fun c hc => h c (List.mem_reverse.1 hc)
  rw [afterLast, List.reverse_append, List.reverse_cons, List.append_assoc, List.takeWhile_append_of_pos h']
  simp

theorem afterLast_of_not_mem {ds : List Char} (h : ∀ c ∈ ds, (c != ':') = true) : afterLast ':' ds = ds := by
  have h' : ∀ c ∈ ds.reverse, (c != ':') = true := fun c hc => h c (List.mem_reverse.1 hc)
  have htake : ds.reverse.takeWhile (· != ':') = ds.reverse := by
    rw [← List.append_nil ds.reverse, List.takeWhile_append_of_pos h']
    rfl
  rw [afterLast, htake, List.reverse_reverse]

theorem portOf_of_afterLast {n : Int} (hf : FewDigits n) {address : String}
    (h : afterLast ':' address.toList = Nat.toDigits 10 n.natAbs) :
    Draft.portOf address = .ok (some n.natAbs) := by
  rw [Draft.portOf, h, if_pos (isNumber_toDigits _), readNumber_toDigits hf]
  rfl

theorem portOf_toString {n : Int} (h : 0 ≤ n) (hf : FewDigits n) :
    Draft.portOf (toString n) = .ok (some n.natAbs) := by
  refine portOf_of_afterLast hf ?_
  rw [toList_toString h]
  exact afterLast_of_not_mem fun _ => ne_colon_of_mem_toDigits

theorem portOf_ipv6 {n : Int} (h : 0 ≤ n) (hf : FewDigits n) :
    Draft.portOf ("[::]:" ++ toString n) = .ok (some n.natAbs) := by
  refine portOf_of_afterLast hf ?_
  rw [String.toList_append, toList_toString h]
  exact afterLast_append (fun _ => ne_colon_of_mem_toDigits) ['[', ':', ':', ']']

/-! ### Times, sizes and rates -/

theorem readSeconds_toString {n : Int} (h : 0 ≤ n) (hf : FewDigits n) :
    readSeconds (toString n ++ "s") = .ok (some n.natAbs) := by
  rw [readSeconds, String.toList_append, toList_toString h, show "s".toList = ['s'] from rfl,
    spanDigits_toDigits (by decide)]
  dsimp only
  rw [isEmpty_toDigits, readNumber_toDigits hf]
  rfl

theorem splitSize?_of_digits {s : String} {ds : List Char} {c : Char} {suffix : SizeSuffix}
    (h : s.toList = ds ++ [c]) (hds : isNumber ds = true) (hc : isDecimal c = false) (hn : c ≠ '\n')
    (hs : SizeSuffix.ofChar? c = some suffix) : splitSize? s = some (ds, suffix) := by
  rw [isNumber, Bool.and_eq_true, Bool.not_eq_true', List.all_eq_true] at hds
  rw [splitSize?, h, spanDigits_append hds.2 (by simp [hc])]
  dsimp only
  rw [hds.1, if_neg Bool.false_ne_true, if_neg (by simp [atEnd, hn]), hs]
  rfl

theorem splitSize?_toString {n : Int} (h : 0 ≤ n) {c : Char} {suffix : SizeSuffix}
    (hc : isDecimal c = false) (hn : c ≠ '\n') (hs : SizeSuffix.ofChar? c = some suffix) :
    splitSize? (toString n ++ String.ofList [c]) = some (Nat.toDigits 10 n.natAbs, suffix) := by
  refine splitSize?_of_digits ?_ (isNumber_toDigits _) hc hn hs
  rw [String.toList_append, toList_toString h, String.toList_ofList]

theorem isPrefixOf_append_self (pre cs : List Char) : pre.isPrefixOf (pre ++ cs) = true :=
  List.isPrefixOf_iff_prefix.2 (List.prefix_append pre cs)

theorem rateDigits?_toString {n : Int} (h : 0 ≤ n) :
    rateDigits? ("rate=" ++ toString n ++ "r/s") = some (Nat.toDigits 10 n.natAbs) := by
  have htake : "r/s".toList.takeWhile isDecimal = [] := by decide
  rw [rateDigits?, String.toList_append, String.toList_append, toList_toString h, List.append_assoc]
  dsimp only
  rw [isPrefixOf_append_self, if_pos rfl, List.drop_left, spanDigits_toDigits htake]
  dsimp only
  rw [isEmpty_toDigits]
  rfl

theorem limitBurst?_toString {n : Int} (h : 0 ≤ n) :
    limitBurst? ["zone=" ++ rateLimitZone, "burst=" ++ toString n, "nodelay"] =
      some (some (Nat.toDigits 10 n.natAbs)) := by
  have hcs : (joinWith " " ["zone=" ++ rateLimitZone, "burst=" ++ toString n, "nodelay"]).toList =
      ("zone=" ++ rateLimitZone).toList ++ (" burst=".toList ++ (Nat.toDigits 10 n.natAbs ++ " nodelay".toList)) := by
    simp only [joinWith_cons_cons, joinWith_singleton, String.toList_append, toList_toString h,
      List.append_assoc]
    rfl
  have htake : " nodelay".toList.takeWhile isDecimal = [] := by decide
  rw [limitBurst?, hcs]
  dsimp only
  rw [isPrefixOf_append_self, List.drop_left, isPrefixOf_append_self,
    show 7 = " burst=".toList.length from rfl, List.drop_left,
    spanDigits_toDigits htake]
  dsimp only
  rw [isEmpty_toDigits]
  rfl

/-! ### Pool members -/

theorem numberFrom_toString {n : Int} (h : 0 ≤ n) (hf : FewDigits n) {least : Nat} (hl : (least : Int) ≤ n)
    (fallback : Nat) : numberFrom least fallback (toString n) = .ok n.natAbs := by
  rw [numberFrom, toList_toString h, if_pos (isNumber_toDigits _), readNumber_toDigits hf]
  show Except.ok (if least ≤ n.natAbs then n.natAbs else fallback) = Except.ok n.natAbs
  rw [if_pos (by omega)]

theorem cutAtChar_append (key : String) (h : ∀ c ∈ key.toList, (c != '=') = true) (value : String) :
    cutAtChar '=' (key ++ "=" ++ value) = (key, value) := by
  have hcs : (key ++ "=" ++ value).toList = key.toList ++ '=' :: value.toList := by
    simp only [String.toList_append, List.append_assoc]
    rfl
  rw [cutAtChar, hcs, List.takeWhile_append_of_pos h, List.dropWhile_append_of_pos h]
  simp

namespace PoolMember
variable (m : PoolMember) (value : String)

theorem addParameter_weight :
    m.addParameter ("weight=" ++ value) = (numberFrom 1 1 value).map fun n => ({ m with weight := n }, []) := by
  have hcut : cutAtChar '=' ("weight=" ++ value) = ("weight", value) :=
    cutAtChar_append "weight" (List.all_eq_true.1 (by decide)) value
  rw [addParameter, hcut]
  rfl

theorem addParameter_maxFails :
    m.addParameter ("max_fails=" ++ value) = (numberFrom 0 1 value).map fun n => ({ m with maxFails := n }, []) := by
  have hcut : cutAtChar '=' ("max_fails=" ++ value) = ("max_fails", value) :=
    cutAtChar_append "max_fails" (List.all_eq_true.1 (by decide)) value
  rw [addParameter, hcut]
  rfl

theorem addParameter_failTimeout :
    m.addParameter ("fail_timeout=" ++ value) =
      (readSeconds value).map fun s => ({ m with failTimeout := s.getD 10 }, []) := by
  have hcut : cutAtChar '=' ("fail_timeout=" ++ value) = ("fail_timeout", value) :=
    cutAtChar_append "fail_timeout" (List.all_eq_true.1 (by decide)) value
  rw [addParameter, hcut]
  rfl

end PoolMember
end SiteConf
