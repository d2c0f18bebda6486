import SiteConf.Proofs.Ledger

/-!
# Body sizes in kilobytes

A body size in kilobytes becomes megabytes by a division in double precision, and the quotient is rounded up. So
the number of kilobytes is first rounded to 53 significant bits, and the megabytes are the least that hold what
comes out. When these are the megabytes that hold the size itself is said by `wholeMegabytes_upward_iff`. Main
statement: `Import.clientMaxBodySize_of_kilobytes`.
-/

namespace SiteConf
open Text Double

/-! ### Rounding to a double -/

/-- A number that 53 bits hold, and zeros behind them. -/
def IsDouble (n : Nat) : Prop := ∃ m e, m < 2 ^ 53 ∧ n = m * 2 ^ e

/-- The value of the last of the 53 bits of a number. -/
def lastPlace (n : Nat) : Nat := 2 ^ (n.log2 - 52)

theorem lastPlace_pos (n : Nat) : 0 < lastPlace n := Nat.pow_pos (by decide)

theorem lastPlace_of_lt {n : Nat} (h : n < 2 ^ 53) : lastPlace n = 1 := by
  have hlog : n.log2 - 52 = 0 := by
    rcases Nat.eq_zero_or_pos n with rfl | hpos
    · decide
    · have := (Nat.log2_lt (by omega)).2 h
      omega
  rw [lastPlace, hlog]
  rfl

theorem lastPlace_mul_le {n : Nat} (h : 2 ^ 53 ≤ n) : 2 ^ 52 * lastPlace n ≤ n := by
  have hne : n ≠ 0 := by omega
  have hlog : 52 ≤ n.log2 := (Nat.le_log2 hne).2 (by omega)
  rw [lastPlace, ← Nat.pow_add, Nat.add_sub_cancel' hlog]
  exact Nat.log2_self_le hne

theorem lt_mul_lastPlace (n : Nat) : n < 2 ^ 53 * lastPlace n := by
  rw [lastPlace, ← Nat.pow_add]
  exact Nat.lt_of_lt_of_le Nat.lt_log2_self (Nat.pow_le_pow_right (by decide) (by omega))

/-- A double that is no less than a power of two has no last place below that of the power. -/
theorem IsDouble.lastPlace_dvd {n x : Nat} (hx : IsDouble x) (h : 2 ^ n.log2 ≤ x) : lastPlace n ∣ x := by
  obtain ⟨m, e, hm, rfl⟩ := hx
  have hlt : 2 ^ n.log2 < 2 ^ (53 + e) := by
    rw [Nat.pow_add]
    exact Nat.lt_of_le_of_lt h (Nat.mul_lt_mul_of_pos_right hm (Nat.pow_pos (by decide)))
  have hlog : n.log2 < 53 + e := (Nat.pow_lt_pow_iff_right (by decide)).1 hlt
  exact Nat.dvd_mul_left_of_dvd (Nat.pow_dvd_pow 2 (by omega)) m

theorem toDoublePrecision_of_lt {n : Nat} (h : n < 2 ^ 53) : toDoublePrecision n = n := if_pos h

theorem toDoublePrecision_eq (n : Nat) : toDoublePrecision n = roundQuotient n (lastPlace n) * lastPlace n := by
  unfold toDoublePrecision
  split_ifs with h
  · rw [lastPlace_of_lt h]
    simp [roundQuotient, Nat.mod_one]
  · rfl

theorem lastPlace_dvd_toDoublePrecision (n : Nat) : lastPlace n ∣ toDoublePrecision n := by
  rw [toDoublePrecision_eq]
  exact Nat.dvd_mul_left _ _

theorem toDoublePrecision_near (n : Nat) :
    2 * toDoublePrecision n ≤ 2 * n + lastPlace n ∧ 2 * n ≤ 2 * toDoublePrecision n + lastPlace n := by
  rw [toDoublePrecision_eq]
  exact roundQuotient_near n (lastPlace_pos n)

theorem isDouble_toDoublePrecision (n : Nat) : IsDouble (toDoublePrecision n) := by
  have hquotient : n / lastPlace n < 2 ^ 53 := (Nat.div_lt_iff_lt_mul (lastPlace_pos n)).2 (lt_mul_lastPlace n)
  have hround : roundQuotient n (lastPlace n) ≤ 2 ^ 53 := by
    unfold roundQuotient
    dsimp only
    split_ifs <;> omega
  rw [toDoublePrecision_eq]
  rcases Nat.lt_or_eq_of_le hround with hlt | heq
  · exact ⟨_, _, hlt, rfl⟩
  · refine ⟨1, 53 + (n.log2 - 52), by decide, ?_⟩
    rw [heq, lastPlace, ← Nat.pow_add, Nat.one_mul]

/-- No double is nearer to a number than the one that it is rounded to. -/
theorem toDoublePrecision_nearest (n : Nat) {x : Nat} (hx : IsDouble x) :
    ((toDoublePrecision n : Int) - n).natAbs ≤ ((x : Int) - n).natAbs := by
  have hnear := toDoublePrecision_near n
  have hpos := lastPlace_pos n
  have hround := lastPlace_dvd_toDoublePrecision n
  -- two whole numbers of last places are the same, or a last place apart
  have hapart : ∀ y, lastPlace n ∣ y → ((toDoublePrecision n : Int) - n).natAbs ≤ ((y : Int) - n).natAbs := by
    intro y hy
    rcases Nat.lt_trichotomy y (toDoublePrecision n) with hlt | rfl | hgt
    · have := Nat.le_of_dvd (by omega) (Nat.dvd_sub hround hy)
      omega
    · exact Nat.le_refl _
    · have := Nat.le_of_dvd (by omega) (Nat.dvd_sub hy hround)
      omega
  by_cases h : 2 ^ n.log2 ≤ x
  · exact hapart x (hx.lastPlace_dvd h)
  · by_cases hn : n = 0
    · subst hn
      rw [toDoublePrecision_of_lt (by decide)]
      simp
    · -- below the power of two that starts the number, that power is nearer
      have hpower := hapart (2 ^ n.log2) (Nat.pow_dvd_pow 2 (Nat.sub_le _ _))
      have hself := Nat.log2_self_le hn
      omega

theorem toDoublePrecision_of_isDouble {n : Nat} (h : IsDouble n) : toDoublePrecision n = n := by
  have hnear := toDoublePrecision_nearest n h
  omega

/-- Rounding moves a number by one part in `2^53` at most. -/
theorem toDoublePrecision_relative (n : Nat) :
    2 ^ 53 * toDoublePrecision n ≤ 2 ^ 53 * n + n ∧ 2 ^ 53 * n ≤ 2 ^ 53 * toDoublePrecision n + n := by
  by_cases h : n < 2 ^ 53
  · rw [toDoublePrecision_of_lt h]
    exact ⟨Nat.le_add_right _ _, Nat.le_add_right _ _⟩
  · have hplace := lastPlace_mul_le (by omega : 2 ^ 53 ≤ n)
    have hnear := toDoublePrecision_near n
    omega

/-! ### Rounding up to megabytes -/

theorem lastPlace_dvd_or (n : Nat) : lastPlace n ∣ 1024 ∨ 1024 ∣ lastPlace n := by
  have hpow : (1024 : Nat) = 2 ^ 10 := rfl
  rw [lastPlace, hpow]
  exact (Nat.le_total _ _).imp (Nat.pow_dvd_pow 2) (Nat.pow_dvd_pow 2)

/-- The megabytes that a number of kilobytes becomes. -/
def wholeMegabytes (kilobytes : Nat) : Nat := (toDoublePrecision kilobytes + 1023) / 1024

theorem ensures_wholeMegabytes (kilobytes : Nat) : Ensures (megabytes kilobytes) (· = wholeMegabytes kilobytes) := by
  unfold megabytes
  dsimp only
  split_ifs
  · exact .error
  · exact .ok rfl

/-- The megabytes are the least that hold the kilobytes, just if these were not rounded down to whole megabytes, nor
up by a megabyte or more. -/
theorem wholeMegabytes_upward_iff (n : Nat) :
    1024 * wholeMegabytes n < n + 1024 ∧ n ≤ 1024 * wholeMegabytes n ↔
      (1024 ∣ toDoublePrecision n → n ≤ toDoublePrecision n) ∧ toDoublePrecision n < n + 1024 := by
  unfold wholeMegabytes
  by_cases hwhole : 1024 ∣ toDoublePrecision n
  · have hsize : 1024 * ((toDoublePrecision n + 1023) / 1024) = toDoublePrecision n := by omega
    rw [hsize, and_comm]
    simp [hwhole]
  · -- the rounded number lies inside a megabyte, with room for a last place on both sides
    have hplace : lastPlace n ∣ 1024 := by
      refine (lastPlace_dvd_or n).resolve_right fun h => hwhole ?_
      exact h.trans (lastPlace_dvd_toDoublePrecision n)
    have hrest : lastPlace n ∣ toDoublePrecision n % 1024 :=
      (Nat.dvd_mod_iff hplace).2 (lastPlace_dvd_toDoublePrecision n)
    have hbelow : lastPlace n ≤ toDoublePrecision n % 1024 := Nat.le_of_dvd (by omega) hrest
    have habove : lastPlace n ≤ 1024 - toDoublePrecision n % 1024 :=
      Nat.le_of_dvd (by omega) (Nat.dvd_sub hplace hrest)
    have hsize : 1024 * ((toDoublePrecision n + 1023) / 1024) + toDoublePrecision n % 1024 =
        toDoublePrecision n + 1024 := by omega
    have hnear := toDoublePrecision_near n
    omega

/-! ### What a server says -/

namespace Draft

/-- The size limit and its unit. -/
def bodySize (d : Draft) : Int × SizeUnit :=
  (d.site.performance.clientMaxBodySize, d.site.performance.clientMaxBodyUnit)

theorem isPart_bodySize : IsPart bodySize "client_max_body_size" where
  sets {d _ n _} h hne := by
    cases h
    case bodySize => exact absurd rfl hne
    case otherHeader => rw [bodySize, site_unmodelled, bodySize]
    all_goals rfl
  unmodelled d n := by rw [bodySize, site_unmodelled, bodySize]
  location d n := by
    refine (d.changes_location n).mono ?_
    rintro _ ⟨burst, caching, locations, ws, -, rfl⟩
    rfl

theorem bodySize_finish (d : Draft) : d.finish.bodySize = d.bodySize := by
  rw [finish_eq]
  show (((d.site.performance.settleBrotli d.brotliTypes).settleCaching d.caching).clientMaxBodySize,
    ((d.site.performance.settleBrotli d.brotliTypes).settleCaching d.caching).clientMaxBodyUnit) = d.bodySize
  cases d.brotliTypes <;> cases d.caching <;> rfl

theorem bodySize_of_kilobytes {d d' : Draft} {n : Node} (hn : n.isDirective "client_max_body_size" = true)
    {ds : List Char} (harg : splitSize? (n.arg 0) = some (ds, .kilo)) (h : d.serverStatement n = .ok d') :
    d'.bodySize = ((wholeMegabytes (digitsValue ds) : Int), SizeUnit.megabytes) := by
  have hstatement : d.serverStatement n = clientMaxBodySize d n := by
    cases n with
    | directive name args line =>
      obtain rfl : name = "client_max_body_size" := by simpa [Node.isDirective, Node.isBlock, Node.name] using hn
      rfl
    | block name args line children => cases hn
  rw [hstatement, clientMaxBodySize, harg] at h
  obtain ⟨size, hsize, h⟩ := exists_of_bind_eq_ok h
  obtain ⟨m, hm, h⟩ := exists_of_bind_eq_ok h
  rw [← Except.ok.inj h, ← ensures_digitsValue ds size hsize, ← ensures_wholeMegabytes size m hm]
  rfl

end Draft

namespace Import
variable {nodes : List Node} {errors : List String} {i : Import} {s : Node} {ss : List Node}

/-- A limit of a server in kilobytes is kept in megabytes: the least that hold the double nearest to it. They are the
least that hold the limit itself if it is a double, as all limits below `2^53` are; in general this fails just if the
limit is rounded down to whole megabytes, or up by a megabyte or more. It is never wrong by more than one part in
`2^53`. -/
theorem clientMaxBodySize_of_kilobytes (h : ofNodes nodes errors = .ok i)
    (hs : (fileScope nodes).filter Node.isServer = s :: ss) {n : Node}
    (hn : ((chooseServer s ss).1.children.filter (Node.isDirective "client_max_body_size")).getLast? = some n)
    {ds : List Char} {c : Char} (harg : (n.arg 0).toList = ds ++ [c]) (hds : isNumber ds = true)
    (hc : c = 'k' ∨ c = 'K') :
    let kilobytes := digitsValue ds
    let double := toDoublePrecision kilobytes
    let size := i.site.performance.clientMaxBodySize
    i.site.performance.clientMaxBodyUnit = .megabytes ∧
      (IsDouble double ∧ ∀ x, IsDouble x → ((double : Int) - kilobytes).natAbs ≤ ((x : Int) - kilobytes).natAbs) ∧
      (1024 * (size - 1) < double ∧ double ≤ 1024 * size) ∧
      (IsDouble kilobytes → 1024 * (size - 1) < kilobytes ∧ kilobytes ≤ 1024 * size) ∧
      (1024 * (size - 1) < kilobytes ∧ kilobytes ≤ 1024 * size ↔
        (1024 ∣ double → kilobytes ≤ double) ∧ double < kilobytes + 1024) ∧
      2 ^ 53 * (1024 * (size - 1)) < (2 ^ 53 + 1) * kilobytes ∧ (2 ^ 53 - 1) * kilobytes ≤ 2 ^ 53 * (1024 * size) := by
  intro kilobytes double size
  obtain ⟨d, e, f, -, he, ⟨us, hf⟩, hsite, -⟩ := exists_runs h hs
  have hdirective : n.isDirective "client_max_body_size" = true :=
    List.of_mem_filter (List.mem_of_getLast? hn)
  have hsplit : splitSize? (n.arg 0) = some (ds, .kilo) := by
    rcases hc with rfl | rfl
    · exact splitSize?_of_digits harg hds (by decide) (by decide) rfl
    · exact splitSize?_of_digits harg hds (by decide) (by decide) rfl
  obtain ⟨d₁, d₂, hlast, hrun⟩ := Draft.isPart_bodySize.run hn d e he
  have hend : f.finish.bodySize = ((wholeMegabytes kilobytes : Int), SizeUnit.megabytes) := by
    obtain ⟨upstream, ws, -, rfl⟩ := e.changes_withUpstreams us f hf
    rw [Draft.bodySize_finish]
    exact hrun.trans (Draft.bodySize_of_kilobytes hdirective hsplit hlast)
  rw [Draft.bodySize, ← hsite, Prod.mk.injEq] at hend
  have hsize : size = wholeMegabytes kilobytes := hend.1
  have hholds : 1024 * wholeMegabytes kilobytes < double + 1024 ∧ double ≤ 1024 * wholeMegabytes kilobytes := by
    unfold wholeMegabytes
    omega
  have hupward := wholeMegabytes_upward_iff kilobytes
  have hrelative := toDoublePrecision_relative kilobytes
  refine ⟨hend.2, ⟨isDouble_toDoublePrecision _, fun x => toDoublePrecision_nearest _⟩, by omega, ?_, by omega,
    by omega, by omega⟩
  intro hdouble
  have hsame : double = kilobytes := toDoublePrecision_of_isDouble hdouble
  omega

/-- A limit that is rounded down to whole megabytes, which do not hold it. -/
theorem clientMaxBodySize_of_kilobytes_lost :
    let n := Node.directive "client_max_body_size" ["9007199254740993k"] 3
    let server := Node.block "server" [] 1 [.directive "client_max_body_size" ["1m"] 2, n]
    ∃ i, ofNodes [server] [] = .ok i ∧ (fileScope [server]).filter Node.isServer = [server] ∧
      (server.children.filter (Node.isDirective "client_max_body_size")).getLast? = some n ∧
      (n.arg 0).toList = "9007199254740993".toList ++ ['k'] ∧ isNumber "9007199254740993".toList = true ∧
      i.site.performance.clientMaxBodyUnit = .megabytes ∧ i.site.performance.clientMaxBodySize = 2 ^ 43 ∧
      1024 * i.site.performance.clientMaxBodySize < 9007199254740993 := by
  intro n server
  obtain ⟨i, hi⟩ := exists_of_isOk (show (ofNodes [server] []).isOk = true by decide +kernel)
  have harg : (n.arg 0).toList = "9007199254740993".toList ++ ['k'] := by decide +kernel
  have hds : isNumber "9007199254740993".toList = true := by decide +kernel
  obtain ⟨hunit, -, hholds, -⟩ := clientMaxBodySize_of_kilobytes (n := n) hi rfl rfl harg hds (.inl rfl)
  have hdouble : toDoublePrecision (digitsValue "9007199254740993".toList) = 2 ^ 53 := by decide +kernel
  rw [hdouble] at hholds
  refine ⟨i, hi, rfl, rfl, harg, hds, hunit, by omega, by omega⟩

end Import

end SiteConf
