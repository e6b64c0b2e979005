import Polystore.Json.Basic

/-!
# The values of doubles

The value of a double is a multiple of the least positive one, so it is told by a whole number
(`Binary64.units`).  The magnitudes are numbered in the order of their values, and the magnitude
nearest to a whole number has the value of that number rounded to 53 binary digits (`rounded`).
Numbers are therefore compared by the values of their nearest doubles:

    compare m.order n.order = compare m.units n.units                  (compare_order)
    compare (orderOfInt i) (orderOfInt j) = compare (rounded i) (rounded j)

Rounding keeps the order of whole numbers, and it changes none below `2 ^ 53`.
-/

namespace Polystore.Decimal

/-! ## Powers of two -/

theorem twoTo_pos (n : Nat) : 0 < twoTo n := Nat.two_pow_pos n

theorem twoTo_add (m n : Nat) : twoTo (m + n) = twoTo m * twoTo n := Nat.pow_add 2 m n

theorem twoTo_succ (n : Nat) : twoTo (n + 1) = 2 * twoTo n := by
  rw [twoTo_add, Nat.mul_comm]
  rfl

theorem twoTo_le_twoTo {m n : Nat} (h : m ≤ n) : twoTo m ≤ twoTo n :=
  Nat.pow_le_pow_right (by decide) h

theorem twoTo_log2_le {n : Nat} (hn : n ≠ 0) : twoTo n.log2 ≤ n := Nat.log2_self_le hn

theorem lt_twoTo_log2 (n : Nat) : n < twoTo (n.log2 + 1) := Nat.lt_log2_self

theorem fractionUnit_eq : fractionUnit = 4503599627370496 := rfl

/-! ## Magnitudes -/

/-- The value of a magnitude in units of the least positive double. -/
def unitsOf (m : Nat) : Nat :=
  if m < fractionUnit then m
  else (fractionUnit + m % fractionUnit) * twoTo (m / fractionUnit - 1)

theorem unitsOf_zero : unitsOf 0 = 0 := rfl

/-- A significand with its exponent; the significand may be the first that is too large. -/
theorem unitsOf_add {e q : Nat} (hq : fractionUnit ≤ q) (hle : q ≤ 2 * fractionUnit) :
    unitsOf (e * fractionUnit + q) = q * twoTo e := by
  rw [unitsOf, if_neg (by omega)]
  rcases Nat.lt_or_eq_of_le hle with hlt | rfl
  · have hdiv : (e * fractionUnit + q) / fractionUnit - 1 = e := by
      rw [fractionUnit_eq] at *
      omega
    have hmod : fractionUnit + (e * fractionUnit + q) % fractionUnit = q := by
      rw [fractionUnit_eq] at *
      omega
    rw [hdiv, hmod]
  · have hdiv : (e * fractionUnit + 2 * fractionUnit) / fractionUnit - 1 = e + 1 := by
      rw [fractionUnit_eq]
      omega
    have hmod : (e * fractionUnit + 2 * fractionUnit) % fractionUnit = 0 := by
      rw [fractionUnit_eq]
      omega
    rw [hdiv, hmod, twoTo_succ, Nat.add_zero, Nat.mul_left_comm, Nat.mul_assoc]

theorem unitsOf_lt_succ (m : Nat) : unitsOf m < unitsOf (m + 1) := by
  by_cases hm : m < fractionUnit
  · have hsucc : unitsOf (m + 1) = m + 1 := by
      by_cases hm' : m + 1 < fractionUnit
      · rw [unitsOf, if_pos hm']
      · have heq : m + 1 = 0 * fractionUnit + fractionUnit := by omega
        rw [heq, unitsOf_add (Nat.le_refl _) (by omega)]
        show fractionUnit * 1 = _
        omega
    rw [hsucc, unitsOf, if_pos hm]
    omega
  · -- The next magnitude has the next significand, with the same exponent.
    obtain ⟨e, q, rfl, hq, hlt⟩ : ∃ e q, m = e * fractionUnit + q ∧ fractionUnit ≤ q ∧
        q < 2 * fractionUnit := by
      refine ⟨m / fractionUnit - 1, fractionUnit + m % fractionUnit, ?_, ?_⟩
      · rw [fractionUnit_eq] at *
        omega
      · have hlt := Nat.mod_lt m (show 0 < fractionUnit by decide)
        omega
    rw [Nat.add_assoc, unitsOf_add hq (by omega), unitsOf_add (by omega) (by omega)]
    exact Nat.mul_lt_mul_of_pos_right (by omega) (twoTo_pos e)

/-- Magnitudes grow with the value. -/
theorem unitsOf_lt {m n : Nat} (h : m < n) : unitsOf m < unitsOf n := by
  induction h with
  | refl => exact unitsOf_lt_succ m
  | step _ ih => exact Nat.lt_trans ih (unitsOf_lt_succ _)

/-! ## Doubles -/

/-- The value of a double in units of the least positive one. -/
def Binary64.units (x : Binary64) : Int :=
  (if x.negative then -1 else 1) * (x.significand * twoTo (x.exponent + 1074).toNat : Nat)

/-- The value of a signed magnitude. -/
def unitsOfOrder (o : Int) : Int := if o < 0 then -(unitsOf o.natAbs : Int) else unitsOf o.natAbs

theorem unitsOfOrder_natCast (m : Nat) : unitsOfOrder m = unitsOf m := by
  rw [unitsOfOrder, if_neg (by omega), Int.natAbs_natCast]

theorem unitsOfOrder_neg (m : Nat) : unitsOfOrder (-(m : Int)) = -(unitsOf m : Int) := by
  rw [unitsOfOrder, Int.natAbs_neg, Int.natAbs_natCast]
  by_cases hm : m = 0
  · rw [hm]
    rfl
  · rw [if_pos (by omega)]

theorem Binary64.units_eq (x : Binary64) : x.units = unitsOfOrder x.order := by
  have hmagnitude : x.significand * twoTo (x.exponent + 1074).toNat = unitsOf x.magnitude := by
    rw [significand, exponent, unitsOf]
    by_cases hm : x.magnitude < fractionUnit
    · rw [if_pos hm, if_pos hm, if_pos hm]
      exact Nat.mul_one _
    · have hexp : (((x.magnitude / fractionUnit : Nat) : Int) - 1075 + 1074).toNat =
          x.magnitude / fractionUnit - 1 := by omega
      rw [if_neg hm, if_neg hm, if_neg hm, hexp]
  rw [units, hmagnitude, order]
  cases x.negative with
  | false => exact (Int.one_mul _).trans (unitsOfOrder_natCast _).symm
  | true => exact (Int.neg_one_mul _).trans (unitsOfOrder_neg _).symm

theorem unitsOfOrder_lt {i j : Int} (h : i < j) : unitsOfOrder i < unitsOfOrder j := by
  have habs : ∀ {m n : Nat}, m < n → (unitsOf m : Int) < unitsOf n :=
    fun hmn => Int.ofNat_lt.2 (unitsOf_lt hmn)
  rw [unitsOfOrder, unitsOfOrder]
  by_cases hj : j < 0
  · rw [if_pos (by omega), if_pos hj]
    have := habs (show j.natAbs < i.natAbs by omega)
    omega
  · rw [if_neg hj]
    by_cases hi : i < 0
    · rw [if_pos hi]
      have := habs (show 0 < i.natAbs by omega)
      have hzero : unitsOf 0 = 0 := rfl
      omega
    · rw [if_neg hi]
      exact habs (by omega)

/-- A map that keeps the strict order keeps comparisons. -/
theorem compare_map {f : Int → Int} (hf : ∀ {i j}, i < j → f i < f j) (i j : Int) :
    compare (f i) (f j) = compare i j := by
  rcases Int.lt_trichotomy i j with h | rfl | h
  · rw [Int.compare_eq_lt.2 h, Int.compare_eq_lt.2 (hf h)]
  · rw [Int.compare_eq_eq.2 rfl, Int.compare_eq_eq.2 rfl]
  · rw [Int.compare_eq_gt.2 h, Int.compare_eq_gt.2 (hf h)]

/-! ## Rounding -/

/-- The quotient or the next number. -/
theorem roundDiv_cases (n d : Nat) : roundDiv n d = n / d ∨ roundDiv n d = n / d + 1 := by
  simp only [roundDiv]
  split
  · exact .inr rfl
  · exact .inl rfl

theorem roundDiv_one (n : Nat) : roundDiv n 1 = n := by
  simp [roundDiv, Nat.mod_one]

theorem roundDiv_mono {m n d : Nat} (h : m ≤ n) : roundDiv m d ≤ roundDiv n d := by
  have hdiv : m / d ≤ n / d := Nat.div_le_div_right h
  rcases Nat.lt_or_eq_of_le hdiv with hlt | heq
  · have hm := roundDiv_cases m d
    have hn := roundDiv_cases n d
    omega
  · -- With one quotient, the number with the greater remainder is the one that is rounded up.
    have hmod : m % d ≤ n % d := by
      have hm := Nat.div_add_mod m d
      have hn := Nat.div_add_mod n d
      rw [heq] at hm
      omega
    simp only [roundDiv, ← heq, Bool.or_eq_true, Bool.and_eq_true, decide_eq_true_eq, beq_iff_eq]
    by_cases hup : d < 2 * (m % d) ∨ 2 * (m % d) = d ∧ m / d % 2 = 1
    · have hup' : d < 2 * (n % d) ∨ 2 * (n % d) = d ∧ m / d % 2 = 1 := by omega
      exact Nat.le_of_eq ((if_pos hup).trans (if_pos hup').symm)
    · rw [if_neg hup]
      split <;> omega

/-- Binary digits beyond the 53 of a significand. -/
def excess (n : Nat) : Nat := n.log2 - 52

/-- The number rounded to 53 binary digits, ties going to the even one. -/
def roundedNat (n : Nat) : Nat := roundDiv n (twoTo (excess n)) * twoTo (excess n)

theorem roundedNat_of_lt {n : Nat} (h : n < twoTo 53) : roundedNat n = n := by
  have hexcess : excess n = 0 := by
    by_cases hn : n = 0
    · rw [hn]
      rfl
    · have := (Nat.log2_lt hn).2 h
      rw [excess]
      omega
  rw [roundedNat, hexcess]
  show roundDiv n 1 * 1 = n
  rw [roundDiv_one, Nat.mul_one]

/-- A number of more than 53 digits has a quotient of 53 digits. -/
theorem roundDiv_bounds {n : Nat} (h : 52 ≤ n.log2) :
    fractionUnit ≤ roundDiv n (twoTo (excess n)) ∧
      roundDiv n (twoTo (excess n)) ≤ 2 * fractionUnit := by
  have hn : n ≠ 0 := by
    rintro rfl
    exact absurd h (by decide)
  have hlog : n.log2 = 52 + excess n := by
    rw [excess]
    omega
  have hpos := twoTo_pos (excess n)
  have hlow : fractionUnit ≤ n / twoTo (excess n) := by
    rw [Nat.le_div_iff_mul_le hpos, fractionUnit, ← twoTo_add, ← hlog]
    exact twoTo_log2_le hn
  have hhigh : n / twoTo (excess n) < 2 * fractionUnit := by
    rw [Nat.div_lt_iff_lt_mul hpos, fractionUnit, ← twoTo_succ, ← twoTo_add,
      show 52 + 1 + excess n = n.log2 + 1 by omega]
    exact lt_twoTo_log2 n
  rcases roundDiv_cases n (twoTo (excess n)) with h' | h' <;> omega

/-- Rounding stays between the powers of two around a number. -/
theorem roundedNat_bounds {n : Nat} (hn : n ≠ 0) :
    twoTo n.log2 ≤ roundedNat n ∧ roundedNat n ≤ twoTo (n.log2 + 1) := by
  by_cases h : n.log2 < 52
  · have hlt : n < twoTo 53 :=
      Nat.lt_of_lt_of_le (lt_twoTo_log2 n) (twoTo_le_twoTo (by omega))
    rw [roundedNat_of_lt hlt]
    exact ⟨twoTo_log2_le hn, Nat.le_of_lt (lt_twoTo_log2 n)⟩
  · obtain ⟨hlow, hhigh⟩ := roundDiv_bounds (n := n) (by omega)
    have hlog : n.log2 = 52 + excess n := by
      rw [excess]
      omega
    rw [hlog, Nat.add_right_comm, twoTo_add, twoTo_add (52 + 1), twoTo_succ]
    exact ⟨Nat.mul_le_mul_right _ hlow, Nat.mul_le_mul_right _ hhigh⟩

theorem log2_mono {m n : Nat} (hm : m ≠ 0) (h : m ≤ n) : m.log2 ≤ n.log2 :=
  (Nat.le_log2 (by omega)).2 (Nat.le_trans (Nat.log2_self_le hm) h)

theorem roundedNat_mono {m n : Nat} (h : m ≤ n) : roundedNat m ≤ roundedNat n := by
  by_cases hm : m = 0
  · rw [hm]
    exact Nat.zero_le _
  rcases Nat.lt_or_eq_of_le (log2_mono hm h) with hlt | heq
  · calc roundedNat m ≤ twoTo (m.log2 + 1) := (roundedNat_bounds hm).2
      _ ≤ twoTo n.log2 := twoTo_le_twoTo hlt
      _ ≤ roundedNat n := (roundedNat_bounds (by omega)).1
  · have hexcess : excess m = excess n := by rw [excess, excess, heq]
    rw [roundedNat, roundedNat, hexcess]
    exact Nat.mul_le_mul_right _ (roundDiv_mono h)

/-- The exponent of a whole number is that of its highest digit. -/
theorem log2Ratio_one {n : Nat} (hn : n ≠ 0) : log2Ratio n 1 = n.log2 := by
  have hle : 1 * twoTo (((n.log2 : Int) - (1 : Nat).log2).toNat) ≤
      n * twoTo (-((n.log2 : Int) - (1 : Nat).log2)).toNat := by
    have hlog : (n.log2 : Int) - (1 : Nat).log2 = n.log2 := Int.sub_zero _
    rw [hlog, Int.toNat_natCast, Nat.one_mul, show (-(n.log2 : Int)).toNat = 0 by omega]
    exact Nat.le_trans (twoTo_log2_le hn) (Nat.le_mul_of_pos_right n (twoTo_pos 0))
  simp only [log2Ratio]
  rw [if_pos hle]
  exact Int.sub_zero _

/-- The magnitude nearest to a whole number has the value of the rounded number. -/
theorem unitsOf_roundRatio (n : Nat) : unitsOf (roundRatio n 1) = roundedNat n * twoTo 1074 := by
  by_cases hn : n = 0
  · rw [hn, roundRatio, if_pos rfl, unitsOf_zero, roundedNat_of_lt (twoTo_pos 53), Nat.zero_mul]
  simp only [roundRatio, if_neg hn, log2Ratio_one hn]
  by_cases h : n.log2 < 52
  · have hlt : n < twoTo 53 :=
      Nat.lt_of_lt_of_le (lt_twoTo_log2 n) (twoTo_le_twoTo (by omega))
    -- The fraction field has room for more digits than the number has.
    have hscale : max ((n.log2 : Int) - 52) (-1074) = -((52 - n.log2 : Nat) : Int) := by omega
    have hlow : fractionUnit ≤ n * twoTo (52 - n.log2) := by
      have hmul := Nat.mul_le_mul_right (twoTo (52 - n.log2)) (twoTo_log2_le hn)
      rw [← twoTo_add, show n.log2 + (52 - n.log2) = 52 by omega] at hmul
      exact hmul
    have hhigh : n * twoTo (52 - n.log2) ≤ 2 * fractionUnit := by
      have hmul := Nat.mul_le_mul_right (twoTo (52 - n.log2)) (Nat.le_of_lt (lt_twoTo_log2 n))
      rw [← twoTo_add, show n.log2 + 1 + (52 - n.log2) = 52 + 1 by omega, twoTo_succ] at hmul
      exact hmul
    rw [hscale, Int.neg_neg, Int.toNat_natCast,
      show (-((52 - n.log2 : Nat) : Int) + 1074).toNat = 1022 + n.log2 by omega,
      show (-((52 - n.log2 : Nat) : Int)).toNat = 0 by omega]
    show unitsOf (_ + roundDiv _ (1 * 1)) = _
    rw [Nat.mul_one, roundDiv_one, unitsOf_add hlow hhigh, roundedNat_of_lt hlt, Nat.mul_assoc,
      ← twoTo_add, show 52 - n.log2 + (1022 + n.log2) = 1074 by omega]
  · obtain ⟨hlow, hhigh⟩ := roundDiv_bounds (n := n) (by omega)
    have hscale : max ((n.log2 : Int) - 52) (-1074) = (excess n : Int) := by
      rw [excess]
      omega
    rw [hscale, Int.toNat_natCast, Nat.one_mul,
      show ((excess n : Int) + 1074).toNat = excess n + 1074 by omega,
      show (-(excess n : Int)).toNat = 0 by omega]
    show unitsOf (_ + roundDiv (n * 1) _) = _
    rw [Nat.mul_one, unitsOf_add hlow hhigh, roundedNat, twoTo_add, Nat.mul_assoc]

/-! ## Whole numbers -/

/-- The value of the double nearest to a whole number; no bound on exponents is made. -/
def rounded (i : Int) : Int := if i < 0 then -(roundedNat i.natAbs : Int) else roundedNat i.natAbs

theorem unitsOfOrder_orderOfInt (i : Int) :
    unitsOfOrder (orderOfInt i) = rounded i * twoTo 1074 := by
  rw [orderOfInt, rounded]
  split
  · rw [unitsOfOrder_neg, unitsOf_roundRatio, Int.neg_mul, Int.natCast_mul]
  · rw [unitsOfOrder_natCast, unitsOf_roundRatio, Int.natCast_mul]

theorem rounded_mono {i j : Int} (h : i ≤ j) : rounded i ≤ rounded j := by
  have habs : ∀ {m n : Nat}, m ≤ n → (roundedNat m : Int) ≤ roundedNat n :=
    fun hmn => Int.ofNat_le.2 (roundedNat_mono hmn)
  rw [rounded, rounded]
  by_cases hj : j < 0
  · rw [if_pos (by omega), if_pos hj]
    have := habs (show j.natAbs ≤ i.natAbs by omega)
    omega
  · rw [if_neg hj]
    by_cases hi : i < 0
    · rw [if_pos hi]
      omega
    · rw [if_neg hi]
      exact habs (by omega)

/-- Numbers of no more than 53 binary digits are doubles. -/
theorem rounded_of_lt {i : Int} (h : i.natAbs < twoTo 53) : rounded i = i := by
  rw [rounded, roundedNat_of_lt h]
  split <;> omega

/-- Nothing but a number of no more than 53 binary digits is rounded to it. -/
theorem eq_of_rounded_eq {i j : Int} (hj : j.natAbs < twoTo 53) (h : rounded i = rounded j) :
    i = j := by
  rw [rounded_of_lt hj] at h
  by_cases hi : i.natAbs < twoTo 53
  · rw [rounded_of_lt hi] at h
    exact h
  · have hpos := twoTo_pos 53
    have hne : i.natAbs ≠ 0 := by omega
    have hlog : 53 ≤ i.natAbs.log2 := (Nat.le_log2 hne).2 (Nat.le_of_not_lt hi)
    have hlarge : twoTo 53 ≤ roundedNat i.natAbs :=
      Nat.le_trans (twoTo_le_twoTo hlog) (roundedNat_bounds hne).1
    rw [rounded] at h
    split at h <;> omega

/-- Rounding is no loss for a comparison exactly if it does not make the numbers equal. -/
theorem compare_rounded_iff (i j : Int) :
    compare (rounded i) (rounded j) = compare i j ↔ (rounded i = rounded j → i = j) := by
  rcases Int.lt_trichotomy i j with h | rfl | h
  · have hle := rounded_mono (Int.le_of_lt h)
    rw [Int.compare_eq_lt.2 h, Int.compare_eq_lt]
    omega
  · simp
  · have hle := rounded_mono (Int.le_of_lt h)
    rw [Int.compare_eq_gt.2 h, Int.compare_eq_gt]
    omega

/-- Whole numbers are compared by the values of their nearest doubles. -/
theorem compare_orderOfInt (i j : Int) :
    compare (orderOfInt i) (orderOfInt j) = compare (rounded i) (rounded j) := by
  have hscaled : ∀ {k l : Int}, k < l → k * twoTo 1074 < l * twoTo 1074 :=
    fun hkl => Int.mul_lt_mul_of_pos_right hkl (Int.natCast_pos.2 (twoTo_pos 1074))
  rw [← compare_map unitsOfOrder_lt, unitsOfOrder_orderOfInt, unitsOfOrder_orderOfInt,
    compare_map hscaled]

end Polystore.Decimal

namespace Polystore.Number

open Decimal

/-- The value of the nearest double in units of the least positive one. -/
def units : Number → Int
  | .int i => rounded i * twoTo 1074
  | .double x => x.units

theorem units_eq (n : Number) : n.units = unitsOfOrder n.order := by
  cases n with
  | int i => exact (unitsOfOrder_orderOfInt i).symm
  | double x => exact x.units_eq

/-- Numbers are compared by the values of their nearest doubles. -/
theorem compare_order (m n : Number) : compare m.order n.order = compare m.units n.units := by
  rw [units_eq, units_eq, compare_map unitsOfOrder_lt]

end Polystore.Number
