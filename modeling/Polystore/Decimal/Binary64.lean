/-!
# Finite binary floating point

A finite double: a sign and a magnitude, which is the exponent field and the fraction field read
as one number.  Magnitudes grow with the value, so `Binary64.order`, the signed magnitude, orders
doubles by value and takes the two zeros for equal.

`roundRatio n d` is the magnitude nearest to the fraction `n / d`, ties going to the even one.
All of it is arithmetic on natural numbers.
-/

namespace Polystore.Decimal

/-! ## Powers -/

/-- A power of two. -/
def twoTo (n : Nat) : Nat := Nat.pow 2 n

/-- A power of ten. -/
def tenTo (n : Nat) : Nat := Nat.pow 10 n

/-! ## Doubles -/

/-- Number of fraction bits, as a factor. -/
def fractionUnit : Nat := twoTo 52

/-- The first magnitude that stands for no finite number. -/
def infiniteMagnitude : Nat := 2047 * fractionUnit

/-- A finite double. -/
structure Binary64 where
  negative : Bool
  magnitude : Nat
  magnitude_lt : magnitude < infiniteMagnitude
  deriving DecidableEq

namespace Binary64

/-- Zero. -/
def zero : Binary64 := ⟨false, 0, by decide⟩

instance : Inhabited Binary64 := ⟨zero⟩

/-- The double with this sign and magnitude, unless it is infinite. -/
def ofMagnitude? (negative : Bool) (m : Nat) : Option Binary64 :=
  if h : m < infiniteMagnitude then some ⟨negative, m, h⟩ else none

/-- A number that grows with the value of the double; both zeros have 0. -/
def order (x : Binary64) : Int := if x.negative then -(x.magnitude : Int) else x.magnitude

/-- Significand and exponent: the double is `± significand * 2 ^ exponent`. -/
def significand (x : Binary64) : Nat :=
  if x.magnitude < fractionUnit then x.magnitude
  else fractionUnit + x.magnitude % fractionUnit

/-- The exponent that goes with `significand`. -/
def exponent (x : Binary64) : Int :=
  if x.magnitude < fractionUnit then -1074 else (x.magnitude / fractionUnit : Nat) - 1075

/-- Is the neighbour below half as far as the one above?  So it is at every power of two that is
not the least normal number. -/
def atPowerOfTwo (x : Binary64) : Bool :=
  x.magnitude % fractionUnit == 0 && fractionUnit < x.magnitude

/-- The machine number. -/
def toFloat (x : Binary64) : Float :=
  Float.ofBits (UInt64.ofNat ((if x.negative then twoTo 63 else 0) + x.magnitude))

/-- The finite double of a machine number. -/
def ofFloat? (f : Float) : Option Binary64 :=
  let bits := f.toBits.toNat
  ofMagnitude? (twoTo 63 ≤ bits) (bits % twoTo 63)

end Binary64

/-! ## Rounding -/

/-- The quotient rounded to the nearest whole number, ties going to the even one. -/
def roundDiv (n d : Nat) : Nat :=
  let q := n / d
  let r := n % d
  if d < 2 * r || (2 * r == d && q % 2 == 1) then q + 1 else q

/-- The largest `e` with `2 ^ e ≤ n / d`, for positive `n` and `d`. -/
def log2Ratio (n d : Nat) : Int :=
  let e : Int := (n.log2 : Int) - d.log2
  if d * twoTo e.toNat ≤ n * twoTo (-e).toNat then e else e - 1

/-- The magnitude nearest to `n / d`; it is infinite if the fraction is too large for a double. -/
def roundRatio (n d : Nat) : Nat :=
  if n = 0 then 0
  else
    let scale : Int := max (log2Ratio n d - 52) (-1074)
    (scale + 1074).toNat * fractionUnit
      + roundDiv (n * twoTo (-scale).toNat) (d * twoTo scale.toNat)

/-- The order of the double nearest to a whole number. -/
def orderOfInt (i : Int) : Int :=
  if i < 0 then -(roundRatio i.natAbs 1 : Int) else roundRatio i.natAbs 1

/-- The double nearest to a whole number. -/
def nearestInt? (i : Int) : Option Binary64 := Binary64.ofMagnitude? (i < 0) (roundRatio i.natAbs 1)

/-- The double nearest to `m * 10 ^ e`, unless it is infinite.  Exponents far outside the range of
doubles are settled without computing the power. -/
def nearestDecimal? (negative : Bool) (m : Nat) (e : Int) : Option Binary64 :=
  if m = 0 then some ⟨negative, 0, by decide⟩
  else if 400 < e then none
  else if e + (Nat.log2 m : Int) < -1200 then some ⟨negative, 0, by decide⟩
  else Binary64.ofMagnitude? negative (roundRatio (m * tenTo e.toNat) (tenTo (-e).toNat))

end Polystore.Decimal
