import Polystore.Decimal.Binary64

/-!
# Shortest decimal text

The decimal of a double is the shortest one that reads back as the same double; of two shortest
ones it is the nearer, and of two equally near ones the even one.

Digits are looked for on one decimal grid after the other, the coarsest first.  On a grid only the
two neighbours of the value need a test: if any point of the grid reads back, so does one of them.
-/

namespace Polystore.Decimal

/-! ## Digits -/

/-- Decimal digits with the position of the point: `0.d₁d₂… * 10 ^ point`, first digit not zero. -/
structure Digits where
  digits : List Char
  point : Int
  deriving DecidableEq

/-- The reals that round to a positive double, as fractions over one denominator. -/
structure Interval where
  value : Nat
  low : Nat
  high : Nat
  denominator : Nat
  closed : Bool

/-- The interval of a double that is not zero: halfway to its two neighbours.  The ends belong to
it if the significand is even. -/
def Interval.ofBinary64 (x : Binary64) : Interval :=
  let m := x.significand
  let up := twoTo x.exponent.toNat
  { value := 4 * m * up
    low := (4 * m - if x.atPowerOfTwo then 1 else 2) * up
    high := (4 * m + 2) * up
    denominator := 4 * twoTo (-x.exponent).toNat
    closed := m % 2 == 0 }

/-- Does `s * 10 ^ e` lie in the interval? -/
def Interval.holds (i : Interval) (s : Nat) (e : Int) : Bool :=
  let p := s * tenTo e.toNat * i.denominator
  let scale := tenTo (-e).toNat
  if i.closed then i.low * scale ≤ p && p ≤ i.high * scale
  else i.low * scale < p && p < i.high * scale

/-- The position of the point of the value: the least `k` with `value < 10 ^ k`.  The estimate
from the binary logarithm is exact or one too small. -/
def Interval.point (i : Interval) : Int :=
  let estimate : Int := (log2Ratio i.value i.denominator * 30103).fdiv 100000 + 1
  if i.value * tenTo (-estimate).toNat < i.denominator * tenTo estimate.toNat then estimate
  else estimate + 1

/-- The better of the two grid points around the value that reads back, on the grid of
`10 ^ e`. -/
def Interval.onGrid? (i : Interval) (e : Int) : Option Nat :=
  let num := i.value * tenTo (-e).toNat
  let den := i.denominator * tenTo e.toNat
  let s := num / den
  let rest := num % den
  match i.holds s e, i.holds (s + 1) e with
  | true, true =>
    if den < 2 * rest || (2 * rest == den && s % 2 == 1) then some (s + 1) else some s
  | true, false => some s
  | false, true => some (s + 1)
  | false, false => none

/-- The digits of a whole number without the zeros at its end, placed so that the number counts
`10 ^ e`. -/
def Digits.ofNat (s : Nat) (e : Int) : Digits :=
  let all := Nat.toDigits 10 s
  ⟨(all.reverse.dropWhile (· = '0')).reverse, e + all.length⟩

/-- The shortest digits of a double that is not zero. -/
def Digits.shortest (x : Binary64) : Digits :=
  let i := Interval.ofBinary64 x
  let k := i.point
  let grids := (List.range 17).map fun (n : Nat) => k - (n : Int) - 1
  match grids.findSome? fun e => (i.onGrid? e).map fun s => (s, e) with
  | some (s, e) => Digits.ofNat s e
  | none => Digits.ofNat 0 0

/-! ## Layout -/

/-- When the digits are written out and how an exponent is written. -/
structure Layout where
  /-- Points up to this one are written out in full. -/
  largestPoint : Int
  /-- Points above this one are written out in full. -/
  smallestPoint : Int

/-- Numbers are written out when the point stands after at most sixteen digits or before at most
four zeros; a fractional part is always there. -/
def Layout.json : Layout := ⟨16, -5⟩

/-- The text of some digits. -/
def Layout.text (l : Layout) (d : Digits) : String :=
  let n : Int := d.digits.length
  if 0 < d.point && d.point ≤ l.largestPoint then
    if n ≤ d.point then
      String.ofList (d.digits ++ List.replicate (d.point - n).toNat '0' ++ ['.', '0'])
    else
      String.ofList (d.digits.take d.point.toNat ++ '.' :: d.digits.drop d.point.toNat)
  else if l.smallestPoint < d.point && d.point ≤ 0 then
    String.ofList ('0' :: '.' :: (List.replicate (-d.point).toNat '0' ++ d.digits))
  else
    let fraction := match d.digits with
      | first :: c :: rest => first :: '.' :: c :: rest
      | ds => ds
    String.ofList fraction ++ "e" ++ toString (d.point - 1)

/-- The decimal text of a double; the sign of zero is written. -/
def Binary64.text (x : Binary64) : String :=
  (if x.negative then "-" else "") ++
    if x.magnitude = 0 then "0.0" else Layout.json.text (Digits.shortest x)

/-! ## Examples -/

example : (nearestDecimal? false 1 (-1)).map Binary64.text = some "0.1" := by decide +kernel
example : (nearestDecimal? false 5 (-324)).map Binary64.text = some "5e-324" := by decide +kernel
example : (nearestDecimal? false 1 23).map Binary64.text = some "1e23" := by decide +kernel
example : (nearestDecimal? true 15 (-8)).map Binary64.text = some "-1.5e-7" := by decide +kernel
example : (nearestDecimal? false 1 15).map Binary64.text = some "1000000000000000.0" := by
  decide +kernel
example : (nearestDecimal? false 1 16).map Binary64.text = some "1e16" := by decide +kernel

end Polystore.Decimal
