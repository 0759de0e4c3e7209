import SeriesGateway.Decimal.Binary

/-! # Shortest decimals

The shortest decimal that reads back as a given binary64 number, and among
those the nearest one. On the grid of decimals with a given number of digits
only the two neighbours of the value can be the answer, so the search tries one
grid after another and compares in exact arithmetic.
-/

namespace SeriesGateway.Decimal

/-- A positive decimal `0.d₁d₂… * 10 ^ point`, with digits as one number that
neither starts nor ends with a zero. -/
structure Digits where
  digits : Nat
  point : Int
deriving DecidableEq, Repr

/-- `a * 10 ^ e`, for either sign of `e`, as numerator and denominator. -/
def scaled (a : Nat) (e : Int) : Nat × Nat := (a * Nat.pow 10 e.toNat, Nat.pow 10 (-e).toNat)

/-- Number of decimal digits of `n`. -/
def length (n : Nat) : Nat := (Nat.toDigits 10 n).length

/-- Numbers between the two bounds read back as the same binary64 number. All
three are multiples of one power of two; `closed` tells whether the bounds
themselves belong to the interval. -/
structure Interval where
  low : Nat
  value : Nat
  high : Nat
  closed : Bool

/-- The interval around a positive finite sample, in quarters of its unit. The
unit below a power of two is half as large as the one above. -/
def Interval.around (s : Sample) : Interval :=
  let m := s.significand
  let below := if s.magnitude % Sample.fractionUnit = 0 ∧ 1 < s.biasedExponent then 1 else 2
  ⟨4 * m - below, 4 * m, 4 * m + 2, m % 2 = 0⟩

/-- Position of the decimal point of `num / den`: the least `p` such that the
quotient is below `10 ^ p`. The estimate is at most one off and is corrected. -/
def pointOf (num den : Nat) : Int :=
  let estimate : Int := (length num : Int) - length den
  let (a, b) := scaled den estimate
  if num * b < a then estimate else estimate + 1

/-- Drops trailing zeros; `fuel` bounds their number. -/
def dropZeros : (fuel digits : Nat) → Nat
  | 0, digits => digits
  | fuel + 1, digits =>
    if digits % 10 = 0 ∧ digits ≠ 0 then dropZeros fuel (digits / 10) else digits

/-- The decimal with at most `count` digits that lies in the interval and is
nearest to the value, if there is one. `num / den` scales the interval. -/
def onGrid? (i : Interval) (num den : Nat) (point : Int) (count : Nat) : Option Digits :=
  let (gridNum, gridDen) := scaled 1 (point - count)
  -- a grid point d lies at d * gridNum / gridDen, a bound b at b * num / den
  let unit := gridNum * den
  let place (b : Nat) := b * num * gridDen
  let floor := place i.value / unit
  let inside (d : Nat) : Bool :=
    if i.closed then place i.low ≤ d * unit && d * unit ≤ place i.high
    else place i.low < d * unit && d * unit < place i.high
  let excess := place i.value - floor * unit
  let lowFirst := 2 * excess < unit || (2 * excess == unit && floor % 2 == 0)
  let ordered := if lowFirst then [floor, floor + 1] else [floor + 1, floor]
  (ordered.find? fun d => d ≠ 0 && inside d).map fun d =>
    let kept := dropZeros 20 d
    ⟨kept, point + (length d - count : Int)⟩

/-- Seventeen digits always suffice for a binary64 number. -/
def maxDigits : Nat := 17

/-- The shortest decimal that reads back as the finite nonzero sample, without
its sign. -/
def shortest (s : Sample) : Digits :=
  let i := Interval.around s
  let e := s.exponent - 2
  let (num, den) := (Nat.pow 2 e.toNat, Nat.pow 2 (-e).toNat)
  let point := pointOf (i.value * num) den
  (((List.range maxDigits).map (· + 1)).findSome? (onGrid? i num den point)).getD ⟨0, 0⟩

end SeriesGateway.Decimal
