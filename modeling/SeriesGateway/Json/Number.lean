import SeriesGateway.Decimal.Read
import SeriesGateway.Error

/-! # JSON numbers

The parts of a number literal and the value they denote. Whole numbers of 64 bits
are exact. Any other number is read as its leading digits, as far as 64 bits hold
them, scaled by one power of ten.
-/

namespace SeriesGateway.Json

/-- A well-formed number literal. An absent fraction differs from an empty one,
which no literal has. -/
structure Literal where
  negative : Bool
  whole : List Char
  fraction : Option (List Char)
  /-- Whether the exponent is negative, and its digits. -/
  exponent : Option (Bool × List Char)
deriving DecidableEq, Repr

/-- The value of a literal. -/
inductive Number where
  | natural (n : Nat)
  /-- A negative whole number, by its absolute value. -/
  | negative (n : Nat)
  | real (x : Sample)
deriving DecidableEq, Repr

namespace Literal

/-- Whole numbers up to here are exact, and significands go up to here. -/
def wholeLimit : Nat := UInt64.size

/-- Takes digits into a significand while it stays below the limit; gives the
significand and the number of digits that were left. -/
def significand (start : Nat) : List Char → Nat × Nat
  | [] => (start, 0)
  | c :: rest =>
    let next := 10 * start + Decimal.digitValue c
    if next < wholeLimit then significand next rest else (start, rest.length + 1)

/-- The greatest power of ten that a number is scaled by at once. -/
def maxPower : Nat := 308

def powerOfTen (n : Nat) : Float := Float.ofScientific 1 false n

/-- Scales a number by a power of ten; overflow is no number. Underflow takes
`fuel` divisions at most. -/
def scale : (fuel : Nat) → Float → Int → Option Float
  | 0, x, _ => some x
  | fuel + 1, x, exponent =>
    if exponent.natAbs ≤ maxPower then
      if 0 ≤ exponent then
        let scaled := x * powerOfTen exponent.toNat
        if scaled.isInf then none else some scaled
      else some (x / powerOfTen exponent.natAbs)
    else if x == 0 then some x
    else if 0 ≤ exponent then none
    else scale fuel (x / powerOfTen maxPower) (exponent + maxPower)

/-- Exponents beyond 32 bits are not added to the position of the point. -/
def exponentLimit : Nat := 2147483648

/-- The value of a literal with a fraction, an exponent or too many digits. -/
def real? (literal : Literal) : Option Sample :=
  let (leading, dropped) := significand 0 literal.whole
  let (digits, point) :=
    match literal.fraction with
    | none => (leading, (dropped : Int))
    | some fraction =>
      let (digits, left) := significand leading fraction
      (digits, (dropped : Int) - (fraction.length - left : Nat))
  let magnitude : Option Float :=
    match literal.exponent with
    | none => scale 4 (Float.ofNat digits) point
    | some (negative, exponent) =>
      let e := Decimal.ofDigits 0 exponent
      if exponentLimit ≤ e then
        if digits ≠ 0 ∧ !negative then none else some 0
      else scale 4 (Float.ofNat digits) (if negative then point - e else point + e)
  magnitude.map fun x => .ofFloat (if literal.negative then -x else x)

/-- The value of a literal; a number too large for binary64 has none. -/
def value (literal : Literal) : Except JsonFault Number :=
  let n := Decimal.ofDigits 0 literal.whole
  if literal.fraction.isNone ∧ literal.exponent.isNone ∧ n < wholeLimit ∧
      (!literal.negative ∨ (n ≠ 0 ∧ n ≤ Sample.signUnit)) then
    .ok (if literal.negative then .negative n else .natural n)
  else
    match literal.real? with
    | some x => .ok (.real x)
    | none => .error .malformed

end Literal

/-- The nearest binary64 number. -/
def Number.toSample : Number → Sample
  | natural n => .ofFloat (Float.ofNat n)
  | negative n => .ofFloat (-Float.ofNat n)
  | real x => x

end SeriesGateway.Json
