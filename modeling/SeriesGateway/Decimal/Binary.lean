import SeriesGateway.Sample

/-! # Binary64 numbers as exact rationals

The value of a finite sample is `significand * 2 ^ exponent`. Decimal texts and
durations are computed from these two numbers in exact arithmetic.
-/

namespace SeriesGateway

/-- Nearest natural number to `num / den`; a half goes to the even neighbour. -/
def roundHalfEven (num den : Nat) : Nat :=
  let quotient := num / den
  let doubled := 2 * (num % den)
  if doubled < den ∨ (doubled = den ∧ quotient % 2 = 0) then quotient else quotient + 1

namespace Sample

/-- The lowest exponent bit, as a number: fractions are below it. -/
def fractionUnit : Nat := 0x10000000000000

/-- The exponent bits, as a number. -/
def biasedExponent (s : Sample) : Nat := s.magnitude / fractionUnit

/-- The integer that the fraction bits denote, with the implicit leading bit of
a normal number. -/
def significand (s : Sample) : Nat :=
  let fraction := s.magnitude % fractionUnit
  if s.biasedExponent = 0 then fraction else fractionUnit + fraction

/-- The power of two that scales the significand. -/
def exponent (s : Sample) : Int :=
  if s.biasedExponent = 0 then -1074 else (s.biasedExponent : Int) - 1075

end Sample

end SeriesGateway
