import SeriesGateway.Decimal.Binary

/-! # Durations

Spans of time in whole nanoseconds, their short text with the largest fitting
unit, and conversion from and to seconds as a binary64 number.
-/

namespace SeriesGateway

def Duration.nanosPerSecond : Nat := 1000000000

/-- Nanoseconds below this bound can be held, which are 64 bits of seconds. -/
def Duration.nanosLimit : Nat := UInt64.size * nanosPerSecond

/-- A span of time. -/
@[ext]
structure Duration where
  nanos : Nat
  fits : nanos < Duration.nanosLimit
deriving DecidableEq, Repr

namespace Duration

/-- The longest duration stands for all longer ones. -/
def ofNanos (nanos : Nat) : Duration :=
  ⟨min nanos (nanosLimit - 1), Nat.lt_of_le_of_lt (Nat.min_le_right _ _) (by decide)⟩

def zero : Duration := .ofNanos 0

instance : Inhabited Duration := ⟨zero⟩

def ofSeconds (seconds : Nat) : Duration := .ofNanos (seconds * nanosPerSecond)

def ofMillis (millis : Nat) : Duration := .ofNanos (millis * 1000000)

theorem ofNanos_mono {shorter longer : Nat} (h : shorter ≤ longer) :
    (ofNanos shorter).nanos ≤ (ofNanos longer).nanos := by
  simp only [ofNanos]
  omega

theorem ofSeconds_mono {shorter longer : Nat} (h : shorter ≤ longer) :
    (ofSeconds shorter).nanos ≤ (ofSeconds longer).nanos :=
  ofNanos_mono (Nat.mul_le_mul_right _ h)

/-- Whole seconds. -/
def seconds (d : Duration) : Nat := d.nanos / nanosPerSecond

/-- Nanoseconds beyond the whole seconds. -/
def subsecond (d : Duration) : Nat := d.nanos % nanosPerSecond

/-- Whole milliseconds that cover the duration. -/
def millisCovering (d : Duration) : Nat := (d.nanos + 999999) / 1000000

instance : LT Duration := ⟨fun a b => a.nanos < b.nanos⟩
instance : LE Duration := ⟨fun a b => a.nanos ≤ b.nanos⟩
instance (a b : Duration) : Decidable (a < b) := inferInstanceAs (Decidable (a.nanos < b.nanos))
instance (a b : Duration) : Decidable (a ≤ b) := inferInstanceAs (Decidable (a.nanos ≤ b.nanos))

/-- The decimals of `part / whole`, for a power of ten `10 ^ places` as the
whole, without trailing zeros and with the point in front if there are any. -/
def fractionText (part places : Nat) : String :=
  let digits := Nat.toDigits 10 part
  let shown := List.replicate (places - digits.length) '0' ++ digits
  if part = 0 then ""
  else "." ++ String.ofList (shown.reverse.dropWhile (· == '0')).reverse

/-- Text in the largest of the units `s`, `ms`, `µs` and `ns` that the duration
reaches, with as many decimals as it needs. -/
def text (d : Duration) : String :=
  let n := d.nanos
  if n ≥ nanosPerSecond then s!"{d.seconds}{fractionText d.subsecond 9}s"
  else if n ≥ 1000000 then s!"{n / 1000000}{fractionText (n % 1000000) 6}ms"
  else if n ≥ 1000 then s!"{n / 1000}{fractionText (n % 1000) 3}µs"
  else s!"{n}ns"

/-- The nearest duration to a number of seconds; a half nanosecond goes to the
even neighbour. Negative numbers, NaN and numbers beyond the limit have none. -/
def ofSample? (s : Sample) : Option Duration :=
  if s.isNaN ∨ s.isInfinite ∨ (s.isNegative ∧ s.magnitude ≠ 0) then none
  else
    let e := s.exponent
    let nanos :=
      roundHalfEven (s.significand * nanosPerSecond * Nat.pow 2 e.toNat) (Nat.pow 2 (-e).toNat)
    if h : nanos < nanosLimit then some ⟨nanos, h⟩ else none

/-- The duration as a number of seconds: the rounded sum of its whole seconds
and its rounded fraction. -/
def toSample (d : Duration) : Sample :=
  .ofFloat (Float.ofNat d.seconds + Float.ofNat d.subsecond / Float.ofNat nanosPerSecond)

end Duration

end SeriesGateway
