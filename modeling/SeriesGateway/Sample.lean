/-! # Sample values

A sample is kept as the 64 bits it was stored with, so decoding, sorting and
deduplication move it bit for bit. Arithmetic goes through the binary64 number
the bits denote; order and the not-a-number test are read off the bits alone.
-/

namespace SeriesGateway

/-- One measured value, as the bits of a binary64 number. Two samples are equal
when their bits are, so `0.0` and `-0.0` differ and every NaN equals itself. -/
structure Sample where
  bits : UInt64
deriving DecidableEq, Repr, Inhabited

namespace Sample

/-- The sign bit alone, as a number. -/
def signUnit : Nat := 0x8000000000000000

/-- The bits below the sign, as a number: it grows with the absolute value. -/
def magnitude (s : Sample) : Nat := s.bits.toNat % signUnit

def isNegative (s : Sample) : Bool := decide (signUnit ≤ s.bits.toNat)

/-- The magnitude of infinity: all exponent bits set and no fraction bit. -/
def infinite : Nat := 0x7ff0000000000000

/-- A sample beyond both infinities is not a number. -/
def isNaN (s : Sample) : Bool := decide (infinite < s.magnitude)

def isInfinite (s : Sample) : Bool := decide (s.magnitude = infinite)

/-- Position of a sample on the number line. On samples that are numbers it is
strictly monotone, and both zeros are at the origin. -/
def rank (s : Sample) : Int :=
  if s.isNegative then -(s.magnitude : Int) else s.magnitude

/-- The quiet NaN with an empty payload. -/
def nan : Sample := ⟨0x7ff8000000000000⟩

def toFloat (s : Sample) : Float := Float.ofBits s.bits

def ofFloat (x : Float) : Sample := ⟨x.toBits⟩

/-- Rounded sum. -/
def add (a b : Sample) : Sample := ofFloat (a.toFloat + b.toFloat)

/-- Rounded quotient by a count. -/
def divCount (a : Sample) (count : Nat) : Sample :=
  ofFloat (a.toFloat / Float.ofNat count)

/-- The lesser of two numbers. Of two zeros of different signs either may be meant; this takes
the first. -/
def least (a b : Sample) : Sample := if b.rank < a.rank then b else a

/-- The greater of two numbers, the first of two zeros of different signs likewise. -/
def greatest (a b : Sample) : Sample := if a.rank < b.rank then b else a

end Sample

end SeriesGateway
