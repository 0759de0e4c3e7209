/-! # Arithmetic of steps and positions

Times are aligned to a step, steps have common multiples, and a position in a sequence is
found by halving. All results fit in the 32 bits of an epoch second.
-/

namespace SeriesGateway.Step

/-! ## Aligning times

Buckets start at multiples of their step. A step of zero is read as one.
-/

/-- A step of zero is read as one. -/
def positive (step : UInt32) : UInt32 := if step = 0 then 1 else step

/-- Largest multiple of `step` that is at most `value`. -/
def floor (value step : UInt32) : UInt32 := value - value % positive step

/-- Largest representable time. -/
def maxTime : UInt32 := 4294967295

/-- Smallest multiple of `step` that is at least `value`, or the largest
representable multiple if that one does not fit. -/
def ceil (value step : UInt32) : UInt32 :=
  let excess := value % positive step
  if excess = 0 then value
  else
    let missing := positive step - excess
    if value.toNat + missing.toNat < UInt32.size then value + missing else floor maxTime step

/-- Smallest number of parts of size `part` that cover `whole`; `part` is not zero. -/
def parts (whole part : UInt32) : UInt32 :=
  whole / part + if whole % part = 0 then 0 else 1

/-! ## Common multiples

The least common multiple of two steps, with zero as "no opinion" and an
explicit answer when the multiple does not fit in a step.
-/

/-- Greatest common divisor by repeated remainders. -/
def gcd (a b : UInt32) : UInt32 :=
  if _h : b = 0 then a else gcd b (a % b)
termination_by b.toNat
decreasing_by
  have hb : 0 < b.toNat := by
    rcases Nat.eq_zero_or_pos b.toNat with h0 | h0
    · exact absurd (UInt32.toNat_inj.1 (by simpa using h0)) _h
    · exact h0
  rw [UInt32.toNat_mod]
  exact Nat.mod_lt _ hb

/-- Least common multiple, where zero is neutral; `none` if it exceeds 32 bits. -/
def lcm? (a b : UInt32) : Option UInt32 :=
  if a = 0 ∨ b = 0 then some (max a b)
  else
    let quotient := a / gcd a b
    if quotient.toNat * b.toNat < UInt32.size then some (quotient * b) else none

end SeriesGateway.Step

/-! ## Binary search

Finds where a property stops to hold along a sequence in which no element with
the property follows one without it.
-/

namespace SeriesGateway.Search

/-- Halves the `size` elements from `base` on until one is left; it or the one
behind it is the first without the property. -/
def bisectFrom {α : Type} (items : Array α) (holds : α → Bool) (base size : Nat) : Nat :=
  if 1 < size then
    let middle := base + size / 2
    bisectFrom items holds (if items[middle]?.any holds then middle else base) (size - size / 2)
  else if items[base]?.any holds then base + 1
  else base
termination_by size

/-- Number of leading elements with a property. -/
def bisect {α : Type} (items : Array α) (holds : α → Bool) : Nat :=
  bisectFrom items holds 0 items.size

end SeriesGateway.Search
