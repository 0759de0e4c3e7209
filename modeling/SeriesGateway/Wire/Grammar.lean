import Mathlib.Algebra.Group.Nat.Defs
import SeriesGateway.Wire.Row

/-! # The grammar of bodies

What a body may look like, said without a reader. A body is a sequence of rows, a
row a sequence of parts, and a part is a count in front of what it counts. Counts
are the only place where a body has a choice: a number may be followed by groups
of zeros, as long as all of it takes at most ten bytes.
-/

namespace SeriesGateway.Wire

/-- A number as it is spelled: groups of seven bits, where all bytes but the last
have their high bit set. A tenth byte holds at most one bit. -/
structure Numeral where
  leading : List UInt8
  last : UInt8
  leading_high : ∀ b ∈ leading, 128 ≤ b.toNat
  last_low : last.toNat < 128
  length_leading : leading.length < 10
  tenth : leading.length = 9 → last.toNat ≤ 1
deriving DecidableEq

namespace Numeral

def bytes (numeral : Numeral) : List UInt8 := numeral.leading ++ [numeral.last]

/-- The number in the low seven bits of each byte, lowest group first. -/
def ofGroups : List UInt8 → Nat
  | [] => 0
  | b :: rest => b.toNat % 128 + 128 * ofGroups rest

def value (numeral : Numeral) : Nat := ofGroups numeral.bytes

/-- No numeral of the same value is shorter. -/
def IsMinimal (numeral : Numeral) : Prop :=
  ∀ other : Numeral, other.value = numeral.value → numeral.bytes.length ≤ other.bytes.length

end Numeral

/-- Elements behind their count. -/
structure Counted (α : Type) where
  count : Numeral
  elements : List α
  value_count : count.value = elements.length
deriving DecidableEq

/-- Values of a type as numbers of a fixed width. -/
structure WordCoding (α : Type) where
  /-- Width in bytes. -/
  width : Nat
  toNat : α → Nat
  ofNat : Nat → α
  toNat_lt : ∀ value, toNat value < 256 ^ width
  ofNat_toNat : ∀ value, ofNat (toNat value) = value
  toNat_ofNat : ∀ number < 256 ^ width, toNat (ofNat number) = number

namespace WordCoding

/-- The bytes of a value, lowest first. -/
def bytes {α : Type} (coding : WordCoding α) (value : α) : List UInt8 :=
  littleEndian coding.width (coding.toNat value)

/-- Times and timestamps take four bytes. -/
def time : WordCoding UInt32 :=
  ⟨4, UInt32.toNat, UInt32.ofNat, UInt32.toNat_lt, fun _ => UInt32.ofNat_toNat,
    fun _ => UInt32.toNat_ofNat_of_lt'⟩

/-- Samples take eight bytes, those of their bits. -/
def sample : WordCoding Sample :=
  ⟨8, fun value => value.bits.toNat, fun bits => ⟨UInt64.ofNat bits⟩,
    fun value => value.bits.toNat_lt, fun _ => by simp, fun _ => UInt64.toNat_ofNat_of_lt'⟩

end WordCoding

/-- A count and the bytes of what it counts. -/
structure Part where
  count : Numeral
  contents : List UInt8
deriving DecidableEq

def Part.bytes (part : Part) : List UInt8 := part.count.bytes ++ part.contents

/-- The part that elements of type `α` make, each in an encoding of its own. -/
def Counted.part {α : Type} (encode : α → List UInt8) (counted : Counted α) : Part :=
  ⟨counted.count, counted.elements.flatMap encode⟩

/-- A row as it stands in a body: a name and arrays of one length, with timestamps
if the shape has them. -/
structure WrittenRow (shape : RowShape) where
  name : Counted UInt8
  times : Counted UInt32
  values : Counted Sample
  timestamps : Option (Counted UInt32)
  length_values : values.elements.length = times.elements.length
  isSome_timestamps : timestamps.isSome = true ↔ shape = .unaggregated
  length_timestamps : ∀ stamps ∈ timestamps, stamps.elements.length = times.elements.length
deriving DecidableEq

namespace WrittenRow

variable {shape : RowShape}

/-- The parts of a row, in order. -/
def parts (written : WrittenRow shape) : List Part :=
  [written.name.part fun b => [b], written.times.part WordCoding.time.bytes,
    written.values.part WordCoding.sample.bytes] ++
  written.timestamps.toList.map (Counted.part WordCoding.time.bytes)

def bytes (written : WrittenRow shape) : List UInt8 := written.parts.flatMap Part.bytes

/-- What is written, without how. -/
def row (written : WrittenRow shape) : Row :=
  ⟨written.name.elements, written.times.elements, written.values.elements,
    (written.timestamps.map (·.elements)).getD []⟩

/-- All counts of the row are as short as possible. -/
def IsMinimal (written : WrittenRow shape) : Prop := ∀ part ∈ written.parts, part.count.IsMinimal

end WrittenRow

end SeriesGateway.Wire
