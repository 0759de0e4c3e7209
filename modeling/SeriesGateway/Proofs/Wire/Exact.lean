import Mathlib.Tactic.Ring
import SeriesGateway.Proofs.Wire.Extension

/-! # Exact reading

A reader reads given bytes as a value when it finds the value in front of
whatever follows and stops right behind the bytes. Exact readers compose, and
the encodings of numbers are read exactly: a variable-length integer ends at its
first byte without the high bit, and a word has a fixed width.
-/

namespace SeriesGateway.Wire

variable {α β : Type}

namespace Reader

/-- The reader takes exactly these bytes for the value, whatever follows. -/
def Reads (reader : Reader α) (bytes : List UInt8) (value : α) : Prop :=
  ∀ rest, reader (bytes ++ rest) = .ready value rest

theorem reads_pure (value : α) : Reads (pure value) [] value := fun _ => rfl

theorem Reads.bind {reader : Reader α} {next : α → Reader β} {first second : List UInt8}
    {middle : α} {value : β} (hreader : Reads reader first middle)
    (hnext : Reads (next middle) second value) :
    Reads (reader.bind next) (first ++ second) value := by
  intro rest
  unfold Reader.bind
  rw [List.append_assoc, hreader]
  exact hnext rest

/-- A result computed from the value takes no bytes of its own. -/
theorem Reads.result {reader : Reader α} {bytes : List UInt8} {value : α}
    (hreader : Reads reader bytes value) (result : α → β) :
    Reads (reader.bind fun value => pure (result value)) bytes (result value) := by
  intro rest
  unfold Reader.bind
  rw [hreader]
  rfl

theorem reads_take (bytes : List UInt8) : Reads (take bytes.length) bytes bytes := by
  intro rest
  unfold take
  rw [splitExact_append]

theorem Reads.replicate {reader : Reader α} {encode : α → List UInt8} {values : List α}
    (hreader : ∀ value ∈ values, Reads reader (encode value) value) :
    Reads (reader.replicate values.length) (values.flatMap encode) values := by
  induction values with
  | nil => exact reads_pure []
  | cons value values ih =>
      have hvalues := ih fun other hother => hreader other (List.mem_cons_of_mem _ hother)
      rw [List.flatMap_cons]
      apply (hreader value List.mem_cons_self).bind
      exact hvalues.result fun values => value :: values

end Reader

theorem toNat_ofNat_of_lt {number : Nat} (hnumber : number < 256) :
    (UInt8.ofNat number).toNat = number :=
  UInt8.toNat_ofNat_of_lt' hnumber

namespace Varint

/-- Reading the groups of a number adds it to what was read before, if as many
groups are accepted as it has; of the last one only the lowest bit may be set. -/
theorem readGroups_encode {left number : Nat} (weight value : Nat) (rest : List UInt8)
    (hnumber : number < 2 * 128 ^ left) :
    readGroups (left + 1) weight value (encode number ++ rest) =
      .ok (value + number * weight, rest) := by
  induction left generalizing weight value number with
  | zero =>
      -- the tenth group of a 64-bit number is a single bit
      have hbit : number < 2 := by simpa using hnumber
      rw [encode, if_pos (by omega), List.singleton_append, readGroups,
        toNat_ofNat_of_lt (by omega), if_neg (by omega), if_pos (by omega)]
  | succ left ih =>
      rw [encode]
      split
      next hsmall =>
        rw [List.singleton_append, readGroups, toNat_ofNat_of_lt (by omega),
          if_neg (by omega), if_pos hsmall]
      next hlarge =>
        have hrest : number / 128 < 2 * 128 ^ left := by
          rw [Nat.pow_succ] at hnumber
          omega
        have hsplit : number % 128 * weight + number / 128 * (weight * 128) = number * weight := by
          calc number % 128 * weight + number / 128 * (weight * 128)
              = (number % 128 + 128 * (number / 128)) * weight := by ring
            _ = number * weight := by rw [Nat.mod_add_div]
        rw [List.cons_append, readGroups, toNat_ofNat_of_lt (by omega), if_neg (by omega),
          if_neg (by omega), ih _ _ hrest, Nat.add_sub_cancel_left, Nat.add_assoc, hsplit]

theorem reads_read {number : Nat} (hnumber : number < memoryLimit) :
    Reader.Reads read (encode number) number := by
  have hgroups : number < 2 * 128 ^ 9 := hnumber
  intro rest
  unfold read
  rw [show maxLength = 9 + 1 from rfl, readGroups_encode 1 0 rest hgroups]
  simp

end Varint

theorem littleEndian_length (width value : Nat) : (littleEndian width value).length = width := by
  induction width generalizing value with
  | zero => rfl
  | succ width ih => simp [littleEndian, ih]

theorem ofLittleEndian_littleEndian {width value : Nat} (hvalue : value < 256 ^ width) :
    ofLittleEndian (littleEndian width value) = value := by
  induction width generalizing value with
  | zero =>
      have hzero : value = 0 := by simpa using hvalue
      rw [hzero]
      rfl
  | succ width ih =>
      have hrest : value / 256 < 256 ^ width := by
        rw [Nat.pow_succ] at hvalue
        omega
      rw [littleEndian, ofLittleEndian, ih hrest,
        toNat_ofNat_of_lt (Nat.mod_lt _ (by decide)), Nat.mod_add_div]

namespace Reader

theorem reads_word {width value : Nat} (hvalue : value < 256 ^ width) :
    Reads (word width) (littleEndian width value) value := by
  have htake := reads_take (littleEndian width value)
  rw [littleEndian_length] at htake
  have hword := htake.result ofLittleEndian
  rwa [ofLittleEndian_littleEndian hvalue] at hword

variable {width : Nat} {values : List Nat}

theorem reads_words (field : Field) (hsize : values.length * width < memoryLimit)
    (hvalues : ∀ value ∈ values, value < 256 ^ width) :
    Reads (words field width values.length) (values.flatMap (littleEndian width)) values := by
  unfold words
  rw [if_pos hsize]
  exact Reads.replicate fun value hvalue => reads_word (hvalues value hvalue)

theorem reads_parallelWords (field : Field) (hlength : values.length < memoryLimit)
    (hsize : values.length * width < memoryLimit)
    (hvalues : ∀ value ∈ values, value < 256 ^ width) :
    Reads (parallelWords field width values.length) (Row.encodeArray width values) values := by
  apply (Varint.reads_read hlength).bind
  rw [if_pos rfl]
  exact reads_words field hsize hvalues

end Reader

end SeriesGateway.Wire
