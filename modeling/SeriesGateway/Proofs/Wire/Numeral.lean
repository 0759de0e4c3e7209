import SeriesGateway.Proofs.Wire.Exact
import SeriesGateway.Wire.Grammar

/-! # Spellings of numbers

Numerals are what a reader of numbers accepts: it reads each of them exactly, and
what it reads is one of them. A number can be spelled in several ways, of which
the shortest is the one that is written; a numeral is longer exactly if it ends
with a group of zeros behind other groups.
-/

namespace SeriesGateway.Wire

/-! ## Reading -/

namespace Varint

/-- Groups behind a value are read up to their last byte, which has no high bit. -/
theorem readGroups_leading {leading : List UInt8} {last : UInt8} {left : Nat}
    (hhigh : ∀ b ∈ leading, 128 ≤ b.toNat) (hlow : last.toNat < 128)
    (hlength : leading.length ≤ left) (htenth : leading.length = left → last.toNat ≤ 1)
    (weight value : Nat) (rest : List UInt8) :
    readGroups (left + 1) weight value (leading ++ last :: rest) =
      .ok (value + Numeral.ofGroups (leading ++ [last]) * weight, rest) := by
  induction leading generalizing left weight value with
  | nil =>
      have hfits : ¬ (left = 0 ∧ 1 < last.toNat) := by
        rintro ⟨rfl, hlarge⟩
        have hbit := htenth rfl
        omega
      rw [List.nil_append, readGroups, if_neg hfits, if_pos hlow]
      simp [Numeral.ofGroups, Nat.mod_eq_of_lt hlow]
  | cons b leading ih =>
      obtain ⟨hb, hleading⟩ := List.forall_mem_cons.mp hhigh
      obtain ⟨left, rfl⟩ : ∃ less, left = less + 1 := ⟨left - 1, by simp at hlength; omega⟩
      have hgroup : b.toNat % 128 = b.toNat - 128 := by
        have hlt := b.toNat_lt
        omega
      rw [List.cons_append, readGroups, if_neg (by omega), if_neg (by omega),
        ih hleading (by simpa using hlength) (by simpa using htenth)]
      simp only [Except.ok.injEq, Prod.mk.injEq, and_true, List.cons_append, Numeral.ofGroups,
        hgroup]
      ring

/-- What is read as a number begins with groups that make it up. -/
theorem exists_leading_of_readGroups {left weight value result : Nat} {bytes rest : List UInt8}
    (hread : readGroups (left + 1) weight value bytes = .ok (result, rest)) :
    ∃ leading last, bytes = leading ++ last :: rest ∧ (∀ b ∈ leading, 128 ≤ b.toNat) ∧
      last.toNat < 128 ∧ leading.length ≤ left ∧ (leading.length = left → last.toNat ≤ 1) := by
  induction left generalizing weight value bytes with
  | zero =>
      cases bytes with
      | nil => cases hread
      | cons b bytes =>
          rw [readGroups] at hread
          split at hread
          next => cases hread
          next hfits =>
            have hbit : b.toNat ≤ 1 := by omega
            rw [if_pos (by omega)] at hread
            cases hread
            exact ⟨[], b, rfl, by simp, by omega, Nat.le_refl _, fun _ => hbit⟩
  | succ left ih =>
      cases bytes with
      | nil => cases hread
      | cons b bytes =>
          rw [readGroups, if_neg (by omega)] at hread
          split at hread
          next hlow =>
            cases hread
            exact ⟨[], b, rfl, by simp, hlow, Nat.zero_le _, by simp⟩
          next hhigh =>
            obtain ⟨leading, last, rfl, hleading, hlast, hlength, htenth⟩ := ih hread
            refine ⟨b :: leading, last, rfl, ?_, hlast, by simpa using hlength,
              by simpa using htenth⟩
            exact List.forall_mem_cons.mpr ⟨by omega, hleading⟩

end Varint

namespace Numeral

variable (numeral : Numeral)

/-- Every spelling of a number is read as the number. -/
theorem reads_bytes : Reader.Reads Varint.read numeral.bytes numeral.value := by
  have hlength : numeral.leading.length ≤ 9 := Nat.le_of_lt_succ numeral.length_leading
  intro rest
  unfold Varint.read
  rw [show Varint.maxLength = 9 + 1 from rfl, bytes, List.append_assoc, List.singleton_append,
    Varint.readGroups_leading numeral.leading_high numeral.last_low hlength numeral.tenth]
  simp [value, bytes]

/-- What is read as a number is a spelling of it. -/
theorem exists_of_read {bytes rest : List UInt8} {number : Nat}
    (hread : Varint.read bytes = .ready number rest) :
    ∃ numeral : Numeral, bytes = numeral.bytes ++ rest ∧ numeral.value = number := by
  have hgroups : Varint.readGroups (9 + 1) 1 0 bytes = .ok (number, rest) := by
    unfold Varint.read at hread
    rw [show Varint.maxLength = 9 + 1 from rfl] at hread
    split at hread
    next hgroups =>
      cases hread
      exact hgroups
    next => cases hread
    next => cases hread
  obtain ⟨leading, last, rfl, hleading, hlast, hlength, htenth⟩ :=
    Varint.exists_leading_of_readGroups hgroups
  let numeral : Numeral := ⟨leading, last, hleading, hlast, Nat.lt_succ_of_le hlength, htenth⟩
  have hbytes : leading ++ last :: rest = numeral.bytes ++ rest := by simp [numeral, bytes]
  refine ⟨numeral, hbytes, ?_⟩
  -- the same bytes are not read as two numbers
  have hsame := numeral.reads_bytes rest
  rw [← hbytes, hread] at hsame
  cases hsame
  rfl

/-- Where a numeral ends does not depend on what follows. -/
theorem append_inj {first second : Numeral} {rest others : List UInt8}
    (h : first.bytes ++ rest = second.bytes ++ others) : first = second ∧ rest = others := by
  have hread := first.reads_bytes rest
  rw [h, second.reads_bytes] at hread
  obtain ⟨-, rfl⟩ := Verdict.ready.inj hread
  have hbytes : first.bytes = second.bytes := List.append_cancel_right h
  obtain ⟨hleading, hlast⟩ := List.append_inj' hbytes rfl
  cases first
  cases second
  cases hleading
  cases hlast
  exact ⟨rfl, rfl⟩

/-! ## Shortest spellings -/

theorem ofGroups_append (groups more : List UInt8) :
    ofGroups (groups ++ more) = ofGroups groups + 128 ^ groups.length * ofGroups more := by
  induction groups with
  | nil => simp [ofGroups]
  | cons b groups ih =>
      rw [List.cons_append, ofGroups, ofGroups, ih, List.length_cons]
      ring

theorem ofGroups_lt (groups : List UInt8) : ofGroups groups < 128 ^ groups.length := by
  induction groups with
  | nil => simp [ofGroups]
  | cons b groups ih =>
      have hgroup : b.toNat % 128 < 128 := Nat.mod_lt _ (by decide)
      rw [ofGroups, List.length_cons, Nat.pow_succ]
      omega

theorem value_eq : numeral.value =
    ofGroups numeral.leading + 128 ^ numeral.leading.length * numeral.last.toNat := by
  rw [value, bytes, ofGroups_append]
  simp [ofGroups, Nat.mod_eq_of_lt numeral.last_low]

/-- All spelled numbers have 64 bits. -/
theorem value_lt : numeral.value < memoryLimit := by
  have hleading := ofGroups_lt numeral.leading
  have hlast := numeral.last_low
  rw [value_eq]
  rcases Nat.lt_or_eq_of_le (Nat.le_of_lt_succ numeral.length_leading) with hshort | hlong
  · have hpower : 128 ^ (numeral.leading.length + 1) ≤ 128 ^ 9 :=
      Nat.pow_le_pow_right (by decide) hshort
    have hproduct : 128 ^ numeral.leading.length * numeral.last.toNat ≤
        128 ^ numeral.leading.length * 127 := Nat.mul_le_mul_left _ (by omega)
    rw [Nat.pow_succ] at hpower
    have hlimit : 128 ^ 9 < memoryLimit := by decide
    omega
  · have hbit := numeral.tenth hlong
    have hlimit : memoryLimit = 128 ^ 9 + 128 ^ 9 := by decide
    rw [hlong] at hleading ⊢
    omega

/-- Writing a number takes no more bytes than any groups that make it up. -/
theorem length_encode_ofGroups_le {groups : List UInt8} (hgroups : groups ≠ []) :
    (Varint.encode (ofGroups groups)).length ≤ groups.length := by
  induction groups with
  | nil => exact absurd rfl hgroups
  | cons b groups ih =>
      rw [ofGroups, Varint.encode]
      split
      next => simp
      next hlarge =>
        have hrest : groups ≠ [] := by
          rintro rfl
          simp only [ofGroups] at hlarge
          omega
        have hquotient : (b.toNat % 128 + 128 * ofGroups groups) / 128 = ofGroups groups := by omega
        rw [hquotient, List.length_cons, List.length_cons]
        exact Nat.succ_le_succ (ih hrest)

theorem ofGroups_pos {leading : List UInt8} {last : UInt8} (hlow : last.toNat < 128)
    (hlast : last ≠ 0) : 0 < ofGroups (leading ++ [last]) := by
  have hpositive : 0 < last.toNat :=
    Nat.pos_of_ne_zero fun hzero => hlast (UInt8.toNat_inj.mp hzero)
  have hproduct : 0 < 128 ^ leading.length * last.toNat :=
    Nat.mul_pos (Nat.pow_pos (by decide)) hpositive
  rw [ofGroups_append]
  simp only [ofGroups, Nat.mul_zero, Nat.add_zero, Nat.mod_eq_of_lt hlow]
  omega

/-- Groups that do not end with a superfluous one are those that are written. -/
theorem encode_ofGroups {leading : List UInt8} {last : UInt8}
    (hhigh : ∀ b ∈ leading, 128 ≤ b.toNat) (hlow : last.toNat < 128)
    (hlast : leading = [] ∨ last ≠ 0) :
    Varint.encode (ofGroups (leading ++ [last])) = leading ++ [last] := by
  induction leading with
  | nil =>
      have hvalue : ofGroups ([] ++ [last]) = last.toNat := by
        simp [ofGroups, Nat.mod_eq_of_lt hlow]
      rw [hvalue, Varint.encode, if_pos hlow, UInt8.ofNat_toNat, List.nil_append]
  | cons b leading ih =>
      obtain ⟨hb, hleading⟩ := List.forall_mem_cons.mp hhigh
      have hnonzero : last ≠ 0 := hlast.resolve_left (List.cons_ne_nil _ _)
      have hpositive : 0 < ofGroups (leading ++ [last]) := ofGroups_pos hlow hnonzero
      have hlt := b.toNat_lt
      have hgroup : 128 + (b.toNat % 128 + 128 * ofGroups (leading ++ [last])) % 128 = b.toNat := by
        omega
      have hquotient : (b.toNat % 128 + 128 * ofGroups (leading ++ [last])) / 128 =
          ofGroups (leading ++ [last]) := by omega
      rw [List.cons_append, ofGroups, Varint.encode, if_neg (by omega), hgroup, hquotient,
        ih hleading (.inr hnonzero), UInt8.ofNat_toNat]

theorem length_encode_le : (Varint.encode numeral.value).length ≤ numeral.bytes.length :=
  length_encode_ofGroups_le (by simp [bytes])

/-- A group of zeros behind other groups makes a numeral longer than necessary. -/
theorem last_ne_zero_of_length_le
    (hle : numeral.bytes.length ≤ (Varint.encode numeral.value).length) :
    numeral.leading = [] ∨ numeral.last ≠ 0 := by
  by_contra hlonger
  rw [not_or, not_not] at hlonger
  obtain ⟨hleading, hlast⟩ := hlonger
  have hvalue : numeral.value = ofGroups numeral.leading := by
    rw [value_eq, hlast]
    simp
  have hencoded := length_encode_ofGroups_le hleading
  rw [hvalue, bytes, List.length_append, List.length_singleton] at hle
  omega

/-- The numeral that is written for the value of another one. -/
theorem exists_shortest :
    ∃ shortest : Numeral, shortest.bytes = Varint.encode numeral.value ∧
      shortest.value = numeral.value := by
  have hread := Varint.reads_read numeral.value_lt []
  rw [List.append_nil] at hread
  obtain ⟨shortest, hbytes, hvalue⟩ := exists_of_read hread
  exact ⟨shortest, by simpa using hbytes.symm, hvalue⟩

theorem isMinimal_iff : numeral.IsMinimal ↔ numeral.leading = [] ∨ numeral.last ≠ 0 := by
  constructor
  · intro hminimal
    obtain ⟨shortest, hbytes, hvalue⟩ := numeral.exists_shortest
    have hle := hminimal shortest hvalue
    rw [hbytes] at hle
    exact numeral.last_ne_zero_of_length_le hle
  · intro hlast other hvalue
    have hwritten := encode_ofGroups numeral.leading_high numeral.last_low hlast
    have hle := other.length_encode_le
    rw [hvalue, value, bytes, hwritten] at hle
    exact hle

instance : Decidable numeral.IsMinimal := decidable_of_iff' _ numeral.isMinimal_iff

theorem encode_value_of_isMinimal (hminimal : numeral.IsMinimal) :
    Varint.encode numeral.value = numeral.bytes :=
  encode_ofGroups numeral.leading_high numeral.last_low (numeral.isMinimal_iff.mp hminimal)

theorem isMinimal_of_length_le (hle : numeral.bytes.length ≤ (Varint.encode numeral.value).length) :
    numeral.IsMinimal :=
  numeral.isMinimal_iff.mpr (numeral.last_ne_zero_of_length_le hle)

end Numeral

end SeriesGateway.Wire
