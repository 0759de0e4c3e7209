import SeriesGateway.Proofs.Wire.Numeral

/-! # Numbers in LEB128

The encoding of a number is read back from the front of whatever follows it. What can
be read at all is said without the reader: bytes that spell a number below `2 ^ 64` in at
most ten bytes. Of all spellings of a number the encoding is the shortest. The reader
never gets to the fault of an eleventh byte, because a tenth one is always its last.
-/

namespace SeriesGateway.Wire.Varint

/-- The bytes are LEB128 for the number: groups of seven bits, the lowest first, with the
high bit set in all bytes but the last. -/
def Spells (bytes : List UInt8) (number : Nat) : Prop :=
  ∃ leading last, bytes = leading ++ [last] ∧ (∀ b ∈ leading, 128 ≤ b.toNat) ∧
    last.toNat < 128 ∧ Numeral.ofGroups bytes = number

variable {bytes taken rest : List UInt8} {number : Nat}

theorem spells_bytes (numeral : Numeral) : Spells numeral.bytes numeral.value :=
  ⟨numeral.leading, numeral.last, rfl, numeral.leading_high, numeral.last_low, rfl⟩

/-- A tenth byte of a number below `2 ^ 64` holds one bit. -/
theorem last_le_one {leading : List UInt8} {last : UInt8} (hlow : last.toNat < 128)
    (hlength : leading.length = 9)
    (hnumber : Numeral.ofGroups (leading ++ [last]) < 2 ^ 64) : last.toNat ≤ 1 := by
  have hvalue : Numeral.ofGroups (leading ++ [last]) =
      Numeral.ofGroups leading + 2 ^ 63 * last.toNat := by
    rw [Numeral.ofGroups_append, hlength]
    simp [Numeral.ofGroups, Nat.mod_eq_of_lt hlow]
  omega

/-- Short enough spellings of numbers below `2 ^ 64` are numerals. -/
theorem exists_numeral (hspells : Spells bytes number) (hlength : bytes.length ≤ 10)
    (hnumber : number < 2 ^ 64) :
    ∃ numeral : Numeral, numeral.bytes = bytes ∧ numeral.value = number := by
  obtain ⟨leading, last, rfl, hhigh, hlow, rfl⟩ := hspells
  rw [List.length_append, List.length_singleton] at hlength
  exact ⟨⟨leading, last, hhigh, hlow, by omega, fun h => last_le_one hlow h hnumber⟩, rfl, rfl⟩

theorem decode?_of_reads (hreads : Reader.Reads read taken number) (rest : List UInt8) :
    decode? (taken ++ rest) = (some number, rest) := by
  rw [decode?, hreads rest]

theorem decode?_eq_some_iff :
    decode? bytes = (some number, rest) ↔
      ∃ taken, bytes = taken ++ rest ∧ taken.length ≤ 10 ∧ Spells taken number ∧
        number < 2 ^ 64 := by
  constructor
  · intro hdecode
    have hread : read bytes = .ready number rest := by
      unfold decode? at hdecode
      split at hdecode
      next hread =>
        cases hdecode
        exact hread
      next => cases hdecode
    obtain ⟨numeral, rfl, rfl⟩ := Numeral.exists_of_read hread
    refine ⟨numeral.bytes, rfl, ?_, spells_bytes numeral, numeral.value_lt⟩
    have hlength := numeral.length_leading
    rw [Numeral.bytes, List.length_append, List.length_singleton]
    omega
  · rintro ⟨taken, rfl, hlength, hspells, hnumber⟩
    obtain ⟨numeral, rfl, rfl⟩ := exists_numeral hspells hlength hnumber
    exact decode?_of_reads numeral.reads_bytes rest

/-- Where nothing is read, nothing is consumed. -/
theorem decode?_of_none (hnone : (decode? bytes).1 = none) : decode? bytes = (none, bytes) := by
  unfold decode? at hnone ⊢
  split at hnone
  next => cases hnone
  next => rfl

/-- The encoding is no longer than any spelling, and the only one of its length. -/
theorem length_encode_le_of_spells (hspells : Spells bytes number) :
    (encode number).length ≤ bytes.length ∧
      (encode number = bytes ↔ (encode number).length = bytes.length) := by
  obtain ⟨leading, last, rfl, hhigh, hlow, rfl⟩ := hspells
  refine ⟨Numeral.length_encode_ofGroups_le (by simp), congrArg List.length, fun hlength => ?_⟩
  apply Numeral.encode_ofGroups hhigh hlow
  by_contra hlonger
  rw [not_or, not_not] at hlonger
  obtain ⟨hleading, rfl⟩ := hlonger
  -- without the group of zeros at the end the number is spelled in fewer bytes
  have hvalue : Numeral.ofGroups (leading ++ [0]) = Numeral.ofGroups leading := by
    simp [Numeral.ofGroups_append, Numeral.ofGroups]
  have hshorter := Numeral.length_encode_ofGroups_le hleading
  rw [hvalue, List.length_append, List.length_singleton] at hlength
  omega

/-- The last byte that is accepted ends the number or overflows it. -/
theorem readGroups_ne_tooLong (left weight value : Nat) (bytes : List UInt8) :
    readGroups (left + 1) weight value bytes ≠ .error (some .varintTooLong) := by
  induction left generalizing weight value bytes with
  | zero =>
      cases bytes with
      | nil => simp [readGroups]
      | cons b bytes =>
          rw [readGroups]
          split
          next => simp
          next hbit => rw [if_pos (by omega)]; simp
  | succ left ih =>
      cases bytes with
      | nil => simp [readGroups]
      | cons b bytes =>
          rw [readGroups]
          split
          next => simp
          next =>
            split
            next => simp
            next => exact ih _ _ _

/-- As many bytes as are accepted are enough for a verdict. -/
theorem readGroups_ne_short {left weight value : Nat} (hlength : left < bytes.length) :
    readGroups (left + 1) weight value bytes ≠ .error none := by
  induction left generalizing weight value bytes with
  | zero =>
      cases bytes with
      | nil => cases hlength
      | cons b bytes =>
          rw [readGroups]
          split
          next => simp
          next hbit => rw [if_pos (by omega)]; simp
  | succ left ih =>
      cases bytes with
      | nil => cases hlength
      | cons b bytes =>
          rw [readGroups]
          split
          next => simp
          next =>
            split
            next => simp
            next => exact ih (Nat.lt_of_succ_lt_succ hlength)

theorem read_ne_tooLong (bytes rest : List UInt8) : read bytes ≠ .invalid .varintTooLong rest := by
  have hnever := readGroups_ne_tooLong 9 1 0 bytes
  intro hread
  unfold read at hread
  rw [show maxLength = 9 + 1 from rfl] at hread
  split at hread
  next => cases hread
  next => cases hread
  next hgroups =>
    cases hread
    exact hnever hgroups

theorem read_ne_short (hlength : 10 ≤ bytes.length) : read bytes ≠ .short := by
  have hnever : readGroups (9 + 1) 1 0 bytes ≠ .error none := readGroups_ne_short hlength
  intro hread
  unfold read at hread
  rw [show maxLength = 9 + 1 from rfl] at hread
  split at hread
  next => cases hread
  next hgroups => exact hnever hgroups
  next => cases hread

/-- Every number of 64 bits is read back from its encoding, whatever follows it. From any
bytes a number is read exactly if they begin with LEB128 for it in at most ten bytes and it
is below `2 ^ 64`; then these bytes are consumed, the encoding of the number is no longer
than they are, and it is the same bytes exactly if it is as long. Otherwise nothing is
consumed. No bytes have the fault of an eleventh byte, for with ten bytes there always is
another verdict. -/
theorem decode?_inverts_encode :
    (∀ (number : UInt64) (rest : List UInt8),
      decode? (encode number.toNat ++ rest) = (some number.toNat, rest)) ∧
    (∀ (bytes : List UInt8) (number : Nat) (rest : List UInt8),
      decode? bytes = (some number, rest) ↔
        ∃ taken, bytes = taken ++ rest ∧ taken.length ≤ 10 ∧ Spells taken number ∧
          number < 2 ^ 64) ∧
    (∀ (bytes : List UInt8) (number : Nat) (rest : List UInt8),
      decode? bytes = (some number, rest) → ∀ taken, bytes = taken ++ rest →
        (encode number).length ≤ taken.length ∧
          (encode number = taken ↔ (encode number).length = taken.length)) ∧
    (∀ bytes : List UInt8, (decode? bytes).1 = none → decode? bytes = (none, bytes)) ∧
    (∀ bytes rest : List UInt8, read bytes ≠ .invalid .varintTooLong rest) ∧
    ∀ bytes : List UInt8, 10 ≤ bytes.length → read bytes ≠ .short := by
  refine ⟨?_, fun _ _ _ => decode?_eq_some_iff, ?_, fun _ => decode?_of_none, read_ne_tooLong,
    fun _ => read_ne_short⟩
  · exact fun number rest => decode?_of_reads (reads_read number.toNat_lt) rest
  · intro bytes number rest hdecode taken hbytes
    obtain ⟨found, hfound, -, hspells, -⟩ := decode?_eq_some_iff.mp hdecode
    rw [hbytes, List.append_cancel_right_eq] at hfound
    rw [hfound]
    exact length_encode_le_of_spells hspells

/-- The largest number takes ten bytes, one is spelled with a superfluous group, and a tenth
byte of two is refused. -/
theorem decode?_inverts_encode_up_to_tenth_byte :
    let largest := List.replicate 9 0xff ++ [0x01]
    let long : List UInt8 := [0x81, 0x00]
    let excessive := List.replicate 9 0xff ++ [0x02]
    decode? (largest ++ [7]) = (some (2 ^ 64 - 1), [7]) ∧
      (encode (2 ^ 64 - 1)).length ≤ largest.length ∧
      (encode (2 ^ 64 - 1) = largest ↔ (encode (2 ^ 64 - 1)).length = largest.length) ∧
      decode? (long ++ [7]) = (some 1, [7]) ∧ encode 1 ≠ long ∧
      decode? excessive = (none, excessive) ∧ read excessive ≠ .short := by
  intro largest long excessive
  obtain ⟨-, -, hshortest, hnothing, -, hverdict⟩ := decode?_inverts_encode
  have hlargest : decode? (largest ++ [7]) = (some (2 ^ 64 - 1), [7]) := by decide +kernel
  have hlong : decode? (long ++ [7]) = (some 1, [7]) := by decide +kernel
  obtain ⟨hle, hsame⟩ := hshortest _ _ _ hlargest largest rfl
  refine ⟨hlargest, hle, hsame, hlong, ?_, hnothing excessive (by decide +kernel),
    hverdict excessive (by decide)⟩
  rw [Ne, (hshortest _ _ _ hlong long rfl).2]
  decide +kernel

end SeriesGateway.Wire.Varint
