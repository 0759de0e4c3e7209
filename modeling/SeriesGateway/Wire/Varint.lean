import SeriesGateway.Wire.Reader

/-! # Variable-length integers

Numbers below `2 ^ 64` in groups of seven bits, the lowest first; every byte but
the last has its high bit set. Ten bytes hold any such number, and of the tenth
only the lowest bit.
-/

namespace SeriesGateway.Wire.Varint

/-- The longest accepted encoding, in bytes. -/
def maxLength : Nat := 10

/-- The shortest encoding of a number. -/
def encode (value : Nat) : List UInt8 :=
  if value < 128 then [UInt8.ofNat value]
  else UInt8.ofNat (128 + value % 128) :: encode (value / 128)
termination_by value

/-- Reads groups behind those that make up `value`; `left` more bytes are
accepted, and the next group has weight `weight`. -/
def readGroups :
    (left weight value : Nat) → List UInt8 → Except (Option RowFault) (Nat × List UInt8)
  | 0, _, _, _ => .error (some .varintTooLong)
  | _ + 1, _, _, [] => .error none
  | left + 1, weight, value, b :: rest =>
    if left = 0 ∧ 1 < b.toNat then .error (some .varintOverflow)
    else if b.toNat < 128 then .ok (value + b.toNat * weight, rest)
    else readGroups left (weight * 128) (value + (b.toNat - 128) * weight) rest

/-- Reads one number. A fault leaves all its bytes unread. -/
def read : Reader Nat := fun bytes =>
  match readGroups maxLength 1 0 bytes with
  | .ok (value, rest) => .ready value rest
  | .error none => .short
  | .error (some fault) => .invalid fault bytes

/-- Reads one number from bytes that are all there are. On failure nothing is
consumed. -/
def decode? (bytes : List UInt8) : Option Nat × List UInt8 :=
  match read bytes with
  | .ready value rest => (some value, rest)
  | _ => (none, bytes)

theorem readGroups_length_lt {left weight value : Nat} {bytes : List UInt8} {result : Nat}
    {rest : List UInt8} (h : readGroups left weight value bytes = .ok (result, rest)) :
    rest.length < bytes.length := by
  induction left generalizing weight value bytes with
  | zero => simp [readGroups] at h
  | succ left ih =>
    cases bytes with
    | nil => simp [readGroups] at h
    | cons b bytes =>
      simp only [readGroups] at h
      split at h
      · cases h
      · split at h
        · cases h
          simp
        · have := ih h
          simp only [List.length_cons]
          omega

theorem read_length_lt {bytes rest : List UInt8} {value : Nat}
    (h : read bytes = .ready value rest) : rest.length < bytes.length := by
  unfold read at h
  split at h
  · rename_i hgroups
    cases h
    exact readGroups_length_lt hgroups
  · cases h
  · cases h

theorem neverGrows_read : Reader.NeverGrows read := fun _ _ _ h =>
  Nat.le_of_lt (read_length_lt h)

end SeriesGateway.Wire.Varint
