/-! # UTF-8

Encoding of text, and decoding that reports ill-formed input. Each maximal
ill-formed prefix is reported once: a lead byte with the continuation bytes it
accepts counts as one fault, and any other byte as one of its own.
-/

namespace SeriesGateway.Text.Utf8

/-- The bytes of a text. -/
def encode (text : List Char) : List UInt8 := text.flatMap String.utf8EncodeChar

/-- What a lead byte announces: how many continuation bytes follow, the bits it
contributes, and the range its first continuation byte must lie in. The ranges
exclude overlong forms, surrogates and values beyond U+10FFFF. -/
structure Lead where
  following : Nat
  payload : Nat
  lowest : Nat
  highest : Nat

/-- Classifies a byte at or above 0x80. -/
def Lead.ofByte? (b : Nat) : Option Lead :=
  if 0xc2 ≤ b ∧ b ≤ 0xdf then some ⟨1, b - 0xc0, 0x80, 0xbf⟩
  else if b = 0xe0 then some ⟨2, 0, 0xa0, 0xbf⟩
  else if b = 0xed then some ⟨2, 0x0d, 0x80, 0x9f⟩
  else if 0xe1 ≤ b ∧ b ≤ 0xef then some ⟨2, b - 0xe0, 0x80, 0xbf⟩
  else if b = 0xf0 then some ⟨3, 0, 0x90, 0xbf⟩
  else if 0xf1 ≤ b ∧ b ≤ 0xf3 then some ⟨3, b - 0xf0, 0x80, 0xbf⟩
  else if b = 0xf4 then some ⟨3, 4, 0x80, 0x8f⟩
  else none

/-- Reads `count` continuation bytes into `value`; the first must lie between
the bounds and the others anywhere in 0x80..0xbf. Gives the value, if all are
there, and the unread bytes. -/
def continuation : (count value lowest highest : Nat) → List UInt8 → Option Nat × List UInt8
  | 0, value, _, _, bytes => (some value, bytes)
  | _ + 1, _, _, _, [] => (none, [])
  | count + 1, value, lowest, highest, b :: rest =>
    if lowest ≤ b.toNat ∧ b.toNat ≤ highest then
      continuation count (64 * value + (b.toNat - 0x80)) 0x80 0xbf rest
    else (none, b :: rest)

theorem continuation_length_le (count value lowest highest : Nat) (bytes : List UInt8) :
    (continuation count value lowest highest bytes).2.length ≤ bytes.length := by
  induction bytes generalizing count value lowest highest with
  | nil => cases count <;> simp [continuation]
  | cons b rest ih =>
    cases count with
    | zero => simp [continuation]
    | succ count =>
      simp only [continuation]
      split
      · exact Nat.le_succ_of_le (ih _ _ _ _)
      · simp

/-- Decodes a text; `none` stands for each maximal ill-formed prefix. -/
def decode : List UInt8 → List (Option Char)
  | [] => []
  | b :: rest =>
    if b.toNat < 0x80 then some (Char.ofNat b.toNat) :: decode rest
    else
      match Lead.ofByte? b.toNat with
      | none => none :: decode rest
      | some lead =>
        let read := continuation lead.following lead.payload lead.lowest lead.highest rest
        read.1.map Char.ofNat :: decode read.2
termination_by bytes => bytes.length
decreasing_by
  · simp
  · simp
  · have := continuation_length_le lead.following lead.payload lead.lowest lead.highest rest
    simp only [List.length_cons]
    omega

/-- The character that stands for ill-formed input. -/
def replacement : Char := '\ufffd'

/-- Decodes with each ill-formed prefix replaced. -/
def decodeLossy (bytes : List UInt8) : String :=
  String.ofList ((decode bytes).map fun c => c.getD replacement)

/-- Decodes a well-formed text. -/
def decode? (bytes : List UInt8) : Option (List Char) := (decode bytes).mapM id

end SeriesGateway.Text.Utf8
