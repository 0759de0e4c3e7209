/-! # Hexadecimal text

Two lowercase digits per byte, and the abbreviated form that error messages
show.
-/

namespace SeriesGateway.Text

/-- The lowercase digit of a number below 16. -/
def hexDigit (n : Nat) : Char :=
  if n < 10 then Char.ofNat (48 + n) else Char.ofNat (87 + n)

/-- The value of a hexadecimal digit of either case. -/
def hexValue? (c : Char) : Option Nat :=
  let n := c.toNat
  if 48 ≤ n ∧ n ≤ 57 then some (n - 48)
  else if 97 ≤ n ∧ n ≤ 102 then some (n - 87)
  else if 65 ≤ n ∧ n ≤ 70 then some (n - 55)
  else none

/-- Two digits per byte, in order. -/
def hex (bytes : List UInt8) : String :=
  String.ofList (bytes.flatMap fun b => [hexDigit (b.toNat / 16), hexDigit (b.toNat % 16)])

/-- Reads pairs of digits. -/
def unhex? : List Char → Option (List UInt8)
  | [] => some []
  | a :: b :: rest => do
    let high ← hexValue? a
    let low ← hexValue? b
    return UInt8.ofNat (16 * high + low) :: (← unhex? rest)
  | [_] => none

/-- How many bytes a preview shows. -/
def previewLength : Nat := 32

/-- The leading bytes in hexadecimal; a longer text says how long it is. -/
def hexPreview (bytes : List UInt8) : String :=
  hex (bytes.take previewLength) ++
    if bytes.length > previewLength then s!"... ({bytes.length} bytes)" else ""

end SeriesGateway.Text
