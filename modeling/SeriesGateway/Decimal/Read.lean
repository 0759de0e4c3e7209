import SeriesGateway.Sample

/-! # Reading numbers

Decimal integers of 32 bits and binary64 numbers as people type them. Both say
why a text is refused.
-/

namespace SeriesGateway.Decimal

/-- Whether a character is an ASCII decimal digit. -/
def isDigit (c : Char) : Bool := 48 ≤ c.toNat && c.toNat ≤ 57

def digitValue (c : Char) : Nat := c.toNat - 48

/-- The number that digits denote, continuing from `start`. -/
def ofDigits (start : Nat) (digits : List Char) : Nat :=
  digits.foldl (fun n c => 10 * n + digitValue c) start

/-- Why a text is no number. -/
inductive Fault where
  | emptyInteger
  | badDigit
  | tooLarge
  | emptyReal
  | badReal
deriving DecidableEq, Repr

def Fault.message : Fault → String
  | emptyInteger => "cannot parse integer from empty string"
  | badDigit => "invalid digit found in string"
  | tooLarge => "number too large to fit in target type"
  | emptyReal => "cannot parse float from empty string"
  | badReal => "invalid float literal"

/-- Reads digits below `limit` from left to right; the first character that is
no digit or exceeds the limit decides the fault. -/
def readBelow (limit : Nat) : Nat → List Char → Except Fault Nat
  | n, [] => .ok n
  | n, c :: rest =>
    if !isDigit c then .error .badDigit
    else
      let next := 10 * n + digitValue c
      if next < limit then readBelow limit next rest else .error .tooLarge

/-- Reads an unsigned integer of 32 bits; a plus sign is allowed. -/
def readUInt32 (text : List Char) : Except Fault UInt32 :=
  match text with
  | [] => .error .emptyInteger
  | ['+'] => .error .badDigit
  | '+' :: rest => (readBelow UInt32.size 0 rest).map UInt32.ofNat
  | _ => (readBelow UInt32.size 0 text).map UInt32.ofNat

/-- ASCII lowercase form. -/
def lower (c : Char) : Char :=
  if 65 ≤ c.toNat ∧ c.toNat ≤ 90 then Char.ofNat (c.toNat + 32) else c

/-- Nearest binary64 number to `mantissa * 10 ^ exponent`. Far outside the range
of finite numbers the answer is zero or infinity whatever the mantissa. -/
def nearest (mantissa : Nat) (exponent : Int) : Float :=
  let point : Int := (Nat.toDigits 10 mantissa).length + exponent
  if mantissa = 0 then 0
  else if 400 < point then Float.ofScientific 1 false 400
  else if point < -400 then 0
  else Float.ofScientific mantissa (exponent < 0) exponent.natAbs

/-- Reads an optional exponent part; `none` if it is malformed. -/
def readExponent : List Char → Option Int
  | [] => some 0
  | e :: rest =>
    if lower e != 'e' then none
    else
      let (negative, digits) :=
        match rest with
        | '-' :: digits => (true, digits)
        | '+' :: digits => (false, digits)
        | digits => (false, digits)
      if digits.isEmpty || !digits.all isDigit then none
      else
        let n : Int := ofDigits 0 digits
        some (if negative then -n else n)

/-- Reads an unsigned number: digits with an optional point among or around
them and an optional exponent. At least one digit must stand before the exponent. -/
def readUnsigned (text : List Char) : Option Float :=
  let whole := text.takeWhile isDigit
  let rest := text.dropWhile isDigit
  let (fraction, rest) :=
    match rest with
    | '.' :: rest => (rest.takeWhile isDigit, rest.dropWhile isDigit)
    | rest => ([], rest)
  if whole.isEmpty && fraction.isEmpty then none
  else
    (readExponent rest).map fun e =>
      nearest (ofDigits 0 (whole ++ fraction)) (e - fraction.length)

/-- Reads a number, a signed infinity or a NaN; names are read in any case. -/
def readReal (text : List Char) : Except Fault Sample :=
  let (negative, body) :=
    match text with
    | '-' :: body => (true, body)
    | '+' :: body => (false, body)
    | body => (false, body)
  let magnitude : Option Float :=
    match String.ofList (body.map lower) with
    | "inf" => some (1.0 / 0.0)
    | "infinity" => some (1.0 / 0.0)
    | "nan" => some (0.0 / 0.0)
    | _ => readUnsigned body
  match magnitude with
  | some x => .ok (.ofFloat (if negative then -x else x))
  | none => .error (if text.isEmpty then .emptyReal else .badReal)

end SeriesGateway.Decimal
