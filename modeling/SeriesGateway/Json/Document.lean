import SeriesGateway.Json.Number
import SeriesGateway.Text.Hex

/-! # JSON documents

Reads a text into a tree that goes as far as the text makes sense. Where reading
stops the tree says why, so a consumer that walks the tree in the order of the
text meets the first problem first, be it one of form or one of meaning. Some
problems count only for consumers that want the value: an escape of half a
character in a string, or a number without digits at the end of the text.
-/

namespace SeriesGateway.Json

/-- How an array or object ends. -/
inductive Close where
  | closed
  /-- Reading stopped where a comma or the closing bracket was due. -/
  | stuck (fault : JsonFault)
  /-- Reading stopped behind a comma. -/
  | stuckAfterComma (fault : JsonFault)
deriving DecidableEq, Repr

def Close.fault? : Close → Option JsonFault
  | closed => none
  | stuck fault => some fault
  | stuckAfterComma fault => some fault

/-- A document as far as it could be read. -/
inductive Document where
  | null
  | bool (value : Bool)
  | number (literal : Literal)
  /-- The fault is one for consumers that want the characters. -/
  | string (value : Except JsonFault String)
  | array (items : List Document) (close : Close)
  | object (members : List (Except JsonFault String × Document)) (close : Close)
  /-- Reading stopped here, with the fault for consumers that want the value and
  the one for those that skip it. -/
  | broken (wanted skipped : JsonFault)

/-- Blanks between the tokens of a document. -/
def isBlank (c : Char) : Bool := c == ' ' || c == '\n' || c == '\t' || c == '\r'

def dropBlanks (text : List Char) : List Char := text.dropWhile isBlank

/-- Number of bytes of the first characters of a text. -/
def byteLength (text : List Char) : Nat := (text.map Char.utf8Size).foldr (· + ·) 0

/-- Reads four hexadecimal digits; fewer than four bytes are an early end. -/
def readFour (text : List Char) : Except JsonFault (Nat × List Char) :=
  if byteLength (text.take 4) < 4 then .error .early
  else
    match (text.take 4).mapM Text.hexValue? with
    | some digits => .ok (digits.foldl (fun n d => 16 * n + d) 0, text.drop 4)
    | none => .error .malformed

/-- What was read of a string so far: its characters in reverse, or the first
fault that counts only for those who want them. -/
abbrev Draft := Except JsonFault (List Char)

/-- Half of a character beyond 16 bits that waits for its other half. -/
structure Half where
  code : Nat

/-- The reading of a string: its draft and what follows it, or the faults that
stopped it. -/
inductive StringScan where
  | complete (draft : Draft) (rest : List Char)
  | broken (wanted skipped : JsonFault)

/-- Stops a string at a fault; an earlier fault of the draft goes first. -/
def stopString (draft : Draft) (fault : JsonFault) : StringScan :=
  match draft with
  | .ok _ => .broken fault fault
  | .error first => .broken first fault

/-- Adds a character; an open half is a fault then. -/
def addChar (draft : Draft) (half : Option Half) (c : Char) : Draft :=
  match draft, half with
  | .ok chars, none => .ok (c :: chars)
  | .ok _, some _ => .error .malformed
  | .error fault, _ => .error fault

/-- Adds a 16-bit unit given by an escape. -/
def addUnit (draft : Draft) (half : Option Half) (unit : Nat) : Draft × Option Half :=
  match draft, half with
  | .error fault, _ => (.error fault, none)
  | .ok chars, none =>
    if 0xd800 ≤ unit ∧ unit ≤ 0xdbff then (.ok chars, some ⟨unit⟩)
    else if 0xdc00 ≤ unit ∧ unit ≤ 0xdfff then (.error .malformed, none)
    else (.ok (Char.ofNat unit :: chars), none)
  | .ok chars, some first =>
    if 0xdc00 ≤ unit ∧ unit ≤ 0xdfff then
      (.ok (Char.ofNat (0x10000 + (first.code - 0xd800) * 0x400 + (unit - 0xdc00)) :: chars), none)
    else (.error .malformed, none)

/-- The character behind a backslash in a short escape. -/
def shortEscape? : Char → Option Char
  | '"' => some '"'
  | '\\' => some '\\'
  | '/' => some '/'
  | 'b' => some '\x08'
  | 'f' => some '\x0c'
  | 'n' => some '\n'
  | 'r' => some '\r'
  | 't' => some '\t'
  | _ => none

/-- Reads a string behind its opening quote. `fuel` bounds the characters. -/
def scanString : (fuel : Nat) → Draft → Option Half → List Char → StringScan
  | 0, draft, _, _ => stopString draft .early
  | _ + 1, draft, _, [] => stopString draft .early
  | fuel + 1, draft, half, c :: rest =>
    if c = '"' then
      match draft, half with
      | .ok _, some _ => .complete (.error .malformed) rest
      | _, _ => .complete draft rest
    else if c.toNat < 0x20 then
      stopString (if half.isSome then addChar draft half c else draft) .malformed
    else if c ≠ '\\' then scanString fuel (addChar draft half c) none rest
    else
      match rest with
      | [] => stopString draft .early
      | 'u' :: digits =>
        match readFour digits with
        | .error fault => stopString draft fault
        | .ok (unit, rest) =>
          let (draft, half) := addUnit draft half unit
          scanString fuel draft half rest
      | e :: rest =>
        -- an open half asks for another escape of a unit
        let draft := if half.isSome then addChar draft half e else draft
        match shortEscape? e with
        | some c => scanString fuel (addChar draft none c) none rest
        | none => stopString draft .malformed

/-- Reads a string behind its opening quote. -/
def readString (text : List Char) : StringScan := scanString (text.length + 1) (.ok []) none text

def Draft.text (draft : Draft) : Except JsonFault String :=
  draft.map fun chars => String.ofList chars.reverse

/-- The reading of a number: its literal and what follows, or that it breaks
off, at the end of the text or before it. -/
inductive NumberScan where
  | complete (literal : Literal) (rest : List Char)
  | broken (atEnd : Bool)

/-- Digits at the front of a text, of which there must be one. -/
def readDigits (text : List Char) : Except Bool (List Char × List Char) :=
  match text.takeWhile Decimal.isDigit, text.dropWhile Decimal.isDigit with
  | [], [] => .error true
  | [], _ => .error false
  | digits, rest => .ok (digits, rest)

/-- Reads an optional exponent. -/
def readExponent (negative : Bool) (whole : List Char) (fraction : Option (List Char))
    (text : List Char) : NumberScan :=
  let finish (sign : Bool) (text : List Char) : NumberScan :=
    match readDigits text with
    | .ok (digits, rest) => .complete ⟨negative, whole, fraction, some (sign, digits)⟩ rest
    | .error atEnd => .broken atEnd
  match text with
  | c :: rest =>
    if c = 'e' ∨ c = 'E' then
      match rest with
      | '-' :: rest => finish true rest
      | '+' :: rest => finish false rest
      | rest => finish false rest
    else .complete ⟨negative, whole, fraction, none⟩ text
  | [] => .complete ⟨negative, whole, fraction, none⟩ text

/-- Reads a number behind its sign. A zero stands alone before the point. -/
def readNumber (negative : Bool) (text : List Char) : NumberScan :=
  match readDigits text with
  | .error atEnd => .broken atEnd
  | .ok (whole, rest) =>
    if whole.head? = some '0' ∧ whole.length ≠ 1 then .broken false
    else
      match rest with
      | '.' :: rest =>
        match readDigits rest with
        | .error atEnd => .broken atEnd
        | .ok (fraction, rest) => readExponent negative whole (some fraction) rest
      | rest => readExponent negative whole none rest

/-- Reads the rest of a word such as `null`. -/
def readWord : (expected text : List Char) → Except JsonFault (List Char)
  | [], text => .ok text
  | _ :: _, [] => .error .early
  | e :: expected, c :: rest => if c = e then readWord expected rest else .error .malformed

/-- A document, and what follows it unless reading stopped within it. -/
abbrev Reading := Document × Option (List Char)

def Reading.stop (fault : JsonFault) : Reading := (.broken fault fault, none)

/-- The reading of a word with its value. -/
def wordReading (value : Document) (expected text : List Char) : Reading :=
  match readWord expected text with
  | .ok rest => (value, some rest)
  | .error fault => .stop fault

def numberReading : NumberScan → Reading
  | .complete literal rest => (.number literal, some rest)
  | .broken atEnd => (.broken (if atEnd then .early else .malformed) .malformed, none)

mutual

/-- Reads a value. `fuel` bounds the depth and length of what is read. -/
def readValue : (fuel : Nat) → List Char → Reading
  | 0, _ => .stop .early
  | fuel + 1, text =>
    match dropBlanks text with
    | [] => .stop .early
    | c :: rest =>
      match c with
      | 'n' => wordReading .null ['u', 'l', 'l'] rest
      | 't' => wordReading (.bool true) ['r', 'u', 'e'] rest
      | 'f' => wordReading (.bool false) ['a', 'l', 's', 'e'] rest
      | '-' => numberReading (readNumber true rest)
      | '"' =>
        match readString rest with
        | .complete draft rest => (.string draft.text, some rest)
        | .broken wanted skipped => (.broken wanted skipped, none)
      | '[' =>
        let (items, close, rest) := readItems fuel true rest
        (.array items close, rest)
      | '\x7b' =>
        let (members, close, rest) := readMembers fuel true rest
        (.object members close, rest)
      | c =>
        if Decimal.isDigit c then numberReading (readNumber false (c :: rest))
        else .stop .malformed

/-- Reads the items of an array from the first one or a comma on. -/
def readItems : (fuel : Nat) → (first : Bool) → List Char →
    List Document × Close × Option (List Char)
  | 0, _, _ => ([], .stuck .early, none)
  | fuel + 1, first, text =>
    let item (text : List Char) : List Document × Close × Option (List Char) :=
      match readValue fuel text with
      | (value, none) => ([value], .closed, none)
      | (value, some rest) =>
        let (items, close, rest) := readItems fuel false rest
        (value :: items, close, rest)
    match dropBlanks text with
    | [] => ([], .stuck .early, none)
    | c :: rest =>
      if c = ']' then ([], .closed, some rest)
      else if first then item (c :: rest)
      else if c = ',' then
        match dropBlanks rest with
        | [] => ([], .stuckAfterComma .early, none)
        | d :: rest => if d = ']' then ([], .stuckAfterComma .malformed, none) else item (d :: rest)
      else ([], .stuck .malformed, none)

/-- Reads the members of an object from the first one or a comma on. -/
def readMembers : (fuel : Nat) → (first : Bool) → List Char →
    List (Except JsonFault String × Document) × Close × Option (List Char)
  | 0, _, _ => ([], .stuck .early, none)
  | fuel + 1, first, text =>
    let stuck (fault : JsonFault) :
        List (Except JsonFault String × Document) × Close × Option (List Char) :=
      ([], .stuck fault, none)
    let member (text : List Char) :
        List (Except JsonFault String × Document) × Close × Option (List Char) :=
      match text with
      | '"' :: text =>
        match readString text with
        | .broken wanted skipped => ([(.error wanted, .broken wanted skipped)], .closed, none)
        | .complete draft rest =>
          match dropBlanks rest with
          | [] => ([(draft.text, .broken .early .early)], .closed, none)
          | ':' :: rest =>
            match readValue fuel rest with
            | (value, none) => ([(draft.text, value)], .closed, none)
            | (value, some rest) =>
              let (members, close, rest) := readMembers fuel false rest
              ((draft.text, value) :: members, close, rest)
          | _ => ([(draft.text, .broken .malformed .malformed)], .closed, none)
      | _ => stuck .malformed
    match dropBlanks text with
    | [] => stuck .early
    | c :: rest =>
      if c = '\x7d' then ([], .closed, some rest)
      else if first then member (c :: rest)
      else if c = ',' then
        match dropBlanks rest with
        | [] => stuck .early
        | rest => member rest
      else stuck .malformed

end

/-- Reads a text as one document; anything but blanks behind it is a fault. -/
def read (text : String) : Document × Option JsonFault :=
  let chars := text.toList
  match readValue (chars.length + 1) chars with
  | (document, none) => (document, none)
  | (document, some rest) =>
    (document, if (dropBlanks rest).isEmpty then none else some .malformed)

end SeriesGateway.Json
