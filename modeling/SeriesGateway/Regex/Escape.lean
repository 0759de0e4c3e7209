import SeriesGateway.Regex.Flags
import SeriesGateway.Text.Fields

/-! # Escapes

What follows a backslash, inside and outside of brackets, and the blanks and
comments that the verbose flag allows between the parts of an expression.
-/

namespace SeriesGateway.Regex

/-- Drops blanks and comments; `comment` tells whether a comment is open. -/
def dropBlanks (comment : Bool) : List Char → List Char
  | [] => []
  | c :: rest =>
    if comment then dropBlanks (c != '\n') rest
    else if Text.isBlank c then dropBlanks false rest
    else if c == '#' then dropBlanks true rest
    else c :: rest

/-- Drops what stands between two parts of an expression. -/
def dropGap (flags : Flags) (text : List Char) : List Char :=
  if flags.verbose then dropBlanks false text else text

theorem dropBlanks_length_le (comment : Bool) (text : List Char) :
    (dropBlanks comment text).length ≤ text.length := by
  induction text generalizing comment with
  | nil => simp [dropBlanks]
  | cons c rest ih =>
    simp only [dropBlanks]
    split
    · exact Nat.le_succ_of_le (ih _)
    · split
      · exact Nat.le_succ_of_le (ih _)
      · split
        · exact Nat.le_succ_of_le (ih _)
        · exact Nat.le_refl _

theorem dropGap_length_le (flags : Flags) (text : List Char) :
    (dropGap flags text).length ≤ text.length := by
  unfold dropGap
  split
  · exact dropBlanks_length_le false text
  · exact Nat.le_refl _

/-- The part of an expression that an escape or a single character denotes. -/
inductive Atom where
  | literal (c : Char)
  /-- A byte beyond ASCII, written with two hexadecimal digits. -/
  | byte (code : Nat)
  | look (assertion : Look)
  | set (s : CharSet)

/-- Characters with a meaning of their own, which a backslash takes away. -/
def isMeta (c : Char) : Bool := "\\.+*?()|[]\x7b\x7d^$#&-~".toList.contains c

/-- ASCII characters that may be escaped although they have no meaning. -/
def isEscapable (c : Char) : Bool :=
  isMeta c || (c.toNat < 128 && !c.isAlphanum && c != '<' && c != '>')

/-- The character with a code point, unless it is a surrogate or too large. -/
def charOfCode? (code : Nat) : Option Char :=
  if h : code.isValidChar then some (Char.ofNatAux code h) else none

/-- Reads what stands before a closing brace, without the gaps in it. -/
def readBraced (flags : Flags) (text : List Char) : Option (List Char × List Char) :=
  match _h : dropGap flags text with
  | [] => none
  | '\x7d' :: rest => some ([], rest)
  | c :: rest => (readBraced flags rest).map fun (inside, rest) => (c :: inside, rest)
termination_by text.length
decreasing_by
  have hle := dropGap_length_le flags text
  rw [_h, List.length_cons] at hle
  omega

/-- Reads exactly `count` hexadecimal digits. -/
def readDigits (flags : Flags) : (count code : Nat) → List Char → Option (Nat × List Char)
  | 0, code, text => some (code, text)
  | count + 1, code, text =>
    match text with
    | [] => none
    | c :: rest =>
      (Text.hexValue? c).bind fun d =>
        readDigits flags count (16 * code + d) (dropGap flags rest)

/-- Reads the digits after `\x`, `\u` or `\U`, as many as the letter asks for or
in braces. -/
def readHex (flags : Flags) (letter : Char) (text : List Char) : Option (Atom × List Char) :=
  match dropGap flags text with
  | '\x7b' :: rest => do
    let (digits, rest) ← readBraced flags rest
    let values ← digits.mapM Text.hexValue?
    if values.isEmpty then none
    else
      let code := values.foldl (fun code value => 16 * code + value) 0
      return (.literal (← charOfCode? code), dropGap flags rest)
  | digits => do
    let count := if letter = 'x' then 2 else if letter = 'u' then 4 else 8
    let (code, rest) ← readDigits flags count 0 digits
    if letter = 'x' ∧ 128 ≤ code then return (.byte code, rest)
    else return (.literal (← charOfCode? code), rest)

/-- Resolves the text between the braces of `\p{...}`: a name, or a property with
its value. An inequality sign between the two says the same as an equality. -/
def propertyOf? (name : List Char) : Option CharSet :=
  let cutNotEqual : Option (List Char × List Char) :=
    match Text.cut? '!' name with
    | some (property, '=' :: value) => some (property, value)
    | _ => none
  match (cutNotEqual.or (Text.cut? ':' name)).or (Text.cut? '=' name) with
  | some (property, value) => Unicode.classWithValue? property value
  | none => Unicode.class? name

/-- Reads the rest of `\p` or `\P`: one letter or a name in braces. Properties
need the Unicode flag. -/
def readProperty (flags : Flags) (negated : Bool) (text : List Char) :
    Option (Atom × List Char) := do
  let (name, rest) ←
    match dropGap flags text with
    | [] => none
    | '\x7b' :: rest => readBraced flags rest
    | c :: rest => if c = '\\' then none else some ([c], dropGap flags rest)
  let set ← propertyOf? name
  if flags.unicode then some (.set (flags.foldNegate negated set), rest) else none

/-- Names of the word assertions that `\b` takes in braces. -/
def wordAssertion? (flags : Flags) (name : String) : Option Look :=
  match name with
  | "start" => some (.wordStart flags.unicode)
  | "end" => some (.wordStop flags.unicode)
  | "start-half" => some (.wordStartHalf flags.unicode)
  | "end-half" => some (.wordStopHalf flags.unicode)
  | _ => none

/-- Whether a character can stand in the name of a word assertion. -/
def isAssertionChar (c : Char) : Bool := c.isAlpha || c == '-'

/-- Reads the rest of `\b`. Braces that do not begin with a letter or hyphen are
left for a repetition. -/
def readBoundary (flags : Flags) (text : List Char) : Option (Atom × List Char) :=
  match text with
  | '\x7b' :: inside =>
    if (dropGap flags inside).head?.any isAssertionChar then do
      let (name, rest) ← readBraced flags inside
      return (.look (← wordAssertion? flags (String.ofList name)), rest)
    else if (dropGap flags inside).isEmpty then none
    else some (.look (.wordBoundary flags.unicode), text)
  | _ => some (.look (.wordBoundary flags.unicode), text)

/-- Reads what follows a backslash. -/
def readEscape (flags : Flags) : List Char → Option (Atom × List Char)
  | [] => none
  | c :: rest =>
    if c.isDigit then none
    else if c = 'x' ∨ c = 'u' ∨ c = 'U' then readHex flags c rest
    else if c = 'p' ∨ c = 'P' then readProperty flags (c == 'P') rest
    else if isEscapable c then some (.literal c, rest)
    else
      match flags.perl? c with
      | some set => some (.set set, rest)
      | none =>
        match c with
        | 'a' => some (.literal '\x07', rest)
        | 'f' => some (.literal '\x0c', rest)
        | 't' => some (.literal '\t', rest)
        | 'n' => some (.literal '\n', rest)
        | 'r' => some (.literal '\r', rest)
        | 'v' => some (.literal '\x0b', rest)
        | 'A' => some (.look .textStart, rest)
        | 'z' => some (.look .textStop, rest)
        | 'b' => readBoundary flags rest
        | 'B' => some (.look (.notWordBoundary flags.unicode), rest)
        | '<' => some (.look (.wordStart flags.unicode), rest)
        | '>' => some (.look (.wordStop flags.unicode), rest)
        | _ => none

end SeriesGateway.Regex
