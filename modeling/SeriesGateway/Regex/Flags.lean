import SeriesGateway.Regex.Expr

/-! # Flags and classes

The flags that change how an expression is read, and the sets and assertions
that escapes and dots denote under them. Without the Unicode flag classes hold
bytes, and only those below 128 can be part of well-formed text.
-/

namespace SeriesGateway.Regex

structure Flags where
  ignoreCase : Bool
  multiLine : Bool
  dotMatchesNewline : Bool
  unicode : Bool
  crlf : Bool
  verbose : Bool
deriving DecidableEq, Repr

namespace Flags

/-- Unicode classes and nothing else. -/
def initial : Flags := ⟨false, false, false, true, false, false⟩

/-- Sets or clears the flag with a letter. Greed does not change what matches. -/
def set? (flags : Flags) (letter : Char) (value : Bool) : Option Flags :=
  match letter with
  | 'i' => some { flags with ignoreCase := value }
  | 'm' => some { flags with multiLine := value }
  | 's' => some { flags with dotMatchesNewline := value }
  | 'U' => some flags
  | 'u' => some { flags with unicode := value }
  | 'R' => some { flags with crlf := value }
  | 'x' => some { flags with verbose := value }
  | _ => none

/-- All bytes, as the universe of classes without the Unicode flag. -/
def bytes : CharSet := ⟨[(0, 0xff)]⟩

def complement (flags : Flags) (s : CharSet) : CharSet :=
  if flags.unicode then s.complement else bytes.diff s

/-- The set with the other cases of its letters. -/
def fold (flags : Flags) (s : CharSet) : CharSet :=
  if flags.unicode then Unicode.closeUnderFolding s
  else
    let shifted (first last : Nat) (shift : Nat → Nat) : List (Nat × Nat) :=
      (s.inter ⟨[(first, last)]⟩).ranges.map fun (a, b) => (shift a, shift b)
    .ofRanges (s.ranges ++ shifted 0x41 0x5a (· + 32) ++ shifted 0x61 0x7a (· - 32))

/-- Adds other cases if they are to be ignored, then negates if asked to. -/
def foldNegate (flags : Flags) (negated : Bool) (s : CharSet) : CharSet :=
  let folded := if flags.ignoreCase then flags.fold s else s
  if negated then flags.complement folded else folded

/-- Whether a set can stand in an expression: without the Unicode flag it may
not hold bytes beyond ASCII, which match no text. -/
def admits (flags : Flags) (s : CharSet) : Bool := flags.unicode || s.isAscii

/-- A set as an expression of its own. -/
def setExpr? (flags : Flags) (s : CharSet) : Option Expr :=
  if flags.admits s then some (.chars s) else none

/-- What a dot matches. -/
def dot? (flags : Flags) : Option Expr :=
  let excluded : List (Nat × Nat) :=
    if flags.dotMatchesNewline then []
    else if flags.crlf then [(0x0a, 0x0a), (0x0d, 0x0d)]
    else [(0x0a, 0x0a)]
  flags.setExpr? (flags.complement ⟨excluded⟩)

def caret (flags : Flags) : Look :=
  if !flags.multiLine then .textStart else if flags.crlf then .crlfLineStart else .lineStart

def dollar (flags : Flags) : Look :=
  if !flags.multiLine then .textStop else if flags.crlf then .crlfLineStop else .lineStop

/-- ASCII blanks. -/
def asciiSpace : CharSet := ⟨[(0x09, 0x0d), (0x20, 0x20)]⟩

/-- The class of a letter among `d`, `s` and `w`; its capital negates it. -/
def perl? (flags : Flags) (letter : Char) : Option CharSet :=
  let choose (unicode ascii : CharSet) : CharSet := if flags.unicode then unicode else ascii
  match letter with
  | 'd' => some (choose Unicode.digit ⟨[(0x30, 0x39)]⟩)
  | 's' => some (choose Unicode.space asciiSpace)
  | 'w' => some (choose Unicode.word asciiWord)
  | 'D' => some (flags.complement (choose Unicode.digit ⟨[(0x30, 0x39)]⟩))
  | 'S' => some (flags.complement (choose Unicode.space asciiSpace))
  | 'W' => some (flags.complement (choose Unicode.word asciiWord))
  | _ => none

/-- A literal as an expression. -/
def literal? (flags : Flags) (c : Char) : Option Expr :=
  if !flags.ignoreCase then some (.chars (.singleton c))
  else if flags.unicode || c.toNat < 128 then some (.chars (flags.fold (.singleton c)))
  else none

end Flags

/-- Ranges of the named ASCII classes. -/
def asciiClasses : List (String × List (Nat × Nat)) := [
  ("alnum", [(0x30, 0x39), (0x41, 0x5a), (0x61, 0x7a)]),
  ("alpha", [(0x41, 0x5a), (0x61, 0x7a)]),
  ("ascii", [(0x00, 0x7f)]),
  ("blank", [(0x09, 0x09), (0x20, 0x20)]),
  ("cntrl", [(0x00, 0x1f), (0x7f, 0x7f)]),
  ("digit", [(0x30, 0x39)]),
  ("graph", [(0x21, 0x7e)]),
  ("lower", [(0x61, 0x7a)]),
  ("print", [(0x20, 0x7e)]),
  ("punct", [(0x21, 0x2f), (0x3a, 0x40), (0x5b, 0x60), (0x7b, 0x7e)]),
  ("space", [(0x09, 0x0d), (0x20, 0x20)]),
  ("upper", [(0x41, 0x5a)]),
  ("word", [(0x30, 0x39), (0x41, 0x5a), (0x5f, 0x5f), (0x61, 0x7a)]),
  ("xdigit", [(0x30, 0x39), (0x41, 0x46), (0x61, 0x66)])]

end SeriesGateway.Regex
