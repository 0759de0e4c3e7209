import SeriesGateway.Decimal.Style
import SeriesGateway.Text.Hex

/-! # Written JSON

Trees of JSON values and their text over several lines, with two blanks of
indentation per level. Members are written in the order given.
-/

namespace SeriesGateway.Json

inductive Tree where
  | null
  | natural (n : Nat)
  /-- A number; those that JSON cannot write are null. -/
  | real (x : Sample)
  | text (s : String)
  | list (items : List Tree)
  | record (members : List (String × Tree))

/-- A character within quotes. -/
def escape (c : Char) : List Char :=
  if c = '"' then ['\\', '"']
  else if c = '\\' then ['\\', '\\']
  else if c = '\n' then ['\\', 'n']
  else if c = '\r' then ['\\', 'r']
  else if c = '\t' then ['\\', 't']
  else if c = '\x08' then ['\\', 'b']
  else if c = '\x0c' then ['\\', 'f']
  else if c.toNat < 0x20 then
    ['\\', 'u', '0', '0', Text.hexDigit (c.toNat / 16), Text.hexDigit (c.toNat % 16)]
  else [c]

def quoted (s : String) : String := String.ofList ('"' :: s.toList.flatMap escape ++ ['"'])

/-- The line break in front of an element at a level. -/
def lineBreak (level : Nat) : String := String.ofList ('\n' :: List.replicate (2 * level) ' ')

/-- Elements between brackets, each on a line of its own. -/
def block (level : Nat) (opening closing : String) (elements : List String) : String :=
  if elements.isEmpty then opening ++ closing
  else
    opening ++ String.intercalate "," (elements.map (lineBreak (level + 1) ++ ·)) ++
      lineBreak level ++ closing

namespace Tree

mutual

/-- The text of a tree at a level. -/
def pretty (level : Nat) : Tree → String
  | null => "null"
  | natural n => toString n
  | real x => if x.isNaN || x.isInfinite then "null" else Decimal.text .json x
  | text s => quoted s
  | list items => block level "[" "]" (prettyItems (level + 1) items)
  | record members => block level "\x7b" "\x7d" (prettyMembers (level + 1) members)

def prettyItems (level : Nat) : List Tree → List String
  | [] => []
  | item :: rest => pretty level item :: prettyItems level rest

def prettyMembers (level : Nat) : List (String × Tree) → List String
  | [] => []
  | (key, value) :: rest =>
    (quoted key ++ ": " ++ pretty level value) :: prettyMembers level rest

end

end Tree

end SeriesGateway.Json
