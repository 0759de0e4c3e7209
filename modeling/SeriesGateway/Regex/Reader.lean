import SeriesGateway.Regex.Bracket
import SeriesGateway.Regex.Cost
import SeriesGateway.Decimal.Read

/-! # Reading regular expressions

Reads the text of an expression from left to right with a stack of open groups.
Flags take effect where they stand and end with their group. Every part carries
its cost and the depth to which it is nested, because both are limited. An
expression that is accepted is looked for anywhere in a name. Of the classes of
characters those by age, by extended script and by segmentation are not known here,
and are refused.
-/

namespace SeriesGateway.Regex

/-- The depth of nesting up to which expressions are accepted. -/
def nestingLimit : Nat := 250

/-- A part of an expression. Flags are parts that cannot be repeated. -/
structure Part where
  expr : Expr
  cost : Cost
  depth : Nat
  repeatable : Bool

namespace Part

def empty : Part := ⟨.empty, .states 1, 0, true⟩

/-- Flags match nothing and cost nothing. -/
def flags : Part := ⟨.empty, .states 0, 0, false⟩

def ofSet (set : CharSet) (depth : Nat) : Part := ⟨.chars set, .ofSet set, depth, true⟩

def ofLook (assertion : Look) : Part := ⟨.look assertion, .states 1, 0, true⟩

/-- Parts one after another; a single part stays as it is. -/
def concat : List Part → Part
  | [] => empty
  | [part] => part
  | parts =>
    ⟨parts.foldr (fun p e => p.expr.seq e) .empty,
      parts.foldl (fun c p => c + p.cost) (.states 0),
      1 + (parts.map (·.depth)).foldl max 0, true⟩

/-- Alternatives; a single one stays as it is. -/
def alternatives : List Part → Part
  | [] => empty
  | [part] => part
  | first :: rest =>
    ⟨rest.foldl (fun e p => .alt e p.expr) first.expr,
      .alternatives ((first :: rest).map (·.cost)),
      1 + ((first :: rest).map (·.depth)).foldl max 0, true⟩

def group (capturing : Bool) (part : Part) : Part :=
  ⟨part.expr, if capturing then part.cost.group else part.cost, part.depth + 1, true⟩

def times (part : Part) (low : Nat) (high : Option Nat) : Part :=
  ⟨.times part.expr low high, .repeated part.expr part.cost low high, part.depth + 1, true⟩

end Part

/-- What an open group will return to: the branches and parts around it, last
ones first, and the flags in effect there. -/
structure Frame where
  branches : List Part
  parts : List Part
  flags : Flags
  capturing : Bool

structure State where
  frames : List Frame
  branches : List Part
  parts : List Part
  flags : Flags
  /-- Names of the capture groups so far. -/
  names : List (List Char)

namespace State

def initial : State := ⟨[], [], [], .initial, []⟩

def push (state : State) (part : Part) : State := { state with parts := part :: state.parts }

/-- The alternatives of the innermost group. -/
def body (state : State) : Part :=
  .alternatives (Part.concat state.parts.reverse :: state.branches).reverse

end State

/-- Reads flags up to a colon or closing parenthesis; `seen` holds the letters
and the negation before, of which none may come twice. -/
def readFlags (flags : Flags) (seen : List Char) :
    List Char → Option (Flags × List Char × List Char)
  | [] => none
  | c :: rest =>
    if c = ':' ∨ c = ')' then
      if seen.head? = some '-' then none else some (flags, seen, c :: rest)
    else if seen.contains c then none
    else if c = '-' then readFlags flags (c :: seen) rest
    else
      match flags.set? c (!seen.contains '-') with
      | none => none
      | some flags => readFlags flags (c :: seen) rest

/-- Whether a character can stand in the name of a group. -/
def isNameChar (first : Bool) (c : Char) : Bool :=
  c == '_' || (if first then Unicode.alphabetic.contains c
    else Unicode.alphanumeric.contains c || ['.', '[', ']'].contains c)

/-- Reads the name of a group up to its closing angle bracket. -/
def readName (text : List Char) : Option (List Char × List Char) :=
  let name := text.takeWhile (· != '>')
  match name, text.dropWhile (· != '>') with
  | first :: others, _ :: rest =>
    if isNameChar true first && others.all (isNameChar false) then some (name, rest) else none
  | _, _ => none

/-- Opens a group with the given inner flags. -/
def openGroup (state : State) (flags : Flags) (capturing : Bool) : State :=
  { state with
    frames := ⟨state.branches, state.parts, state.flags, capturing⟩ :: state.frames
    branches := []
    parts := []
    flags }

/-- Reads what follows an opening parenthesis. Assertions about the text around
the position are refused. -/
def readGroup (state : State) (text : List Char) : Option (State × List Char) :=
  let named (rest : List Char) : Option (State × List Char) :=
    (readName rest).bind fun (name, rest) =>
      if state.names.contains name then none
      else
        some ({ openGroup state state.flags true with names := name :: state.names }, rest)
  match dropGap state.flags text with
  | '?' :: '=' :: _ => none
  | '?' :: '!' :: _ => none
  | '?' :: '<' :: '=' :: _ => none
  | '?' :: '<' :: '!' :: _ => none
  | '?' :: 'P' :: '<' :: rest => named rest
  | '?' :: '<' :: rest => named rest
  | '?' :: rest =>
    match readFlags state.flags [] rest with
    | some (flags, seen, c :: rest) =>
      if c = ':' then some (openGroup state flags false, rest)
      else if seen.isEmpty then none
      else some ({ state with flags }.push .flags, rest)
    | _ => none
  | rest => some (openGroup state state.flags true, rest)

/-- Closes the innermost group. -/
def closeGroup (state : State) : Option State :=
  match state.frames with
  | [] => none
  | frame :: frames =>
    some { state with
      frames
      branches := frame.branches
      parts := state.body.group frame.capturing :: frame.parts
      flags := frame.flags }

/-- Repeats the part read last. -/
def repeatLast (state : State) (low : Nat) (high : Option Nat) : Option State :=
  match state.parts with
  | [] => none
  | part :: parts =>
    if part.repeatable then some { state with parts := part.times low high :: parts } else none

/-- Drops the mark that makes a repetition lazy. -/
def dropLazy : List Char → List Char
  | '?' :: rest => rest
  | rest => rest

/-- Reads digits with the gaps behind them. -/
def readNumberDigits (flags : Flags) (n count : Nat) (text : List Char) :
    Nat × Nat × List Char :=
  match text with
  | [] => (n, count, [])
  | c :: rest =>
    if Decimal.isDigit c then
      readNumberDigits flags (10 * n + Decimal.digitValue c) (count + 1) (dropGap flags rest)
    else (n, count, c :: rest)
termination_by text.length
decreasing_by exact Nat.lt_succ_of_le (dropGap_length_le flags rest)

/-- Reads a number of repetitions with blanks around it. -/
def readCount (flags : Flags) (text : List Char) : Option (Nat × List Char) :=
  let (n, count, rest) := readNumberDigits flags 0 0 (text.dropWhile Text.isBlank)
  if count = 0 ∨ UInt32.size ≤ n then none
  else some (n, dropGap flags (rest.dropWhile Text.isBlank))

/-- Reads the numbers of a counted repetition behind its opening brace. -/
def readCounts (flags : Flags) (text : List Char) :
    Option (Nat × Option Nat × List Char) := do
  let (low, rest) ← readCount flags (dropGap flags text)
  match rest with
  | '\x7d' :: rest => some (low, some low, rest)
  | ',' :: rest =>
    match dropGap flags rest with
    | '\x7d' :: rest => some (low, none, rest)
    | rest =>
      let (high, rest) ← readCount flags rest
      match rest with
      | '\x7d' :: rest => if low ≤ high then some (low, some high, rest) else none
      | _ => none
  | _ => none

/-- The part that an atom outside of brackets denotes. -/
def atomPart? (flags : Flags) : Atom → Option Part
  | .literal c => (flags.literal? c).bind toPart?
  | .byte code => if flags.unicode then (flags.literal? (Char.ofNat code)).bind toPart? else none
  | .look assertion => some (.ofLook assertion)
  | .set s => (flags.setExpr? s).bind toPart?
where
  toPart? : Expr → Option Part
    | .chars set => some (.ofSet set 0)
    | _ => none

/-- Reads the next part of an expression, whose first character is `c`. -/
def turn (state : State) (c : Char) (rest : List Char) : Option (State × List Char) :=
  let flags := state.flags
  match c with
  | '(' => readGroup state rest
  | ')' => (closeGroup state).map (·, rest)
  | '|' =>
    some ({ state with
      branches := Part.concat state.parts.reverse :: state.branches, parts := [] }, rest)
  | '[' =>
    (Bracket.read flags rest).map fun (result, rest) =>
      (state.push (.ofSet result.set result.depth), rest)
  | '?' => (repeatLast state 0 (some 1)).map (·, dropLazy rest)
  | '*' => (repeatLast state 0 none).map (·, dropLazy rest)
  | '+' => (repeatLast state 1 none).map (·, dropLazy rest)
  | '\x7b' =>
    (readCounts flags rest).bind fun (low, high, rest) =>
      (repeatLast state low high).map (·, dropLazy (dropGap flags rest))
  | '\\' =>
    (readEscape flags rest).bind fun (atom, rest) =>
      (atomPart? flags atom).map fun part => (state.push part, rest)
  | '.' =>
    flags.dot?.bind fun e =>
      (atomPart?.toPart? e).map fun part => (state.push part, rest)
  | '^' => some (state.push (.ofLook flags.caret), rest)
  | '$' => some (state.push (.ofLook flags.dollar), rest)
  | c => (atomPart? flags (.literal c)).map fun part => (state.push part, rest)

/-- Reads parts to the end of the text. Every turn reads a character, so the
length of the text bounds their number. -/
def run : (fuel : Nat) → State → List Char → Option State
  | 0, _, _ => none
  | fuel + 1, state, text =>
    match dropGap state.flags text with
    | [] => some state
    | c :: rest => (turn state c rest).bind fun (state, rest) => run fuel state rest

/-- Reads a whole expression in which every group is closed. -/
def read (text : List Char) : Option Part :=
  (run (text.length + 1) .initial text).bind fun state =>
    if state.frames.isEmpty then some state.body else none

/-- What an expression matches somewhere in, if it is neither nested too deeply nor
too large. -/
def engine (text : String) : Option (String → Bool) :=
  (read text.toList).bind fun part =>
    if part.depth ≤ nestingLimit && part.cost.isAccepted then
      some fun name => part.expr.search name.toList
    else none

end SeriesGateway.Regex
