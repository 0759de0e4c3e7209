import SeriesGateway.Regex.Escape

/-! # Bracketed classes

Reads a class in brackets, with ranges, nested classes and the operations of
intersection, difference and symmetric difference, which group to the left.
-/

namespace SeriesGateway.Regex.Bracket

/-- The operations between the parts of a class. -/
inductive Operation where
  | inter
  | diff
  | symmDiff

def Operation.apply : Operation → CharSet → CharSet → CharSet
  | inter => CharSet.inter
  | diff => CharSet.diff
  | symmDiff => CharSet.symmDiff

/-- A set with the depth to which its classes are nested. -/
structure Nested where
  set : CharSet
  depth : Nat

/-- Items read one after another: how many, what they cover together, and how
deep the deepest of them is. -/
structure Items where
  count : Nat
  set : CharSet
  depth : Nat

def Items.none : Items := ⟨0, .empty, 0⟩

def Items.add (items : Items) (item : Nested) : Items :=
  ⟨items.count + 1, items.set.union item.set, max items.depth item.depth⟩

/-- Several items nest one level deeper than each of them. -/
def Items.nested (items : Items) : Nested :=
  ⟨items.set, if items.count ≤ 1 then items.depth else items.depth + 1⟩

/-- What waits for the part being read: an open bracket with the items before
it, or the left side of an operation. -/
inductive Frame where
  | opened (negated : Bool) (outer : Items)
  | operation (op : Operation) (left : Nested)

structure State where
  frames : List Frame
  items : Items
  /-- Nothing but hyphens was read since the bracket opened. -/
  fresh : Bool

/-- Applies the operation that waits for a right side, if there is one. -/
def applyPending (flags : Flags) (right : Nested) : List Frame → Nested × List Frame
  | .operation op left :: frames =>
    let side (n : Nested) : CharSet := if flags.ignoreCase then flags.fold n.set else n.set
    (⟨op.apply (side left) (side right), 1 + max left.depth right.depth⟩, frames)
  | frames => (right, frames)

/-- Opens a bracket; a caret behind it negates the class. -/
def openBracket (flags : Flags) (frames : List Frame) (outer : Items) (text : List Char) :
    State × List Char :=
  match dropGap flags text with
  | '^' :: rest => (⟨.opened true outer :: frames, .none, true⟩, dropGap flags rest)
  | rest => (⟨.opened false outer :: frames, .none, true⟩, rest)

/-- Reads a named ASCII class such as `[:alpha:]` behind its first bracket. -/
def readAsciiClass (flags : Flags) : List Char → Option (CharSet × List Char)
  | ':' :: rest =>
    let (negated, rest) := match rest with
      | '^' :: rest => (true, rest)
      | rest => (false, rest)
    match rest.dropWhile (· != ':') with
    | ':' :: ']' :: after =>
      (asciiClasses.lookup (String.ofList (rest.takeWhile (· != ':')))).map fun ranges =>
        (flags.foldNegate negated (.ofRanges ranges), after)
    | _ => none
  | _ => none

/-- Reads one item: an escape or the character itself. -/
def readAtom (flags : Flags) : List Char → Option (Atom × List Char)
  | [] => none
  | '\\' :: rest => readEscape flags rest
  | c :: rest => some (.literal c, rest)

/-- The code of an item that can bound a range. Without the Unicode flag only
ASCII characters have one. -/
def codeOf? (flags : Flags) : Atom → Option Nat
  | .literal c => if flags.unicode || c.toNat < 128 then some c.toNat else none
  | .byte code => if flags.unicode then some code else none
  | _ => none

/-- The set that an item stands for, which must be admitted for itself; assertions
stand for none. -/
def setOf? (flags : Flags) : Atom → Option CharSet
  | .set s => if flags.admits s then some s else none
  | .look _ => none
  | atom => (codeOf? flags atom).map fun code => ⟨[(code, code)]⟩

/-- Reads an item or a range of two. A hyphen in front of a closing bracket or of
another hyphen makes no range. -/
def readRange (flags : Flags) (text : List Char) : Option (CharSet × List Char) := do
  let (first, rest) ← readAtom flags text
  match dropGap flags rest with
  | [] => none
  | '-' :: behind =>
    match dropGap flags behind with
    | [] => none
    | c :: rest =>
      if c = ']' ∨ c = '-' then return (← setOf? flags first, '-' :: behind)
      else
        let (last, rest) ← readAtom flags (c :: rest)
        let low ← codeOf? flags first
        let high ← codeOf? flags last
        if low ≤ high then some (⟨[(low, high)]⟩, rest) else none
  | rest => return (← setOf? flags first, rest)

/-- Result of a turn: the class goes on, or it is complete. -/
inductive Turn where
  | more (state : State) (rest : List Char)
  | done (result : Nested) (rest : List Char)

/-- Closes the innermost bracket, whose class must be admitted for itself. -/
def close (flags : Flags) (state : State) (rest : List Char) : Option Turn :=
  let (value, frames) := applyPending flags state.items.nested state.frames
  match frames with
  | .opened negated outer :: frames =>
    let result : Nested := ⟨flags.foldNegate negated value.set, 1 + value.depth⟩
    if !flags.admits result.set then none
    else
      match frames with
      | [] => some (.done result rest)
      | _ => some (.more ⟨frames, outer.add result, false⟩ rest)
  | _ => none

/-- Begins the right side of an operation. -/
def operate (flags : Flags) (op : Operation) (state : State) (rest : List Char) : Turn :=
  let (left, frames) := applyPending flags state.items.nested state.frames
  .more ⟨.operation op left :: frames, .none, false⟩ rest

/-- Reads the next part of a class. A bracket that opens without a named class
behind it begins a nested class, and a closing bracket that comes first is an
ordinary character. -/
def turn (flags : Flags) (state : State) (text : List Char) : Option Turn :=
  let item (set : CharSet) (rest : List Char) (fresh : Bool) : Turn :=
    .more { state with items := state.items.add ⟨set, 0⟩, fresh } rest
  match dropGap flags text with
  | [] => none
  | c :: rest =>
    if state.fresh && c == '-' then some (item (.singleton '-') rest true)
    else if state.fresh && c == ']' && state.items.count == 0 then
      some (item (.singleton ']') rest false)
    else if c = ']' then close flags state rest
    else if c = '[' then
      match readAsciiClass flags rest with
      | some (set, rest) => if flags.admits set then some (item set rest false) else none
      | none =>
        let (state, rest) := openBracket flags state.frames state.items rest
        some (.more state rest)
    else
      match c, rest with
      | '&', '&' :: rest => some (operate flags .inter state rest)
      | '-', '-' :: rest => some (operate flags .diff state rest)
      | '~', '~' :: rest => some (operate flags .symmDiff state rest)
      | _, _ => (readRange flags (c :: rest)).map fun (set, rest) => item set rest false

/-- Reads parts until the class is complete. Every turn reads a character, so
the length of the text bounds their number. -/
def run (flags : Flags) : (fuel : Nat) → State → List Char → Option (Nested × List Char)
  | 0, _, _ => none
  | fuel + 1, state, text =>
    match turn flags state text with
    | none => none
    | some (.done result rest) => some (result, rest)
    | some (.more state rest) => run flags fuel state rest

/-- Reads a class behind its opening bracket. -/
def read (flags : Flags) (text : List Char) : Option (Nested × List Char) :=
  let (state, rest) := openBracket flags [] .none text
  run flags (text.length + 1) state rest

end SeriesGateway.Regex.Bracket
