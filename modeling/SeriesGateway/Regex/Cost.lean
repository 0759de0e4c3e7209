import SeriesGateway.Regex.Expr

/-! # Size of compiled expressions

Expressions whose automaton would need too much memory are refused. The cost is
counted in bytes over the states of the automaton that reads UTF-8, once reading
forwards with capture groups and once reading backwards without.
-/

namespace SeriesGateway.Regex

/-- Bytes per automaton state. -/
def stateCost : Nat := 32

/-- Bytes per branch of a state with several. -/
def branchCost : Nat := 4

/-- The greatest cost of an accepted expression. -/
def costLimit : Nat := 10485760

/-- Bytes needed to read in either direction. -/
structure Cost where
  forward : Nat
  backward : Nat
deriving DecidableEq, Repr

namespace Cost

def states (n : Nat) : Cost := ⟨n * stateCost, n * stateCost⟩

instance : Add Cost := ⟨fun a b => ⟨a.forward + b.forward, a.backward + b.backward⟩⟩

def scale (n : Nat) (c : Cost) : Cost := ⟨n * c.forward, n * c.backward⟩

def branches (n : Nat) : Cost := ⟨n * branchCost, n * branchCost⟩

/-- Boundaries of the code points with encodings of one length, and of the
surrogates. -/
def lengthBounds : List Nat := [0x80, 0x800, 0xd800, 0xe000, 0x10000]

/-- Cuts a range of code points in front of every bound within it. -/
def cutAt (bounds : List Nat) (range : Nat × Nat) : List (Nat × Nat) :=
  bounds.foldr (fun bound pieces =>
    pieces.flatMap fun (a, b) =>
      if a < bound ∧ bound ≤ b then [(a, bound - 1), (bound, b)] else [(a, b)]) [range]

/-- Numbers of code points that one, two and three continuation bytes tell apart. -/
def continuationUnits : List Nat := [64, 4096, 262144]

/-- Splits a range of code points with encodings of one length until every part
is a product of byte ranges. `fuel` bounds the number of cuts on one path. -/
def products : (fuel a b : Nat) → List (Nat × Nat)
  | 0, a, b => [(a, b)]
  | fuel + 1, a, b =>
    match continuationUnits.find? fun unit =>
      a / unit ≠ b / unit ∧ (a % unit ≠ 0 ∨ b % unit ≠ unit - 1) with
    | none => [(a, b)]
    | some unit =>
      let cut := if a % unit ≠ 0 then (a / unit + 1) * unit else b / unit * unit
      products fuel a (cut - 1) ++ products fuel cut b

/-- The byte ranges of a product of encodings. -/
def byteRanges (range : Nat × Nat) : List (UInt8 × UInt8) :=
  (String.utf8EncodeChar (Char.ofNat range.1)).zip
    (String.utf8EncodeChar (Char.ofNat range.2))

/-- Number of byte ranges that each sequence does not share with the start of
the one before it. -/
def fresh (previous : List (UInt8 × UInt8)) : List (List (UInt8 × UInt8)) → Nat
  | [] => 0
  | sequence :: rest =>
    let shared := ((previous.zip sequence).takeWhile fun p => p.1 == p.2).length
    sequence.length - shared + fresh sequence rest

/-- Cost of reading one character of a set. -/
def ofSet (set : CharSet) : Cost :=
  match set.only? with
  | some code => states (String.utf8EncodeChar (Char.ofNat code)).length
  | none =>
    if set.isAscii then states 1 + ⟨8 * set.ranges.length, 8 * set.ranges.length⟩
    else
      let pieces := (set.ranges.flatMap (cutAt lengthBounds)).filter fun r =>
        r.2 < 0xd800 || 0xe000 ≤ r.1
      let sequences := (pieces.flatMap fun (a, b) => products 8 a b).map byteRanges
      states (2 + fresh [] sequences) + branches sequences.length

/-- Cost of a capture group around an expression. -/
def group (c : Cost) : Cost := ⟨c.forward + 2 * stateCost, c.backward⟩

/-- Cost of alternatives. -/
def alternatives (parts : List Cost) : Cost :=
  parts.foldl (· + ·) (states 2 + branches parts.length)

/-- Cost of a repetition. Expressions that only match the empty text are
repeated at most once. -/
def repeated (body : Expr) (c : Cost) (low : Nat) (high : Option Nat) : Cost :=
  let (low, high) :=
    if body.onlyEmpty then (min low 1, some ((high.getD 1).min 1)) else (low, high)
  match high with
  | none => c.scale (max low 1) + states 3
  | some high =>
    if high = 0 then states 1
    else if low = high then c.scale low
    else c.scale high + (states (high - low + 1) + branches (2 * (high - low)))

/-- Whether an expression of this cost is accepted. -/
def isAccepted (c : Cost) : Bool := max c.forward c.backward ≤ costLimit

end Cost

end SeriesGateway.Regex
