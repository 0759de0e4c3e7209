import SeriesGateway.Regex.Unicode.Table

/-! # Regular expressions

Expressions over characters with zero-width assertions, and the search for a
match anywhere in a text. The search keeps the expressions that are still to be
matched after each character, so its time does not depend on the order of
alternatives and it needs no backtracking.
-/

namespace SeriesGateway.Regex

/-- The characters on both sides of a position; `none` at an end of the text. -/
structure Context where
  before : Option Char
  after : Option Char

/-- A condition on a position. The word conditions take the word characters of
Unicode or those of ASCII. -/
inductive Look where
  | textStart
  | textStop
  | lineStart
  | lineStop
  | crlfLineStart
  | crlfLineStop
  | wordBoundary (unicode : Bool)
  | notWordBoundary (unicode : Bool)
  | wordStart (unicode : Bool)
  | wordStop (unicode : Bool)
  | wordStartHalf (unicode : Bool)
  | wordStopHalf (unicode : Bool)
deriving DecidableEq, Repr

/-- ASCII letters, digits and the underscore. -/
def asciiWord : CharSet := ⟨[(0x30, 0x39), (0x41, 0x5a), (0x5f, 0x5f), (0x61, 0x7a)]⟩

/-- Whether a word character stands on one side of a position. -/
def isWord (unicode : Bool) (c : Option Char) : Bool :=
  c.any (if unicode then Unicode.word else asciiWord).contains

/-- Whether an assertion holds at a position. A pair of carriage return and line
feed counts as one line end. -/
def Look.holds (here : Context) : Look → Bool
  | textStart => here.before.isNone
  | textStop => here.after.isNone
  | lineStart => here.before.all (· == '\n')
  | lineStop => here.after.all (· == '\n')
  | crlfLineStart =>
    here.before.all fun c => c == '\n' || (c == '\r' && here.after != some '\n')
  | crlfLineStop =>
    here.after.all fun c => c == '\r' || (c == '\n' && here.before != some '\r')
  | wordBoundary u => isWord u here.before != isWord u here.after
  | notWordBoundary u => isWord u here.before == isWord u here.after
  | wordStart u => !isWord u here.before && isWord u here.after
  | wordStop u => isWord u here.before && !isWord u here.after
  | wordStartHalf u => !isWord u here.before
  | wordStopHalf u => !isWord u here.after

/-- A regular expression. `times e low high` is `e` at least `low` and at most
`high` times, without an upper limit if `high` is `none`. -/
inductive Expr where
  | empty
  | chars (set : CharSet)
  | look (assertion : Look)
  | concat (first second : Expr)
  | alt (left right : Expr)
  | times (body : Expr) (low : Nat) (high : Option Nat)
deriving DecidableEq, Repr

namespace Expr

/-- Concatenation that drops an empty first part. -/
def seq : Expr → Expr → Expr
  | empty, e => e
  | d, e => concat d e

/-- Whether an expression matches the empty text at a position. -/
def nullable (here : Context) : Expr → Bool
  | empty => true
  | chars _ => false
  | look assertion => assertion.holds here
  | concat d e => d.nullable here && e.nullable here
  | alt d e => d.nullable here || e.nullable here
  | times e low _ => low == 0 || e.nullable here

/-- What remains to be matched after `c`, one expression per way to match it.
Where the body of a repetition matches nothing, its mandatory rounds cost
nothing, so any number of them may be left. -/
def step (here : Context) (c : Char) : Expr → List Expr
  | empty => []
  | chars set => if set.contains c then [empty] else []
  | look _ => []
  | concat d e =>
    (d.step here c).map (·.seq e) ++ if d.nullable here then e.step here c else []
  | alt d e => d.step here c ++ e.step here c
  | times e low high =>
    if high = some 0 then []
    else
      let left := if e.nullable here then 0 else low - 1
      (e.step here c).map (·.seq (times e left (high.map (· - 1))))

/-- Whether an expression can only match the empty text. -/
def onlyEmpty : Expr → Bool
  | empty => true
  | chars _ => false
  | look _ => true
  | concat d e => d.onlyEmpty && e.onlyEmpty
  | alt d e => d.onlyEmpty && e.onlyEmpty
  | times e _ high => high == some 0 || e.onlyEmpty

/-- Searches the rest of a text after the character `before`, with the
expressions in `live` begun and `e` free to begin at every position. -/
def searchFrom (e : Expr) (before : Option Char) (live : List Expr) : List Char → Bool
  | [] => (e :: live).any (nullable ⟨before, none⟩)
  | c :: rest =>
    let here : Context := ⟨before, some c⟩
    let begun := e :: live
    begun.any (nullable here) ||
      searchFrom e (some c) (begun.flatMap (step here c)).eraseDups rest

/-- Whether an expression matches anywhere in a text. -/
def search (e : Expr) (text : List Char) : Bool := searchFrom e none [] text

end Expr

end SeriesGateway.Regex
