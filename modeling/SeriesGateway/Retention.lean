import SeriesGateway.Decimal.Read
import SeriesGateway.Error
import SeriesGateway.Text.Fields

/-! # Retention ladders

A ladder is a list of steps; from an age on, data is kept at the precision of
that step. Ladders are configured as lists or in a compact text such as
`0:60,1d:5m`.
-/

namespace SeriesGateway

/-- From `age` seconds in the past on, one point is kept per `precision` seconds. -/
structure Retention where
  age : UInt32
  precision : UInt32
deriving DecidableEq, Repr

namespace Retention

/-- Seconds in one unit of time, by its suffix. A bare number is in seconds. -/
def unitSeconds? : List Char → Option Nat
  | [] => some 1
  | ['s'] => some 1
  | ['m'] => some 60
  | ['m', 'i', 'n'] => some 60
  | ['h'] => some 3600
  | ['d'] => some 86400
  | ['w'] => some 604800
  | ['y'] => some 31536000
  | _ => none

/-- Reads a time span of digits and a unit into seconds. Blanks around it are
dropped. Digits beyond 64 bits are a bad number before the unit is looked at. -/
def parseSeconds (text : List Char) : Except RuleError UInt32 :=
  let trimmed := Text.trim text
  let refuse (reason : String) : Except RuleError UInt32 :=
    .error (.invalidRetention (String.ofList trimmed) reason)
  let digits := trimmed.takeWhile Decimal.isDigit
  let number := Decimal.ofDigits 0 digits
  if digits.isEmpty then refuse "missing number"
  else if UInt64.size ≤ number then refuse "bad number"
  else
    match unitSeconds? (trimmed.dropWhile Decimal.isDigit) with
    | none => refuse "unknown unit, use s, m, h, d, w or y"
    | some unit =>
      if number * unit < UInt32.size then .ok (UInt32.ofNat (number * unit))
      else refuse "value too large"

/-- Reads one `age:precision` entry. -/
def parseEntry (entry : List Char) : Except RuleError Retention :=
  match Text.cut? ':' entry with
  | none => .error (.invalidRetention (String.ofList entry) "expected 'age:precision'")
  | some (age, precision) => do
    let age ← parseSeconds age
    let precision ← parseSeconds precision
    return ⟨age, precision⟩

/-- The entries of a compact ladder: its comma-separated fields without the
blanks around them, blank fields left out. -/
def entries (text : List Char) : List (List Char) :=
  ((Text.fields ',' text).map Text.trim).filter fun entry => !entry.isEmpty

/-- Reads a compact ladder; the first bad entry decides the error. -/
def parseLadder (text : List Char) : Except RuleError (List Retention) :=
  (entries text).mapM parseEntry

/-- A ladder as written in configuration. -/
inductive Spec where
  | list (steps : List Retention)
  | compact (text : String)
deriving DecidableEq, Repr

instance : Inhabited Spec := ⟨.list []⟩

/-- The steps of a configured ladder, in the order written. -/
def Spec.steps : Spec → Except RuleError (List Retention)
  | .list steps => .ok steps
  | .compact text => parseLadder text.toList

end Retention

end SeriesGateway
