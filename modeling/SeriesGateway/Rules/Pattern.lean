import SeriesGateway.Aggregation
import SeriesGateway.Arithmetic
import SeriesGateway.Retention

/-! # Retention patterns

A pattern applies to the metrics whose name its regular expression matches, and
may give them an aggregation function and a retention ladder. A pattern can only
be built with a valid ladder: ages ascend strictly and no precision is zero. Which
expressions there are and what they match is left to an engine.
-/

namespace SeriesGateway

/-- A pattern as written in configuration. -/
structure PatternConfig where
  regexp : Option String
  function : Option String
  retention : Retention.Spec
deriving DecidableEq, Repr, Inhabited

/-- An engine for regular expressions: it tells the names that an expression matches
from others, if it accepts the expression. -/
abbrev RegexEngine := String → Option (String → Bool)

/-- A pattern that metrics can be looked up in. -/
structure RetentionPattern where
  /-- Tells the names that the regular expression matches, if there is one. -/
  regexp : Option (String → Bool)
  function : Option Aggregation
  ladder : List Retention
  positive : ∀ step ∈ ladder, step.precision ≠ 0
  ascending : ladder.Pairwise fun a b => a.age < b.age

namespace RetentionPattern

/-- Builds the pattern at a position of a rule set. A zero precision is reported
before ages out of order, and the first one is shown. -/
def ofParts (index : Nat) (regexp : Option (String → Bool))
    (function : Option Aggregation) (ladder : List Retention) : Except RuleError RetentionPattern :=
  match hzero : ladder.find? fun step => step.precision = 0 with
  | some step =>
    .error (.invalidRetention s!"{step.age}:{step.precision}"
      s!"pattern {index}: precision must be > 0")
  | none =>
    if hage : ladder.Pairwise fun a b => a.age < b.age then
      .ok ⟨regexp, function, ladder, by simpa using hzero, hage⟩
    else .error (.unorderedRetention index)

/-- Compiles the configured regular expression; an absent one applies always. -/
def compileRegexp (engine : RegexEngine) (index : Nat) :
    Option String → Except RuleError (Option (String → Bool))
  | none => .ok none
  | some text =>
    match engine text with
    | some isMatch => .ok (some isMatch)
    | none => .error (.invalidRegex index text)

/-- Resolves the configured function; an empty name is an absent one. -/
def compileFunction (index : Nat) : Option String → Except RuleError (Option Aggregation)
  | none => .ok none
  | some "" => .ok none
  | some name =>
    match Aggregation.ofName? name with
    | some function => .ok (some function)
    | none => .error (.unknownFunction (.pattern index) name)

/-- Compiles a configured pattern: first its regular expression, then its
function, then its ladder. -/
def compile (engine : RegexEngine) (index : Nat) (config : PatternConfig) :
    Except RuleError RetentionPattern := do
  let regexp ← compileRegexp engine index config.regexp
  let function ← compileFunction index config.function
  let ladder ← config.retention.steps
  ofParts index regexp function ladder

/-- Whether the pattern applies to a metric. -/
def appliesTo (pattern : RetentionPattern) (metric : String) : Bool :=
  pattern.regexp.all fun isMatch => isMatch metric

/-- The precision of the last step whose age was reached. As ages ascend, the steps
with ages that were reached come first, so they are counted by halving. -/
def precisionAt (pattern : RetentionPattern) (age : UInt32) : Option UInt32 :=
  match Search.bisect pattern.ladder.toArray fun step => step.age ≤ age with
  | 0 => none
  | before + 1 => pattern.ladder[before]?.map (·.precision)

end RetentionPattern

end SeriesGateway
