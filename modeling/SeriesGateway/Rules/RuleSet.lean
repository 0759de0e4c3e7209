import SeriesGateway.Rules.Pattern

/-! # Rule sets

An ordered list of patterns with defaults. The first pattern that applies and
names a function decides the function of a metric, and the first one that
applies and has a step for the age of the query decides its precision. What no
pattern decides is taken from the defaults.
-/

namespace SeriesGateway

/-- A rule set as written in configuration. -/
structure RulesConfig where
  defaultPrecision : UInt32
  defaultFunction : String
  patterns : List PatternConfig
deriving DecidableEq, Repr

/-- One point per minute and averages, without patterns. -/
def RulesConfig.standard : RulesConfig := ⟨60, "average", []⟩

instance : Inhabited RulesConfig := ⟨.standard⟩

/-- What the rules say about a metric. -/
structure RuleMatch where
  precision : UInt32
  function : Aggregation
deriving DecidableEq, Repr

/-- A compiled rule set. -/
structure RuleSet where
  patterns : List RetentionPattern
  defaultPrecision : UInt32
  defaultFunction : Aggregation
  positive : defaultPrecision ≠ 0

namespace RuleSet

/-- The rule set of the standard configuration. -/
def standard : RuleSet := ⟨[], 60, .average, by decide⟩

instance : Inhabited RuleSet := ⟨standard⟩

/-- Builds a rule set from compiled patterns. -/
def ofParts (patterns : List RetentionPattern) (defaultPrecision : UInt32)
    (defaultFunction : Aggregation) : Except RuleError RuleSet :=
  if h : defaultPrecision = 0 then
    .error (.invalidRetention "0" "default precision must be > 0")
  else .ok ⟨patterns, defaultPrecision, defaultFunction, h⟩

/-- Compiles patterns that start at a position of a rule set. -/
def compilePatterns (engine : RegexEngine) (index : Nat) :
    List PatternConfig → Except RuleError (List RetentionPattern)
  | [] => .ok []
  | config :: rest => do
    let pattern ← RetentionPattern.compile engine index config
    let patterns ← compilePatterns engine (index + 1) rest
    return pattern :: patterns

/-- Compiles a configured rule set: the default function first, then the patterns
in order, then the default precision. -/
def compile (engine : RegexEngine) (config : RulesConfig) : Except RuleError RuleSet :=
  match Aggregation.ofName? config.defaultFunction with
  | none => .error (.unknownFunction .defaults config.defaultFunction)
  | some function => do
    let patterns ← compilePatterns engine 0 config.patterns
    ofParts patterns config.defaultPrecision function

/-- Scans patterns for the halves of an answer that are still unknown. Each
pattern is matched at most once, and none after both halves are known. -/
def resolve (metric : String) (age : UInt32) :
    List RetentionPattern → Option UInt32 → Option Aggregation →
      Option UInt32 × Option Aggregation
  | [], precision, function => (precision, function)
  | pattern :: rest, precision, function =>
    if precision.isSome && function.isSome then (precision, function)
    else if pattern.appliesTo metric then
      resolve metric age rest (precision.or (pattern.precisionAt age))
        (function.or pattern.function)
    else resolve metric age rest precision function

/-- What the rules say about a metric whose oldest queried point has the given
age in seconds. -/
def lookup (rules : RuleSet) (metric : String) (age : UInt32) : RuleMatch :=
  let (precision, function) := resolve metric age rules.patterns none none
  ⟨precision.getD rules.defaultPrecision, function.getD rules.defaultFunction⟩

def lookupPrecision (rules : RuleSet) (metric : String) (age : UInt32) : UInt32 :=
  (rules.lookup metric age).precision

/-- The function of a metric, which its age has no part in. -/
def lookupFunction (rules : RuleSet) (metric : String) : Aggregation :=
  (rules.lookup metric 0).function

/-- The largest precision among metrics, or the default one without metrics. -/
def maxPrecision (rules : RuleSet) (metrics : List String) (age : UInt32) : UInt32 :=
  ((metrics.map fun metric => rules.lookupPrecision metric age).max?).getD
    rules.defaultPrecision

/-- Positions of all patterns that apply to a metric. -/
def matching (rules : RuleSet) (metric : String) : List Nat :=
  (rules.patterns.zipIdx.filter fun entry => entry.1.appliesTo metric).map (·.2)

end RuleSet

end SeriesGateway
