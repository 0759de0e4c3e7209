import SeriesGateway.Arithmetic
import SeriesGateway.Error
import SeriesGateway.Target

/-! # Grouping by function

Storage aggregates with one function per query, so the metrics of a target group
are split by the function their rules give them. The precisions decide the step
that the group needs.
-/

namespace SeriesGateway.Plan

/-- Metrics that share a function. -/
structure FunctionGroup where
  function : Aggregation
  metrics : List String
  /-- The largest precision among the metrics. -/
  step : UInt32
deriving DecidableEq, Repr

/-- The rules of every metric of a target group. -/
structure Grouping where
  rules : List (String × RuleMatch)
  /-- In order of the first metric of each group. -/
  groups : List FunctionGroup
deriving DecidableEq, Repr

namespace Grouping

def empty : Grouping := ⟨[], []⟩

/-- Adds a metric to the group of its function, which may not be there yet. -/
def addToGroups (metric : String) (rule : RuleMatch) : List FunctionGroup → List FunctionGroup
  | [] => [⟨rule.function, [metric], rule.precision⟩]
  | group :: rest =>
    if group.function = rule.function then
      ⟨group.function, group.metrics ++ [metric], max group.step rule.precision⟩ :: rest
    else group :: addToGroups metric rule rest

def add (grouping : Grouping) (metric : String) (rule : RuleMatch) : Grouping :=
  ⟨grouping.rules ++ [(metric, rule)], addToGroups metric rule grouping.groups⟩

/-- Looks up the rules of every metric for the age of a frame. -/
def resolve (group : TargetGroup) (frame : TimeFrame) (now : UInt32) : Grouping :=
  group.metrics.foldl (fun grouping metric =>
    grouping.add metric (group.rules.lookup (group.ruleName metric) (frame.age now))) empty

/-- The largest step of a group, and at least one. -/
def maxStep (grouping : Grouping) : UInt32 :=
  max (((grouping.groups.map (·.step)).max?).getD 1) 1

/-- Folds steps into a common multiple until one does not fit. -/
def foldSteps (common : UInt32) : List UInt32 → Except StepError UInt32
  | [] => .ok common
  | step :: rest =>
    match Step.lcm? common step with
    | some folded => foldSteps folded rest
    | none => .error (.overflow common step)

/-- What a target group reports to the barrier: the least common multiple of the
steps of its groups, or zero if it has none. -/
def contribution (grouping : Grouping) : Except StepError UInt32 :=
  foldSteps 0 (grouping.groups.map (·.step))

def isEmpty (grouping : Grouping) : Bool := grouping.rules.isEmpty

end Grouping

end SeriesGateway.Plan
