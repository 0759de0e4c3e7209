import SeriesGateway.Rules.RuleSet
import SeriesGateway.Text.Fields

/-! # Targets

What a request asks for: a time frame, and groups of metrics that a target
expression resolved to, each with the names it is shown under.
-/

namespace SeriesGateway

/-- A window of epoch seconds and the number of points per series that the
client wants at most, where zero is no limit. -/
structure TimeFrame where
  start : UInt32
  stop : UInt32
  maxDataPoints : UInt32
deriving DecidableEq, Repr

/-- Difference of two times, or zero if it would be negative. -/
def secondsBetween (earlier later : UInt32) : UInt32 :=
  if earlier ≤ later then later - earlier else 0

namespace TimeFrame

/-- Length of the window. -/
def duration (frame : TimeFrame) : UInt32 := secondsBetween frame.start frame.stop

/-- How far back from `now` the window reaches. -/
def age (frame : TimeFrame) (now : UInt32) : UInt32 := secondsBetween frame.start now

/-- Order by start, stop and number of points. -/
def le (a b : TimeFrame) : Bool :=
  a.start < b.start || (a.start == b.start &&
    (a.stop < b.stop || (a.stop == b.stop && a.maxDataPoints ≤ b.maxDataPoints)))

end TimeFrame

/-- A name that a metric is shown under, and the target expression it comes from. -/
structure Alias where
  displayName : String
  target : String
deriving DecidableEq, Repr

/-- The metrics of one target expression. -/
structure TargetGroup where
  /-- Distinct names in resolution order. -/
  metrics : List String
  /-- The aliases of each metric, in the order they were added. -/
  aliases : List (String × List Alias)
  table : String
  /-- The table stores paths with their nodes reversed. -/
  isReversed : Bool
  /-- Rules are matched against reversed names. Without effect on a table that is
  not reversed. -/
  matchReversedNames : Bool
  rules : RuleSet

namespace TargetGroup

def new (table : String) (rules : RuleSet) : TargetGroup := ⟨[], [], table, false, false, rules⟩

/-- The aliases of a metric. -/
def aliasesOf (group : TargetGroup) (metric : String) : List Alias :=
  (group.aliases.lookup metric).getD []

/-- Adds an alias to the list of a metric, which may not be there yet. -/
def addAlias (metric : String) (new : Alias) :
    List (String × List Alias) → List (String × List Alias)
  | [] => [(metric, [new])]
  | (name, known) :: rest =>
    if name = metric then (name, known ++ [new]) :: rest
    else (name, known) :: addAlias metric new rest

/-- Adds a resolved metric. Every call adds an alias, and a metric is listed when it has
none yet. -/
def push (group : TargetGroup) (metric displayName target : String) : TargetGroup :=
  { group with
    metrics :=
      if (group.aliases.lookup metric).isSome then group.metrics else group.metrics ++ [metric]
    aliases := addAlias metric ⟨displayName, target⟩ group.aliases }

/-- A group with the given metrics, display names and targets. -/
def ofTriples (table : String) (rules : RuleSet) (triples : List (String × String × String)) :
    TargetGroup :=
  triples.foldl (fun group (metric, displayName, target) => group.push metric displayName target)
    (new table rules)

/-- Marks the table as storing reversed paths. -/
def reversed (group : TargetGroup) (matchReversedNames : Bool) : TargetGroup :=
  { group with isReversed := true, matchReversedNames }

/-- Number of distinct metrics. -/
def size (group : TargetGroup) : Nat := group.metrics.length

def isEmpty (group : TargetGroup) : Bool := group.metrics.isEmpty

/-- The path under which the table stores a metric. -/
def storagePath (group : TargetGroup) (metric : String) : String :=
  if group.isReversed then Path.reverse metric else metric

/-- The name that rules are matched against. -/
def ruleName (group : TargetGroup) (metric : String) : String :=
  if group.isReversed && group.matchReversedNames then Path.reverse metric else metric

end TargetGroup

end SeriesGateway
