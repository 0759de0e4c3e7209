import SeriesGateway.Arithmetic
import SeriesGateway.Plan.Grouping
import SeriesGateway.Plan.Query

/-! # Query plans

How a target group is fetched over a frame. Either storage returns raw points,
asked for in one query whose bounds are aligned to the largest step of a metric;
or storage aggregates, with one query per function and all bounds aligned to a
step that the groups of the request have in common.
-/

namespace SeriesGateway.Plan

/-- Which side aggregates. -/
inductive Mode where
  | aggregated
  | unaggregated
deriving DecidableEq, Repr

/-- The form of the rows that storage returns. -/
def Mode.shape : Mode → Wire.RowShape
  | aggregated => .aggregated
  | unaggregated => .unaggregated

/-- How one target group is fetched and consolidated. -/
structure QueryPlan where
  mode : Mode
  grouping : Grouping
  /-- The common step of the request, or the largest step of a metric. -/
  step : UInt32
  /-- Aligned bounds, both inclusive. -/
  start : UInt32
  stop : UInt32
  queries : List StorageQuery
deriving DecidableEq, Repr

namespace QueryPlan

/-- The plan of a group without metrics asks for nothing. -/
def empty (mode : Mode) (frame : TimeFrame) : QueryPlan :=
  ⟨mode, .empty, 1, frame.start, frame.stop, []⟩

/-- The step that all metrics are rolled up with, or zero if each has its own. -/
def rollupStep (plan : QueryPlan) : UInt32 :=
  match plan.mode with
  | .aggregated => plan.step
  | .unaggregated => 0

/-- The common step, made a multiple of itself that keeps the number of buckets
in a frame within what the client wants. -/
def finalStep (frame : TimeFrame) (common : UInt32) : UInt32 :=
  let common := Step.positive common
  if frame.maxDataPoints = 0 then common
  else max common (Step.ceil (Step.parts frame.duration frame.maxDataPoints) common)

/-- The table of storage paths of metrics. -/
def pathTable (group : TargetGroup) (metrics : List String) : ExternalTable :=
  .ofPaths (metrics.map group.storagePath)

/-- Plans to fetch raw points. -/
def unaggregated (group : TargetGroup) (frame : TimeFrame) (now : UInt32) : QueryPlan :=
  let grouping := Grouping.resolve group frame now
  if grouping.isEmpty then empty .unaggregated frame
  else
    let step := grouping.maxStep
    let start := Step.floor frame.start step
    let stop := Step.ceil frame.stop step
    let query : StorageQuery :=
      ⟨group.table, rawText group.table start stop, pathTable group group.metrics, start, stop,
        step, .unaggregated, none⟩
    ⟨.unaggregated, grouping, step, start, stop, [query]⟩

/-- The query for the metrics of one function. -/
def functionQuery (group : TargetGroup) (step start stop : UInt32) (part : FunctionGroup) :
    StorageQuery :=
  ⟨group.table, aggregatedText group.table part.function step start stop,
    pathTable group part.metrics, start, stop, step, .aggregated, some part.function⟩

/-- Plans to let storage aggregate the metrics of a grouping. A common step of
zero stands for the one that the grouping itself needs. -/
def aggregatedWith (group : TargetGroup) (frame : TimeFrame) (grouping : Grouping)
    (common : UInt32) : Except StepError QueryPlan :=
  if grouping.isEmpty then .ok (empty .aggregated frame)
  else do
    let common ← if common ≠ 0 then .ok common else grouping.contribution
    let step := finalStep frame common
    let start := Step.floor frame.start step
    let stop := Step.ceil frame.stop step
    return ⟨.aggregated, grouping, step, start, stop,
      grouping.groups.map (functionQuery group step start stop)⟩

/-- Plans to let storage aggregate. -/
def aggregated (group : TargetGroup) (frame : TimeFrame) (now common : UInt32) :
    Except StepError QueryPlan :=
  aggregatedWith group frame (Grouping.resolve group frame now) common

end QueryPlan

end SeriesGateway.Plan
