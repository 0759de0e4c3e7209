import SeriesGateway.Aggregation
import SeriesGateway.Text.Fields
import SeriesGateway.Text.Utf8
import SeriesGateway.Wire.Row

/-! # Point store

The points of one fetch with the metrics they belong to. Metric names are
interned: the first name gets the number 1, every new name the next one, and no
number is ever given again.
-/

namespace SeriesGateway

/-- One point of a metric. -/
structure Point where
  /-- The number of an interned metric; no metric has the number zero. -/
  metricId : UInt32
  value : Sample
  /-- Epoch seconds; once rolled up, the start of the bucket. -/
  time : UInt32
  /-- Ingest version: of two points of one time the greater wins. -/
  timestamp : UInt32
deriving DecidableEq, Repr

/-- A point of the secondary source, under the display name of its metric. -/
structure RecentPoint where
  metric : String
  time : UInt32
  value : Sample
  timestamp : UInt32
deriving DecidableEq, Repr

/-- What a store knows about a metric. A step of zero is not assigned. -/
structure Metric where
  name : String
  step : UInt32
  function : Option Aggregation
deriving DecidableEq, Repr

structure PointStore where
  /-- The interned metrics, in the order of their numbers. -/
  metrics : List Metric
  points : List Point
deriving DecidableEq, Repr

namespace PointStore

def empty : PointStore := ⟨[], []⟩

/-- The names of the interned metrics, in the order of their numbers. -/
def names (store : PointStore) : List String := store.metrics.map (·.name)

/-- The number of the metric at a position. -/
def idAt (position : Nat) : UInt32 := UInt32.ofNat (position + 1)

/-- The number of a name, if it was interned. -/
def metricId? (store : PointStore) (name : String) : Option UInt32 :=
  (store.names.idxOf? name).map idAt

/-- The position of a number among the interned metrics. -/
def slot? (store : PointStore) (id : UInt32) : Option Nat :=
  if id ≠ 0 ∧ id.toNat ≤ store.metrics.length then some (id.toNat - 1) else none

def metric? (store : PointStore) (id : UInt32) : Option Metric :=
  (store.slot? id).bind fun i => store.metrics[i]?

/-- The name behind a number. -/
def name? (store : PointStore) (id : UInt32) : Option String := (store.metric? id).map (·.name)

/-- The number of a name, interned now if it was not before. -/
def intern (store : PointStore) (name : String) : UInt32 × PointStore :=
  match store.metricId? name with
  | some id => (id, store)
  | none =>
    (idAt store.metrics.length, { store with metrics := store.metrics ++ [⟨name, 0, none⟩] })

/-- Changes the metric behind a number; unknown numbers change nothing. -/
def modifyMetric (store : PointStore) (id : UInt32) (change : Metric → Metric) : PointStore :=
  match store.slot? id with
  | some i => { store with metrics := store.metrics.modify i change }
  | none => store

/-- Assigns the rollup step of a metric. -/
def setStep (store : PointStore) (id step : UInt32) : PointStore :=
  store.modifyMetric id fun metric => { metric with step }

/-- Assigns the aggregation function of a metric. -/
def setAggregation (store : PointStore) (id : UInt32) (function : Aggregation) : PointStore :=
  store.modifyMetric id fun metric => { metric with function := some function }

/-- The rollup step of a metric, if assigned. -/
def step? (store : PointStore) (id : UInt32) : Option UInt32 :=
  (store.metric? id).bind fun metric => if metric.step = 0 then none else some metric.step

/-- The aggregation function of a metric, if assigned. -/
def aggregation? (store : PointStore) (id : UInt32) : Option Aggregation :=
  (store.metric? id).bind (·.function)

/-- Interns a name and assigns its step and function. -/
def describe (store : PointStore) (name : String) (step : UInt32) (function : Aggregation) :
    UInt32 × PointStore :=
  let (id, store) := store.intern name
  (id, (store.setStep id step).setAggregation id function)

/-- Appends one point. -/
def push (store : PointStore) (point : Point) : PointStore :=
  { store with points := store.points ++ [point] }

/-- The display name of a stored path, which need not be text. -/
def displayName (path : List UInt8) (reversed : Bool) : String :=
  let name := Text.Utf8.decodeLossy path
  if reversed then Path.reverse name else name

/-- The points of a row under a metric number, as far as its arrays reach together. -/
def rowPoints (id : UInt32) (row : Wire.Row) : List Point :=
  ((row.times.zip row.values).zip row.versions).map fun ((time, value), timestamp) =>
    ⟨id, value, time, timestamp⟩

/-- Appends the points of a row and gives the number of its metric. -/
def appendRow (store : PointStore) (row : Wire.Row) (reversed : Bool) : UInt32 × PointStore :=
  let (id, store) := store.intern (displayName row.name reversed)
  (id, { store with points := store.points ++ rowPoints id row })

/-- Appends one point of the secondary source. -/
def appendRecentPoint (store : PointStore) (point : RecentPoint) : PointStore :=
  let (id, store) := store.intern point.metric
  store.push ⟨id, point.value, point.time, point.timestamp⟩

/-- Appends points of the secondary source, in order. -/
def appendRecent (store : PointStore) (points : List RecentPoint) : PointStore :=
  points.foldl appendRecentPoint store

end PointStore

end SeriesGateway
