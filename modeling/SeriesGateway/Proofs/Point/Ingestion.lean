import SeriesGateway.Point.Store

/-! # Ingestion histories

Points enter a store one by one, as rows of storage or as points of the secondary
source, under the number their metric has at that moment; in between metrics are
named and described. Whatever the order, a store holds the points in the order in
which they entered.
-/

namespace SeriesGateway.PointStore

/-- One change of a store in front of its consolidation: points enter in one of
three ways, and what it knows about its metrics changes in between. -/
inductive Ingestion where
  | push (point : Point)
  | row (row : Wire.Row) (reversed : Bool)
  | recent (points : List RecentPoint)
  | metric (name : String)
  | step (id step : UInt32)
  | aggregation (id : UInt32) (function : Aggregation)
deriving DecidableEq, Repr

/-- The store after a change. -/
def ingest (store : PointStore) : Ingestion → PointStore
  | .push point => store.push point
  | .row row reversed => (store.appendRow row reversed).2
  | .recent points => store.appendRecent points
  | .metric name => (store.intern name).2
  | .step id step => store.setStep id step
  | .aggregation id function => store.setAggregation id function

/-- The points of the secondary source under the numbers that their metrics have
when they are appended one after the other. -/
def numberRecent (store : PointStore) : List RecentPoint → List Point
  | [] => []
  | recent :: rest =>
    ⟨(store.intern recent.metric).1, recent.value, recent.time, recent.timestamp⟩ ::
      (store.appendRecentPoint recent).numberRecent rest

/-- The points that enter a store at once. -/
def entering (store : PointStore) : Ingestion → List Point
  | .push point => [point]
  | .row row reversed => rowPoints (store.intern (displayName row.name reversed)).1 row
  | .recent points => store.numberRecent points
  | .metric _ | .step _ _ | .aggregation _ _ => []

/-- The points that enter a store one after the other. -/
def enteringAll (store : PointStore) : List Ingestion → List Point
  | [] => []
  | ingestion :: rest => store.entering ingestion ++ (store.ingest ingestion).enteringAll rest

theorem points_intern (store : PointStore) (name : String) :
    (store.intern name).2.points = store.points := by
  unfold intern
  split <;> rfl

theorem points_modifyMetric (store : PointStore) (id : UInt32) (change : Metric → Metric) :
    (store.modifyMetric id change).points = store.points := by
  unfold modifyMetric
  split <;> rfl

theorem points_appendRecentPoint (store : PointStore) (recent : RecentPoint) :
    (store.appendRecentPoint recent).points = store.points ++
      [⟨(store.intern recent.metric).1, recent.value, recent.time, recent.timestamp⟩] := by
  simp only [appendRecentPoint, push, points_intern]

theorem points_appendRecent (store : PointStore) (points : List RecentPoint) :
    (store.appendRecent points).points = store.points ++ store.numberRecent points := by
  unfold appendRecent
  induction points generalizing store with
  | nil => simp [numberRecent]
  | cons recent rest ih =>
      rw [List.foldl_cons, ih, points_appendRecentPoint, numberRecent, List.append_assoc,
        List.singleton_append]

/-- Points enter behind those that are there. -/
theorem points_ingest (store : PointStore) (ingestion : Ingestion) :
    (store.ingest ingestion).points = store.points ++ store.entering ingestion := by
  cases ingestion with
  | push point => rfl
  | row row reversed => simp only [ingest, appendRow, points_intern, entering]
  | recent points => exact points_appendRecent store points
  | metric name => simp only [ingest, points_intern, entering, List.append_nil]
  | step id step => simp only [ingest, setStep, points_modifyMetric, entering, List.append_nil]
  | aggregation id function =>
      simp only [ingest, setAggregation, points_modifyMetric, entering, List.append_nil]

theorem points_ingestAll (store : PointStore) (ingestions : List Ingestion) :
    (ingestions.foldl ingest store).points = store.points ++ store.enteringAll ingestions := by
  induction ingestions generalizing store with
  | nil => simp [enteringAll]
  | cons ingestion rest ih =>
      rw [List.foldl_cons, ih, points_ingest, enteringAll, List.append_assoc]

end SeriesGateway.PointStore
