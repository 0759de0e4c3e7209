import SeriesGateway.Point.Consolidation
import SeriesGateway.Proofs.Distinct
import SeriesGateway.Proofs.Point.Ingestion
import SeriesGateway.Proofs.Point.Naming

/-! # Operations on a store

A store starts empty and changes by one operation at a time, in any order. Its names are
those that the operations brought, in the order in which they first came up.
-/

namespace SeriesGateway.PointStore

/-- The names that a change interns. -/
def Ingestion.names : Ingestion → List String
  | .row stored reversed => [displayName stored.name reversed]
  | .recent points => points.map (·.metric)
  | .metric name => [name]
  | .push _ | .step _ _ | .aggregation _ _ => []

/-- One operation on a store: a change in front of the consolidation, the description of
a metric, or one of the three passes. -/
inductive Operation where
  | ingest (ingestion : Ingestion)
  | describe (name : String) (step : UInt32) (function : Aggregation)
  | sort
  | uniq
  | rollup (start commonStep : UInt32)
deriving DecidableEq, Repr

namespace Operation

def names : Operation → List String
  | .ingest ingestion => ingestion.names
  | .describe name _ _ => [name]
  | .sort | .uniq | .rollup _ _ => []

/-- Whether points can enter a store by an operation. -/
def bringsPoints : Operation → Bool
  | .ingest (.push _) | .ingest (.row _ _) | .ingest (.recent _) => true
  | .ingest (.metric _) | .ingest (.step _ _) | .ingest (.aggregation _ _) => false
  | .describe _ _ _ | .sort | .uniq | .rollup _ _ => false

end Operation

/-- The store after an operation. -/
def perform (store : PointStore) : Operation → PointStore
  | .ingest ingestion => store.ingest ingestion
  | .describe name step function => (store.describe name step function).2
  | .sort => store.sort
  | .uniq => store.uniq
  | .rollup start commonStep => store.rollup start commonStep

/-- The store after operations, one after the other. -/
def performAll (store : PointStore) (operations : List Operation) : PointStore :=
  operations.foldl perform store

/-- The store that operations make of an empty one. -/
def after (operations : List Operation) : PointStore := empty.performAll operations

variable {store : PointStore} {known : List String}

theorem names_intern_of_eraseDups (hnames : store.names = known.eraseDups) (name : String) :
    (store.intern name).2.names = (known ++ [name]).eraseDups := by
  rw [names_intern, eraseDups_concat, hnames]
  simp only [List.mem_eraseDups]

theorem names_appendRecent_of_eraseDups (hnames : store.names = known.eraseDups)
    (points : List RecentPoint) :
    (store.appendRecent points).names = (known ++ points.map (·.metric)).eraseDups := by
  unfold appendRecent
  induction points generalizing store known with
  | nil => simpa using hnames
  | cons recent rest ih =>
      have hfirst : (store.appendRecentPoint recent).names = (known ++ [recent.metric]).eraseDups :=
        names_intern_of_eraseDups hnames recent.metric
      rw [List.foldl_cons, ih hfirst, List.map_cons, List.append_assoc, List.singleton_append]

/-- An operation interns its names behind those that are there. -/
theorem names_perform (hnames : store.names = known.eraseDups) (operation : Operation) :
    (store.perform operation).names = (known ++ operation.names).eraseDups := by
  have hsame : store.names = (known ++ []).eraseDups := by rw [List.append_nil, hnames]
  cases operation with
  | describe name step function =>
      exact (names_describe store name step function).trans (names_intern_of_eraseDups hnames name)
  | sort => exact hsame
  | uniq => exact hsame
  | rollup start commonStep => exact hsame
  | ingest ingestion =>
      cases ingestion with
      | push point => exact hsame
      | row row reversed => exact names_intern_of_eraseDups hnames (displayName row.name reversed)
      | recent points => exact names_appendRecent_of_eraseDups hnames points
      | metric name => exact names_intern_of_eraseDups hnames name
      | step id step =>
          rw [perform, ingest, setStep, names_modifyMetric]
          · exact hsame
          · exact fun _ => rfl
      | aggregation id function =>
          rw [perform, ingest, setAggregation, names_modifyMetric]
          · exact hsame
          · exact fun _ => rfl

theorem names_performAll (hnames : store.names = known.eraseDups) (operations : List Operation) :
    (store.performAll operations).names =
      (known ++ operations.flatMap Operation.names).eraseDups := by
  unfold performAll
  induction operations generalizing store known with
  | nil => simpa using hnames
  | cons operation rest ih =>
      rw [List.foldl_cons, ih (names_perform hnames operation), List.flatMap_cons,
        List.append_assoc]

/-- A store has the names that were brought, in the order in which they first came up. -/
theorem names_after (operations : List Operation) :
    (after operations).names = (operations.flatMap Operation.names).eraseDups := by
  have hempty : empty.names = ([] : List String).eraseDups := rfl
  rw [after, names_performAll hempty, List.nil_append]

theorem nodup_names_after (operations : List Operation) : (after operations).names.Nodup := by
  rw [names_after]
  exact nodup_eraseDups _

theorem after_concat (operations : List Operation) (operation : Operation) :
    after (operations ++ [operation]) = (after operations).perform operation := by
  rw [after, performAll, List.foldl_concat]
  rfl

theorem names_prefix_after (earlier later : List Operation) :
    (after earlier).names <+: (after (earlier ++ later)).names := by
  rw [names_after, names_after, List.flatMap_append, List.eraseDups_append]
  exact List.prefix_append _ _

/-- What an operation interned is still there after the others. -/
theorem names_prefix_perform (earlier : List Operation) (operation : Operation)
    (later : List Operation) :
    ((after earlier).perform operation).names <+:
      (after (earlier ++ operation :: later)).names := by
  rw [List.append_cons, ← after_concat]
  exact names_prefix_after _ _

end SeriesGateway.PointStore
