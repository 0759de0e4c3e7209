import SeriesGateway.Proofs.Point.Operation

/-! # Tables of the metrics

A store knows each of its metrics as a whole. The same can be kept in tables that grow
side by side and change one at a time: the names in the order of their numbers, the
numbers by name, and for each number a step and a function. Whatever is done to a store,
its tables say the same as the store.
-/

namespace SeriesGateway.PointStore

structure Tables where
  names : List String
  numbers : Std.HashMap String UInt32
  steps : List UInt32
  functions : List (Option Aggregation)

namespace Tables

def empty : Tables := ⟨[], ∅, [], []⟩

/-- The number of a name; one that is new gets a slot in each table. -/
def intern (tables : Tables) (name : String) : UInt32 × Tables :=
  match tables.numbers[name]? with
  | some id => (id, tables)
  | none =>
    let id := idAt tables.names.length
    (id, ⟨tables.names ++ [name], tables.numbers.insert name id, tables.steps ++ [0],
      tables.functions ++ [none]⟩)

def slot? (tables : Tables) (id : UInt32) : Option Nat :=
  if id ≠ 0 ∧ id.toNat ≤ tables.names.length then some (id.toNat - 1) else none

/-- A table with another value in the slot of a number; unknown numbers have no slot. -/
def setSlot {β : Type} (tables : Tables) (id : UInt32) (value : β) (table : List β) : List β :=
  match tables.slot? id with
  | some i => table.set i value
  | none => table

def setStep (tables : Tables) (id step : UInt32) : Tables :=
  { tables with steps := tables.setSlot id step tables.steps }

def setAggregation (tables : Tables) (id : UInt32) (function : Aggregation) : Tables :=
  { tables with functions := tables.setSlot id (some function) tables.functions }

def describe (tables : Tables) (name : String) (step : UInt32) (function : Aggregation) :
    UInt32 × Tables :=
  let (id, tables) := tables.intern name
  (id, (tables.setStep id step).setAggregation id function)

/-- The tables after an operation. Points are in none of them. -/
def perform (tables : Tables) : Operation → Tables
  | .ingest (.step id step) => tables.setStep id step
  | .ingest (.aggregation id function) => tables.setAggregation id function
  | .describe name step function => (tables.describe name step function).2
  | operation => operation.names.foldl (fun tables name => (tables.intern name).2) tables

def after (operations : List Operation) : Tables := operations.foldl perform empty

/-- Tables say of each metric what a store says of it. -/
structure Agree (tables : Tables) (store : PointStore) : Prop where
  names_eq : tables.names = store.names
  numbers_eq : ∀ name, tables.numbers[name]? = store.metricId? name
  steps_eq : tables.steps = store.metrics.map (·.step)
  functions_eq : tables.functions = store.metrics.map (·.function)

namespace Agree

variable {tables : Tables} {store : PointStore}

theorem length_names (h : tables.Agree store) : tables.names.length = store.metrics.length := by
  rw [h.names_eq, PointStore.names, List.length_map]

theorem length_steps (h : tables.Agree store) : tables.steps.length = store.metrics.length := by
  rw [h.steps_eq, List.length_map]

theorem length_functions (h : tables.Agree store) :
    tables.functions.length = store.metrics.length := by
  rw [h.functions_eq, List.length_map]

theorem slot?_eq (h : tables.Agree store) (id : UInt32) : tables.slot? id = store.slot? id := by
  rw [slot?, PointStore.slot?, h.length_names]

theorem empty : Tables.empty.Agree .empty where
  names_eq := rfl
  numbers_eq _ := Std.HashMap.getElem?_empty
  steps_eq := rfl
  functions_eq := rfl

theorem intern (h : tables.Agree store) (name : String) :
    (tables.intern name).1 = (store.intern name).1 ∧
      (tables.intern name).2.Agree (store.intern name).2 := by
  have hnumbers := h.numbers_eq name
  cases hid : store.metricId? name with
  | some id =>
      rw [hid] at hnumbers
      rw [Tables.intern, PointStore.intern, hnumbers, hid]
      exact ⟨rfl, h⟩
  | none =>
      have hlater := fun other => metricId?_intern_of_new hid other
      rw [hid] at hnumbers
      rw [PointStore.intern, hid] at hlater
      rw [Tables.intern, PointStore.intern, hnumbers, hid]
      refine ⟨congrArg idAt h.length_names, ?_, fun other => ?_, ?_, ?_⟩
      · rw [h.names_eq, PointStore.names, PointStore.names, List.map_append]
        rfl
      · rw [Std.HashMap.getElem?_insert, hlater, h.numbers_eq, h.length_names]
      · rw [h.steps_eq, List.map_append]
        rfl
      · rw [h.functions_eq, List.map_append]
        rfl

/-- A change of a metric sets its slot in the table of the field that changes. -/
theorem setSlot_eq {β : Type} {field : Metric → β} {change : Metric → Metric} {value : β}
    (h : tables.Agree store) (hfield : ∀ metric, field (change metric) = value) (id : UInt32) :
    tables.setSlot id value (store.metrics.map field) =
      (store.modifyMetric id change).metrics.map field := by
  rw [setSlot, modifyMetric, h.slot?_eq]
  cases store.slot? id with
  | none => rfl
  | some position =>
      exact (List.set_eq_modify value position _).trans
        (map_modify (fun _ => value) hfield store.metrics position).symm

theorem setStep (h : tables.Agree store) (id step : UInt32) :
    (tables.setStep id step).Agree (store.setStep id step) := by
  have hnames : (store.setStep id step).names = store.names :=
    names_modifyMetric store id fun _ => rfl
  refine ⟨h.names_eq.trans hnames.symm, fun name => ?_, ?_, ?_⟩
  · rw [metricId?, hnames]
    exact h.numbers_eq name
  · simp only [Tables.setStep, PointStore.setStep, h.steps_eq]
    apply h.setSlot_eq
    exact fun _ => rfl
  · simp only [Tables.setStep, PointStore.setStep, h.functions_eq]
    rw [map_modifyMetric_of_eq]
    exact fun _ => rfl

theorem setAggregation (h : tables.Agree store) (id : UInt32) (function : Aggregation) :
    (tables.setAggregation id function).Agree (store.setAggregation id function) := by
  have hnames : (store.setAggregation id function).names = store.names :=
    names_modifyMetric store id fun _ => rfl
  refine ⟨h.names_eq.trans hnames.symm, fun name => ?_, ?_, ?_⟩
  · rw [metricId?, hnames]
    exact h.numbers_eq name
  · simp only [Tables.setAggregation, PointStore.setAggregation, h.steps_eq]
    rw [map_modifyMetric_of_eq]
    exact fun _ => rfl
  · simp only [Tables.setAggregation, PointStore.setAggregation, h.functions_eq]
    apply h.setSlot_eq
    exact fun _ => rfl

theorem describe (h : tables.Agree store) (name : String) (step : UInt32)
    (function : Aggregation) :
    (tables.describe name step function).2.Agree (store.describe name step function).2 := by
  obtain ⟨hid, hinterned⟩ := h.intern name
  have hdescribed := (hinterned.setStep (tables.intern name).1 step).setAggregation
    (tables.intern name).1 function
  rw [hid] at hdescribed
  simp only [Tables.describe, PointStore.describe, hid]
  exact hdescribed

/-- Points do not matter to the tables. -/
theorem of_metrics_eq (h : tables.Agree store) {later : PointStore}
    (hmetrics : later.metrics = store.metrics) : tables.Agree later := by
  obtain ⟨hnames, hnumbers, hsteps, hfunctions⟩ := h
  simp only [metricId?, PointStore.names] at hnames hnumbers
  constructor
  all_goals simpa only [metricId?, PointStore.names, hmetrics]

theorem appendRecent (h : tables.Agree store) (points : List RecentPoint) :
    ((points.map (·.metric)).foldl (fun tables name => (tables.intern name).2) tables).Agree
      (store.appendRecent points) := by
  unfold PointStore.appendRecent
  induction points generalizing tables store with
  | nil => exact h
  | cons recent rest ih => exact ih ((h.intern recent.metric).2.of_metrics_eq rfl)

theorem perform (h : tables.Agree store) (operation : Operation) :
    (tables.perform operation).Agree (store.perform operation) := by
  cases operation with
  | describe name step function => exact h.describe name step function
  | sort => exact h.of_metrics_eq rfl
  | uniq => exact h.of_metrics_eq rfl
  | rollup start commonStep => exact h.of_metrics_eq rfl
  | ingest ingestion =>
      cases ingestion with
      | push point => exact h.of_metrics_eq rfl
      | row row reversed =>
          exact (h.intern (displayName row.name reversed)).2.of_metrics_eq rfl
      | recent points => exact h.appendRecent points
      | metric name => exact (h.intern name).2
      | step id step => exact h.setStep id step
      | aggregation id function => exact h.setAggregation id function

end Agree

/-- After any operations the tables say the same as the store. -/
theorem agree_after (operations : List Operation) :
    (after operations).Agree (PointStore.after operations) := by
  induction operations using List.reverseRecOn with
  | nil => exact .empty
  | append_singleton operations operation ih =>
      rw [after_concat, after, List.foldl_concat]
      exact ih.perform operation

end Tables

end SeriesGateway.PointStore
