import Mathlib.Data.List.Nodup
import SeriesGateway.Proofs.Point.Tables

/-! # Numbers of the metrics

Whatever is done to a store, its names and their numbers are inverse to each other, and
the numbers are those from one to the number of metrics. A name keeps its number for good.
What is assigned to a metric reaches no other one, and consolidation reaches none.
-/

namespace SeriesGateway.PointStore

variable {store : PointStore} {name : String} {id other : UInt32} {metric : Metric}
  {position : Nat}

/-! ## Numbers and positions -/

theorem slot?_eq_some_iff :
    store.slot? id = some position ↔ position < store.metrics.length ∧ id.toNat = position + 1 := by
  have hzero : id = 0 ↔ id.toNat = 0 := UInt32.toNat_inj.symm
  rw [slot?]
  split <;> grind

theorem metric?_eq_some_iff : store.metric? id = some metric ↔
    ∃ position, store.metrics[position]? = some metric ∧ id.toNat = position + 1 := by
  rw [metric?, Option.bind_eq_some_iff]
  constructor
  · rintro ⟨position, hslot, hmetric⟩
    exact ⟨position, hmetric, (slot?_eq_some_iff.mp hslot).2⟩
  · rintro ⟨position, hmetric, hid⟩
    obtain ⟨hposition, -⟩ := List.getElem?_eq_some_iff.mp hmetric
    exact ⟨position, slot?_eq_some_iff.mpr ⟨hposition, hid⟩, hmetric⟩

theorem length_names (store : PointStore) : store.names.length = store.metrics.length :=
  List.length_map _

theorem name?_eq_some_iff : store.name? id = some name ↔
    ∃ position, store.names[position]? = some name ∧ id.toNat = position + 1 := by
  simp only [name?, names, List.getElem?_map, Option.map_eq_some_iff, metric?_eq_some_iff]
  constructor
  · rintro ⟨metric, ⟨position, hmetric, hid⟩, rfl⟩
    exact ⟨position, ⟨metric, hmetric, rfl⟩, hid⟩
  · rintro ⟨position, ⟨metric, hmetric, rfl⟩, hid⟩
    exact ⟨metric, ⟨position, hmetric, hid⟩, rfl⟩

theorem name?_isSome_iff :
    (store.name? id).isSome = true ↔ 1 ≤ id.toNat ∧ id.toNat ≤ store.metrics.length := by
  simp only [Option.isSome_iff_exists, name?_eq_some_iff, ← length_names]
  constructor
  · rintro ⟨name, position, hname, hid⟩
    obtain ⟨hposition, -⟩ := List.getElem?_eq_some_iff.mp hname
    omega
  · rintro ⟨hpos, hle⟩
    have hposition : id.toNat - 1 < store.names.length := by omega
    exact ⟨_, _, List.getElem?_eq_getElem hposition, by omega⟩

theorem eq_idAt (hid : id.toNat = position + 1) : id = idAt position := by
  rw [idAt, ← hid, UInt32.ofNat_toNat]

/-- A name that comes up once is found at its own position. -/
theorem metricId?_of_name? (hnodup : store.names.Nodup) (hname : store.name? id = some name) :
    store.metricId? name = some id := by
  obtain ⟨position, hposition, hid⟩ := name?_eq_some_iff.mp hname
  obtain ⟨hlt, rfl⟩ := List.getElem?_eq_some_iff.mp hposition
  rw [metricId?, Option.map_eq_some_iff]
  refine ⟨position, List.idxOf?_eq_some_iff.mpr ⟨hlt, rfl, ?_⟩, (eq_idAt hid).symm⟩
  intro earlier hearlier hsame
  exact Nat.ne_of_lt hearlier ((List.Nodup.getElem_inj_iff hnodup).mp hsame)

/-- Names and numbers are inverse to each other. The numbers are those from one to the
number of metrics, each with a position of its own. -/
structure Numbered (store : PointStore) : Prop where
  metricId?_iff_name? : ∀ name id, store.metricId? name = some id ↔ store.name? id = some name
  name?_isSome_iff : ∀ id,
    (store.name? id).isSome = true ↔ 1 ≤ id.toNat ∧ id.toNat ≤ store.metrics.length
  slot?_iff_idAt : ∀ id position,
    store.slot? id = some position ↔ position < store.metrics.length ∧ id = idAt position

/-- Names that are all different are numbered, as long as there are enough numbers. -/
theorem numbered_of_nodup (hnodup : store.names.Nodup)
    (hfits : store.metrics.length < UInt32.size) : store.Numbered where
  metricId?_iff_name? _ _ :=
    ⟨fun hid => name?_of_metricId? hid hfits, metricId?_of_name? hnodup⟩
  name?_isSome_iff _ := name?_isSome_iff
  slot?_iff_idAt id position := by
    constructor
    · intro hslot
      obtain ⟨hposition, hid⟩ := slot?_eq_some_iff.mp hslot
      exact ⟨hposition, eq_idAt hid⟩
    · rintro ⟨hposition, rfl⟩
      exact slot?_idAt hposition hfits

/-! ## Changes of one metric -/

/-- Two stores differ in no metric but the one behind a number, and in no point. -/
structure ChangesOnly (before after : PointStore) (id : UInt32) (metric : Option Metric) :
    Prop where
  metric?_eq : after.metric? id = metric
  metric?_other : ∀ other, other ≠ id → after.metric? other = before.metric? other
  points_eq : after.points = before.points

theorem ChangesOnly.trans {first second third : PointStore} {before after : Option Metric}
    (h : first.ChangesOnly second id before) (h' : second.ChangesOnly third id after) :
    first.ChangesOnly third id after where
  metric?_eq := h'.metric?_eq
  metric?_other other hother := (h'.metric?_other other hother).trans (h.metric?_other other hother)
  points_eq := h'.points_eq.trans h.points_eq

theorem modifyMetric_of_unknown (hunknown : store.name? id = none) (change : Metric → Metric) :
    store.modifyMetric id change = store := by
  have hslot : store.slot? id = none := by
    rw [← Option.not_isSome_iff_eq_none, name?_isSome_iff] at hunknown
    apply Option.eq_none_iff_forall_ne_some.mpr
    intro position hslot
    have hposition := slot?_eq_some_iff.mp hslot
    omega
  rw [modifyMetric, hslot]

theorem changesOnly_modifyMetric (store : PointStore) (id : UInt32) (change : Metric → Metric) :
    store.ChangesOnly (store.modifyMetric id change) id ((store.metric? id).map change) := by
  cases hslot : store.slot? id with
  | none =>
      rw [modifyMetric, hslot, metric?, hslot]
      exact ⟨by rw [metric?, hslot]; rfl, fun _ _ => rfl, rfl⟩
  | some position =>
      have hmetric : ∀ other,
          (PointStore.mk (store.metrics.modify position change) store.points).metric? other =
            (store.slot? other).bind fun i => (store.metrics.modify position change)[i]? := by
        intro other
        rw [metric?, slot?, slot?, List.length_modify]
      rw [modifyMetric, hslot]
      refine ⟨?_, fun other hother => ?_, rfl⟩
      · rw [hmetric, metric?, hslot]
        exact List.getElem?_modify_eq change position store.metrics
      · rw [hmetric, metric?]
        cases hotherSlot : store.slot? other with
        | none => rfl
        | some i =>
            -- one position has one number
            have hne : position ≠ i := by
              rintro rfl
              have hid := (slot?_eq_some_iff.mp hslot).2
              have hotherId := (slot?_eq_some_iff.mp hotherSlot).2
              exact hother (UInt32.toNat_inj.mp (hotherId.trans hid.symm))
            exact List.getElem?_modify_ne change store.metrics hne

theorem metric?_concat (metrics : List Metric) (metric : Metric) (points : List Point)
    {other : UInt32} (hother : other ≠ idAt metrics.length) :
    (PointStore.mk (metrics ++ [metric]) points).metric? other =
      (PointStore.mk metrics points).metric? other := by
  apply Option.ext
  intro known
  rw [metric?_eq_some_iff, metric?_eq_some_iff]
  apply exists_congr
  intro position
  apply and_congr_left
  intro hid
  have hne : position ≠ metrics.length := by
    rintro rfl
    exact hother (eq_idAt hid)
  grind

theorem changesOnly_intern (store : PointStore) (name : String) :
    store.ChangesOnly (store.intern name).2 (store.intern name).1
      ((store.intern name).2.metric? (store.intern name).1) where
  metric?_eq := rfl
  metric?_other other hother := by
    unfold intern at hother ⊢
    split at hother
    next => rfl
    next => exact metric?_concat store.metrics ⟨name, 0, none⟩ store.points hother
  points_eq := points_intern store name

theorem changesOnly_describe {step : UInt32} {function : Aggregation}
    (hfits : (store.describe name step function).2.names.length < UInt32.size) :
    store.ChangesOnly (store.describe name step function).2 (store.describe name step function).1
      (some ⟨name, step, some function⟩) := by
  rw [names_describe, length_names] at hfits
  obtain ⟨metric, -, hmetric, rfl⟩ := exists_metric (metricId?_intern store name) hfits
  have hinterned := changesOnly_intern store metric.name
  have hstep := changesOnly_modifyMetric (store.intern metric.name).2 (store.intern metric.name).1
    fun metric => { metric with step }
  have hfunction := changesOnly_modifyMetric
    ((store.intern metric.name).2.setStep (store.intern metric.name).1 step)
    (store.intern metric.name).1 fun metric => { metric with function := some function }
  rw [hmetric] at hstep
  rw [setStep, hstep.metric?_eq] at hfunction
  exact (hinterned.trans hstep).trans hfunction

theorem metricId?_describe (store : PointStore) (name : String) (step : UInt32)
    (function : Aggregation) : (store.describe name step function).2.metricId? name =
      some (store.describe name step function).1 := by
  rw [metricId?, names_describe]
  exact metricId?_intern store name

/-! ## Any operations -/

/-- Operations that bring fewer different names than there are numbers leave a store in
which names and numbers are inverse to each other, numbered in the order in which the
names first came up, with one slot for each in the tables. A name has the number that it
was given first, and no other name has it. What is assigned to a metric or described
changes this metric alone, unknown numbers change nothing, and the passes change none. -/
theorem numbered_after (operations : List Operation)
    (hfits : (operations.flatMap Operation.names).eraseDups.length < UInt32.size) :
    let store := after operations
    let tables := Tables.after operations
    store.Numbered ∧
    store.names = (operations.flatMap Operation.names).eraseDups ∧
    (tables.Agree store ∧ tables.steps.length = tables.names.length ∧
      tables.functions.length = tables.names.length) ∧
    (∀ earlier later, operations = earlier ++ later → ∀ name id,
      (after earlier).metricId? name = some id →
        store.metricId? name = some id ∧ ∀ other, store.metricId? other = some id → other = name) ∧
    (∀ earlier name later, operations = earlier ++ .ingest (.metric name) :: later →
      store.metricId? name = some ((after earlier).intern name).1) ∧
    (∀ id step, store.ChangesOnly (store.setStep id step) id
      ((store.metric? id).map fun metric => { metric with step })) ∧
    (∀ id function, store.ChangesOnly (store.setAggregation id function) id
      ((store.metric? id).map fun metric => { metric with function := some function })) ∧
    (∀ id, store.name? id = none → ∀ step function,
      store.setStep id step = store ∧ store.setAggregation id function = store) ∧
    (∀ earlier name step function later,
      operations = earlier ++ .describe name step function :: later →
        let described := (after earlier).describe name step function
        (after earlier).ChangesOnly described.2 described.1 (some ⟨name, step, some function⟩) ∧
          store.metricId? name = some described.1) ∧
    store.sort.metrics = store.metrics ∧ store.uniq.metrics = store.metrics ∧
    ∀ start commonStep, (store.rollup start commonStep).metrics = store.metrics := by
  intro store tables
  have hnames : store.names.length < UInt32.size := by rwa [names_after]
  have hlength : store.metrics.length < UInt32.size := by rwa [← length_names]
  have hagree : tables.Agree store := Tables.agree_after operations
  refine ⟨numbered_of_nodup (nodup_names_after operations) hlength, names_after operations,
    ⟨hagree, hagree.length_steps.trans hagree.length_names.symm,
      hagree.length_functions.trans hagree.length_names.symm⟩, ?_, ?_, ?_, ?_, ?_, ?_, rfl, rfl,
    fun _ _ => rfl⟩
  · rintro earlier later rfl name id hid
    have hkept : store.metricId? name = some id :=
      metricId?_of_names_prefix (names_prefix_after earlier later) hid
    exact ⟨hkept, fun other hother => metricId?_inj hother hkept hlength⟩
  · rintro earlier name later rfl
    exact metricId?_of_names_prefix (names_prefix_perform earlier (.ingest (.metric name)) later)
      (metricId?_intern (after earlier) name)
  · exact fun id step => changesOnly_modifyMetric store id _
  · exact fun id function => changesOnly_modifyMetric store id _
  · exact fun id hunknown step function =>
      ⟨modifyMetric_of_unknown hunknown _, modifyMetric_of_unknown hunknown _⟩
  · rintro earlier name step function later rfl
    have hmore := names_prefix_perform earlier (.describe name step function) later
    exact ⟨changesOnly_describe (Nat.lt_of_le_of_lt hmore.length_le hnames),
      metricId?_of_names_prefix hmore (metricId?_describe (after earlier) name step function)⟩

/-- A name that comes up as a metric, in a row and among the recent points, a description,
assignments to a metric and to a number that is not known, and all three passes. -/
def mixedOperations : List Operation :=
  [.ingest (.metric "a"), .describe "b" 60 .max, .ingest (.step 1 10),
    .ingest (.row ⟨"a".toUTF8.toList, [120, 60], [⟨0⟩, ⟨0x3ff0000000000000⟩], [7, 8]⟩ false),
    .ingest (.recent [⟨"c", 60, ⟨0⟩, 5⟩, ⟨"b", 60, ⟨0⟩, 5⟩]), .ingest (.push ⟨9, ⟨0⟩, 0, 0⟩),
    .ingest (.step 9 30), .sort, .uniq, .rollup 0 60]

theorem numbered_after_mixedOperations :
    (mixedOperations.flatMap Operation.names).eraseDups.length < UInt32.size ∧
    (after mixedOperations).Numbered ∧
    (after mixedOperations).names = ["a", "b", "c"] ∧
    (after mixedOperations).metricId? "a" = some 1 ∧
    (after mixedOperations).metricId? "b" = some 2 := by
  have hnames : (mixedOperations.flatMap Operation.names).eraseDups = ["a", "b", "c"] := by
    decide +kernel
  have hfits : (mixedOperations.flatMap Operation.names).eraseDups.length < UInt32.size := by
    rw [hnames]
    decide
  obtain ⟨hnumbered, hordered, -, hkept, -⟩ := numbered_after mixedOperations hfits
  have hearlier : mixedOperations = mixedOperations.take 2 ++ mixedOperations.drop 2 := rfl
  exact ⟨hfits, hnumbered, hordered.trans hnames, (hkept _ _ hearlier "a" 1 (by decide +kernel)).1,
    (hkept _ _ hearlier "b" 2 (by decide +kernel)).1⟩

end SeriesGateway.PointStore
