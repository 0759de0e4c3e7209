import SeriesGateway.Point.Store

/-! # Names and numbers

A name keeps its number, and a number its metric, however many names come behind
it. As long as there are fewer metrics than numbers, no two names share one.
-/

namespace SeriesGateway.PointStore

variable {store later : PointStore} {name other : String} {id : UInt32} {metric : Metric}

/-! ## Numbers -/

theorem toNat_idAt {position : Nat} (hfits : position + 1 < UInt32.size) :
    (idAt position).toNat = position + 1 :=
  UInt32.toNat_ofNat_of_lt' hfits

theorem slot?_idAt {position : Nat} (hposition : position < store.metrics.length)
    (hfits : store.metrics.length < UInt32.size) : store.slot? (idAt position) = some position := by
  have hid : (idAt position).toNat = position + 1 := toNat_idAt (by omega)
  have hzero : idAt position ≠ 0 := by
    intro hzero
    rw [hzero] at hid
    cases hid
  rw [slot?, if_pos ⟨hzero, by omega⟩, hid, Nat.add_sub_cancel]

/-- Behind the number of a name is the metric of this name. -/
theorem exists_metric (hid : store.metricId? name = some id)
    (hfits : store.metrics.length < UInt32.size) :
    ∃ metric ∈ store.metrics, store.metric? id = some metric ∧ metric.name = name := by
  rw [metricId?, Option.map_eq_some_iff] at hid
  obtain ⟨position, hposition, rfl⟩ := hid
  obtain ⟨hlt, hname, -⟩ := List.idxOf?_eq_some_iff.mp hposition
  have hlength : position < store.metrics.length := by simpa [names] using hlt
  refine ⟨store.metrics[position], List.getElem_mem hlength, ?_, by simpa [names] using hname⟩
  rw [metric?, slot?_idAt hlength hfits, Option.bind_some, List.getElem?_eq_getElem hlength]

theorem name?_of_metricId? (hid : store.metricId? name = some id)
    (hfits : store.metrics.length < UInt32.size) : store.name? id = some name := by
  obtain ⟨metric, -, hmetric, hname⟩ := exists_metric hid hfits
  rw [name?, hmetric, Option.map_some, hname]

/-- Two names do not share a number. -/
theorem metricId?_inj (hid : store.metricId? name = some id)
    (hother : store.metricId? other = some id) (hfits : store.metrics.length < UInt32.size) :
    name = other := by
  have hname := (name?_of_metricId? hid hfits).symm.trans (name?_of_metricId? hother hfits)
  exact Option.some.inj hname

theorem metricId?_isSome : (store.metricId? name).isSome = true ↔ name ∈ store.names := by
  rw [metricId?, Option.isSome_map, List.isSome_idxOf?]

/-! ## Metrics behind those that are there -/

theorem metricId?_of_names_prefix (hmore : store.names <+: later.names)
    (hid : store.metricId? name = some id) : later.metricId? name = some id := by
  rw [metricId?, Option.map_eq_some_iff] at hid ⊢
  obtain ⟨position, hposition, hid⟩ := hid
  obtain ⟨behind, hbehind⟩ := hmore
  refine ⟨position, ?_, hid⟩
  rw [List.idxOf?] at hposition
  rw [← hbehind, List.idxOf?, List.findIdx?_append, hposition]
  rfl

theorem metricId?_of_prefix (hmore : store.metrics <+: later.metrics)
    (hid : store.metricId? name = some id) : later.metricId? name = some id :=
  metricId?_of_names_prefix (List.IsPrefix.map Metric.name hmore) hid

theorem metric?_of_prefix (hmore : store.metrics <+: later.metrics)
    (hmetric : store.metric? id = some metric) : later.metric? id = some metric := by
  have hlength := hmore.length_le
  rw [metric?, Option.bind_eq_some_iff] at hmetric ⊢
  obtain ⟨position, hslot, hmetric⟩ := hmetric
  rw [slot?] at hslot
  split at hslot
  next hvalid =>
    refine ⟨position, ?_, ?_⟩
    · rw [slot?, if_pos ⟨hvalid.1, Nat.le_trans hvalid.2 hlength⟩, hslot]
    · obtain ⟨hlt, rfl⟩ := List.getElem?_eq_some_iff.mp hmetric
      exact List.prefix_iff_getElem?.mp hmore position hlt
  next => cases hslot

/-! ## Interning -/

theorem metrics_prefix_intern (store : PointStore) (name : String) :
    store.metrics <+: (store.intern name).2.metrics := by
  unfold intern
  split
  · exact List.prefix_refl _
  · exact List.prefix_append _ _

theorem names_intern (store : PointStore) (name : String) :
    (store.intern name).2.names =
      if name ∈ store.names then store.names else store.names ++ [name] := by
  have hknown := @metricId?_isSome store name
  unfold intern
  split
  next id hid =>
    rw [hid] at hknown
    rw [if_pos (hknown.mp rfl)]
  next hnone =>
    rw [hnone] at hknown
    rw [if_neg fun hmem => Bool.false_ne_true (hknown.mpr hmem)]
    simp [names]

theorem mem_names_intern :
    other ∈ (store.intern name).2.names ↔ other ∈ store.names ∨ other = name := by
  rw [names_intern]
  split
  next hmem =>
    refine ⟨.inl, fun h => h.elim id fun hsame => ?_⟩
    rw [hsame]
    exact hmem
  next => rw [List.mem_append, List.mem_singleton]

theorem nodup_names_intern (hnodup : store.names.Nodup) (name : String) :
    (store.intern name).2.names.Nodup := by
  rw [names_intern]
  split
  next => exact hnodup
  next hnew =>
    rw [(List.perm_append_singleton name store.names).nodup_iff]
    exact List.nodup_cons.mpr ⟨hnew, hnodup⟩

theorem metricId?_intern (store : PointStore) (name : String) :
    (store.intern name).2.metricId? name = some (store.intern name).1 := by
  unfold intern
  split
  next id hid => exact hid
  next hnone =>
    rw [metricId?, Option.map_eq_none_iff, names, List.idxOf?] at hnone
    simp only [metricId?, names, List.map_append, List.idxOf?, List.findIdx?_append, hnone]
    simp

theorem metricId?_intern_of_new (hnew : store.metricId? name = none) (other : String) :
    (store.intern name).2.metricId? other =
      if name == other then some (idAt store.metrics.length) else store.metricId? other := by
  split
  next hsame =>
    have hname := metricId?_intern store name
    simp only [intern, hnew] at hname ⊢
    rw [← eq_of_beq hsame, hname]
  next hother =>
    have hbehind : [name].findIdx? (· == other) = none := by simpa using hother
    simp only [intern, hnew]
    rw [metricId?, metricId?, names, names, List.map_append, List.idxOf?,
      List.findIdx?_append, List.map_singleton, hbehind, Option.map_none, Option.or_none]

/-! ## Describing -/

/-- A field of the metrics changes where the metrics do. -/
theorem map_modify {β : Type} {field : Metric → β} {change : Metric → Metric} (onField : β → β)
    (hfield : ∀ metric, field (change metric) = onField (field metric)) (metrics : List Metric)
    (position : Nat) :
    (metrics.modify position change).map field = (metrics.map field).modify position onField := by
  apply List.ext_getElem?
  intro i
  simp only [List.getElem?_map, List.getElem?_modify, Option.map_eq_map, Option.map_map]
  apply Option.map_congr
  intro metric _
  by_cases hsame : position = i
  · simp [hsame, hfield]
  · simp [hsame]

theorem map_modifyMetric_of_eq {β : Type} {field : Metric → β} {change : Metric → Metric}
    (hfield : ∀ metric, field (change metric) = field metric) (store : PointStore) (id : UInt32) :
    (store.modifyMetric id change).metrics.map field = store.metrics.map field := by
  unfold modifyMetric
  split
  next position _ =>
    rw [map_modify (fun value => value) hfield]
    exact List.modify_id position _
  next => rfl

theorem names_modifyMetric (store : PointStore) (id : UInt32) {change : Metric → Metric}
    (hname : ∀ metric, (change metric).name = metric.name) :
    (store.modifyMetric id change).names = store.names :=
  map_modifyMetric_of_eq hname store id

theorem names_describe (store : PointStore) (name : String) (step : UInt32)
    (function : Aggregation) :
    (store.describe name step function).2.names = (store.intern name).2.names := by
  simp only [describe, setStep, setAggregation]
  rw [names_modifyMetric, names_modifyMetric]
  · exact fun _ => rfl
  · exact fun _ => rfl

theorem points_describe (store : PointStore) (name : String) (step : UInt32)
    (function : Aggregation) : (store.describe name step function).2.points = store.points := by
  simp only [describe, setStep, setAggregation, modifyMetric, intern]
  split <;> split <;> split <;> rfl

/-- A new metric is described behind those that are there. -/
theorem metrics_describe_of_new (hnew : name ∉ store.names)
    (hfits : store.metrics.length + 1 < UInt32.size) (step : UInt32) (function : Aggregation) :
    (store.describe name step function).2.metrics =
      store.metrics ++ [⟨name, step, some function⟩] := by
  have hnone : store.metricId? name = none := by
    rw [← Option.not_isSome_iff_eq_none, metricId?_isSome]
    exact hnew
  have hslot : ∀ metric : Metric, slot? ⟨store.metrics ++ [metric], store.points⟩
      (idAt store.metrics.length) = some store.metrics.length := by
    intro metric
    apply slot?_idAt <;> simp [hfits]
  have hmodify : ∀ (metric : Metric) (change : Metric → Metric),
      (store.metrics ++ [metric]).modify store.metrics.length change =
        store.metrics ++ [change metric] := by
    intro metric change
    rw [List.modify_eq_take_cons_drop (by simp)]
    simp
  simp only [describe, intern, hnone, setStep, setAggregation, modifyMetric, hslot, hmodify]

end SeriesGateway.PointStore
