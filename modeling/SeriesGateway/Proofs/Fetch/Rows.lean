import Mathlib.Algebra.GroupWithZero.Nat
import SeriesGateway.Proofs.Fetch.Description
import SeriesGateway.Proofs.Point.Ingestion

/-! # Rows of a response in a store

What a store gains by the rows of a response: their points behind its own, in the
order of the rows, and the names that it did not know behind those that it knew.
What it held before remains as it was.
-/

namespace SeriesGateway

namespace PointStore

/-- A store holds all points of rows behind what another one holds, and nothing else.
Metrics keep their numbers, steps and functions; names that are new have neither step
nor function. -/
structure Gains (reversed : Bool) (rows : List Wire.Row) (before after : PointStore) : Prop where
  metrics_eq : ∃ added : List String,
    after.metrics = before.metrics ++ added.map (fun name => ⟨name, 0, none⟩) ∧ added.Nodup ∧
      ∀ name, name ∈ added ↔
        name ∉ before.names ∧ name ∈ rows.map fun row => displayName row.name reversed
  numbered : ∀ row ∈ rows, (after.metricId? (displayName row.name reversed)).isSome = true
  points_eq : after.points = before.points ++ rows.flatMap fun row =>
    rowPoints ((after.metricId? (displayName row.name reversed)).getD 0) row
  length_points : after.points.length = before.points.length + (rows.map Wire.Row.size).sum

variable {store : PointStore} {name : String} {row : Wire.Row} {reversed : Bool}

/-- A row whose arrays are parallel has a point for each of its times. -/
theorem length_rowPoints (id : UInt32) (hvalues : row.values.length = row.times.length) :
    (rowPoints id row).length = row.size := by
  simp [rowPoints, Wire.Row.versions, Wire.Row.size, hvalues]

theorem metrics_intern (store : PointStore) (name : String) :
    (store.intern name).2.metrics =
      store.metrics ++ if name ∈ store.names then [] else [⟨name, 0, none⟩] := by
  have hknown := @metricId?_isSome store name
  unfold intern
  split
  next id hid =>
    rw [hid] at hknown
    rw [if_pos (hknown.mp rfl), List.append_nil]
  next hnone =>
    rw [hnone] at hknown
    rw [if_neg fun hmem => Bool.false_ne_true (hknown.mpr hmem)]

theorem metrics_appendRow (store : PointStore) (row : Wire.Row) (reversed : Bool) :
    (store.appendRow row reversed).2.metrics = store.metrics ++
      if displayName row.name reversed ∈ store.names then []
      else [⟨displayName row.name reversed, 0, none⟩] :=
  store.metrics_intern (displayName row.name reversed)

theorem mem_names_appendRow : name ∈ (store.appendRow row reversed).2.names ↔
    name ∈ store.names ∨ name = displayName row.name reversed :=
  mem_names_intern

theorem points_appendRow (store : PointStore) (row : Wire.Row) (reversed : Bool) :
    (store.appendRow row reversed).2.points =
      store.points ++ rowPoints (store.intern (displayName row.name reversed)).1 row :=
  store.points_ingest (.row row reversed)

end PointStore

namespace Fetch.Fetching

open PointStore (displayName rowPoints)

variable {reversed : Bool}

theorem metrics_prefix_addRows (reversed : Bool) (store : PointStore) (rows : List Wire.Row) :
    store.metrics <+: (addRows reversed store rows).metrics := by
  rw [addRows_eq_enterAll]
  exact PointStore.metrics_prefix_enterAll store _

theorem metricId?_addRows {store : PointStore} {rows : List Wire.Row} {row : Wire.Row}
    (hrow : row ∈ rows) :
    ((addRows reversed store rows).metricId? (displayName row.name reversed)).isSome = true := by
  rw [PointStore.metricId?_isSome, addRows_eq_enterAll, PointStore.mem_names_enterAll]
  exact .inr (List.mem_map.mpr ⟨_, List.mem_map_of_mem hrow, rfl⟩)

theorem addRows_cons (store : PointStore) (row : Wire.Row) (rest : List Wire.Row) :
    addRows reversed store (row :: rest) =
      addRows reversed (store.appendRow row reversed).2 rest := rfl

theorem points_addRows (store : PointStore) (rows : List Wire.Row) :
    (addRows reversed store rows).points = store.points ++ rows.flatMap fun row =>
      rowPoints (((addRows reversed store rows).metricId?
        (displayName row.name reversed)).getD 0) row := by
  induction rows generalizing store with
  | nil => simp [addRows]
  | cons row rest ih =>
      -- the number that the name has at its row is the one that it keeps
      have hnumber := PointStore.metricId?_of_prefix
        (metrics_prefix_addRows reversed (store.appendRow row reversed).2 rest)
        (store.metricId?_intern (displayName row.name reversed))
      rw [addRows_cons, List.flatMap_cons, hnumber, Option.getD_some, ih,
        PointStore.points_appendRow, List.append_assoc]

theorem metrics_addRows (store : PointStore) (rows : List Wire.Row) :
    ∃ added : List String, (addRows reversed store rows).metrics =
        store.metrics ++ added.map (fun name => ⟨name, 0, none⟩) ∧ added.Nodup ∧
      ∀ name, name ∈ added ↔
        name ∉ store.names ∧ name ∈ rows.map fun row => displayName row.name reversed := by
  induction rows generalizing store with
  | nil => exact ⟨[], by simp [addRows]⟩
  | cons row rest ih =>
      obtain ⟨added, hadded, hnodup, hmem⟩ := ih (store.appendRow row reversed).2
      simp only [PointStore.mem_names_appendRow, not_or] at hmem
      simp only [addRows_cons, hadded, PointStore.metrics_appendRow, List.map_cons, List.mem_cons]
      generalize displayName row.name reversed = first at *
      by_cases hknown : first ∈ store.names
      · refine ⟨added, by rw [if_pos hknown, List.append_nil], hnodup, fun name => ?_⟩
        rw [hmem]
        grind
      · refine ⟨first :: added, ?_, ?_, fun name => ?_⟩
        · rw [if_neg hknown, List.append_assoc]
          rfl
        · rw [List.nodup_cons, hmem]
          exact ⟨fun h => h.1.2 rfl, hnodup⟩
        · rw [List.mem_cons, hmem]
          grind

/-- Rows with as many values as times add all of their points. -/
theorem gains_addRows {rows : List Wire.Row}
    (hvalues : ∀ row ∈ rows, row.values.length = row.times.length) (reversed : Bool)
    (store : PointStore) : store.Gains reversed rows (addRows reversed store rows) where
  metrics_eq := metrics_addRows store rows
  numbered _ := metricId?_addRows
  points_eq := points_addRows store rows
  length_points := by
    rw [points_addRows, List.length_append, List.length_flatMap]
    congr 2
    exact List.map_congr_left fun row hrow => PointStore.length_rowPoints _ (hvalues row hrow)

end Fetch.Fetching

end SeriesGateway
