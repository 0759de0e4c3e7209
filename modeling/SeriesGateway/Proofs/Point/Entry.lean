import SeriesGateway.Proofs.Point.Naming

/-! # Points under a name

Rows of storage and points of the secondary source enter a store alike: their
name is interned, and their points are appended under its number. So the points
under the number of a name are those that entered under that name, in the order
in which they entered, whatever entered in between under other names.
-/

namespace SeriesGateway.PointStore

/-- Points on their way into a store: the name of their metric, and the points
once the metric has a number. -/
structure Entry where
  name : String
  points : UInt32 → List Point
  numbered : ∀ (id : UInt32) (point : Point), point ∈ points id → point.metricId = id

namespace Entry

theorem metricId_of_mem_rowPoints {id : UInt32} {row : Wire.Row} {point : Point}
    (hpoint : point ∈ rowPoints id row) : point.metricId = id := by
  obtain ⟨⟨⟨time, value⟩, timestamp⟩, -, rfl⟩ := List.mem_map.mp hpoint
  rfl

/-- The points of a row, under its display name. -/
def ofRow (reversed : Bool) (row : Wire.Row) : Entry :=
  ⟨displayName row.name reversed, fun id => rowPoints id row, fun _ _ => metricId_of_mem_rowPoints⟩

def ofRecent (recent : RecentPoint) : Entry :=
  ⟨recent.metric, fun id => [⟨id, recent.value, recent.time, recent.timestamp⟩], by simp⟩

end Entry

/-- The points that enter under a name, once it has a number. -/
def pointsUnder (name : String) (id : UInt32) (entries : List Entry) : List Point :=
  (entries.filter (·.name == name)).flatMap (·.points id)

/-- Interns the name of an entry and appends its points. -/
def enter (store : PointStore) (entry : Entry) : PointStore :=
  let (id, store) := store.intern entry.name
  { store with points := store.points ++ entry.points id }

def enterAll (store : PointStore) (entries : List Entry) : PointStore := entries.foldl enter store

theorem appendRecent_eq_enterAll (store : PointStore) (points : List RecentPoint) :
    store.appendRecent points = store.enterAll (points.map .ofRecent) := by
  rw [appendRecent, enterAll, List.foldl_map]
  rfl

variable {store : PointStore} {name : String} {id : UInt32}

theorem enterAll_append (store : PointStore) (first second : List Entry) :
    store.enterAll (first ++ second) = (store.enterAll first).enterAll second :=
  List.foldl_append

/-! ## Metrics -/

theorem metrics_prefix_enterAll (store : PointStore) (entries : List Entry) :
    store.metrics <+: (store.enterAll entries).metrics := by
  induction entries generalizing store with
  | nil => exact List.prefix_refl _
  | cons entry rest ih =>
      exact (metrics_prefix_intern store entry.name).trans (@ih (store.enter entry))

theorem mem_names_enterAll {entries : List Entry} : name ∈ (store.enterAll entries).names ↔
    name ∈ store.names ∨ name ∈ entries.map (·.name) := by
  induction entries generalizing store with
  | nil => simp [enterAll]
  | cons entry rest ih =>
      have hentry : name ∈ (store.enter entry).names ↔ name ∈ store.names ∨ name = entry.name :=
        mem_names_intern
      rw [enterAll, List.foldl_cons, ← enterAll, ih, hentry, List.map_cons, List.mem_cons, or_assoc]

theorem nodup_names_enterAll (hnodup : store.names.Nodup) (entries : List Entry) :
    (store.enterAll entries).names.Nodup := by
  induction entries generalizing store with
  | nil => exact hnodup
  | cons entry rest ih => exact ih (nodup_names_intern hnodup entry.name)

/-! ## Points -/

theorem filter_points_enter (hid : store.metricId? name = some id) (entry : Entry)
    (hfits : (store.enter entry).metrics.length < UInt32.size) :
    (store.enter entry).points.filter (·.metricId == id) =
      store.points.filter (·.metricId == id) ++ pointsUnder name id [entry] := by
  have hentry := metricId?_intern store entry.name
  have hlater := metricId?_of_prefix (metrics_prefix_intern store entry.name) hid
  have hpoints : (store.enter entry).points =
      store.points ++ entry.points (store.intern entry.name).1 := by
    simp only [enter, intern]
    split <;> rfl
  rw [hpoints, List.filter_append, List.append_cancel_left_eq, pointsUnder]
  by_cases hname : entry.name = name
  · have hnumber : (store.intern entry.name).1 = id := by
      rw [hname] at hentry
      rw [hname]
      exact Option.some.inj (hentry.symm.trans (hname ▸ hlater))
    rw [List.filter_cons_of_pos (by simpa using hname), hnumber]
    simpa using entry.numbered id
  · -- another name has another number
    have hnumber : (store.intern entry.name).1 ≠ id := by
      intro hsame
      rw [hsame] at hentry
      exact hname (metricId?_inj hentry hlater hfits)
    rw [List.filter_cons_of_neg (by simpa using hname), List.filter_nil, List.flatMap_nil,
      List.filter_eq_nil_iff]
    intro point hpoint
    rw [entry.numbered _ point hpoint]
    simpa using hnumber

/-- As long as there are fewer metrics than numbers, the points under the number
of a name are those that entered under the name. -/
theorem filter_points_enterAll (hid : store.metricId? name = some id) (entries : List Entry)
    (hfits : (store.enterAll entries).metrics.length < UInt32.size) :
    (store.enterAll entries).points.filter (·.metricId == id) =
      store.points.filter (·.metricId == id) ++ pointsUnder name id entries := by
  induction entries generalizing store with
  | nil => simp [enterAll, pointsUnder]
  | cons entry rest ih =>
      -- the rest enters a store in which the name still has its number
      have hmore := (metrics_prefix_enterAll (store.enter entry) rest).length_le
      have hlater := metricId?_of_prefix (metrics_prefix_intern store entry.name) hid
      have hentry := filter_points_enter hid entry (Nat.lt_of_le_of_lt hmore hfits)
      have hrest := @ih (store.enter entry) hlater hfits
      rw [enterAll, List.foldl_cons, ← enterAll, hrest, hentry, List.append_assoc, pointsUnder,
        pointsUnder, pointsUnder, ← List.flatMap_append, ← List.filter_append,
        List.singleton_append]

end SeriesGateway.PointStore
