import Mathlib.Data.List.Permutation
import Mathlib.Data.List.SplitBy
import SeriesGateway.Proofs.Point.Operation
import SeriesGateway.Proofs.Point.Slice

/-! # Points by metric

Once the points of a store are sorted they stay so under every operation that brings no
points. Then the points of a metric can be cut out by halving, and neighbours of one metric
are all that the metric has: both views show every point once, under its own metric and in
its order.
-/

namespace SeriesGateway.PointStore

variable {store : PointStore} {point : Point} {id : UInt32} {group : UInt32 × List Point}

/-! ## Order -/

theorem pairwise_perform (hsorted : store.points.Pairwise fun a b => a.key ≤ b.key)
    {operation : Operation} (hbrings : operation.bringsPoints = false) :
    (store.perform operation).points.Pairwise fun a b => a.key ≤ b.key := by
  cases operation with
  | describe name step function =>
      rw [perform, points_describe]
      exact hsorted
  | sort => exact pairwise_sort store
  | uniq => exact (pairwise_uniq hsorted).imp Nat.le_of_lt
  | rollup start commonStep =>
      exact (pairwise_rollup store start commonStep hsorted).imp Nat.le_of_lt
  | ingest ingestion =>
      have hentering : store.entering ingestion = [] := by
        cases ingestion with
        | push | row | recent => cases hbrings
        | metric | step | aggregation => rfl
      rw [perform, points_ingest, hentering, List.append_nil]
      exact hsorted

theorem pairwise_performAll (hsorted : store.points.Pairwise fun a b => a.key ≤ b.key)
    {operations : List Operation}
    (hbrings : ∀ operation ∈ operations, operation.bringsPoints = false) :
    (store.performAll operations).points.Pairwise fun a b => a.key ≤ b.key := by
  unfold performAll
  induction operations generalizing store with
  | nil => exact hsorted
  | cons operation rest ih =>
      obtain ⟨hfirst, hrest⟩ := List.forall_mem_cons.mp hbrings
      exact ih (pairwise_perform hsorted hfirst) hrest

/-! ## Runs of one metric -/

/-- Neighbours of one metric. -/
def runs (store : PointStore) : List (List Point) :=
  store.points.splitBy fun a b => a.metricId == b.metricId

theorem metricId_of_mem_run {first : Point} {rest : List Point}
    (hrun : first :: rest ∈ store.runs) (hpoint : point ∈ first :: rest) :
    point.metricId = first.metricId := by
  have hchain := List.isChain_of_mem_splitBy hrun
  simp only [beq_iff_eq] at hchain
  have hsame : ((first :: rest).map (·.metricId)).Pairwise (· = ·) :=
    List.isChain_iff_pairwise.mp ((List.isChain_map _).mpr hchain)
  rw [List.pairwise_map, List.pairwise_cons] at hsame
  rcases List.mem_cons.mp hpoint with rfl | hpoint
  · rfl
  · exact (hsame.1 point hpoint).symm

theorem groups_eq (store : PointStore) : store.groups =
    store.runs.filterMap fun run => run.head?.map fun point => (point.metricId, run) := rfl

/-- A group is a run under the metric of its first point. -/
theorem mem_groups : group ∈ store.groups ↔
    ∃ first rest, first :: rest ∈ store.runs ∧ group = (first.metricId, first :: rest) := by
  rw [groups_eq, List.mem_filterMap]
  constructor
  · rintro ⟨run, hrun, hgroup⟩
    rw [Option.map_eq_some_iff] at hgroup
    obtain ⟨first, hfirst, rfl⟩ := hgroup
    obtain ⟨rest, rfl⟩ := List.head?_eq_some_iff.mp hfirst
    exact ⟨first, rest, hrun, rfl⟩
  · rintro ⟨first, rest, hrun, rfl⟩
    exact ⟨first :: rest, hrun, rfl⟩

theorem metricId_of_mem_group (hgroup : group ∈ store.groups) (hpoint : point ∈ group.2) :
    point.metricId = group.1 := by
  obtain ⟨first, rest, hrun, rfl⟩ := mem_groups.mp hgroup
  exact metricId_of_mem_run hrun hpoint

theorem group_ne_nil (hgroup : group ∈ store.groups) : group.2 ≠ [] := by
  obtain ⟨first, rest, -, rfl⟩ := mem_groups.mp hgroup
  exact List.cons_ne_nil first rest

theorem map_groups (store : PointStore) : store.groups.map (·.2) = store.runs := by
  rw [groups_eq, List.map_filterMap]
  calc store.runs.filterMap _
      = store.runs.filterMap some := by
        apply List.filterMap_congr
        intro run hrun
        obtain ⟨first, rest, rfl⟩ := List.exists_cons_of_ne_nil (List.ne_nil_of_mem_splitBy hrun)
        rfl
    _ = store.runs := List.filterMap_some

theorem flatten_groups (store : PointStore) : (store.groups.map (·.2)).flatten = store.points := by
  rw [map_groups, runs, List.flatten_splitBy]

theorem mem_points_iff : point ∈ store.points ↔ ∃ group ∈ store.groups, point ∈ group.2 := by
  rw [← flatten_groups, List.mem_flatten]
  simp only [List.mem_map, exists_exists_and_eq_and]

theorem mem_map_groups :
    id ∈ store.groups.map (·.1) ↔ ∃ point ∈ store.points, point.metricId = id := by
  rw [List.mem_map]
  constructor
  · rintro ⟨group, hgroup, rfl⟩
    obtain ⟨point, hpoint⟩ := List.exists_mem_of_ne_nil _ (group_ne_nil hgroup)
    exact ⟨point, mem_points_iff.mpr ⟨group, hgroup, hpoint⟩, metricId_of_mem_group hgroup hpoint⟩
  · rintro ⟨point, hpoint, rfl⟩
    obtain ⟨group, hgroup, hpoint⟩ := mem_points_iff.mp hpoint
    exact ⟨group, hgroup, (metricId_of_mem_group hgroup hpoint).symm⟩

/-- What is under one number among groups of different numbers is the group of it. -/
theorem filter_flatten_groups {groups : List (UInt32 × List Point)}
    (hmetric : ∀ group ∈ groups, ∀ point ∈ group.2, point.metricId = group.1)
    (hdistinct : (groups.map (·.1)).Pairwise (· ≠ ·)) (hgroup : group ∈ groups) :
    (groups.map (·.2)).flatten.filter (·.metricId == group.1) = group.2 := by
  induction groups with
  | nil => cases hgroup
  | cons first rest ih =>
      obtain ⟨hfirstMetric, hrestMetric⟩ := List.forall_mem_cons.mp hmetric
      rw [List.map_cons, List.pairwise_cons] at hdistinct
      rw [List.map_cons, List.flatten_cons, List.filter_append]
      rcases List.mem_cons.mp hgroup with rfl | hgroup
      · have hown : group.2.filter (·.metricId == group.1) = group.2 :=
          List.filter_eq_self.mpr fun point hpoint => beq_iff_eq.mpr (hfirstMetric point hpoint)
        have hothers : (rest.map (·.2)).flatten.filter (·.metricId == group.1) = [] := by
          rw [List.filter_eq_nil_iff]
          intro point hpoint
          obtain ⟨run, hrun, hpoint⟩ := List.mem_flatten.mp hpoint
          obtain ⟨other, hother, rfl⟩ := List.mem_map.mp hrun
          rw [hrestMetric other hother point hpoint, beq_iff_eq]
          exact (hdistinct.1 other.1 (List.mem_map_of_mem hother)).symm
        rw [hown, hothers, List.append_nil]
      · have hfirst : first.2.filter (·.metricId == group.1) = [] := by
          rw [List.filter_eq_nil_iff]
          intro point hpoint
          rw [hfirstMetric point hpoint, beq_iff_eq]
          exact hdistinct.1 group.1 (List.mem_map_of_mem hgroup)
        rw [hfirst, List.nil_append, ih hrestMetric hdistinct.2 hgroup]

section Sorted

variable (hsorted : store.points.Pairwise fun a b => a.metricId ≤ b.metricId)

include hsorted

/-- Neighbouring runs are of different metrics, and in sorted points of ascending ones. -/
theorem pairwise_groups : (store.groups.map (·.1)).Pairwise (· < ·) := by
  have hdiffer :=
    List.isChain_getLast_head_splitBy (fun a b => a.metricId == b.metricId) store.points
  rw [← runs, ← map_groups, List.isChain_map, List.isChain_iff_getElem] at hdiffer
  rw [← flatten_groups, List.pairwise_flatten, List.pairwise_map] at hsorted
  have hascending := List.isChain_iff_getElem.mp hsorted.2.isChain
  rw [← List.isChain_iff_pairwise, List.isChain_map, List.isChain_iff_getElem]
  intro i hi
  obtain ⟨hlast, hhead, hne⟩ := hdiffer i hi
  have hle := hascending i hi _ (List.getLast_mem hlast) _ (List.head_mem hhead)
  have hlastMetric := metricId_of_mem_group (List.getElem_mem _) (List.getLast_mem hlast)
  have hheadMetric := metricId_of_mem_group (List.getElem_mem _) (List.head_mem hhead)
  rw [hlastMetric, hheadMetric] at hle hne
  exact UInt32.lt_of_le_of_ne hle (beq_eq_false_iff_ne.mp hne)

theorem group_eq_metricPoints (hgroup : group ∈ store.groups) :
    group.2 = store.metricPoints group.1 := by
  have hdistinct := (pairwise_groups hsorted).imp UInt32.ne_of_lt
  rw [metricPoints_eq_filter hsorted, ← flatten_groups]
  exact (filter_flatten_groups (fun _ hgroup _ => metricId_of_mem_group hgroup) hdistinct
    hgroup).symm

/-- The cuts of a metric are in order and within the points. -/
theorem cuts_ordered (id : UInt32) :
    let first := Search.bisect store.points.toArray fun point => point.metricId < id
    let last := Search.bisect store.points.toArray fun point => point.metricId ≤ id
    first ≤ last ∧ last ≤ store.points.length := by
  intro first last
  have hfirst : first = _ := Search.bisect_eq (pairwise_below hsorted id)
  have hlast : last = _ := Search.bisect_eq (pairwise_upTo hsorted id)
  rw [hfirst, hlast]
  refine ⟨?_, (List.takeWhile_sublist _).length_le⟩
  rw [takeWhile_below_upTo hsorted, takeWhile_eq_filter (pairwise_upTo hsorted id)]
  exact (List.takeWhile_sublist _).length_le

end Sorted

/-- After sorting, and as long as no more points come in, the points of any number are
those that have it, in their order, and its cuts are within the points. Grouped by metric
the numbers that points have come up once each, in ascending order, each with all points
of its own, and the groups together are the points. -/
theorem views_after_sort (store : PointStore) (operations : List Operation)
    (hbrings : ∀ operation ∈ operations, operation.bringsPoints = false) :
    let result := store.sort.performAll operations
    (∀ id, result.metricPoints id = result.points.filter (·.metricId == id) ∧
      let first := Search.bisect result.points.toArray fun point => point.metricId < id
      let last := Search.bisect result.points.toArray fun point => point.metricId ≤ id
      first ≤ last ∧ last ≤ result.points.length) ∧
    (result.groups.map (·.1)).Pairwise (· < ·) ∧
    (∀ id, id ∈ result.groups.map (·.1) ↔ ∃ point ∈ result.points, point.metricId = id) ∧
    (∀ group ∈ result.groups, group.2 ≠ [] ∧ group.2 = result.metricPoints group.1) ∧
    (result.groups.map (·.2)).flatten = result.points := by
  intro result
  have hsorted : result.points.Pairwise fun a b => a.metricId ≤ b.metricId :=
    (pairwise_performAll (pairwise_sort store) hbrings).imp Point.metricId_le_of_key_le
  exact ⟨fun id => ⟨metricPoints_eq_filter hsorted id, cuts_ordered hsorted id⟩,
    pairwise_groups hsorted, fun _ => mem_map_groups,
    fun group hgroup => ⟨group_ne_nil hgroup, group_eq_metricPoints hsorted hgroup⟩,
    flatten_groups result⟩

/-- Points of two metrics out of order, two of them at one time, and one point without a
number. -/
def strayPoints : PointStore where
  metrics := [⟨"a", 60, some .max⟩, ⟨"b", 0, some .min⟩]
  points := [⟨2, ⟨0⟩, 60, 1⟩, ⟨0, ⟨0⟩, 30, 1⟩, ⟨1, ⟨0⟩, 70, 1⟩, ⟨2, ⟨0⟩, 60, 2⟩]

theorem views_after_sort_of_strayPoints :
    (∀ operation ∈ [Operation.uniq, .rollup 0 0], operation.bringsPoints = false) ∧
    let result := strayPoints.sort.performAll [.uniq, .rollup 0 0]
    (result.groups.map (·.1)).Pairwise (· < ·) ∧
    (result.groups.map (·.2)).flatten = result.points ∧
    result.groups = [(1, [⟨1, ⟨0⟩, 60, 1⟩]), (2, [⟨2, ⟨0⟩, 60, 2⟩])] ∧
    result.metricPoints 0 = result.points.filter (·.metricId == 0) := by
  have hbrings : ∀ operation ∈ [Operation.uniq, .rollup 0 0], operation.bringsPoints = false := by
    decide
  obtain ⟨hpoints, hordered, -, -, hall⟩ := views_after_sort strayPoints _ hbrings
  refine ⟨hbrings, hordered, hall, ?_, (hpoints 0).1⟩
  cbv

end SeriesGateway.PointStore
