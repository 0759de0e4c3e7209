import SeriesGateway.Proofs.Point.Bucketing

/-! # Cutting out the points of a metric

In points that are ordered by metric, the two cuts of a metric enclose its points
and nothing else.
-/

namespace SeriesGateway

namespace PointStore

section Sorted

variable {store : PointStore}
  (hsorted : store.points.Pairwise fun a b => a.metricId ≤ b.metricId)

include hsorted

/-- In points ordered by metric those below a bound are at the beginning. -/
theorem pairwise_below (id : UInt32) : store.points.Pairwise fun a b =>
    decide (b.metricId < id) = true → decide (a.metricId < id) = true := by
  apply hsorted.imp
  intro a b hle hlt
  rw [decide_eq_true_eq] at hlt ⊢
  exact UInt32.lt_of_le_of_lt hle hlt

theorem pairwise_upTo (id : UInt32) : store.points.Pairwise fun a b =>
    decide (b.metricId ≤ id) = true → decide (a.metricId ≤ id) = true := by
  apply hsorted.imp
  intro a b hle hupTo
  rw [decide_eq_true_eq] at hupTo ⊢
  exact UInt32.le_trans hle hupTo

/-- The two cuts of a metric. -/
theorem metricPoints_eq_drop (id : UInt32) :
    store.metricPoints id =
      (store.points.takeWhile fun point => decide (point.metricId ≤ id)).drop
        (store.points.takeWhile fun point => decide (point.metricId < id)).length := by
  rw [metricPoints, Search.bisect_eq (pairwise_below hsorted id),
    Search.bisect_eq (pairwise_upTo hsorted id), ← List.drop_take]
  congr 1
  exact (List.prefix_iff_eq_take.mp (List.takeWhile_prefix _)).symm

/-- The lower cut lies within the points up to the upper one. -/
theorem takeWhile_below_upTo (id : UInt32) :
    store.points.takeWhile (fun point => decide (point.metricId < id)) =
      (store.points.filter fun point => decide (point.metricId ≤ id)).takeWhile
        (fun point => decide (point.metricId < id)) := by
  have hbelow := pairwise_below hsorted id
  rw [takeWhile_eq_filter hbelow, takeWhile_eq_filter (hbelow.filter _), List.filter_filter]
  apply List.filter_congr
  intro point _
  have hle : point.metricId < id → point.metricId ≤ id := UInt32.le_of_lt
  simpa using hle

theorem metricPoints_eq_filter (id : UInt32) :
    store.metricPoints id = store.points.filter (·.metricId == id) := by
  rw [metricPoints_eq_drop hsorted, takeWhile_below_upTo hsorted,
    takeWhile_eq_filter (pairwise_upTo hsorted id), drop_length_takeWhile,
    dropWhile_eq_filter ((pairwise_below hsorted id).filter _), List.filter_filter]
  apply List.filter_congr
  intro point _
  rw [Bool.eq_iff_iff]
  simp only [Bool.and_eq_true, Bool.not_eq_true', decide_eq_false_iff_not, decide_eq_true_eq,
    beq_iff_eq, UInt32.not_lt]
  exact ⟨fun h => UInt32.le_antisymm h.2 h.1,
    fun h => ⟨UInt32.le_of_eq h.symm, UInt32.le_of_eq h⟩⟩

end Sorted

end PointStore

end SeriesGateway
