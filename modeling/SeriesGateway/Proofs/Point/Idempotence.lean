import Mathlib.Data.List.Nodup
import SeriesGateway.Proofs.Aggregation
import SeriesGateway.Proofs.Point.Reduction

/-! # Consolidating again

Storage that aggregates itself gives one point for each bucket. Such points survive
consolidation as they are. What consolidation gives is of this kind, so consolidating it
again changes nothing.
-/

namespace SeriesGateway.PointStore

variable {store : PointStore} {start commonStep : UInt32} {point other : Point}

/-- A point that stands for a whole bucket of its metric: a number at the start of the
bucket, which ends behind the start of the request and holds no other point. -/
structure FillsBucket (store : PointStore) (start commonStep : UInt32) (point : Point) :
    Prop where
  hasMetric : point.metricId ≠ 0
  isNumber : point.value.isNaN = false
  aligned : (store.bucketStep commonStep point.metricId).toNat ∣ point.time.toNat
  reaches : start.toNat < point.time.toNat + (store.bucketStep commonStep point.metricId).toNat
  alone : store.bucketPoints commonStep store.points (store.bucketOf commonStep point) = [point]

/-- A point at the start of a bucket is where the bucket is. -/
theorem bucketOf_of_aligned
    (haligned : (store.bucketStep commonStep point.metricId).toNat ∣ point.time.toNat) :
    store.bucketOf commonStep point = ⟨point.metricId, point.time⟩ := by
  rw [bucketOf, Step.floor_of_dvd]
  rwa [Step.positive_of_ne_zero (bucketStep_ne_zero store commonStep point.metricId)]

namespace FillsBucket

theorem bucketOf_eq (h : store.FillsBucket start commonStep point) :
    store.bucketOf commonStep point = ⟨point.metricId, point.time⟩ :=
  bucketOf_of_aligned h.aligned

theorem mem (h : store.FillsBucket start commonStep point) : point ∈ store.points := by
  have hbucket : point ∈ store.bucketPoints commonStep store.points
      (store.bucketOf commonStep point) := by
    rw [h.alone]
    exact List.mem_singleton_self point
  exact (List.mem_filter.mp hbucket).1

theorem eq_of_bucketOf_eq (h : store.FillsBucket start commonStep point)
    (hother : other ∈ store.points)
    (hsame : store.bucketOf commonStep other = store.bucketOf commonStep point) :
    other = point := by
  have hbucket : other ∈ store.bucketPoints commonStep store.points
      (store.bucketOf commonStep point) := List.mem_filter.mpr ⟨hother, by simp [hsame]⟩
  rw [h.alone] at hbucket
  exact List.mem_singleton.mp hbucket

theorem eq_of_key_eq (h : store.FillsBucket start commonStep point)
    (hother : other ∈ store.points) (hkey : other.key = point.key) : other = point := by
  obtain ⟨hmetric, htime⟩ := Point.key_eq_iff.mp hkey
  apply h.eq_of_bucketOf_eq hother
  rw [bucketOf, bucketOf, hmetric, htime]

/-- The bucket becomes the point that fills it. -/
theorem bucketPoint?_eq (h : store.FillsBucket start commonStep point) :
    store.bucketPoint? start commonStep (store.bucketOf commonStep point) [point] =
      some point := by
  have hvalue := Aggregation.reduce_singleton
    ((store.aggregation? point.metricId).getD .average) h.isNumber
  have hreaches := h.reaches
  rw [h.bucketOf_eq, bucketPoint?]
  simp only [List.map_cons, List.map_nil, hvalue, h.isNumber]
  rw [if_neg (by simpa using hreaches)]
  rfl

/-- Without others of its key the point wins, so it is among the deduplicated points. -/
theorem mem_uniq_sort (h : store.FillsBucket start commonStep point) :
    point ∈ store.sort.uniq.points := by
  obtain ⟨winner, hwins, hkey⟩ := Point.exists_wins h.mem
  rw [h.eq_of_key_eq hwins.mem hkey] at hwins
  rw [mem_points_uniq_sort, Point.isLive]
  exact ⟨by simp [h.hasMetric, h.isNumber], hwins⟩

/-- The deduplicated points have no other point in the bucket either. -/
theorem bucketPoints_uniq_sort (h : store.FillsBucket start commonStep point) :
    store.sort.uniq.bucketPoints commonStep store.sort.uniq.points
      (store.sort.uniq.bucketOf commonStep point) = [point] := by
  apply eq_of_mem_iff ((pairwise_uniq_sort store).filter _) (List.pairwise_singleton _ _)
  intro other
  rw [List.mem_filter, beq_iff_eq, List.mem_singleton]
  constructor
  · rintro ⟨hother, hsame⟩
    exact h.eq_of_bucketOf_eq ((mem_points_uniq_sort store).mp hother).2.mem hsame
  · rintro rfl
    exact ⟨h.mem_uniq_sort, rfl⟩

/-- A point that fills its bucket survives consolidation as it is. -/
theorem mem_consolidate (h : store.FillsBucket start commonStep point) :
    point ∈ (store.consolidate start commonStep).points := by
  rw [consolidate, mem_points_rollup ((pairwise_uniq_sort store).imp Nat.le_of_lt)]
  refine ⟨point, h.mem_uniq_sort, ?_⟩
  rw [h.bucketPoints_uniq_sort]
  exact h.bucketPoint?_eq

end FillsBucket

/-! ## Stores of points that fill their buckets -/

/-- Where every point fills its bucket, no other points come about. -/
theorem mem_points_consolidate_iff
    (hfills : ∀ point ∈ store.points, store.FillsBucket start commonStep point) :
    point ∈ (store.consolidate start commonStep).points ↔ point ∈ store.points := by
  constructor
  · intro hpoint
    rw [consolidate, mem_points_rollup ((pairwise_uniq_sort store).imp Nat.le_of_lt)] at hpoint
    obtain ⟨member, hmember, hbucket⟩ := hpoint
    have hin := ((mem_points_uniq_sort store).mp hmember).2.mem
    have hself := (hfills member hin).bucketPoint?_eq
    rw [(hfills member hin).bucketPoints_uniq_sort] at hbucket
    obtain rfl := Option.some.inj (hself.symm.trans hbucket)
    exact hin
  · exact fun hpoint => (hfills point hpoint).mem_consolidate

theorem nodup_of_fillsBucket
    (hfills : ∀ point ∈ store.points, store.FillsBucket start commonStep point) :
    store.points.Nodup := by
  rw [List.nodup_iff_count]
  intro point
  by_cases hpoint : point ∈ store.points
  · have hcount : store.points.count point =
        (store.bucketPoints commonStep store.points
          (store.bucketOf commonStep point)).count point :=
      (List.count_filter (by simp)).symm
    rw [hcount, (hfills point hpoint).alone, List.count_singleton_self]
  · rw [List.count_eq_zero_of_not_mem hpoint]
    exact Nat.zero_le 1

/-! ## Consolidated stores -/

theorem metricId_ne_zero_of_mem_consolidate
    (hpoint : point ∈ (store.consolidate start commonStep).points) : point.metricId ≠ 0 := by
  rw [consolidate, mem_points_rollup ((pairwise_uniq_sort store).imp Nat.le_of_lt)] at hpoint
  obtain ⟨member, hmember, hbucket⟩ := hpoint
  have hlive := ((mem_points_uniq_sort store).mp hmember).1
  rw [Point.isLive, Bool.and_eq_true, bne_iff_ne] at hlive
  rw [(of_bucketPoint?_bucketOf hbucket).1]
  exact hlive.1

theorem aligned_of_mem_consolidate
    (hpoint : point ∈ (store.consolidate start commonStep).points) :
    (store.bucketStep commonStep point.metricId).toNat ∣ point.time.toNat ∧
      point.value.isNaN = false ∧
      start.toNat < point.time.toNat + (store.bucketStep commonStep point.metricId).toNat := by
  apply of_mem_metricPoints_consolidate
  rw [metricPoints_consolidate, List.mem_filter]
  exact ⟨hpoint, beq_self_eq_true _⟩

theorem eq_of_key_eq_of_pairwise {points : List Point}
    (hstrict : points.Pairwise fun a b => a.key < b.key) (hpoint : point ∈ points)
    (hother : other ∈ points) (hkey : other.key = point.key) : other = point := by
  have hnodup : (points.map (·.key)).Nodup := List.pairwise_map.mpr (hstrict.imp Nat.ne_of_lt)
  exact List.inj_on_of_nodup_map hnodup hother hpoint hkey

/-- Every consolidated point fills its bucket. -/
theorem fillsBucket_of_mem_consolidate
    (hpoint : point ∈ (store.consolidate start commonStep).points) :
    (store.consolidate start commonStep).FillsBucket start commonStep point := by
  obtain ⟨haligned, hnumber, hreaches⟩ := aligned_of_mem_consolidate hpoint
  have hstrict := pairwise_points_consolidate store start commonStep
  refine ⟨metricId_ne_zero_of_mem_consolidate hpoint, hnumber, haligned, hreaches, ?_⟩
  apply eq_of_mem_iff (hstrict.filter _) (List.pairwise_singleton _ _)
  intro other
  rw [List.mem_filter, beq_iff_eq, List.mem_singleton]
  constructor
  · rintro ⟨hother, hsame⟩
    -- both are aligned, so being in one bucket they have one key
    have hbucket : store.bucketOf commonStep other = store.bucketOf commonStep point := hsame
    rw [bucketOf_of_aligned haligned, bucketOf_of_aligned (aligned_of_mem_consolidate hother).1,
      Bucket.mk.injEq] at hbucket
    exact eq_of_key_eq_of_pairwise hstrict hpoint hother (Point.key_eq_iff.mpr hbucket)
  · rintro rfl
    exact ⟨hpoint, rfl⟩

/-- Consolidating again changes nothing. A point that fills its bucket already survives as
it is, and if all points do, nothing but their order can change. -/
theorem consolidate_consolidate (store : PointStore) (start commonStep : UInt32) :
    let result := store.consolidate start commonStep
    result.consolidate start commonStep = result ∧
    (∀ point, store.FillsBucket start commonStep point → point ∈ result.points) ∧
    ((∀ point ∈ store.points, store.FillsBucket start commonStep point) →
      result.points.Perm store.points) := by
  intro result
  have hpoints : (result.consolidate start commonStep).points = result.points :=
    eq_of_mem_iff (pairwise_points_consolidate result start commonStep)
      (pairwise_points_consolidate store start commonStep)
      fun _ => mem_points_consolidate_iff fun _ => fillsBucket_of_mem_consolidate
  refine ⟨?_, fun point hfills => hfills.mem_consolidate, fun hfills => ?_⟩
  · have hmetrics : (result.consolidate start commonStep).metrics = result.metrics := rfl
    exact congrArg₂ PointStore.mk hmetrics hpoints
  · have hnodup : result.points.Nodup :=
      nodup_of_fillsBucket fun _ => fillsBucket_of_mem_consolidate
    exact (List.perm_ext_iff_of_nodup hnodup (nodup_of_fillsBucket hfills)).mpr
      fun _ => mem_points_consolidate_iff hfills

/-- Aggregated points of two metrics, out of order: one of steps of 60 seconds, the first of
which starts in front of second 90, and one of steps of 10 seconds. -/
def aggregatedPoints : PointStore where
  metrics := [⟨"a", 60, some .average⟩, ⟨"b", 10, some .last⟩]
  points := [⟨2, ⟨0x4000000000000000⟩, 130, 7⟩, ⟨1, ⟨0x3fb999999999999a⟩, 120, 3⟩,
    ⟨1, ⟨0x8000000000000000⟩, 60, 5⟩]

theorem consolidate_consolidate_of_aggregated_points :
    (∀ point ∈ aggregatedPoints.points, aggregatedPoints.FillsBucket 90 0 point) ∧
    (aggregatedPoints.consolidate 90 0).points.Perm aggregatedPoints.points := by
  have hfills : ∀ point ∈ aggregatedPoints.points, aggregatedPoints.FillsBucket 90 0 point := by
    intro point hpoint
    simp only [aggregatedPoints, List.mem_cons, List.not_mem_nil, or_false] at hpoint
    rcases hpoint with rfl | rfl | rfl
    · exact ⟨by decide, by decide, by decide, by decide, by decide⟩
    · exact ⟨by decide, by decide, by decide, by decide, by decide⟩
    · exact ⟨by decide, by decide, by decide, by decide, by decide⟩
  exact ⟨hfills, (consolidate_consolidate aggregatedPoints 90 0).2.2 hfills⟩

end SeriesGateway.PointStore
