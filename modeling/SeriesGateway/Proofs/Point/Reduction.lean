import SeriesGateway.Proofs.Point.Contest
import SeriesGateway.Proofs.Point.Slice

/-! # Consolidated points of a metric

Whatever entered a store, each consolidated point of a metric stands at a multiple
of the bucket width, is a number, and belongs to a bucket that ends behind the
start; and their times ascend. The points of a metric depend on nothing but the
points that entered under its number, its bucket width and its function.
-/

namespace SeriesGateway.PointStore

variable {store : PointStore} {start commonStep id : UInt32} {point : Point}

/-! ## What a bucket becomes -/

/-- A point is rolled up from a bucket that holds points. -/
theorem mem_points_rollup (hsorted : store.points.Pairwise fun a b => a.key ≤ b.key) :
    point ∈ (store.rollup start commonStep).points ↔
      ∃ member ∈ store.points, store.bucketPoint? start commonStep
        (store.bucketOf commonStep member)
        (store.bucketPoints commonStep store.points (store.bucketOf commonStep member)) =
          some point := by
  rw [rollup_points_eq store start commonStep hsorted, rollupBuckets, List.mem_filterMap]
  simp only [buckets, List.mem_mergeSort, List.mem_eraseDups, List.mem_map,
    exists_exists_and_eq_and]

theorem bucketStep_ne_zero (store : PointStore) (commonStep id : UInt32) :
    store.bucketStep commonStep id ≠ 0 := by
  unfold bucketStep
  split
  next hcommon => exact hcommon
  next =>
    cases hstep : store.step? id with
    | none => decide
    | some step =>
        rw [step?, Option.bind_eq_some_iff] at hstep
        obtain ⟨metric, -, hmetric⟩ := hstep
        split at hmetric
        next => cases hmetric
        next hpositive =>
          obtain rfl := Option.some.inj hmetric
          exact hpositive

/-- A point of a bucket stands at its start, is a number, and ends behind the start. -/
theorem of_bucketPoint?_bucketOf {member : Point} {points : List Point}
    (hpoint : store.bucketPoint? start commonStep (store.bucketOf commonStep member) points =
      some point) :
    point.metricId = member.metricId ∧
      (store.bucketStep commonStep point.metricId).toNat ∣ point.time.toNat ∧
      point.value.isNaN = false ∧
      start.toNat < point.time.toNat + (store.bucketStep commonStep point.metricId).toNat := by
  obtain ⟨hmetric, htime⟩ := bucketOf_bucketPoint? store start commonStep hpoint
  unfold bucketPoint? at hpoint
  dsimp only at hpoint
  split at hpoint
  next => cases hpoint
  next hkept =>
    rw [not_or, Nat.not_le] at hkept
    obtain rfl := Option.some.inj hpoint
    refine ⟨hmetric, ?_, by simpa using hkept.2, hkept.1⟩
    rw [htime, bucketOf, Step.toNat_floor, Step.positive,
      if_neg (bucketStep_ne_zero store commonStep member.metricId)]
    exact Nat.dvd_mul_right _ _

/-! ## The points of a metric -/

theorem metricId?_consolidate (store : PointStore) (start commonStep : UInt32) (name : String) :
    (store.consolidate start commonStep).metricId? name = store.metricId? name := rfl

theorem step?_consolidate (store : PointStore) (start commonStep id : UInt32) :
    (store.consolidate start commonStep).step? id = store.step? id := rfl

theorem aggregation?_consolidate (store : PointStore) (start commonStep id : UInt32) :
    (store.consolidate start commonStep).aggregation? id = store.aggregation? id := rfl

theorem pairwise_points_consolidate (store : PointStore) (start commonStep : UInt32) :
    (store.consolidate start commonStep).points.Pairwise fun a b => a.key < b.key :=
  pairwise_rollup _ start commonStep ((pairwise_uniq_sort store).imp Nat.le_of_lt)

theorem metricPoints_consolidate (store : PointStore) (start commonStep id : UInt32) :
    (store.consolidate start commonStep).metricPoints id =
      (store.consolidate start commonStep).points.filter (·.metricId == id) := by
  apply metricPoints_eq_filter
  apply (pairwise_points_consolidate store start commonStep).imp
  exact fun hlt => Point.metricId_le_of_key_le (Nat.le_of_lt hlt)

theorem metricId_of_mem_metricPoints_consolidate
    (hpoint : point ∈ (store.consolidate start commonStep).metricPoints id) :
    point.metricId = id := by
  rw [metricPoints_consolidate, List.mem_filter, beq_iff_eq] at hpoint
  exact hpoint.2

theorem pairwise_metricPoints_consolidate (store : PointStore) (start commonStep id : UInt32) :
    ((store.consolidate start commonStep).metricPoints id).Pairwise fun a b => a.time < b.time := by
  have hstrict := (pairwise_points_consolidate store start commonStep).filter (·.metricId == id)
  rw [← metricPoints_consolidate] at hstrict
  apply hstrict.imp_of_mem
  intro a b ha hb hlt
  have hametric := metricId_of_mem_metricPoints_consolidate ha
  have hbmetric := metricId_of_mem_metricPoints_consolidate hb
  rcases Point.keyLt_iff.mpr hlt with hdiffer | ⟨-, htime⟩
  · rw [hametric, hbmetric] at hdiffer
    exact absurd hdiffer (UInt32.lt_irrefl id)
  · exact htime

/-- A point of a metric is aligned to the bucket width, is a number, and belongs to
a bucket that ends behind the start. -/
theorem of_mem_metricPoints_consolidate
    (hpoint : point ∈ (store.consolidate start commonStep).metricPoints id) :
    (store.bucketStep commonStep id).toNat ∣ point.time.toNat ∧ point.value.isNaN = false ∧
      start.toNat < point.time.toNat + (store.bucketStep commonStep id).toNat := by
  have hmetric := metricId_of_mem_metricPoints_consolidate hpoint
  have hsorted := (pairwise_uniq_sort store).imp Nat.le_of_lt
  rw [metricPoints_consolidate, List.mem_filter, consolidate, mem_points_rollup hsorted] at hpoint
  obtain ⟨⟨member, -, hbucket⟩, -⟩ := hpoint
  have hkept := (of_bucketPoint?_bucketOf hbucket).2
  rw [hmetric] at hkept
  exact hkept

/-! ## What the points of a metric depend on -/

/-- Ascending points are determined by which points there are. -/
theorem eq_of_mem_iff {first second : List Point}
    (hfirst : first.Pairwise fun a b => a.key < b.key)
    (hsecond : second.Pairwise fun a b => a.key < b.key)
    (hmem : ∀ point, point ∈ first ↔ point ∈ second) : first = second := by
  have hnodup : ∀ {points : List Point}, (points.Pairwise fun a b => a.key < b.key) →
      points.Nodup := by
    intro points hpoints
    apply hpoints.imp
    rintro a b hlt rfl
    exact Nat.lt_irrefl _ hlt
  have hperm := (List.perm_ext_iff_of_nodup (hnodup hfirst) (hnodup hsecond)).mpr hmem
  apply hperm.eq_of_pairwise _ hfirst hsecond
  intro a b _ _ hab hba
  exact absurd hba (Nat.lt_asymm hab)

variable {first second : PointStore}

theorem mem_filter_uniq_sort (store : PointStore) (id : UInt32) (point : Point) :
    point ∈ store.sort.uniq.points.filter (·.metricId == id) ↔
      (point.isLive = true ∧ point.metricId = id) ∧
        point.Wins (store.points.filter (·.metricId == id)) := by
  rw [List.mem_filter, mem_points_uniq_sort, beq_iff_eq, and_right_comm]
  apply and_congr_right
  rintro ⟨-, rfl⟩
  exact Point.wins_filter_metric.symm

/-- The winners of a metric depend on the points of the metric. -/
theorem filter_uniq_sort_congr (hsame : Point.Interchangeable
      (first.points.filter (·.metricId == id)) (second.points.filter (·.metricId == id))) :
    first.sort.uniq.points.filter (·.metricId == id) =
      second.sort.uniq.points.filter (·.metricId == id) := by
  apply eq_of_mem_iff
  · exact (pairwise_uniq_sort first).filter _
  · exact (pairwise_uniq_sort second).filter _
  · intro point
    rw [mem_filter_uniq_sort, mem_filter_uniq_sort, hsame.wins]

/-- Two stores hold the same points under a number, and know the same of its metric. -/
structure AgreeOn (id : UInt32) (first second : PointStore) : Prop where
  points : first.points.filter (·.metricId == id) = second.points.filter (·.metricId == id)
  step : first.step? id = second.step? id
  function : first.aggregation? id = second.aggregation? id

namespace AgreeOn

variable {member : Point}

theorem symm (h : AgreeOn id first second) : AgreeOn id second first :=
  ⟨h.points.symm, h.step.symm, h.function.symm⟩

theorem bucketStep_eq (h : AgreeOn id first second) (commonStep : UInt32) :
    first.bucketStep commonStep id = second.bucketStep commonStep id := by
  rw [bucketStep, bucketStep, h.step]

theorem bucketOf_eq (h : AgreeOn member.metricId first second) (commonStep : UInt32) :
    first.bucketOf commonStep member = second.bucketOf commonStep member := by
  rw [bucketOf, bucketOf, h.bucketStep_eq]

/-- Only the points of the metric can be in a bucket. -/
theorem bucketPoints_filter_metric (store : PointStore) (commonStep : UInt32)
    (points : List Point) (bucket : Bucket) :
    store.bucketPoints commonStep (points.filter (·.metricId == bucket.metricId)) bucket =
      store.bucketPoints commonStep points bucket := by
  rw [bucketPoints, bucketPoints, List.filter_filter]
  apply List.filter_congr
  intro point _
  have hmetric : store.bucketOf commonStep point = bucket → point.metricId = bucket.metricId :=
    fun hbucket => congrArg Bucket.metricId hbucket
  simpa using hmetric

theorem bucketPoints_eq {bucket : Bucket} (h : AgreeOn bucket.metricId first second)
    (commonStep : UInt32) :
    first.bucketPoints commonStep first.points bucket =
      second.bucketPoints commonStep second.points bucket := by
  rw [← bucketPoints_filter_metric, ← bucketPoints_filter_metric second, h.points]
  apply List.filter_congr
  intro other hother
  have hsame := beq_iff_eq.mp (List.mem_filter.mp hother).2
  rw [@bucketOf_eq first second other (hsame ▸ h)]

theorem bucketPoint?_eq {bucket : Bucket} (h : AgreeOn bucket.metricId first second)
    (start commonStep : UInt32) (points : List Point) :
    first.bucketPoint? start commonStep bucket points =
      second.bucketPoint? start commonStep bucket points := by
  rw [bucketPoint?, bucketPoint?, h.function, h.bucketStep_eq]

theorem mem_rollup (h : AgreeOn point.metricId first second)
    (hfirst : first.points.Pairwise fun a b => a.key ≤ b.key)
    (hsecond : second.points.Pairwise fun a b => a.key ≤ b.key)
    (hpoint : point ∈ (first.rollup start commonStep).points) :
    point ∈ (second.rollup start commonStep).points := by
  rw [mem_points_rollup hfirst] at hpoint
  obtain ⟨member, hmember, hbucket⟩ := hpoint
  rw [(of_bucketPoint?_bucketOf hbucket).1] at h
  have hother : member ∈ second.points := by
    have hin : member ∈ first.points.filter (·.metricId == member.metricId) :=
      List.mem_filter.mpr ⟨hmember, beq_self_eq_true _⟩
    rw [h.points] at hin
    exact (List.mem_filter.mp hin).1
  -- the bucket of this member is the same in both stores, with the same points
  refine (mem_points_rollup hsecond).mpr ⟨member, hother, ?_⟩
  have hmetric : (second.bucketOf commonStep member).metricId = member.metricId := rfl
  rw [← hmetric] at h
  rw [← hbucket, h.bucketOf_eq, h.bucketPoints_eq, h.bucketPoint?_eq]

end AgreeOn

/-- The consolidated points of a metric depend on the points under its number, as far
as they decide who wins, and on what is known of the metric. -/
theorem metricPoints_consolidate_congr (hsame : Point.Interchangeable
      (first.points.filter (·.metricId == id)) (second.points.filter (·.metricId == id)))
    (hstep : first.step? id = second.step? id)
    (hfunction : first.aggregation? id = second.aggregation? id) (start commonStep : UInt32) :
    (first.consolidate start commonStep).metricPoints id =
      (second.consolidate start commonStep).metricPoints id := by
  have hagree : AgreeOn id first.sort.uniq second.sort.uniq :=
    ⟨filter_uniq_sort_congr hsame, hstep, hfunction⟩
  have hfirst := (pairwise_uniq_sort first).imp Nat.le_of_lt
  have hsecond := (pairwise_uniq_sort second).imp Nat.le_of_lt
  rw [metricPoints_consolidate, metricPoints_consolidate]
  apply eq_of_mem_iff
  · exact (pairwise_points_consolidate first start commonStep).filter _
  · exact (pairwise_points_consolidate second start commonStep).filter _
  · intro point
    rw [List.mem_filter, List.mem_filter, beq_iff_eq]
    apply and_congr_left
    rintro rfl
    exact ⟨hagree.mem_rollup hfirst hsecond, hagree.symm.mem_rollup hsecond hfirst⟩

end SeriesGateway.PointStore
