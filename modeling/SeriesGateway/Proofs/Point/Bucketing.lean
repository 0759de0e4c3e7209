import Mathlib.Data.List.Basic
import SeriesGateway.Proofs.Point.Compaction
import SeriesGateway.Proofs.Point.Uniqueness
import SeriesGateway.Proofs.Search
import SeriesGateway.Proofs.Step.Align

/-! # Rolling up by buckets

Out of place a store is rolled up bucket by bucket: the buckets that hold points
are listed in ascending order, the points of each are picked from the whole
store, and what they reduce to is emitted. In ascending points this is what the
pass in place gives, because the start of a bucket grows with the time, so that
the points of one bucket stand together.
-/

namespace SeriesGateway.PointStore

variable (store : PointStore) (start commonStep : UInt32)

/-! ## The pass out of place -/

/-- A bucket of a metric, by its start. -/
@[ext]
structure Bucket where
  metricId : UInt32
  time : UInt32
deriving DecidableEq, Repr

/-- Order by metric, then by start. -/
def Bucket.le (a b : Bucket) : Bool :=
  a.metricId < b.metricId || (a.metricId == b.metricId && a.time ≤ b.time)

/-- The bucket of a point. -/
def bucketOf (point : Point) : Bucket :=
  ⟨point.metricId, Step.floor point.time (store.bucketStep commonStep point.metricId)⟩

/-- The buckets that hold points, in ascending order. -/
def buckets (points : List Point) : List Bucket :=
  (points.map (store.bucketOf commonStep)).eraseDups.mergeSort Bucket.le

/-- The points of a bucket, in their order. -/
def bucketPoints (points : List Point) (bucket : Bucket) : List Point :=
  points.filter fun point => store.bucketOf commonStep point == bucket

/-- The point that a bucket of points becomes, unless it ends at or before the
start or the values reduce to no number. -/
def bucketPoint? (bucket : Bucket) (points : List Point) : Option Point :=
  let value := ((store.aggregation? bucket.metricId).getD .average).reduce (points.map (·.value))
  if bucket.time.toNat + (store.bucketStep commonStep bucket.metricId).toNat ≤ start.toNat ∨
      value.isNaN then none
  else some ⟨bucket.metricId, value, bucket.time, (points.map (·.timestamp)).max?.getD 0⟩

/-- One point for each bucket. -/
def rollupBuckets (points : List Point) : List Point :=
  (store.buckets commonStep points).filterMap fun bucket =>
    store.bucketPoint? start commonStep bucket (store.bucketPoints commonStep points bucket)

/-! ## Buckets in the order of their points -/

theorem Bucket.le_iff {a b : Bucket} :
    a.le b = true ↔ a.metricId < b.metricId ∨ a.metricId = b.metricId ∧ a.time ≤ b.time := by
  simp [Bucket.le]

theorem Bucket.le_antisymm {a b : Bucket} (hab : a.le b = true) (hba : b.le a = true) : a = b := by
  simp only [Bucket.le_iff, UInt32.lt_iff_toNat_lt, UInt32.le_iff_toNat_le,
    ← UInt32.toNat_inj] at hab hba
  rw [Bucket.ext_iff, ← UInt32.toNat_inj, ← UInt32.toNat_inj]
  omega

theorem Bucket.lt_of_le_of_ne {a b : Bucket} (hle : a.le b = true) (hne : a ≠ b) :
    a.metricId < b.metricId ∨ a.metricId = b.metricId ∧ a.time < b.time := by
  rcases Bucket.le_iff.mp hle with hmetric | ⟨hmetric, htime⟩
  · exact Or.inl hmetric
  · refine Or.inr ⟨hmetric, UInt32.lt_of_le_of_ne htime ?_⟩
    intro hsame
    exact hne (Bucket.ext hmetric hsame)

/-- The start of a bucket grows with the time. -/
theorem bucketOf_mono {a b : Point} (hle : a.key ≤ b.key) :
    (store.bucketOf commonStep a).le (store.bucketOf commonStep b) = true := by
  rw [← Point.keyLe_iff, Point.keyLe] at hle
  simp only [Bool.or_eq_true, Bool.and_eq_true, beq_iff_eq, decide_eq_true_eq] at hle
  rw [Bucket.le_iff]
  rcases hle with hmetric | ⟨hmetric, htime⟩
  · exact Or.inl hmetric
  · refine Or.inr ⟨hmetric, ?_⟩
    rw [bucketOf, bucketOf, hmetric]
    exact Step.floor_mono htime _

theorem inBucketOf_eq (first point : Point) :
    store.inBucketOf commonStep first point =
      (store.bucketOf commonStep point == store.bucketOf commonStep first) := by
  rw [Bool.eq_iff_iff, beq_iff_eq, bucketOf, bucketOf, Bucket.mk.injEq, inBucketOf,
    Bool.and_eq_true, beq_iff_eq, beq_iff_eq]
  apply and_congr_right
  intro hmetric
  rw [hmetric]

theorem reduceRun_eq (first : Point) (run : List Point) :
    store.reduceRun start commonStep first (first :: run) =
      store.bucketPoint? start commonStep (store.bucketOf commonStep first) (first :: run) := by
  have hzero : max 0 first.timestamp = first.timestamp := by
    simp [Max.max]
  simp only [reduceRun, reduceBatch, bucketPoint?, bucketOf, List.map_cons, List.max?_cons',
    List.foldl_cons, hzero, Option.getD_some]
  by_cases hbehind : (Step.floor first.time (store.bucketStep commonStep first.metricId)).toNat +
      (store.bucketStep commonStep first.metricId).toNat ≤ start.toNat
  · rw [if_pos hbehind, if_pos (Or.inl hbehind)]
  · rw [if_neg hbehind]
    simp only [hbehind, false_or]
    rfl

/-! ## Runs are buckets -/

/-- In ascending points those of the first bucket are at the beginning. -/
theorem pairwise_inBucketOf {first : Point} {rest : List Point}
    (hsorted : (first :: rest).Pairwise fun a b => a.key ≤ b.key) :
    rest.Pairwise fun a b => store.inBucketOf commonStep first b = true →
      store.inBucketOf commonStep first a = true := by
  obtain ⟨hfirst, hrest⟩ := List.pairwise_cons.mp hsorted
  apply hrest.imp_of_mem
  intro a b ha _ hle hin
  rw [inBucketOf_eq, beq_iff_eq] at hin ⊢
  apply Bucket.le_antisymm
  · rw [← hin]
    exact bucketOf_mono store commonStep hle
  · exact bucketOf_mono store commonStep (hfirst a ha)

/-- The first bucket gets the first point and what is in its bucket behind it. -/
theorem bucketPoints_first (first : Point) (rest : List Point) :
    store.bucketPoints commonStep (first :: rest) (store.bucketOf commonStep first) =
      first :: rest.filter (store.inBucketOf commonStep first) := by
  rw [bucketPoints, List.filter_cons_of_pos (by simp)]
  congr 1
  apply List.filter_congr
  exact fun point _ => (inBucketOf_eq store commonStep first point).symm

/-- The other buckets get none of their points from the first bucket. -/
theorem bucketPoints_behind {first : Point} {rest : List Point} {bucket : Bucket}
    (hother : bucket ≠ store.bucketOf commonStep first) :
    store.bucketPoints commonStep (first :: rest) bucket =
      store.bucketPoints commonStep
        (rest.filter fun point => !store.inBucketOf commonStep first point) bucket := by
  rw [bucketPoints, bucketPoints, List.filter_cons_of_neg (by simpa using Ne.symm hother),
    List.filter_filter]
  apply List.filter_congr
  intro point _
  rw [inBucketOf_eq]
  by_cases hbucket : store.bucketOf commonStep point = bucket
  · simp [hbucket, hother]
  · simp [hbucket]

theorem eraseDups_bucketOf (first : Point) (rest : List Point) :
    ((first :: rest).map (store.bucketOf commonStep)).eraseDups =
      store.bucketOf commonStep first ::
        ((rest.filter fun point => !store.inBucketOf commonStep first point).map
          (store.bucketOf commonStep)).eraseDups := by
  rw [List.map_cons, List.eraseDups_cons, List.filter_map]
  simp only [inBucketOf_eq]
  rfl

/-- In ascending points the runs are the buckets, in the order of their first
points. -/
theorem rollupRuns_eq {points : List Point}
    (hsorted : points.Pairwise fun a b => a.key ≤ b.key) :
    store.rollupRuns start commonStep points =
      (points.map (store.bucketOf commonStep)).eraseDups.filterMap fun bucket =>
        store.bucketPoint? start commonStep bucket
          (store.bucketPoints commonStep points bucket) := by
  fun_induction rollupRuns store start commonStep points with
  | case1 => rfl
  | case2 first rest ih =>
      have hbeginning := pairwise_inBucketOf store commonStep hsorted
      rw [dropWhile_eq_filter hbeginning] at ih ⊢
      rw [ih ((List.pairwise_cons.mp hsorted).2.filter _), takeWhile_eq_filter hbeginning,
        reduceRun_eq, eraseDups_bucketOf, List.filterMap_eq_flatMap_toList _ (_ :: _),
        List.flatMap_cons, bucketPoints_first, ← List.filterMap_eq_flatMap_toList]
      congr 1
      -- the other buckets are those of the points behind the run, so they lose nothing
      apply List.filterMap_congr
      intro bucket hbucket
      rw [List.mem_eraseDups, List.mem_map] at hbucket
      obtain ⟨point, hpoint, rfl⟩ := hbucket
      have hout := (List.mem_filter.mp hpoint).2
      rw [bucketPoints_behind]
      intro hin
      rw [inBucketOf_eq, hin] at hout
      simp at hout

/-! ## Ascending buckets -/

theorem pairwise_eraseDups {buckets : List Bucket}
    (hsorted : buckets.Pairwise fun a b => a.le b = true) :
    buckets.eraseDups.Pairwise fun a b => a.le b = true ∧ a ≠ b := by
  match buckets, hsorted with
  | [], _ => exact List.Pairwise.nil
  | first :: rest, hsorted =>
      obtain ⟨hfirst, hrest⟩ := List.pairwise_cons.mp hsorted
      rw [List.eraseDups_cons, List.pairwise_cons]
      refine ⟨?_, pairwise_eraseDups (hrest.filter _)⟩
      intro bucket hbucket
      rw [List.mem_eraseDups, List.mem_filter, Bool.not_eq_true', beq_eq_false_iff_ne] at hbucket
      exact ⟨hfirst bucket hbucket.1, Ne.symm hbucket.2⟩
termination_by buckets.length
decreasing_by exact Nat.lt_succ_of_le (List.length_filter_le _ _)

theorem pairwise_bucketOf {points : List Point}
    (hsorted : points.Pairwise fun a b => a.key ≤ b.key) :
    (points.map (store.bucketOf commonStep)).Pairwise fun a b => a.le b = true :=
  List.pairwise_map.mpr (hsorted.imp (bucketOf_mono store commonStep))

/-- The buckets of ascending points are met in ascending order. -/
theorem buckets_eq {points : List Point} (hsorted : points.Pairwise fun a b => a.key ≤ b.key) :
    store.buckets commonStep points = (points.map (store.bucketOf commonStep)).eraseDups := by
  have hascending := pairwise_eraseDups (pairwise_bucketOf store commonStep hsorted)
  exact List.mergeSort_of_pairwise (hascending.imp And.left)

theorem rollup_points_eq (hsorted : store.points.Pairwise fun a b => a.key ≤ b.key) :
    (store.rollup start commonStep).points =
      store.rollupBuckets start commonStep store.points := by
  rw [rollup_points, rollupRuns_eq store start commonStep hsorted, rollupBuckets,
    buckets_eq store commonStep hsorted]

/-- What a bucket becomes stands at its metric and start. -/
theorem bucketOf_bucketPoint? {bucket : Bucket} {points : List Point} {point : Point}
    (hpoint : store.bucketPoint? start commonStep bucket points = some point) :
    point.metricId = bucket.metricId ∧ point.time = bucket.time := by
  unfold bucketPoint? at hpoint
  dsimp only at hpoint
  split at hpoint
  · cases hpoint
  · cases hpoint
    exact ⟨rfl, rfl⟩

theorem pairwise_rollupBuckets {points : List Point}
    (hsorted : points.Pairwise fun a b => a.key ≤ b.key) :
    (store.rollupBuckets start commonStep points).Pairwise Point.KeyLt := by
  rw [rollupBuckets, buckets_eq store commonStep hsorted, List.pairwise_filterMap]
  apply (pairwise_eraseDups (pairwise_bucketOf store commonStep hsorted)).imp
  intro bucket other hbefore point hpoint otherPoint hotherPoint
  obtain ⟨hmetric, htime⟩ := bucketOf_bucketPoint? store start commonStep hpoint
  obtain ⟨hotherMetric, hotherTime⟩ := bucketOf_bucketPoint? store start commonStep hotherPoint
  rw [Point.KeyLt, hmetric, htime, hotherMetric, hotherTime]
  exact Bucket.lt_of_le_of_ne hbefore.1 hbefore.2

theorem pairwise_rollup (hsorted : store.points.Pairwise fun a b => a.key ≤ b.key) :
    (store.rollup start commonStep).points.Pairwise fun a b => a.key < b.key := by
  rw [rollup_points_eq store start commonStep hsorted]
  exact (pairwise_rollupBuckets store start commonStep hsorted).imp Point.keyLt_iff.mp

/-- The points of a bucket are of one metric, so they are in the order of their
times. -/
theorem pairwise_bucketPoints {points : List Point}
    (hsorted : points.Pairwise fun a b => a.key < b.key) (bucket : Bucket) :
    (store.bucketPoints commonStep points bucket).Pairwise fun a b => a.time < b.time := by
  apply (hsorted.filter _).imp_of_mem
  intro a b ha hb hlt
  have hametric := congrArg Bucket.metricId (beq_iff_eq.mp (List.mem_filter.mp ha).2)
  have hbmetric := congrArg Bucket.metricId (beq_iff_eq.mp (List.mem_filter.mp hb).2)
  have hmetric : a.metricId = b.metricId := hametric.trans hbmetric.symm
  rcases Point.keyLt_iff.mpr hlt with hdiffer | ⟨_, htime⟩
  · rw [hmetric] at hdiffer
    exact absurd hdiffer (UInt32.lt_irrefl _)
  · exact htime

/-- Rolling up consolidated points in place gives what the pass out of place
gives: one point for each bucket that neither ends at or before the start nor
reduces to no number, from all its points in the order of their times. The result
is strictly ascending, and the metrics are the same. -/
theorem rollup_eq_rollupBuckets (store : PointStore) (start commonStep : UInt32) :
    let consolidated := store.sort.uniq
    let result := consolidated.rollup start commonStep
    result.points = consolidated.rollupBuckets start commonStep consolidated.points ∧
    (∀ bucket, (consolidated.bucketPoints commonStep consolidated.points bucket).Pairwise
      fun a b => a.time < b.time) ∧
    result.points.Pairwise Point.KeyLt ∧
    result.metrics = store.metrics := by
  intro consolidated result
  have hstrict := pairwise_uniq_sort store
  have hsorted := hstrict.imp Nat.le_of_lt
  have hpoints : result.points =
      consolidated.rollupBuckets start commonStep consolidated.points :=
    rollup_points_eq consolidated start commonStep hsorted
  refine ⟨hpoints, pairwise_bucketPoints consolidated commonStep hstrict, ?_, rfl⟩
  rw [hpoints]
  exact pairwise_rollupBuckets consolidated start commonStep hsorted

end SeriesGateway.PointStore
