import SeriesGateway.Point.Consolidation

/-! # Rolling up in place

Reading and writing share one array. The writer stays behind the reader, so the
points still to be read are never touched, and what was written stays in front.
The result is what a pass over a list of runs would give: each run of points of
one bucket is reduced, and the runs behind it follow.
-/

namespace SeriesGateway.PointStore

/-- Whether a point is in the bucket of another. -/
def inBucketOf (store : PointStore) (commonStep : UInt32) (first point : Point) : Bool :=
  let step := store.bucketStep commonStep first.metricId
  point.metricId == first.metricId && Step.floor point.time step == Step.floor first.time step

theorem inBucketOf_self (store : PointStore) (commonStep : UInt32) (point : Point) :
    store.inBucketOf commonStep point point = true := by
  simp [inBucketOf]

/-- Reduces the points of the bucket of `first`. -/
def reduceRun (store : PointStore) (start commonStep : UInt32) (first : Point)
    (run : List Point) : Option Point :=
  let step := store.bucketStep commonStep first.metricId
  store.reduceBatch start step first.metricId (Step.floor first.time step)
    ⟨0, (run.map (·.value)).toArray, (run.map (·.timestamp)).foldl max 0⟩

/-- Reduces the runs of points of one bucket. -/
def rollupRuns (store : PointStore) (start commonStep : UInt32) : List Point → List Point
  | [] => []
  | first :: rest =>
    (store.reduceRun start commonStep first
        (first :: rest.takeWhile (store.inBucketOf commonStep first))).toList ++
      store.rollupRuns start commonStep (rest.dropWhile (store.inBucketOf commonStep first))
termination_by points => points.length
decreasing_by exact Nat.lt_succ_of_le (List.dropWhile_sublist _).length_le

/-- A batch gathers the run at its position. -/
theorem gather_eq {points : Array Point} {inBucket : Point → Bool} {read : Nat}
    {unread : List Point} (hunread : points.toList.drop read = unread) (values : Array Sample)
    (timestamp : UInt32) :
    gather points inBucket ⟨read, values, timestamp⟩ =
      ⟨read + (unread.takeWhile inBucket).length,
        values ++ ((unread.takeWhile inBucket).map (·.value)).toArray,
        ((unread.takeWhile inBucket).map (·.timestamp)).foldl max timestamp⟩ := by
  induction unread generalizing read values timestamp with
  | nil =>
      have hend : points.size ≤ read := by simpa using hunread
      rw [gather, dif_neg (by simpa using hend)]
      simp
  | cons point rest ih =>
      have hread : read < points.size := by
        apply Nat.lt_of_not_le
        intro hend
        rw [List.drop_eq_nil_of_le (by simpa using hend)] at hunread
        cases hunread
      rw [List.drop_eq_getElem_cons (by simpa using hread), List.cons.injEq,
        Array.getElem_toList] at hunread
      obtain ⟨hpoint, hrest⟩ := hunread
      rw [gather, dif_pos hread]
      simp only [hpoint]
      split
      next hin =>
        rw [ih hrest, List.takeWhile_cons_of_pos hin]
        simp [Nat.add_assoc, Nat.add_comm 1]
      next hout => simp [List.takeWhile_cons_of_neg hout]

theorem drop_length_takeWhile (inBucket : Point → Bool) (points : List Point) :
    points.drop (points.takeWhile inBucket).length = points.dropWhile inBucket := by
  have hsplit : points.takeWhile inBucket ++ points.dropWhile inBucket = points :=
    List.takeWhile_append_dropWhile
  calc points.drop (points.takeWhile inBucket).length
      = (points.takeWhile inBucket ++ points.dropWhile inBucket).drop
          (points.takeWhile inBucket).length := by rw [hsplit]
    _ = points.dropWhile inBucket := List.drop_left

/-- The first unread point decides the bucket: the batch at its position is
reduced like its run, and the other runs are behind the batch. -/
theorem rollupRuns_drop (store : PointStore) (start commonStep : UInt32) {points : Array Point}
    {read : Nat} (hread : read < points.size) :
    let step := store.bucketStep commonStep points[read].metricId
    let bucket := Step.floor points[read].time step
    let batch := gather points (store.inBucketOf commonStep points[read]) ⟨read, #[], 0⟩
    store.rollupRuns start commonStep (points.toList.drop read) =
      (store.reduceBatch start step points[read].metricId bucket batch).toList ++
        store.rollupRuns start commonStep (points.toList.drop batch.stop) := by
  intro step bucket batch
  have hunread : points.toList.drop read = points[read] :: points.toList.drop (read + 1) := by
    rw [List.drop_eq_getElem_cons (by simpa using hread), Array.getElem_toList]
  have hself := inBucketOf_self store commonStep points[read]
  have hbatch : batch = _ := gather_eq hunread #[] 0
  rw [List.takeWhile_cons_of_pos hself] at hbatch
  have hbehind : points.toList.drop batch.stop =
      (points.toList.drop (read + 1)).dropWhile (store.inBucketOf commonStep points[read]) := by
    rw [← drop_length_takeWhile, List.drop_drop, hbatch, List.length_cons]
    congr 1
    dsimp only
    omega
  rw [hunread, rollupRuns, hbehind, hbatch]
  simp only [Array.empty_append]
  rfl

/-- What was written stays in front of what the unread points are rolled up to. -/
theorem toList_rollupFrom (store : PointStore) (start commonStep : UInt32)
    (points : Array Point) (read write : Nat) (hwrite : write ≤ read) :
    (store.rollupFrom start commonStep points read write hwrite).toList =
      points.toList.take write ++
        store.rollupRuns start commonStep (points.toList.drop read) := by
  fun_induction rollupFrom store start commonStep points read write hwrite with
  | case1 points read write hwrite hread id step bucket batch hbatch hnone ih =>
      have hruns : store.rollupRuns start commonStep (points.toList.drop read) =
          (store.reduceBatch start step id bucket batch).toList ++
            store.rollupRuns start commonStep (points.toList.drop batch.stop) :=
        rollupRuns_drop store start commonStep hread
      rw [ih, hruns, hnone, Option.toList_none, List.nil_append]
  | case2 points read write hwrite hread id step bucket batch hbatch point hsome ih =>
      have hruns : store.rollupRuns start commonStep (points.toList.drop read) =
          (store.reduceBatch start step id bucket batch).toList ++
            store.rollupRuns start commonStep (points.toList.drop batch.stop) :=
        rollupRuns_drop store start commonStep hread
      -- `write ≤ read < batch.stop`: the write is in front of all that is still to be read
      have hlength : write < points.toList.length := by
        rw [Array.length_toList]
        omega
      have hwritten : (points.toList.set write point).take (write + 1) =
          points.toList.take write ++ [point] := by
        rw [List.take_succ_eq_append_getElem (by simpa using hlength),
          List.take_set_of_le (Nat.le_refl _), List.getElem_set_self]
      rw [ih, Array.toList_set, hwritten, List.drop_set_of_lt (by omega), hruns, hsome,
        Option.toList_some, List.append_assoc]
  | case3 points read write hwrite hread =>
      rw [List.drop_eq_nil_of_le (by simpa using hread), rollupRuns]
      simp

theorem rollup_points (store : PointStore) (start commonStep : UInt32) :
    (store.rollup start commonStep).points = store.rollupRuns start commonStep store.points := by
  unfold rollup
  simp [toList_rollupFrom]

end SeriesGateway.PointStore
