import SeriesGateway.Arithmetic
import SeriesGateway.Point.Store

/-! # Consolidation

Three passes turn the ingested points of a store into series: sorting by metric
and time, keeping one point per metric and time, and reducing the points of each
bucket to one. Each pass relies on the ones before it. The last two rewrite the
array of points in place and cut it down to what they kept. The points of one
metric can then be cut out of the store.
-/

namespace SeriesGateway

namespace Point

/-- Whether two points have the same metric and time. -/
def sameKey (a b : Point) : Bool := a.metricId == b.metricId && a.time == b.time

/-- Order by metric, then by time. -/
def keyLe (a b : Point) : Bool :=
  a.metricId < b.metricId || (a.metricId == b.metricId && a.time ≤ b.time)

/-- The point under the number of no metric. -/
def discard (point : Point) : Point := { point with metricId := 0 }

/-- Whether a point is neither discarded nor without a number. -/
def isLive (point : Point) : Bool := point.metricId != 0 && !point.value.isNaN

end Point

namespace PointStore

/-- Sorts the points; points of one key stay in the order they were ingested in. -/
def sort (store : PointStore) : PointStore :=
  { store with points := store.points.mergeSort Point.keyLe }

/-- Discards the losers of each run of one key. The point at `keep` is the winner
so far of the run that the point at `next` may go on: the greatest timestamp
wins, and among equal ones the last. -/
def discardLosers (points : Array Point) (keep next : Nat) (hkeep : keep < next) : Array Point :=
  if hnext : next < points.size then
    let kept := points[keep]
    let point := points[next]
    if kept.sameKey point then
      if kept.timestamp ≤ point.timestamp then
        discardLosers (points.set keep kept.discard) next (next + 1) (by omega)
      else discardLosers (points.set next point.discard) keep (next + 1) (by omega)
    else discardLosers points next (next + 1) (by omega)
  else points
termination_by points.size - next

/-- Keeps the winner of each run, unless it is discarded or not a number. -/
def uniq (store : PointStore) : PointStore :=
  { store with
    points := ((discardLosers store.points.toArray 0 1 (by decide)).filter Point.isLive).toList }

/-- The bucket width of a metric: the common step if there is one, else the step
of the metric, else one. -/
def bucketStep (store : PointStore) (commonStep id : UInt32) : UInt32 :=
  if commonStep ≠ 0 then commonStep else (store.step? id).getD 1

/-- The points of one bucket, gathered from consecutive positions. -/
structure Batch where
  /-- Position behind the last point. -/
  stop : Nat
  values : Array Sample
  /-- The greatest timestamp. -/
  timestamp : UInt32

/-- Gathers points from the end of a batch on, as long as they are in the bucket. -/
def gather (points : Array Point) (inBucket : Point → Bool) (batch : Batch) : Batch :=
  if h : batch.stop < points.size then
    let point := points[batch.stop]
    if inBucket point then
      gather points inBucket ⟨batch.stop + 1, batch.values.push point.value,
        max batch.timestamp point.timestamp⟩
    else batch
  else batch
termination_by points.size - batch.stop

theorem le_stop_gather (points : Array Point) (inBucket : Point → Bool) (batch : Batch) :
    batch.stop ≤ (gather points inBucket batch).stop := by
  fun_induction gather points inBucket batch with
  | case1 batch _ _ _ ih => exact Nat.le_of_succ_le ih
  | case2 => exact Nat.le_refl _
  | case3 => exact Nat.le_refl _

theorem lt_stop_gather {points : Array Point} {inBucket : Point → Bool} {read : Nat}
    (hread : read < points.size) (hfirst : inBucket points[read] = true)
    (values : Array Sample) (timestamp : UInt32) :
    read < (gather points inBucket ⟨read, values, timestamp⟩).stop := by
  rw [gather, dif_pos hread]
  simp only [hfirst, if_true]
  exact Nat.lt_of_lt_of_le (Nat.lt_succ_self read) (le_stop_gather points inBucket ⟨_, _, _⟩)

/-- Reduces the points of one bucket of a metric. A bucket that ends at or before
`start` and one that reduces to NaN are left out. -/
def reduceBatch (store : PointStore) (start step id bucket : UInt32) (batch : Batch) :
    Option Point :=
  if bucket.toNat + step.toNat ≤ start.toNat then none
  else
    let function := (store.aggregation? id).getD default
    let value := function.reduce batch.values.toList
    if value.isNaN then none else some ⟨id, value, bucket, batch.timestamp⟩

/-- Reduces the buckets from position `read` on. The points they are reduced to
replace those from position `write` on, which have been read. -/
def rollupFrom (store : PointStore) (start commonStep : UInt32) (points : Array Point)
    (read write : Nat) (hwrite : write ≤ read) : Array Point :=
  if hread : read < points.size then
    let id := points[read].metricId
    let step := store.bucketStep commonStep id
    let bucket := Step.floor points[read].time step
    let batch := gather points (fun p => p.metricId == id && Step.floor p.time step == bucket)
      ⟨read, #[], 0⟩
    have hbatch : read < batch.stop := lt_stop_gather hread (by simp [id, bucket]) #[] 0
    match store.reduceBatch start step id bucket batch with
    | none => rollupFrom store start commonStep points batch.stop write (by omega)
    | some point =>
      rollupFrom store start commonStep (points.set write point) batch.stop (write + 1) (by omega)
  else points.take write
termination_by points.size - read
decreasing_by
  · exact Nat.sub_lt_sub_left hread hbatch
  · rw [Array.size_set]
    exact Nat.sub_lt_sub_left hread hbatch

/-- Reduces every bucket to one point. -/
def rollup (store : PointStore) (start commonStep : UInt32) : PointStore :=
  { store with
    points := (store.rollupFrom start commonStep store.points.toArray 0 0 (Nat.le_refl 0)).toList }

/-- All three passes. -/
def consolidate (store : PointStore) (start commonStep : UInt32) : PointStore :=
  (store.sort.uniq).rollup start commonStep

/-- Runs of points of one metric. -/
def groups (store : PointStore) : List (UInt32 × List Point) :=
  (store.points.splitBy fun a b => a.metricId == b.metricId).filterMap fun run =>
    run.head?.map fun point => (point.metricId, run)

/-- The points of a metric, found by binary search in sorted points. -/
def metricPoints (store : PointStore) (id : UInt32) : List Point :=
  let points := store.points.toArray
  let first := Search.bisect points fun p => p.metricId < id
  let last := Search.bisect points fun p => p.metricId ≤ id
  (store.points.drop first).take (last - first)

end PointStore

end SeriesGateway
