import Mathlib.Order.Interval.Finset.Nat
import SeriesGateway.Proofs.Plan.FunctionSteps

/-! # The number of buckets

A client says how many points per series it wants at most, and the common step is
coarsened to a multiple of itself with which as many buckets span the frame. It is not
coarsened further than necessary, unless all multiples that span the frame are beyond
32 bits; then it is the last one that is not. The bounds of a plan are the frame, aligned
to this step, so that at most two more buckets start within them.
-/

namespace SeriesGateway.Plan

/-- A multiple of the width that is wide enough for a number of buckets to span a
duration. -/
structure Suffices (width duration buckets step : Nat) : Prop where
  dvd : width ∣ step
  width_le : width ≤ step
  duration_le : duration ≤ step * buckets

/-- The step that a width comes to for a duration and a number of points, where zero is no
limit. -/
structure IsCoarsened (width duration points step : Nat) : Prop where
  pos : 0 < step
  dvd : width ∣ step
  eq_of_unlimited : points = 0 → step = width
  isLeast : points ≠ 0 → (∃ other < UInt32.size, Suffices width duration points other) →
    IsLeast {other | Suffices width duration points other} step
  isGreatest : points ≠ 0 → (¬ ∃ other < UInt32.size, Suffices width duration points other) →
    IsGreatest {other | width ∣ other ∧ other < UInt32.size} step

/-- The starts of buckets within bounds, both of which are inclusive. -/
def bucketStarts (step start stop : UInt32) : Finset Nat :=
  {bucket ∈ Finset.Icc start.toNat stop.toNat | step.toNat ∣ bucket}

/-- Bounds around a frame within which not too many buckets start. Only if no bucket
starts from the stop of the frame on they end before it, and then at the last bucket of all. -/
structure KeepsBudget (frame : TimeFrame) (step start stop : UInt32) : Prop where
  card_le : frame.maxDataPoints ≠ 0 →
    (bucketStarts step start stop).card ≤ frame.maxDataPoints.toNat + 2
  start_le : start ≤ frame.start
  start_le_stop : start ≤ stop
  le_stop : (∃ bucket < UInt32.size, step.toNat ∣ bucket ∧ frame.stop.toNat ≤ bucket) →
    frame.stop ≤ stop
  isGreatest_stop : (¬ ∃ bucket < UInt32.size, step.toNat ∣ bucket ∧ frame.stop.toNat ≤ bucket) →
    IsGreatest {bucket | step.toNat ∣ bucket ∧ bucket < UInt32.size} stop.toNat

variable {frame : TimeFrame} {common step : UInt32}

theorem toNat_duration (hwindow : frame.start ≤ frame.stop) :
    frame.duration.toNat = frame.stop.toNat - frame.start.toNat := by
  rw [TimeFrame.duration, secondsBetween, if_pos hwindow, UInt32.toNat_sub_of_le _ _ hwindow]

/-! ## The coarsened step -/

namespace QueryPlan

theorem toNat_finalStep (hpoints : frame.maxDataPoints ≠ 0) (common : UInt32) :
    (finalStep frame common).toNat = max (Step.positive common).toNat
      (Step.ceil (Step.parts frame.duration frame.maxDataPoints)
        (Step.positive common)).toNat := by
  rw [finalStep, if_neg hpoints, UInt32.toNat_max]

/-- Buckets span the frame exactly if the step reaches what one of them has to take in. -/
theorem suffices_iff (hwindow : frame.start ≤ frame.stop) (hpoints : frame.maxDataPoints ≠ 0)
    {width step : Nat} :
    Suffices width (frame.stop.toNat - frame.start.toNat) frame.maxDataPoints.toNat step ↔
      width ∣ step ∧ width ≤ step ∧
        (Step.parts frame.duration frame.maxDataPoints).toNat ≤ step := by
  rw [Step.parts_le_iff hpoints, toNat_duration hwindow]
  exact ⟨fun h => ⟨h.dvd, h.width_le, h.duration_le⟩, fun ⟨hdvd, hle, hspan⟩ => ⟨hdvd, hle, hspan⟩⟩

theorem isLeast_finalStep (hwindow : frame.start ≤ frame.stop)
    (hpoints : frame.maxDataPoints ≠ 0)
    (hsome : ∃ other < UInt32.size, Suffices (Step.positive common).toNat
      (frame.stop.toNat - frame.start.toNat) frame.maxDataPoints.toNat other) :
    IsLeast {other | Suffices (Step.positive common).toNat
      (frame.stop.toNat - frame.start.toNat) frame.maxDataPoints.toNat other}
        (finalStep frame common).toNat := by
  simp only [suffices_iff hwindow hpoints] at hsome ⊢
  obtain ⟨other, hfits, hdvd, -, hreach⟩ := hsome
  have hceil := @Step.isLeast_ceil _ (Step.positive common)
    ⟨other, hfits, by rwa [Step.positive_positive], hreach⟩
  rw [Step.positive_positive] at hceil
  have hfinal := dvd_finalStep frame common
  rw [toNat_finalStep hpoints] at hfinal ⊢
  constructor
  · exact ⟨hfinal, Nat.le_max_left _ _, Nat.le_trans hceil.1.2 (Nat.le_max_right _ _)⟩
  · rintro another ⟨hdvd, hle, hreach⟩
    exact Nat.max_le.mpr ⟨hle, hceil.2 ⟨hdvd, hreach⟩⟩

theorem isGreatest_finalStep (hwindow : frame.start ≤ frame.stop)
    (hpoints : frame.maxDataPoints ≠ 0)
    (hnone : ¬ ∃ other < UInt32.size, Suffices (Step.positive common).toNat
      (frame.stop.toNat - frame.start.toNat) frame.maxDataPoints.toNat other) :
    IsGreatest {other | (Step.positive common).toNat ∣ other ∧ other < UInt32.size}
      (finalStep frame common).toNat := by
  simp only [suffices_iff hwindow hpoints] at hnone
  have hwidth : (Step.positive common).toNat < UInt32.size := UInt32.toNat_lt _
  have hbeyond : ¬ ∃ other < UInt32.size, (Step.positive (Step.positive common)).toNat ∣ other ∧
      (Step.parts frame.duration frame.maxDataPoints).toNat ≤ other := by
    rw [Step.positive_positive]
    rintro ⟨other, hfits, hdvd, hreach⟩
    apply hnone
    rcases Nat.eq_zero_or_pos other with rfl | hpos
    · exact ⟨_, hwidth, Nat.dvd_refl _, Nat.le_refl _, Nat.le_trans hreach (Nat.zero_le _)⟩
    · exact ⟨other, hfits, hdvd, Nat.le_of_dvd hpos hdvd, hreach⟩
  have hceil := Step.isGreatest_ceil hbeyond
  rw [Step.positive_positive] at hceil
  rwa [toNat_finalStep hpoints, Nat.max_eq_right (hceil.2 ⟨Nat.dvd_refl _, hwidth⟩)]

theorem isCoarsened_finalStep (hwindow : frame.start ≤ frame.stop) (common : UInt32) :
    IsCoarsened (Step.positive common).toNat (frame.stop.toNat - frame.start.toNat)
      frame.maxDataPoints.toNat (finalStep frame common).toNat where
  pos := Step.toNat_pos_of_ne_zero (finalStep_ne_zero frame common)
  dvd := dvd_finalStep frame common
  eq_of_unlimited hpoints := by rw [finalStep, if_pos (UInt32.toNat_inj.mp hpoints)]
  isLeast hpoints := isLeast_finalStep hwindow (mt (congrArg UInt32.toNat) hpoints)
  isGreatest hpoints := isGreatest_finalStep hwindow (mt (congrArg UInt32.toNat) hpoints)

end QueryPlan

/-! ## Buckets within bounds -/

/-- From the first one on there are fewer buckets than steps to a time behind the last. -/
theorem card_bucketStarts_le {start stop : UInt32} {count : Nat} (hdvd : step.toNat ∣ start.toNat)
    (hlt : stop.toNat < start.toNat + count * step.toNat) :
    (bucketStarts step start stop).card ≤ count := by
  have hcover : bucketStarts step start stop ⊆
      (Finset.range count).image fun i => start.toNat + i * step.toNat := by
    intro bucket hbucket
    obtain ⟨hbounds, hmultiple⟩ := Finset.mem_filter.mp hbucket
    obtain ⟨hfirst, hlast⟩ := Finset.mem_Icc.mp hbounds
    obtain ⟨i, hi⟩ := (Nat.dvd_sub_iff_left hfirst hdvd).mpr hmultiple
    rw [Nat.mul_comm] at hi
    refine Finset.mem_image.mpr ⟨i, Finset.mem_range.mpr ?_, by omega⟩
    exact Nat.lt_of_mul_lt_mul_right (a := step.toNat) (by omega)
  have hcard := (Finset.card_le_card hcover).trans Finset.card_image_le
  rwa [Finset.card_range] at hcard

namespace QueryPlan

/-- Buckets that span a frame reach from its floor to its ceiling with two more. If the last
multiple does not let them span it, the second multiple is beyond all times. -/
theorem ceil_lt_floor_add (hwindow : frame.start ≤ frame.stop)
    (hpoints : frame.maxDataPoints ≠ 0) (hstep : step = finalStep frame common) :
    (Step.ceil frame.stop step).toNat <
      (Step.floor frame.start step).toNat + (frame.maxDataPoints.toNat + 2) * step.toNat := by
  have hcoarsened := isCoarsened_finalStep hwindow common
  rw [← hstep] at hcoarsened
  have hpoints := (Step.toNat_pos_of_ne_zero hpoints).ne'
  rw [Nat.add_mul, Nat.mul_comm frame.maxDataPoints.toNat]
  by_cases hsome : ∃ other < UInt32.size, Suffices (Step.positive common).toNat
      (frame.stop.toNat - frame.start.toNat) frame.maxDataPoints.toNat other
  · have hspan := (hcoarsened.isLeast hpoints hsome).1.duration_le
    have hsame : Step.positive step = step :=
      Step.positive_of_ne_zero (hstep ▸ finalStep_ne_zero frame common)
    have hfloor := Step.lt_floor_add frame.start step
    have hceil := Step.ceil_lt frame.stop step
    rw [hsame] at hfloor hceil
    have hwindow := UInt32.le_iff_toNat_le.mp hwindow
    omega
  · have hlast := (hcoarsened.isGreatest hpoints hsome).2
    have hwidth := Nat.le_of_dvd hcoarsened.pos hcoarsened.dvd
    have hsecond : UInt32.size ≤ step.toNat + (Step.positive common).toNat := by
      apply Nat.le_of_not_lt
      intro hfits
      have hle := hlast ⟨Nat.dvd_add hcoarsened.dvd (Nat.dvd_refl _), hfits⟩
      have hpos := Step.positive_pos common
      omega
    have hceil := (Step.ceil frame.stop step).toNat_lt_size
    omega

theorem keepsBudget_finalStep (hwindow : frame.start ≤ frame.stop)
    (hstep : step = finalStep frame common) :
    KeepsBudget frame step (Step.floor frame.start step) (Step.ceil frame.stop step) := by
  have hsame : Step.positive step = step :=
    Step.positive_of_ne_zero (hstep ▸ finalStep_ne_zero frame common)
  have hdvd := Step.dvd_floor frame.start step
  have hleast := @Step.isLeast_ceil frame.stop step
  have hgreatest := @Step.isGreatest_ceil frame.stop step
  rw [hsame] at hdvd hleast hgreatest
  constructor
  · intro hpoints
    exact card_bucketStarts_le hdvd (ceil_lt_floor_add hwindow hpoints hstep)
  · exact UInt32.le_iff_toNat_le.mpr (Step.floor_le frame.start step)
  · exact Step.floor_le_ceil hwindow step
  · exact fun hsome => UInt32.le_iff_toNat_le.mpr (hleast hsome).1.2
  · exact hgreatest

/-- The common step that a plan is made with: zero stands for the one that the group
itself needs. -/
def commonFor (group : TargetGroup) (frame : TimeFrame) (epoch requested : UInt32) :
    Except StepError UInt32 :=
  if requested = 0 then (Grouping.resolve group frame epoch).contribution else .ok requested

/-- A group with metrics is planned with the step that the common one comes to, and with the
frame aligned to it. -/
theorem exists_aggregated {group : TargetGroup} {epoch requested : UInt32}
    (hmetrics : group.metrics ≠ []) (hcommon : commonFor group frame epoch requested = .ok common) :
    let step := finalStep frame common
    ∃ plan, aggregated group frame epoch requested = .ok plan ∧ plan.step = step ∧
      plan.start = Step.floor frame.start step ∧ plan.stop = Step.ceil frame.stop step := by
  have hsome : ¬ (Grouping.resolve group frame epoch).isEmpty = true :=
    mt Grouping.isEmpty_resolve_iff.mp hmetrics
  unfold commonFor at hcommon
  unfold aggregated aggregatedWith
  rw [if_neg hsome]
  split at hcommon
  next hzero =>
    rw [if_neg (not_not.mpr hzero), hcommon]
    exact ⟨_, rfl, rfl, rfl, rfl⟩
  next hnonzero =>
    cases hcommon
    rw [if_pos hnonzero]
    exact ⟨_, rfl, rfl, rfl, rfl⟩

/-- The final step of a frame is the first multiple of the common step with which the wanted
number of buckets span the frame, or the last multiple of all if no such multiple fits in a
step, or the common step itself if any number is wanted. The frame aligned to it begins at or
before the frame, ends at or behind it as long as a bucket there can, and at most two more
buckets than wanted start within it. Every group with metrics is planned like this. -/
theorem finalStep_keeps_budget (hwindow : frame.start ≤ frame.stop) (common : UInt32) :
    let step := finalStep frame common
    IsCoarsened (Step.positive common).toNat (frame.stop.toNat - frame.start.toNat)
      frame.maxDataPoints.toNat step.toNat ∧
    KeepsBudget frame step (Step.floor frame.start step) (Step.ceil frame.stop step) ∧
    ∀ (group : TargetGroup) (epoch requested : UInt32), group.metrics ≠ [] →
      commonFor group frame epoch requested = .ok common →
        ∃ plan, aggregated group frame epoch requested = .ok plan ∧ plan.step = step ∧
          plan.start = Step.floor frame.start step ∧ plan.stop = Step.ceil frame.stop step := by
  intro step
  refine ⟨isCoarsened_finalStep hwindow common, keepsBudget_finalStep hwindow rfl, ?_⟩
  intro group epoch requested hmetrics hcommon
  exact exists_aggregated hmetrics hcommon

/-- A step of 7 seconds, and two points over almost all times there are. The second bucket
behind the start is the last one of all, and the bounds end before the frame does. -/
theorem finalStep_keeps_budget_up_to_last_bucket :
    let rules : RuleSet := ⟨[], 7, .average, by decide⟩
    let group := (TargetGroup.new "points" rules).push "a" "A" "x"
    let frame : TimeFrame := ⟨100, 4294967290, 2⟩
    frame.start ≤ frame.stop ∧
      IsLeast {step | Suffices 7 4294967190 2 step} 2147483597 ∧
      KeepsBudget frame 2147483597 0 4294967194 ∧
      group.metrics ≠ [] ∧ commonFor group frame 200 0 = .ok 7 ∧
      ∃ plan, aggregated group frame 200 0 = .ok plan ∧ plan.step = 2147483597 ∧
        plan.start = 0 ∧ plan.stop = 4294967194 := by
  intro rules group frame
  have hwindow : frame.start ≤ frame.stop := by decide
  have hstep : finalStep frame 7 = 2147483597 := by decide
  have hstart : Step.floor frame.start 2147483597 = 0 := by decide
  have hstop : Step.ceil frame.stop 2147483597 = 4294967194 := by decide
  have hsome : ∃ other < UInt32.size, Suffices 7 4294967190 2 other :=
    ⟨2147483597, by decide, by decide, by decide, by decide⟩
  have hmetrics : group.metrics ≠ [] := by decide
  have hcommon : commonFor group frame 200 0 = .ok 7 := by decide +kernel
  obtain ⟨hcoarsened, hbudget, hplans⟩ := finalStep_keeps_budget hwindow 7
  rw [hstep] at hcoarsened hbudget hplans
  rw [hstart, hstop] at hbudget hplans
  exact ⟨hwindow, hcoarsened.isLeast (by decide) hsome, hbudget, hmetrics, hcommon,
    hplans group 200 0 hmetrics hcommon⟩

end QueryPlan

end SeriesGateway.Plan
