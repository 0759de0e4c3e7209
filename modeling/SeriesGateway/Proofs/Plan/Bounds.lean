import SeriesGateway.Proofs.Plan.FunctionSteps

/-! # Bounds and buckets

Points are rolled up into buckets that start at the multiples of a width. A series
that is asked for over a frame shows every bucket that overlaps the frame, and is
right at both ends only if the bounds of the plan take these buckets in as a whole.

The bounds for raw points are aligned to the largest precision in a group, so they
take in whole buckets of every precision that divides it. Buckets of another
precision end elsewhere, and the bounds may cut through the first or the last of
them.
-/

namespace SeriesGateway.Plan

/-- A bucket of the width that has a second in common with the frame. -/
structure OverlapsFrame (frame : TimeFrame) (width bucket : Nat) : Prop where
  dvd_bucket : width ∣ bucket
  bucket_lt : bucket < frame.stop.toNat
  lt_end : frame.start.toNat < bucket + width

namespace OverlapsFrame

variable {frame : TimeFrame} {width bucket bound : Nat}

theorem le_bucket (h : OverlapsFrame frame width bucket) (hdvd : width ∣ bound)
    (hle : bound ≤ frame.start.toNat) : bound ≤ bucket :=
  Nat.le_of_lt_add_of_dvd (Nat.lt_of_le_of_lt hle h.lt_end) hdvd h.dvd_bucket

theorem end_le (h : OverlapsFrame frame width bucket) (hdvd : width ∣ bound)
    (hle : frame.stop.toNat ≤ bound) : bucket + width ≤ bound := by
  apply Nat.le_of_not_lt
  intro hlt
  have hbound : bound ≤ bucket := Nat.le_of_lt_add_of_dvd hlt hdvd h.dvd_bucket
  have hbucket := h.bucket_lt
  omega

end OverlapsFrame

/-! ## The largest precision -/

namespace Grouping

theorem maxStep_ne_zero (grouping : Grouping) : grouping.maxStep ≠ 0 := by
  have hone : 1 ≤ grouping.maxStep.toNat := by
    rw [maxStep, UInt32.toNat_max]
    exact Nat.le_max_right _ _
  intro hzero
  rw [hzero] at hone
  exact absurd hone (by decide)

theorem step_le_maxStep {grouping : Grouping} {part : FunctionGroup}
    (hpart : part ∈ grouping.groups) : part.step.toNat ≤ grouping.maxStep.toNat := by
  rw [maxStep, UInt32.toNat_max]
  apply Nat.le_trans _ (Nat.le_max_left _ _)
  have hstep : part.step ∈ grouping.groups.map (·.step) := List.mem_map_of_mem hpart
  cases hsteps : grouping.groups.map (·.step) with
  | nil =>
      rw [hsteps] at hstep
      cases hstep
  | cons first rest =>
      rw [hsteps] at hstep
      obtain ⟨hfirst, hrest⟩ := toNat_le_foldl_max rest first
      rw [List.max?_cons', Option.getD_some]
      rcases List.mem_cons.mp hstep with hhead | hlater
      · rwa [hhead]
      · exact hrest _ hlater

theorem precision_le_maxStep {group : TargetGroup} {frame : TimeFrame} {epoch : UInt32}
    {metric : String} (hmetric : metric ∈ group.metrics) :
    (ruleOf group frame epoch metric).precision.toNat ≤
      (resolve group frame epoch).maxStep.toNat := by
  have hpart : partOf (ruleOf group frame epoch) group.metrics
      (ruleOf group frame epoch metric).function ∈ (resolve group frame epoch).groups := by
    rw [groups_resolve]
    exact List.mem_map_of_mem (mem_functionsOf.mpr ⟨metric, hmetric, rfl⟩)
  have hle := le_step_partOf (ruleOf group frame epoch) group.metrics _ metric
    (mem_metrics_partOf _ hmetric)
  exact Nat.le_trans (UInt32.le_iff_toNat_le.mp hle) (step_le_maxStep hpart)

end Grouping

/-! ## Covered buckets -/

namespace QueryPlan

/-- All seconds of a bucket are within the bounds, both of which are inclusive. -/
structure CoversBucket (plan : QueryPlan) (width bucket : Nat) : Prop where
  start_le : plan.start.toNat ≤ bucket
  last_le : bucket + width - 1 ≤ plan.stop.toNat

variable {group : TargetGroup} {frame : TimeFrame} {epoch : UInt32}

/-- The first bucket that overlaps a frame starts at the floor of its start, and the
last one ends at the ceiling of its stop, so these two decide about all of them. -/
theorem forall_coversBucket_iff (plan : QueryPlan) {width : UInt32} (hwidth : width ≠ 0)
    (hwindow : frame.start < frame.stop)
    (hfits : frame.stop.toNat + width.toNat < UInt32.size) :
    (∀ bucket, OverlapsFrame frame width.toNat bucket → plan.CoversBucket width.toNat bucket) ↔
      plan.start.toNat ≤ (Step.floor frame.start width).toNat ∧
        (Step.ceil frame.stop width).toNat ≤ plan.stop.toNat + 1 := by
  have hsame := Step.positive_of_ne_zero hwidth
  have hdvdFloor := Step.dvd_floor frame.start width
  have hdvdCeil := Step.dvd_ceil frame.stop width
  have hfloor := Step.floor_le frame.start width
  have hlt := Step.lt_floor_add frame.start width
  have hceil := Step.ceil_bounds (hsame.symm ▸ hfits)
  rw [hsame] at hdvdFloor hlt hdvdCeil hceil
  constructor
  · intro hcovers
    have hwindow := UInt32.lt_iff_toNat_lt.mp hwindow
    have hfirst := hcovers _ ⟨hdvdFloor, by omega, hlt⟩
    have hlast := hcovers ((Step.ceil frame.stop width).toNat - width.toNat)
      ⟨Nat.dvd_sub hdvdCeil (Nat.dvd_refl _), by omega, by omega⟩
    have hend := hlast.last_le
    exact ⟨hfirst.start_le, by omega⟩
  · rintro ⟨hstart, hstop⟩ bucket hbucket
    have hend := hbucket.end_le hdvdCeil hceil.1
    exact ⟨Nat.le_trans hstart (hbucket.le_bucket hdvdFloor hfloor), by omega⟩

/-- The bounds for raw points are the frame, aligned to the largest precision. -/
theorem unaggregated_spec_of_metrics (frame : TimeFrame) (epoch : UInt32)
    (hmetrics : group.metrics ≠ []) :
    let step := (Grouping.resolve group frame epoch).maxStep
    let plan := unaggregated group frame epoch
    plan.start = Step.floor frame.start step ∧ plan.stop = Step.ceil frame.stop step := by
  intro step plan
  have hplan : plan = unaggregated group frame epoch := rfl
  rw [unaggregated, if_neg (mt Grouping.isEmpty_resolve_iff.mp hmetrics)] at hplan
  rw [hplan]
  exact ⟨rfl, rfl⟩

/-- A plan for raw points takes in all buckets of a metric that overlap the frame exactly
if its bounds, which are aligned to the largest precision, are not inside of the bounds
that the precision of the metric asks for. So they do if it divides the largest one. -/
theorem unaggregated_covers_buckets {metric : String} (hmetric : metric ∈ group.metrics)
    (hwindow : frame.start < frame.stop)
    (hfits : frame.stop.toNat + (Grouping.resolve group frame epoch).maxStep.toNat <
      UInt32.size) :
    let step := (Grouping.resolve group frame epoch).maxStep
    let width := (Grouping.ruleOf group frame epoch metric).precision
    let Covers := ∀ bucket, OverlapsFrame frame width.toNat bucket →
      (unaggregated group frame epoch).CoversBucket width.toNat bucket
    (Covers ↔ (Step.floor frame.start step).toNat ≤ (Step.floor frame.start width).toNat ∧
      (Step.ceil frame.stop width).toNat ≤ (Step.ceil frame.stop step).toNat + 1) ∧
    (width.toNat ∣ step.toNat → Covers) := by
  intro step width Covers
  obtain ⟨hstart, hstop⟩ :=
    unaggregated_spec_of_metrics frame epoch (List.ne_nil_of_mem hmetric)
  have hle : width.toNat ≤ step.toNat := Grouping.precision_le_maxStep hmetric
  have hwidth : width ≠ 0 := RuleSet.precision_lookup_ne_zero _ _ _
  have hiff := forall_coversBucket_iff (unaggregated group frame epoch) hwidth hwindow
    (Nat.lt_of_le_of_lt (Nat.add_le_add_left hle _) hfits)
  rw [hstart, hstop] at hiff
  refine ⟨hiff, fun hdvd bucket hbucket => ?_⟩
  have hpositive : Step.positive step = step :=
    Step.positive_of_ne_zero (Grouping.maxStep_ne_zero _)
  have hfloor := hpositive ▸ Step.dvd_floor frame.start step
  have hceil := hpositive ▸ Step.dvd_ceil frame.stop step
  have hfits : frame.stop.toNat + (Step.positive step).toNat < UInt32.size := by rwa [hpositive]
  have hreach := (Step.ceil_bounds hfits).1
  have hend := hbucket.end_le (Nat.dvd_trans hdvd hceil) hreach
  constructor
  · rw [hstart]
    exact hbucket.le_bucket (Nat.dvd_trans hdvd hfloor) (Step.floor_le _ _)
  · rw [hstop]
    exact Nat.le_trans (Nat.sub_le _ _) hend

/-- Precisions of 20 and 60 seconds, over a frame that starts and ends within buckets of
either. -/
theorem unaggregated_covers_buckets_of_twenty_and_sixty :
    let pattern : RetentionPattern :=
      ⟨some fun name => name.toList.contains 'b', none, [⟨0, 20⟩], by simp, by simp⟩
    let rules : RuleSet := ⟨[pattern], 60, .average, by decide⟩
    let group := ((TargetGroup.new "points" rules).push "a" "A" "x").push "b" "B" "x"
    let frame : TimeFrame := ⟨70, 190, 0⟩
    "b" ∈ group.metrics ∧ frame.start < frame.stop ∧
      frame.stop.toNat + (Grouping.resolve group frame 200).maxStep.toNat < UInt32.size ∧
      ∀ bucket, OverlapsFrame frame 20 bucket →
        (unaggregated group frame 200).CoversBucket 20 bucket := by
  intro pattern rules group frame
  have hmetric : "b" ∈ group.metrics := by decide +kernel
  have hwindow : frame.start < frame.stop := by decide
  have hfits : frame.stop.toNat + (Grouping.resolve group frame 200).maxStep.toNat <
      UInt32.size := by
    decide +kernel
  have hwidth : (Grouping.ruleOf group frame 200 "b").precision.toNat = 20 := by decide +kernel
  refine ⟨hmetric, hwindow, hfits, ?_⟩
  rw [← hwidth]
  exact (unaggregated_covers_buckets hmetric hwindow hfits).2 (by decide +kernel)

/-- Precisions of 50 and 60 seconds. The bounds end at 120, but the bucket of 50 seconds
that the frame ends in goes on up to 149. -/
theorem unaggregated_cuts_bucket_of_fifty_and_sixty :
    let pattern : RetentionPattern :=
      ⟨some fun name => name.toList.contains 'b', none, [⟨0, 50⟩], by simp, by simp⟩
    let rules : RuleSet := ⟨[pattern], 60, .average, by decide⟩
    let group := ((TargetGroup.new "points" rules).push "a" "A" "x").push "b" "B" "x"
    let frame : TimeFrame := ⟨0, 110, 0⟩
    let width := (Grouping.ruleOf group frame 200 "b").precision.toNat
    "b" ∈ group.metrics ∧ frame.start < frame.stop ∧
      frame.stop.toNat + (Grouping.resolve group frame 200).maxStep.toNat < UInt32.size ∧
      OverlapsFrame frame width 100 ∧ ¬ (unaggregated group frame 200).CoversBucket width 100 := by
  intro pattern rules group frame width
  have hwidth : width = 50 := by decide +kernel
  have hstop : (unaggregated group frame 200).stop = 120 := by decide +kernel
  rw [hwidth]
  refine ⟨by decide +kernel, by decide, by decide +kernel, ?_, ?_⟩
  · exact ⟨by decide, by decide, by decide⟩
  · intro hcovers
    have hlast := hcovers.last_le
    rw [hstop] at hlast
    exact absurd hlast (by decide)

end QueryPlan

end SeriesGateway.Plan
