import SeriesGateway.Proofs.Distinct
import SeriesGateway.Proofs.Plan.Resolution
import SeriesGateway.Proofs.Rules.Lookup
import SeriesGateway.Proofs.Step.Align
import SeriesGateway.Proofs.Step.Multiple

/-! # Steps of functions

A group needs one step for each function that the rules give some of its metrics, and
this step is the largest precision among these metrics. A plan that is made with a
common multiple of these steps has a step that all of them divide, and everything in
the plan is aligned to it.
-/

namespace SeriesGateway.Plan

/-! ## Functions of a group -/

namespace Grouping

/-- The functions that rules give some metrics, in order of the first metric of each. -/
def functionsOf (rule : String → RuleMatch) (metrics : List String) : List Aggregation :=
  (metrics.map fun metric => (rule metric).function).eraseDups

theorem nodup_functionsOf (rule : String → RuleMatch) (metrics : List String) :
    (functionsOf rule metrics).Nodup :=
  nodup_eraseDups _

theorem mem_functionsOf {rule : String → RuleMatch} {metrics : List String}
    {function : Aggregation} :
    function ∈ functionsOf rule metrics ↔
      ∃ metric ∈ metrics, (rule metric).function = function := by
  rw [functionsOf, List.mem_eraseDups, List.mem_map]

/-- The metrics that rules give a function, with the largest of their precisions. -/
def partOf (rule : String → RuleMatch) (metrics : List String) (function : Aggregation) :
    FunctionGroup :=
  let own := metrics.filter fun metric => (rule metric).function = function
  ⟨function, own, (own.map fun metric => (rule metric).precision).foldl max 0⟩

/-- Every metric is in the part of its function. -/
theorem mem_metrics_partOf (rule : String → RuleMatch) {metrics : List String} {metric : String}
    (hmetric : metric ∈ metrics) :
    metric ∈ (partOf rule metrics (rule metric).function).metrics :=
  List.mem_filter.mpr ⟨hmetric, by simp⟩

/-- A metric joins the metrics of its function, or is the first of them. -/
theorem addToGroups_map {part : Aggregation → FunctionGroup}
    (hfunction : ∀ function, (part function).function = function) {functions : List Aggregation}
    (hnodup : functions.Nodup) (metric : String) (rule : RuleMatch) :
    addToGroups metric rule (functions.map part) =
      if rule.function ∈ functions then
        functions.map fun function =>
          if function = rule.function then
            ⟨function, (part function).metrics ++ [metric],
              max (part function).step rule.precision⟩
          else part function
      else functions.map part ++ [⟨rule.function, [metric], rule.precision⟩] := by
  induction functions with
  | nil => rfl
  | cons head rest ih =>
      obtain ⟨hhead, hrest⟩ := List.nodup_cons.mp hnodup
      rw [List.map_cons, addToGroups, hfunction]
      by_cases hsame : head = rule.function
      · have hothers : ∀ function ∈ rest, function ≠ rule.function := by
          rintro function hmem rfl
          exact hhead (hsame ▸ hmem)
        rw [if_pos hsame, if_pos (by simp [hsame]), List.map_cons, if_pos hsame]
        congr 1
        exact List.map_congr_left fun function hmem => (if_neg (hothers function hmem)).symm
      · rw [if_neg hsame, ih hrest]
        by_cases hmem : rule.function ∈ rest
        · simp [hmem, hsame]
        · simp [hmem, Ne.symm hsame]

theorem zero_max (step : UInt32) : max 0 step = step := by
  rw [← UInt32.toNat_inj, UInt32.toNat_max]
  simp

theorem partOf_concat (rule : String → RuleMatch) (metrics : List String) (metric : String)
    (function : Aggregation) :
    partOf rule (metrics ++ [metric]) function =
      if function = (rule metric).function then
        ⟨function, (partOf rule metrics function).metrics ++ [metric],
          max (partOf rule metrics function).step (rule metric).precision⟩
      else partOf rule metrics function := by
  by_cases hsame : function = (rule metric).function
  · simp [partOf, hsame]
  · simp [partOf, Ne.symm hsame, hsame]

theorem partOf_of_new {rule : String → RuleMatch} {metrics : List String} {metric : String}
    (hnew : (rule metric).function ∉ functionsOf rule metrics) :
    partOf rule (metrics ++ [metric]) (rule metric).function =
      ⟨(rule metric).function, [metric], (rule metric).precision⟩ := by
  have hnone : metrics.filter (fun other => (rule other).function = (rule metric).function) =
      [] := by
    rw [List.filter_eq_nil_iff]
    intro other hother hsame
    exact hnew (mem_functionsOf.mpr ⟨other, hother, by simpa using hsame⟩)
  rw [partOf_concat, if_pos rfl]
  simp [partOf, hnone, zero_max]

/-- Adding metrics one by one comes to one part for each function. -/
theorem groups_foldl_add (rule : String → RuleMatch) (metrics : List String) :
    (metrics.foldl (fun grouping metric => grouping.add metric (rule metric)) empty).groups =
      (functionsOf rule metrics).map (partOf rule metrics) := by
  induction metrics using List.reverseRecOn with
  | nil => rfl
  | append_singleton metrics metric ih =>
      have hfunctions : functionsOf rule (metrics ++ [metric]) =
          if (rule metric).function ∈ functionsOf rule metrics then functionsOf rule metrics
          else functionsOf rule metrics ++ [(rule metric).function] := by
        rw [functionsOf, List.map_append, List.map_singleton, eraseDups_concat]
        simp [functionsOf]
      have hpart : ∀ function, (partOf rule metrics function).function = function := fun _ => rfl
      have hadded := addToGroups_map hpart (nodup_functionsOf rule metrics) metric (rule metric)
      rw [List.foldl_append, List.foldl_cons, List.foldl_nil, add, ih, hfunctions]
      refine hadded.trans ?_
      split
      next =>
        exact List.map_congr_left fun function _ =>
          (partOf_concat rule metrics metric function).symm
      next hnew =>
        rw [List.map_append, List.map_singleton, partOf_of_new hnew]
        congr 1
        apply List.map_congr_left
        intro function hfunction
        have hother : function ≠ (rule metric).function := fun hsame => hnew (hsame ▸ hfunction)
        rw [partOf_concat, if_neg hother]

/-- A resolved group has one part for each function that the rules give its metrics. -/
theorem groups_resolve (group : TargetGroup) (frame : TimeFrame) (epoch : UInt32) :
    (resolve group frame epoch).groups =
      (functionsOf (ruleOf group frame epoch) group.metrics).map
        (partOf (ruleOf group frame epoch) group.metrics) :=
  groups_foldl_add (ruleOf group frame epoch) group.metrics

theorem toNat_le_foldl_max (steps : List UInt32) (first : UInt32) :
    first.toNat ≤ (steps.foldl max first).toNat ∧
      ∀ step ∈ steps, step.toNat ≤ (steps.foldl max first).toNat := by
  induction steps generalizing first with
  | nil => simp
  | cons step rest ih =>
      obtain ⟨hfirst, hrest⟩ := ih (max first step)
      rw [UInt32.toNat_max] at hfirst
      rw [List.foldl_cons]
      refine ⟨by omega, List.forall_mem_cons.mpr ⟨by omega, hrest⟩⟩

theorem le_step_partOf (rule : String → RuleMatch) (metrics : List String)
    (function : Aggregation) :
    ∀ metric ∈ (partOf rule metrics function).metrics,
      (rule metric).precision ≤ (partOf rule metrics function).step := by
  intro metric hmetric
  rw [UInt32.le_iff_toNat_le]
  exact (toNat_le_foldl_max _ 0).2 _ (List.mem_map_of_mem hmetric)

variable {group : TargetGroup} {frame : TimeFrame} {epoch : UInt32}

/-- A function has a metric, whose precision is positive, so its step is positive. -/
theorem step_ne_zero_of_mem_groups {part : FunctionGroup}
    (hpart : part ∈ (resolve group frame epoch).groups) : part.step ≠ 0 := by
  rw [groups_resolve] at hpart
  obtain ⟨function, hfunction, rfl⟩ := List.mem_map.mp hpart
  obtain ⟨metric, hmetric, rfl⟩ := mem_functionsOf.mp hfunction
  have hpositive : (ruleOf group frame epoch metric).precision ≠ 0 :=
    RuleSet.precision_lookup_ne_zero _ _ _
  have hle := le_step_partOf (ruleOf group frame epoch) group.metrics _ _
    (mem_metrics_partOf _ hmetric)
  intro hzero
  rw [hzero] at hle
  exact hpositive (UInt32.le_zero_iff.mp hle)

theorem groups_resolve_ne_nil (frame : TimeFrame) (epoch : UInt32) (hmetrics : group.metrics ≠ []) :
    (resolve group frame epoch).groups ≠ [] := by
  obtain ⟨metric, hmetric⟩ := List.exists_mem_of_ne_nil _ hmetrics
  rw [groups_resolve]
  exact List.ne_nil_of_mem (List.mem_map_of_mem (mem_functionsOf.mpr ⟨metric, hmetric, rfl⟩))

end Grouping

/-! ## Aligned plans -/

namespace QueryPlan

theorem dvd_finalStep (frame : TimeFrame) (common : UInt32) :
    (Step.positive common).toNat ∣ (finalStep frame common).toNat := by
  unfold finalStep
  dsimp only
  split
  next => exact Nat.dvd_refl _
  next =>
    have hceil := Step.dvd_ceil (Step.parts frame.duration frame.maxDataPoints)
      (Step.positive common)
    rw [Step.positive_positive] at hceil
    rw [UInt32.toNat_max]
    rcases Nat.le_total (Step.positive common).toNat
      (Step.ceil (Step.parts frame.duration frame.maxDataPoints) (Step.positive common)).toNat with
      hle | hle
    · rwa [Nat.max_eq_right hle]
    · simp only [Nat.max_eq_left hle, Nat.dvd_refl]

variable {group : TargetGroup} {frame : TimeFrame} {epoch common : UInt32} {plan : QueryPlan}

/-- The plan of a group with metrics, and all of its queries, have the step that the
common one gives the frame, and bounds that are aligned to it. -/
theorem aggregated_spec (hplan : aggregated group frame epoch common = .ok plan)
    (hmetrics : group.metrics ≠ []) (hcommon : common ≠ 0) :
    plan.step = finalStep frame common ∧ plan.start = Step.floor frame.start plan.step ∧
      plan.stop = Step.ceil frame.stop plan.step ∧
      ∀ query ∈ plan.queries,
        query.step = plan.step ∧ query.start = plan.start ∧ query.stop = plan.stop := by
  rw [aggregated, aggregatedWith, if_neg (mt Grouping.isEmpty_resolve_iff.mp hmetrics),
    if_pos hcommon] at hplan
  cases hplan
  refine ⟨rfl, rfl, rfl, ?_⟩
  intro query hquery
  obtain ⟨part, -, rfl⟩ := List.mem_map.mp hquery
  exact ⟨rfl, rfl, rfl⟩

end QueryPlan

end SeriesGateway.Plan
