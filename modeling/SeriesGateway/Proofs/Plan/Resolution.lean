import SeriesGateway.Plan.QueryPlan
import SeriesGateway.Proofs.Step.Align

/-! # Resolved groups

The rules of a group are looked up metric by metric, in the order of the metrics.
A group without metrics has no rules, so there is nothing to plan for.
-/

namespace SeriesGateway.Plan

namespace Grouping

variable (group : TargetGroup) (frame : TimeFrame) (epoch : UInt32)

/-- What the rules say about a metric of a group. -/
def ruleOf (metric : String) : RuleMatch :=
  group.rules.lookup (group.ruleName metric) (frame.age epoch)

/-- Metrics with their rules come behind those that are there. -/
theorem rules_foldl_add (rule : String → RuleMatch) (metrics : List String)
    (grouping : Grouping) :
    (metrics.foldl (fun grouping metric => grouping.add metric (rule metric)) grouping).rules =
      grouping.rules ++ metrics.map fun metric => (metric, rule metric) := by
  induction metrics generalizing grouping with
  | nil => simp
  | cons metric rest ih =>
      rw [List.foldl_cons, ih, add, List.append_assoc, List.singleton_append, List.map_cons]

theorem rules_resolve :
    (resolve group frame epoch).rules =
      group.metrics.map fun metric => (metric, ruleOf group frame epoch metric) :=
  rules_foldl_add (ruleOf group frame epoch) group.metrics empty

variable {group}

theorem resolve_of_empty (hempty : group.metrics = []) : resolve group frame epoch = empty := by
  rw [resolve, hempty, List.foldl_nil]

variable {frame epoch}

theorem isEmpty_resolve_iff : (resolve group frame epoch).isEmpty = true ↔ group.metrics = [] := by
  rw [isEmpty, rules_resolve, List.isEmpty_map, List.isEmpty_iff]

end Grouping

/-! ## Plans -/

/-- The plans that a group can be fetched by. -/
def PlanOf (mode : Mode) (epoch : UInt32) (frame : TimeFrame) (group : TargetGroup)
    (plan : QueryPlan) : Prop :=
  match mode with
  | .unaggregated => plan = .unaggregated group frame epoch
  | .aggregated => ∃ common, QueryPlan.aggregated group frame epoch common = .ok plan

variable {mode : Mode} {epoch : UInt32} {frame : TimeFrame} {group : TargetGroup}
  {plan : QueryPlan}

theorem QueryPlan.finalStep_ne_zero (frame : TimeFrame) (common : UInt32) :
    finalStep frame common ≠ 0 := by
  have hpositive := Step.positive_ne_zero common
  unfold finalStep
  dsimp only
  split
  next => exact hpositive
  next =>
    -- the maximum is at least the common step
    intro hzero
    simp only [max] at hzero
    split at hzero
    next hle =>
      rw [hzero] at hle
      exact hpositive (UInt32.le_zero_iff.mp hle)
    next => exact hpositive hzero

/-- Without metrics the plan does not depend on a step. -/
theorem QueryPlan.aggregated_of_empty (hempty : group.metrics = []) (common : UInt32) :
    aggregated group frame epoch common = .ok (.empty .aggregated frame) := by
  rw [aggregated, aggregatedWith, if_pos (Grouping.isEmpty_resolve_iff.mpr hempty)]

/-- Only where storage aggregates may a plan have several queries. -/
theorem QueryPlan.length_queries_unaggregated (group : TargetGroup) (frame : TimeFrame)
    (epoch : UInt32) : (unaggregated group frame epoch).queries.length ≤ 1 := by
  unfold unaggregated
  dsimp only
  split
  next => exact Nat.zero_le 1
  next => exact Nat.le_refl 1

/-- A plan keeps its grouping, or there was nothing to plan for; and its step is
positive. -/
theorem QueryPlan.aggregatedWith_spec {grouping : Grouping} {common : UInt32}
    (hplan : aggregatedWith group frame grouping common = .ok plan) :
    plan.mode = .aggregated ∧ plan.step ≠ 0 ∧
      (plan.grouping = grouping ∨ grouping.isEmpty = true ∧ plan.grouping = .empty) := by
  rw [aggregatedWith] at hplan
  split at hplan
  next hnone =>
    cases hplan
    exact ⟨rfl, (by decide : (1 : UInt32) ≠ 0), .inr ⟨hnone, rfl⟩⟩
  next =>
    split at hplan
    next =>
      cases hplan
      exact ⟨rfl, finalStep_ne_zero frame common, .inl rfl⟩
    next =>
      cases hstep : grouping.contribution with
      | error error =>
          rw [hstep] at hplan
          cases hplan
      | ok step =>
          rw [hstep] at hplan
          cases hplan
          exact ⟨rfl, finalStep_ne_zero frame step, .inl rfl⟩

theorem QueryPlan.unaggregated_spec (group : TargetGroup) (frame : TimeFrame) (epoch : UInt32) :
    let grouping := Grouping.resolve group frame epoch
    let plan := unaggregated group frame epoch
    plan.mode = .unaggregated ∧
      (plan.grouping = grouping ∨ grouping.isEmpty = true ∧ plan.grouping = .empty) := by
  intro grouping plan
  have hplan : plan = unaggregated group frame epoch := rfl
  rw [unaggregated] at hplan
  split at hplan
  next hnone =>
    rw [hplan]
    exact ⟨rfl, .inr ⟨hnone, rfl⟩⟩
  next =>
    rw [hplan]
    exact ⟨rfl, .inl rfl⟩

/-- A plan keeps the rules of every metric. A step that metrics share is positive. -/
theorem planOf_spec (hplan : PlanOf mode epoch frame group plan) :
    plan.mode = mode ∧ (mode = .aggregated → plan.step ≠ 0) ∧
      plan.grouping.rules =
        group.metrics.map fun metric => (metric, Grouping.ruleOf group frame epoch metric) := by
  have hrules : plan.grouping = Grouping.resolve group frame epoch ∨
      (Grouping.resolve group frame epoch).isEmpty = true ∧ plan.grouping = .empty →
        plan.grouping.rules =
          group.metrics.map fun metric => (metric, Grouping.ruleOf group frame epoch metric) := by
    rw [← Grouping.rules_resolve]
    rintro (hsame | ⟨hnone, hempty⟩)
    · rw [hsame]
    · rw [hempty, List.isEmpty_iff.mp hnone]
      rfl
  cases mode with
  | unaggregated =>
      obtain rfl := hplan
      obtain ⟨hmode, hgrouping⟩ := QueryPlan.unaggregated_spec group frame epoch
      exact ⟨hmode, nofun, hrules hgrouping⟩
  | aggregated =>
      obtain ⟨common, hcommon⟩ := hplan
      obtain ⟨hmode, hstep, hgrouping⟩ := QueryPlan.aggregatedWith_spec hcommon
      exact ⟨hmode, fun _ => hstep, hrules hgrouping⟩

theorem queries_of_empty (hplan : PlanOf mode epoch frame group plan)
    (hempty : group.metrics = []) : plan.queries = [] := by
  have hnone : (Grouping.resolve group frame epoch).isEmpty = true :=
    Grouping.isEmpty_resolve_iff.mpr hempty
  cases mode with
  | unaggregated =>
      rw [PlanOf] at hplan
      rw [hplan, QueryPlan.unaggregated, if_pos hnone]
      rfl
  | aggregated =>
      obtain ⟨common, hcommon⟩ := hplan
      rw [QueryPlan.aggregated, QueryPlan.aggregatedWith, if_pos hnone] at hcommon
      cases hcommon
      rfl

end SeriesGateway.Plan
