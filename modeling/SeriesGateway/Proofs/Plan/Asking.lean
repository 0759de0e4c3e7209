import Mathlib.Data.List.Forall2
import Mathlib.Data.List.Nodup
import SeriesGateway.Proofs.Path
import SeriesGateway.Proofs.Plan.FunctionSteps
import SeriesGateway.Proofs.Plan.MetricList
import SeriesGateway.Proofs.Target.Pushing

/-! # Asking for every metric once

The metrics of a group are split by their functions without loss or repetition,
and the queries of a plan list the storage paths of the parts. Since storage paths
tell metrics apart, the path of every metric is asked for in exactly one query.
-/

namespace SeriesGateway.Plan

/-! ## Splitting -/

namespace Grouping

/-- The metrics are split by the functions that rules give them. -/
structure Splits (grouping : Grouping) (rule : String → RuleMatch) (metrics : List String) :
    Prop where
  /-- All metrics are listed, in order. -/
  rules_eq : grouping.rules = metrics.map fun metric => (metric, rule metric)
  /-- There is a part for each function, in order of the first metric of each. -/
  functions_eq : grouping.groups.map (·.function) =
    (metrics.map fun metric => (rule metric).function).eraseDups
  nodup_functions : (grouping.groups.map (·.function)).Nodup
  /-- No metric is lost or repeated. -/
  perm_metrics : (grouping.groups.flatMap (·.metrics)).Perm metrics
  /-- Every metric is in the part of its function, and the metrics of a part keep
  their order. -/
  metrics_eq : ∀ part ∈ grouping.groups, part.metrics =
    metrics.filter fun metric => (rule metric).function = part.function
  /-- The step of a part is the greatest precision in it. -/
  exists_step : ∀ part ∈ grouping.groups, ∃ metric ∈ part.metrics,
    (rule metric).precision = part.step
  le_step : ∀ part ∈ grouping.groups, ∀ metric ∈ part.metrics,
    (rule metric).precision ≤ part.step

variable (rule : String → RuleMatch) (metrics : List String)

/-- Distinct metrics that are split by function are still all there, once. -/
theorem perm_flatMap_partOf (hnodup : metrics.Nodup) :
    ((functionsOf rule metrics).flatMap fun function => (partOf rule metrics function).metrics).Perm
      metrics := by
  have hparts : ((functionsOf rule metrics).flatMap fun function =>
      (partOf rule metrics function).metrics).Nodup := by
    rw [List.nodup_flatMap]
    refine ⟨fun function _ => hnodup.filter _, ?_⟩
    apply (nodup_functionsOf rule metrics).imp
    intro one other hne metric hone hother
    have hone := List.of_mem_filter hone
    have hother := List.of_mem_filter hother
    rw [decide_eq_true_eq] at hone hother
    exact hne (hone.symm.trans hother)
  rw [List.perm_ext_iff_of_nodup hparts hnodup]
  intro metric
  rw [List.mem_flatMap]
  constructor
  · rintro ⟨function, -, hmetric⟩
    exact List.mem_of_mem_filter hmetric
  · intro hmetric
    exact ⟨(rule metric).function, mem_functionsOf.mpr ⟨metric, hmetric, rfl⟩,
      mem_metrics_partOf rule hmetric⟩

theorem foldl_max_mem (start : UInt32) (steps : List UInt32) :
    steps.foldl max start ∈ start :: steps := by
  induction steps generalizing start with
  | nil => exact List.mem_cons_self
  | cons step steps ih =>
      rw [List.foldl_cons]
      rcases List.mem_cons.mp (ih (max start step)) with hmax | hlater
      · rw [hmax]
        simp only [max]
        split <;> simp
      · exact List.mem_cons_of_mem _ (List.mem_cons_of_mem _ hlater)

/-- The greatest precision of a part is that of one of its metrics. -/
theorem exists_step_partOf {function : Aggregation}
    (hfunction : function ∈ functionsOf rule metrics) :
    ∃ metric ∈ (partOf rule metrics function).metrics,
      (rule metric).precision = (partOf rule metrics function).step := by
  obtain ⟨metric, hmetric, rfl⟩ := mem_functionsOf.mp hfunction
  have hown := mem_metrics_partOf rule hmetric
  rw [partOf] at hown ⊢
  dsimp only at hown ⊢
  cases hmetrics : metrics.filter fun other => (rule other).function = (rule metric).function with
  | nil =>
      rw [hmetrics] at hown
      cases hown
  | cons head rest =>
      have hmem :=
        foldl_max_mem (rule head).precision (rest.map fun other => (rule other).precision)
      rw [← List.map_cons (f := fun other => (rule other).precision)] at hmem
      rw [List.map_cons, List.foldl_cons, zero_max]
      exact List.mem_map.mp hmem

/-- Resolving a group of distinct metrics splits them by their functions. -/
theorem splits_resolve {group : TargetGroup} (hnodup : group.metrics.Nodup) (frame : TimeFrame)
    (epoch : UInt32) :
    (resolve group frame epoch).Splits (ruleOf group frame epoch) group.metrics := by
  have hgroups := groups_resolve group frame epoch
  have hfunctions : (resolve group frame epoch).groups.map (·.function) =
      functionsOf (ruleOf group frame epoch) group.metrics := by
    rw [hgroups, List.map_map]
    exact List.map_id'' (fun _ => rfl) _
  refine ⟨rules_resolve group frame epoch, hfunctions, ?_, ?_, ?_, ?_, ?_⟩
  · rw [hfunctions]
    exact nodup_functionsOf _ _
  · rw [hgroups, List.flatMap_map]
    exact perm_flatMap_partOf _ _ hnodup
  · rw [hgroups, List.forall_mem_map]
    exact fun function _ => rfl
  · rw [hgroups, List.forall_mem_map]
    exact fun function hfunction => exists_step_partOf _ _ hfunction
  · rw [hgroups, List.forall_mem_map]
    exact fun function _ => le_step_partOf _ _ function

end Grouping

/-! ## Queries -/

namespace QueryPlan

variable {group : TargetGroup} {frame : TimeFrame} {epoch common : UInt32} {plan : QueryPlan}

theorem paths_pathTable (group : TargetGroup) (metrics : List String) :
    (pathTable group metrics).paths = metrics.map group.storagePath :=
  ExternalTable.paths_ofPaths _

/-- Raw points are asked for in one query for all metrics. -/
theorem queries_unaggregated (hmetrics : group.metrics ≠ []) (frame : TimeFrame) (epoch : UInt32) :
    ∃ query, (unaggregated group frame epoch).queries = [query] ∧
      query.external.paths = group.metrics.map group.storagePath := by
  rw [unaggregated]
  simp only [if_neg (mt Grouping.isEmpty_resolve_iff.mp hmetrics)]
  exact ⟨_, rfl, paths_pathTable group group.metrics⟩

/-- What a query asks for on behalf of the metrics of one function. -/
structure AsksFor (group : TargetGroup) (plan : QueryPlan) (part : FunctionGroup)
    (query : StorageQuery) : Prop where
  function_eq : query.function = some part.function
  text_eq : query.text =
    aggregatedText group.table part.function plan.step plan.start plan.stop
  paths_eq : query.external.paths = part.metrics.map group.storagePath

theorem queries_aggregated (hplan : aggregated group frame epoch common = .ok plan) :
    plan.queries = (Grouping.resolve group frame epoch).groups.map
      (functionQuery group plan.step plan.start plan.stop) := by
  rw [aggregated, aggregatedWith] at hplan
  split at hplan
  next hnone =>
    cases hplan
    rw [Grouping.resolve_of_empty frame epoch (Grouping.isEmpty_resolve_iff.mp hnone)]
    rfl
  next =>
    split at hplan
    next =>
      cases hplan
      rfl
    next =>
      cases hstep : (Grouping.resolve group frame epoch).contribution with
      | error error =>
          rw [hstep] at hplan
          cases hplan
      | ok step =>
          rw [hstep] at hplan
          cases hplan
          rfl

/-- There is one query for each part of the grouping, which asks for it. -/
theorem asksFor_queries (hplan : aggregated group frame epoch common = .ok plan) :
    List.Forall₂ (AsksFor group plan) (Grouping.resolve group frame epoch).groups plan.queries := by
  rw [queries_aggregated hplan, List.forall₂_map_right_iff, List.forall₂_same]
  exact fun part _ => ⟨rfl, rfl, paths_pathTable group part.metrics⟩

/-- The path of a metric is listed in one query, and there once. -/
theorem count_paths (hnodup : group.metrics.Nodup)
    (hplan : aggregated group frame epoch common = .ok plan) {metric : String}
    (hmetric : metric ∈ group.metrics) :
    (plan.queries.flatMap (·.external.paths)).count (group.storagePath metric) = 1 := by
  have hpaths : plan.queries.flatMap (·.external.paths) =
      ((Grouping.resolve group frame epoch).groups.flatMap (·.metrics)).map group.storagePath := by
    rw [queries_aggregated hplan, List.flatMap_map, List.map_flatMap]
    exact List.flatMap_congr fun part _ => paths_pathTable group part.metrics
  have hperm := (Grouping.splits_resolve hnodup frame epoch).perm_metrics.map group.storagePath
  rw [hpaths, hperm.count_eq]
  apply List.count_eq_one_of_mem
  · exact hnodup.map fun _ _ => group.storagePath_inj
  · exact List.mem_map_of_mem hmetric

/-- A group lists every metric that was pushed once, in the order of the first pushes.
Resolving it splits the metrics by their functions; raw points are asked for in one
query that lists all their storage paths in order, and aggregated ones in one query
for each function that lists the paths of its metrics, so that the path of every
metric is listed once in all. Nothing is asked for on behalf of no metrics. -/
theorem asks_for_each_once {pushed : List (String × Alias)} (h : group.BuiltFrom pushed)
    (frame : TimeFrame) (epoch : UInt32) :
    let metrics := (pushed.map (·.1)).eraseDups
    let grouping := Grouping.resolve group frame epoch
    metrics.Nodup ∧ (metrics.map group.storagePath).Nodup ∧
      grouping.Splits (fun metric => group.rules.lookup (group.ruleName metric) (frame.age epoch))
        metrics ∧
      (metrics ≠ [] → ∃ query, (unaggregated group frame epoch).queries = [query] ∧
        query.external.paths = metrics.map group.storagePath) ∧
      (∀ common plan, aggregated group frame epoch common = .ok plan →
        List.Forall₂ (AsksFor group plan) grouping.groups plan.queries ∧
        ∀ metric ∈ metrics,
          (plan.queries.flatMap (·.external.paths)).count (group.storagePath metric) = 1) ∧
      (metrics = [] → (unaggregated group frame epoch).queries = [] ∧
        ∀ common, ∃ plan, aggregated group frame epoch common = .ok plan ∧ plan.queries = []) := by
  intro metrics grouping
  have hmetrics : group.metrics = metrics := h.metrics_eq
  have hnodup := h.nodup
  rw [← hmetrics]
  refine ⟨hnodup, hnodup.map fun _ _ => group.storagePath_inj,
    Grouping.splits_resolve hnodup frame epoch, ?_, ?_, ?_⟩
  · exact fun hsome => queries_unaggregated hsome frame epoch
  · intro common plan hplan
    exact ⟨asksFor_queries hplan, fun metric hmetric => count_paths hnodup hplan hmetric⟩
  · intro hnone
    have hraw : PlanOf .unaggregated epoch frame group (unaggregated group frame epoch) := rfl
    refine ⟨queries_of_empty hraw hnone, fun common => ⟨empty .aggregated frame, ?_, rfl⟩⟩
    rw [aggregated, aggregatedWith, if_pos (Grouping.isEmpty_resolve_iff.mpr hnone)]

/-- A metric that is pushed twice, into a group whose table is reversed afterwards. -/
theorem asks_for_each_once_of_repeated_push :
    let group := (((TargetGroup.new "points" .standard).push "a.b" "a.b" "a.*").push "a.c" "a.c"
      "a.*").push "a.b" "renamed" "a.b" |>.reversed true
    let frame : TimeFrame := ⟨60, 600, 0⟩
    let pushed : List (String × Alias) :=
      [("a.b", ⟨"a.b", "a.*"⟩), ("a.c", ⟨"a.c", "a.*"⟩), ("a.b", ⟨"renamed", "a.b"⟩)]
    group.BuiltFrom pushed ∧
      (∃ query, (unaggregated group frame 600).queries = [query] ∧
        query.external.paths = ["b.a", "c.a"]) ∧
      ∃ plan, aggregated group frame 600 0 = .ok plan ∧
        (plan.queries.flatMap (·.external.paths)).count "b.a" = 1 := by
  intro group frame pushed
  have hbuilt : group.BuiltFrom pushed :=
    .set (.push (.push (.push (.new "points" .standard) "a.b" "a.b" "a.*") "a.c" "a.c" "a.*") "a.b"
      "renamed" "a.b") "points" true true .standard
  obtain ⟨-, -, -, hraw, haggregated, -⟩ := asks_for_each_once hbuilt frame 600
  have hpaths : (((pushed.map (·.1)).eraseDups).map group.storagePath) = ["b.a", "c.a"] := by
    decide +kernel
  refine ⟨hbuilt, ?_, ?_⟩
  · rw [← hpaths]
    exact hraw (by decide +kernel)
  · obtain ⟨plan, hplan⟩ : ∃ plan, aggregated group frame 600 0 = .ok plan := ⟨_, rfl⟩
    exact ⟨plan, hplan, (haggregated 0 plan hplan).2 "a.b" (by decide +kernel)⟩

end QueryPlan

end SeriesGateway.Plan
