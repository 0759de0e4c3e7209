import SeriesGateway.Proofs.Plan.Asking
import SeriesGateway.Proofs.Plan.Bounds
import SeriesGateway.Proofs.Step.Agreement

/-! # What a group contributes

Which precisions and functions the rules give the metrics of a group decides what it
reports to the barrier. In which order the metrics come, and how many of them have the
same rules, only decides in which order the steps are folded, and the common multiple
of steps does not depend on their order, nor does whether it fits.
-/

namespace SeriesGateway

namespace Step

instance lawfulOrderMax : Std.LawfulOrderMax UInt32 where
  max_eq_or a b := by
    simp only [← UInt32.toNat_inj, UInt32.toNat_max]
    omega
  max_le_iff a b c := by
    simp only [UInt32.le_iff_toNat_le, UInt32.toNat_max]
    omega

/-- Both are the same step, or both report that none fits. -/
inductive SameContribution : Except StepError UInt32 → Except StepError UInt32 → Prop
  | fits (step : UInt32) : SameContribution (.ok step) (.ok step)
  | overflows (a b c d : UInt32) :
    SameContribution (.error (.overflow a b)) (.error (.overflow c d))

namespace IsCommonStep

variable {steps : List UInt32} {answer other : Except StepError UInt32}

theorem eq_ok_iff (h : IsCommonStep steps answer) {step : UInt32} :
    answer = .ok step ↔ step.toNat = commonMultiple steps := by
  cases answer with
  | ok found =>
      have hfound : found.toNat = commonMultiple steps := h
      rw [Except.ok.injEq, ← hfound, UInt32.toNat_inj, eq_comm]
  | error error =>
      refine ⟨nofun, fun hstep => ?_⟩
      exact absurd (hstep ▸ h.1) (Nat.not_le.mpr step.toNat_lt_size)

theorem exists_overflow_iff (h : IsCommonStep steps answer) :
    (∃ a b, answer = .error (.overflow a b)) ↔ UInt32.size ≤ commonMultiple steps := by
  cases answer with
  | ok found =>
      have hfound : found.toNat = commonMultiple steps := h
      simp [← hfound, found.toNat_lt_size]
  | error error =>
      obtain ⟨hlarge, a, b, rfl⟩ := h
      exact ⟨fun _ => hlarge, fun _ => ⟨a, b, rfl⟩⟩

/-- Steps call for one answer, up to which step was the last that fitted. -/
theorem same (h : IsCommonStep steps answer) (hother : IsCommonStep steps other) :
    SameContribution answer other := by
  cases answer with
  | ok step =>
      rw [hother.eq_ok_iff.mpr h]
      exact .fits step
  | error error =>
      obtain ⟨hlarge, a, b, rfl⟩ := h
      obtain ⟨c, d, rfl⟩ := hother.exists_overflow_iff.mpr hlarge
      exact .overflows a b c d

end IsCommonStep

/-- Where no step is zero, the common multiple is the one of all steps. -/
theorem commonMultiple_of_ne_nil {steps : List UInt32} (hsome : steps ≠ [])
    (hsteps : ∀ step ∈ steps, step ≠ 0) :
    commonMultiple steps = (steps.map (·.toNat)).foldr Nat.lcm 1 := by
  have hall : (steps.map (·.toNat)).filter (· ≠ 0) = steps.map (·.toNat) := by
    rw [List.filter_eq_self, List.forall_mem_map]
    exact fun step hstep => decide_eq_true (Nat.ne_of_gt (toNat_pos_of_ne_zero (hsteps step hstep)))
  rw [commonMultiple, hall]
  cases steps with
  | nil => exact absurd rfl hsome
  | cons step rest => rfl

end Step

/-- The largest precision among metrics is one that bounds all of them. -/
theorem RuleSet.maxPrecision_eq {rules : RuleSet} {metrics : List String} {age : UInt32}
    {metric : String} (hmetric : metric ∈ metrics)
    (hle : ∀ other ∈ metrics, rules.lookupPrecision other age ≤ rules.lookupPrecision metric age) :
    rules.maxPrecision metrics age = rules.lookupPrecision metric age := by
  have hmax : (metrics.map fun metric => rules.lookupPrecision metric age).max? =
      some (rules.lookupPrecision metric age) :=
    List.max?_eq_some_iff.mpr ⟨List.mem_map_of_mem hmetric, List.forall_mem_map.mpr hle⟩
  rw [maxPrecision, hmax, Option.getD_some]

namespace Plan.Grouping

open Step (IsCommonStep SameContribution commonMultiple)

/-! ## Steps of the same rules -/

section SameRules

variable {rule other : String → RuleMatch} {metrics others : List String}

/-- The step of a function is bounded by that of more rules. -/
theorem step_partOf_le (hrules : metrics.map rule ⊆ others.map other) (function : Aggregation) :
    (partOf rule metrics function).step ≤ (partOf other others function).step := by
  have hstep : (partOf rule metrics function).step ∈
      0 :: (partOf rule metrics function).metrics.map fun metric => (rule metric).precision :=
    foldl_max_mem 0 _
  rcases List.mem_cons.mp hstep with hnone | hsome
  · rw [hnone]
    exact UInt32.zero_le
  · obtain ⟨metric, hmetric, hprecision⟩ := List.mem_map.mp hsome
    obtain ⟨hmetric, hfunction⟩ := List.mem_filter.mp hmetric
    obtain ⟨found, hfound, hsame⟩ := List.mem_map.mp (hrules (List.mem_map_of_mem hmetric))
    rw [← hprecision, ← hsame]
    apply le_step_partOf
    exact List.mem_filter.mpr ⟨hfound, by rw [hsame]; exact hfunction⟩

theorem functionsOf_subset (hrules : metrics.map rule ⊆ others.map other) :
    functionsOf rule metrics ⊆ functionsOf other others := by
  intro function hfunction
  obtain ⟨metric, hmetric, rfl⟩ := mem_functionsOf.mp hfunction
  obtain ⟨found, hfound, hsame⟩ := List.mem_map.mp (hrules (List.mem_map_of_mem hmetric))
  exact mem_functionsOf.mpr ⟨found, hfound, congrArg RuleMatch.function hsame⟩

/-- Metrics with the same rules need the same steps, in some order. -/
theorem perm_map_step_partOf (hrules : metrics.map rule ⊆ others.map other)
    (hback : others.map other ⊆ metrics.map rule) :
    ((functionsOf rule metrics).map fun function => (partOf rule metrics function).step).Perm
      ((functionsOf other others).map fun function => (partOf other others function).step) := by
  have hfunctions : (functionsOf rule metrics).Perm (functionsOf other others) :=
    (List.perm_ext_iff_of_nodup (nodup_functionsOf _ _) (nodup_functionsOf _ _)).mpr fun function =>
      ⟨fun h => functionsOf_subset hrules h, fun h => functionsOf_subset hback h⟩
  have hsteps : (fun function => (partOf rule metrics function).step) =
      fun function => (partOf other others function).step :=
    funext fun function =>
      UInt32.le_antisymm (step_partOf_le hrules function) (step_partOf_le hback function)
  rw [hsteps]
  exact hfunctions.map _

end SameRules

/-! ## Groups -/

variable {group other : TargetGroup} {frame otherFrame : TimeFrame} {epoch otherEpoch : UInt32}

theorem map_step_groups_resolve (group : TargetGroup) (frame : TimeFrame) (epoch : UInt32) :
    (resolve group frame epoch).groups.map (·.step) =
      (functionsOf (ruleOf group frame epoch) group.metrics).map fun function =>
        (partOf (ruleOf group frame epoch) group.metrics function).step := by
  rw [groups_resolve, List.map_map]
  rfl

theorem map_snd_rules_resolve (group : TargetGroup) (frame : TimeFrame) (epoch : UInt32) :
    (resolve group frame epoch).rules.map (·.2) = group.metrics.map (ruleOf group frame epoch) := by
  rw [rules_resolve, List.map_map]
  rfl

/-- Groups whose metrics have the same rules contribute the same. -/
theorem sameContribution_of_rules
    (hrules : ∀ rule, rule ∈ (resolve group frame epoch).rules.map (·.2) ↔
      rule ∈ (resolve other otherFrame otherEpoch).rules.map (·.2)) :
    SameContribution (resolve group frame epoch).contribution
      (resolve other otherFrame otherEpoch).contribution := by
  simp only [map_snd_rules_resolve] at hrules
  have hperm := perm_map_step_partOf (fun rule => (hrules rule).mp) (fun rule => (hrules rule).mpr)
  rw [← map_step_groups_resolve, ← map_step_groups_resolve] at hperm
  exact (Step.isCommonStep_contribution _).same
    ((Step.isCommonStep_perm hperm _).mpr (Step.isCommonStep_contribution _))

/-- The largest step of a group with metrics is the precision of one of them. -/
theorem exists_precision_eq_maxStep (hmetrics : group.metrics ≠ []) :
    ∃ metric ∈ group.metrics,
      (ruleOf group frame epoch metric).precision = (resolve group frame epoch).maxStep := by
  obtain ⟨part, hpart, hstep⟩ : ∃ part ∈ (resolve group frame epoch).groups,
      part.step = (resolve group frame epoch).maxStep := by
    have hsteps : (resolve group frame epoch).groups.map (·.step) ≠ [] :=
      mt List.map_eq_nil_iff.mp (groups_resolve_ne_nil frame epoch hmetrics)
    obtain ⟨largest, hlargest⟩ := Option.ne_none_iff_exists'.mp (mt List.max?_eq_none_iff.mp hsteps)
    obtain ⟨part, hpart, rfl⟩ := List.mem_map.mp (List.max?_mem hlargest)
    have hone : 1 ≤ part.step.toNat :=
      Step.toNat_pos_of_ne_zero (step_ne_zero_of_mem_groups hpart)
    refine ⟨part, hpart, ?_⟩
    rw [maxStep, hlargest, Option.getD_some, ← UInt32.toNat_inj, UInt32.toNat_max]
    exact (Nat.max_eq_left hone).symm
  rw [groups_resolve] at hpart
  obtain ⟨function, hfunction, rfl⟩ := List.mem_map.mp hpart
  obtain ⟨metric, hmetric, hprecision⟩ := exists_step_partOf _ _ hfunction
  exact ⟨metric, List.mem_of_mem_filter hmetric, hprecision.trans hstep⟩

theorem maxStep_eq_maxPrecision (hmetrics : group.metrics ≠ []) :
    (resolve group frame epoch).maxStep =
      group.rules.maxPrecision (group.metrics.map group.ruleName) (frame.age epoch) := by
  obtain ⟨metric, hmetric, hprecision⟩ := @exists_precision_eq_maxStep group frame epoch hmetrics
  rw [RuleSet.maxPrecision_eq (List.mem_map_of_mem hmetric)]
  · exact hprecision.symm
  · rw [List.forall_mem_map]
    intro other hother
    have hle := @precision_le_maxStep group frame epoch other hother
    rw [← hprecision] at hle
    exact UInt32.le_iff_toNat_le.mpr hle

/-- The least common multiple of all steps that a group needs, or zero if it needs none. -/
theorem commonMultiple_resolve (group : TargetGroup) (frame : TimeFrame) (epoch : UInt32) :
    commonMultiple ((resolve group frame epoch).groups.map (·.step)) =
      if group.metrics = [] then 0
      else ((resolve group frame epoch).groups.map (·.step.toNat)).foldr Nat.lcm 1 := by
  split
  next hempty =>
    rw [resolve_of_empty frame epoch hempty]
    rfl
  next hmetrics =>
    rw [Step.commonMultiple_of_ne_nil, List.map_map]
    · rfl
    · exact mt List.map_eq_nil_iff.mp (groups_resolve_ne_nil frame epoch hmetrics)
    · exact List.forall_mem_map.mpr fun part hpart => step_ne_zero_of_mem_groups hpart

/-- What a group contributes is decided by the precisions and functions of its metrics.

* Groups whose metrics have the same rules, whatever the metrics are, contribute the same
  step or overflow together; so does a group with its metrics in another order.
* The contribution is the least common multiple of the steps of the functions, which all
  of them divide, if that fits, and zero without metrics. It overflows if it does not fit.
* The largest step is the largest precision that the rules give any metric. -/
theorem contribution_decided_by_rules (group : TargetGroup) (frame : TimeFrame)
    (epoch : UInt32) :
    let grouping := resolve group frame epoch
    let multiple := if group.metrics = [] then 0
      else (grouping.groups.map (·.step.toNat)).foldr Nat.lcm 1
    (∀ other otherFrame otherEpoch,
      (∀ rule, rule ∈ grouping.rules.map (·.2) ↔
        rule ∈ (resolve other otherFrame otherEpoch).rules.map (·.2)) →
      SameContribution grouping.contribution
        (resolve other otherFrame otherEpoch).contribution) ∧
    (∀ metrics, metrics.Perm group.metrics →
      SameContribution grouping.contribution
        (resolve { group with metrics } frame epoch).contribution) ∧
    (∀ step, grouping.contribution = .ok step ↔ step.toNat = multiple) ∧
    ((∃ step other, grouping.contribution = .error (.overflow step other)) ↔
      UInt32.size ≤ multiple) ∧
    (∀ part ∈ grouping.groups, part.step ≠ 0 ∧ part.step.toNat ∣ multiple) ∧
    (group.metrics ≠ [] → grouping.maxStep =
      group.rules.maxPrecision (group.metrics.map group.ruleName) (frame.age epoch)) := by
  intro grouping multiple
  have hcontribution := Step.isCommonStep_contribution grouping
  have hmultiple : commonMultiple (grouping.groups.map (·.step)) = multiple :=
    commonMultiple_resolve group frame epoch
  refine ⟨fun other otherFrame otherEpoch => sameContribution_of_rules, ?_, ?_, ?_, ?_,
    maxStep_eq_maxPrecision⟩
  · intro metrics hperm
    apply sameContribution_of_rules
    intro rule
    rw [map_snd_rules_resolve, map_snd_rules_resolve]
    exact (hperm.map (ruleOf group frame epoch)).mem_iff.symm
  · intro step
    rw [hcontribution.eq_ok_iff, hmultiple]
  · rw [hcontribution.exists_overflow_iff, hmultiple]
  · intro part hpart
    have hstep := step_ne_zero_of_mem_groups hpart
    exact ⟨hstep, hmultiple ▸ Step.dvd_commonMultiple (List.mem_map_of_mem hpart) hstep⟩

/-- Where steps overflow, their order shows only in what is reported about it. -/
example :
    foldSteps 0 [65521, 65519, 65497] = .error (.overflow 4292870399 65497) ∧
      foldSteps 0 [65497, 65519, 65521] = .error (.overflow 4291297943 65521) := by
  decide +kernel

end Plan.Grouping

end SeriesGateway
