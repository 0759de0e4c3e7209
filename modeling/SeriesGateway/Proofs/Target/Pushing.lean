import SeriesGateway.Target

/-! # Pushed metrics

A group lists every metric that was pushed once, in the order of the first pushes,
and each of them under all the aliases that it was pushed with.
-/

namespace SeriesGateway.TargetGroup

/-- The groups that come from pushing metrics, each with an alias, one after the
other. Everything else about a group may be set at any time. -/
inductive BuiltFrom : List (String × Alias) → TargetGroup → Prop
  | new (table : String) (rules : RuleSet) : BuiltFrom [] (.new table rules)
  | push {pushed : List (String × Alias)} {group : TargetGroup} (h : BuiltFrom pushed group)
      (metric displayName target : String) :
      BuiltFrom (pushed ++ [(metric, ⟨displayName, target⟩)])
        (group.push metric displayName target)
  | set {pushed : List (String × Alias)} {group : TargetGroup} (h : BuiltFrom pushed group)
      (table : String) (isReversed matchReversedNames : Bool) (rules : RuleSet) :
      BuiltFrom pushed { group with table, isReversed, matchReversedNames, rules }

theorem lookup_addAlias (metric other : String) (new : Alias)
    (aliases : List (String × List Alias)) :
    ((addAlias metric new aliases).lookup other).getD [] =
      (aliases.lookup other).getD [] ++ if other = metric then [new] else [] := by
  induction aliases with
  | nil =>
      by_cases hsame : other = metric
      · simp [addAlias, hsame]
      · have hdiffer : (other == metric) = false := by simpa using hsame
        simp [addAlias, hsame, List.lookup_cons, hdiffer]
  | cons entry rest ih =>
      obtain ⟨name, known⟩ := entry
      rw [addAlias]
      by_cases hname : name = metric
      · rw [if_pos hname, List.lookup_cons, List.lookup_cons, hname]
        by_cases hsame : other = metric
        · simp [hsame]
        · have hdiffer : (other == metric) = false := by simpa using hsame
          simp [hsame, hdiffer]
      · rw [if_neg hname, List.lookup_cons, List.lookup_cons]
        by_cases hfirst : other = name
        · have hother : other ≠ metric := hfirst ▸ hname
          simp [hfirst, hname]
        · have hdiffer : (other == name) = false := by simpa using hfirst
          simpa [hdiffer] using ih

/-- An alias makes a metric known that was not. -/
theorem keys_addAlias (metric : String) (new : Alias) (aliases : List (String × List Alias)) :
    (addAlias metric new aliases).map (·.1) =
      if (aliases.lookup metric).isSome then aliases.map (·.1)
      else aliases.map (·.1) ++ [metric] := by
  induction aliases with
  | nil => rfl
  | cons entry rest ih =>
      obtain ⟨name, known⟩ := entry
      rw [addAlias, List.lookup_cons]
      by_cases hname : name = metric
      · simp [hname]
      · have hdiffer : (metric == name) = false := by simpa using Ne.symm hname
        rw [if_neg hname, hdiffer, List.map_cons, ih]
        split <;> rfl

theorem isSome_lookup_iff {metric : String} {aliases : List (String × List Alias)} :
    (aliases.lookup metric).isSome = true ↔ metric ∈ aliases.map (·.1) := by
  simp [List.lookup_isSome_iff]

variable {pushed : List (String × Alias)} {group : TargetGroup}

/-- The metrics that are listed are those that have aliases. -/
theorem BuiltFrom.keys_eq (h : BuiltFrom pushed group) :
    group.aliases.map (·.1) = group.metrics := by
  induction h with
  | new table rules => rfl
  | push h metric displayName target ih =>
      rw [TargetGroup.push, keys_addAlias, ih]
  | set h table isReversed matchReversedNames rules ih => exact ih

/-- Whether a metric has aliases already and whether it is listed already is the same. -/
theorem BuiltFrom.isSome_lookup_iff (h : BuiltFrom pushed group) (metric : String) :
    (group.aliases.lookup metric).isSome = true ↔ metric ∈ group.metrics := by
  rw [TargetGroup.isSome_lookup_iff, h.keys_eq]

/-- Each metric is listed once, where it was pushed first. -/
theorem BuiltFrom.metrics_eq (h : BuiltFrom pushed group) :
    group.metrics = (pushed.map (·.1)).eraseDups := by
  induction h with
  | new table rules => rfl
  | @push pushed group h metric displayName target ih =>
      have hknown : (group.aliases.lookup metric).isSome = true ↔ metric ∈ pushed.map (·.1) := by
        rw [h.isSome_lookup_iff, ih, List.mem_eraseDups]
      rw [TargetGroup.push, List.map_append, List.eraseDups_append, ← ih, List.removeAll,
        List.map_singleton]
      -- a metric that was pushed before is dropped on both sides
      by_cases hmem : metric ∈ pushed.map (·.1)
      · rw [List.filter_cons_of_neg (by simpa using hmem)]
        simp [hknown.mpr hmem]
      · rw [List.filter_cons_of_pos (by simpa using hmem)]
        simp [mt hknown.mp hmem, List.eraseDups_cons]
  | set h table isReversed matchReversedNames rules ih => exact ih

/-- A metric is shown under every alias that it was pushed with, in order. -/
theorem BuiltFrom.aliasesOf_eq (h : BuiltFrom pushed group) (metric : String) :
    group.aliasesOf metric = (pushed.filter (·.1 == metric)).map (·.2) := by
  induction h with
  | new table rules => rfl
  | push h other displayName target ih =>
      rw [aliasesOf] at ih ⊢
      rw [TargetGroup.push, lookup_addAlias, ih, List.filter_append, List.map_append,
        List.append_cancel_left_eq]
      by_cases hsame : other = metric
      · simp [hsame]
      · simp [hsame, Ne.symm hsame]
  | set h table isReversed matchReversedNames rules ih => exact ih

theorem BuiltFrom.nodup (h : BuiltFrom pushed group) : group.metrics.Nodup := by
  induction h with
  | new table rules => exact List.nodup_nil
  | @push pushed group h metric displayName target ih =>
      rw [TargetGroup.push]
      dsimp only
      split
      next => exact ih
      next hnew =>
        rw [(List.perm_append_singleton metric group.metrics).nodup_iff, List.nodup_cons]
        exact ⟨mt (h.isSome_lookup_iff metric).mpr hnew, ih⟩
  | set h table isReversed matchReversedNames rules ih => exact ih

end SeriesGateway.TargetGroup
