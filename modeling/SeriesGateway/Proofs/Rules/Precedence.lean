import SeriesGateway.Proofs.Rules.Lookup
import SeriesGateway.Proofs.Search

/-! # Which pattern decides

One scan over the patterns of a rule set resolves precision and function
together. It finds what two searches find that do not know of each other: one for
the first pattern that has a step for the age, and one for the first pattern that
names a function.
-/

namespace SeriesGateway

/-! ## Ladders -/

namespace RetentionPattern

variable (pattern : RetentionPattern) (age : UInt32)

/-- A step is in force at an age that reaches it and no later step. -/
structure InForce (step : Retention) : Prop where
  mem : step ∈ pattern.ladder
  reached : step.age ≤ age
  latest : ∀ other ∈ pattern.ladder, other.age ≤ age → other ≠ step → other.age < step.age

/-- The steps that an age reaches, in ascending order. -/
def reached : List Retention := pattern.ladder.filter fun step => step.age ≤ age

/-- Halving finds the last step that was reached, as those that were not follow
those that were. -/
theorem precisionAt_eq :
    pattern.precisionAt age = (pattern.reached age).getLast?.map (·.precision) := by
  have hbeginning : pattern.ladder.Pairwise fun a b =>
      decide (b.age ≤ age) = true → decide (a.age ≤ age) = true := by
    apply pattern.ascending.imp
    intro a b hlt hreached
    rw [decide_eq_true_eq] at hreached ⊢
    exact UInt32.le_trans (UInt32.le_of_lt hlt) hreached
  have hprefix : pattern.reached age <+: pattern.ladder := by
    rw [reached, ← takeWhile_eq_filter hbeginning]
    exact List.takeWhile_prefix _
  rw [precisionAt, Search.bisect_eq hbeginning, takeWhile_eq_filter hbeginning, ← reached]
  cases hcount : (pattern.reached age).length with
  | zero =>
      rw [List.length_eq_zero_iff.mp hcount]
      rfl
  | succ before =>
      have hfound : pattern.ladder[before]? = (pattern.reached age)[before]? := by
        obtain ⟨rest, hladder⟩ := hprefix
        rw [← hladder, List.getElem?_append_left (by omega)]
      rw [List.getLast?_eq_getElem?, hcount, Nat.add_sub_cancel, ← hfound]

/-- The last step that was reached is in force. -/
theorem inForce_of_getLast? {step : Retention}
    (hlast : (pattern.reached age).getLast? = some step) :
    pattern.InForce age step := by
  obtain ⟨earlier, hreached⟩ := List.getLast?_eq_some_iff.mp hlast
  have hmem : step ∈ pattern.reached age := List.mem_of_getLast? hlast
  obtain ⟨hladder, hage⟩ := List.mem_filter.mp hmem
  refine ⟨hladder, by simpa using hage, ?_⟩
  intro other hother hotherAge hne
  have hascending : (pattern.reached age).Pairwise fun a b => a.age < b.age :=
    pattern.ascending.filter _
  have hotherMem : other ∈ pattern.reached age :=
    List.mem_filter.mpr ⟨hother, by simpa using hotherAge⟩
  rw [hreached] at hascending hotherMem
  have hearlier : other ∈ earlier := by simpa [hne] using hotherMem
  exact (List.pairwise_append.mp hascending).2.2 other hearlier step (by simp)

/-- The pattern applies to a metric and has a step for an age. -/
def givesPrecision (metric : String) : Bool :=
  pattern.appliesTo metric && pattern.ladder.any fun step => step.age ≤ age

/-- The pattern applies to a metric and names a function. -/
def givesFunction (metric : String) : Bool :=
  pattern.appliesTo metric && pattern.function.isSome

theorem isSome_precisionAt :
    (pattern.precisionAt age).isSome = pattern.ladder.any fun step => step.age ≤ age := by
  rw [precisionAt_eq, Option.isSome_map, Bool.eq_iff_iff, List.getLast?_isSome, reached, Ne,
    List.filter_eq_nil_iff, List.any_eq_true]
  simp

theorem exists_inForce {precision : UInt32} (h : pattern.precisionAt age = some precision) :
    ∃ step, pattern.InForce age step ∧ precision = step.precision := by
  rw [precisionAt_eq, Option.map_eq_some_iff] at h
  obtain ⟨step, hlast, rfl⟩ := h
  exact ⟨step, pattern.inForce_of_getLast? age hlast, rfl⟩

end RetentionPattern

/-! ## The scan -/

namespace RuleSet

variable (metric : String) (age : UInt32)

/-- The precision that the first pattern which gives one decides for a metric. -/
def firstPrecision (patterns : List RetentionPattern) : Option UInt32 :=
  (patterns.find? (·.givesPrecision age metric)).bind (·.precisionAt age)

def firstFunction (patterns : List RetentionPattern) : Option Aggregation :=
  (patterns.find? (·.givesFunction metric)).bind (·.function)

theorem firstPrecision_cons (pattern : RetentionPattern) (rest : List RetentionPattern) :
    firstPrecision metric age (pattern :: rest) =
      (if pattern.appliesTo metric then pattern.precisionAt age else none).or
        (firstPrecision metric age rest) := by
  have hgives := pattern.isSome_precisionAt age
  by_cases happlies : pattern.appliesTo metric = true
  · cases hprecision : pattern.precisionAt age with
    | none =>
        rw [hprecision] at hgives
        simp [firstPrecision, RetentionPattern.givesPrecision, happlies, ← hgives]
    | some precision =>
        rw [hprecision] at hgives
        simp [firstPrecision, RetentionPattern.givesPrecision, happlies, ← hgives, hprecision]
  · simp [firstPrecision, RetentionPattern.givesPrecision, happlies]

theorem firstFunction_cons (pattern : RetentionPattern) (rest : List RetentionPattern) :
    firstFunction metric (pattern :: rest) =
      (if pattern.appliesTo metric then pattern.function else none).or
        (firstFunction metric rest) := by
  by_cases happlies : pattern.appliesTo metric = true
  · cases hfunction : pattern.function with
    | none => simp [firstFunction, RetentionPattern.givesFunction, happlies, hfunction]
    | some function => simp [firstFunction, RetentionPattern.givesFunction, happlies, hfunction]
  · simp [firstFunction, RetentionPattern.givesFunction, happlies]

/-- Scanning completes the halves that are known by what the two searches find. -/
theorem resolve_eq (patterns : List RetentionPattern) (precision : Option UInt32)
    (function : Option Aggregation) :
    resolve metric age patterns precision function =
      (precision.or (firstPrecision metric age patterns),
        function.or (firstFunction metric patterns)) := by
  fun_induction resolve metric age patterns precision function with
  | case1 precision function => simp [firstPrecision, firstFunction]
  | case2 pattern rest precision function hknown =>
      -- halves that are known stay as they are
      obtain ⟨hprecision, hfunction⟩ := Bool.and_eq_true_iff.mp hknown
      obtain ⟨precision, rfl⟩ := Option.isSome_iff_exists.mp hprecision
      obtain ⟨function, rfl⟩ := Option.isSome_iff_exists.mp hfunction
      rfl
  | case3 pattern rest precision function _ happlies ih =>
      rw [ih, firstPrecision_cons, firstFunction_cons, if_pos happlies, if_pos happlies,
        Option.or_assoc, Option.or_assoc]
  | case4 pattern rest precision function _ happlies ih =>
      rw [ih, firstPrecision_cons, firstFunction_cons, if_neg happlies, if_neg happlies,
        Option.none_or, Option.none_or]

variable (rules : RuleSet)

theorem lookup_eq :
    rules.lookup metric age =
      ⟨(firstPrecision metric age rules.patterns).getD rules.defaultPrecision,
        (firstFunction metric rules.patterns).getD rules.defaultFunction⟩ := by
  rw [lookup, resolve_eq]
  rfl

/-- A function that is found does not depend on the age it is looked up with. -/
theorem function_lookup : (rules.lookup metric age).function = rules.lookupFunction metric := by
  rw [lookupFunction, lookup_eq, lookup_eq]

variable {metric age}

/-! ## Patterns without influence -/

/-- Behind patterns that decide both halves nothing is looked at. -/
theorem lookup_of_resolved {before : List RetentionPattern} (behind others : List RetentionPattern)
    (hprecision : before.any (·.givesPrecision age metric) = true)
    (hfunction : before.any (·.givesFunction metric) = true) :
    { rules with patterns := before ++ behind }.lookup metric age =
      { rules with patterns := before ++ others }.lookup metric age := by
  have hfind {gives : RetentionPattern → Bool} (hany : before.any gives = true)
      (rest : List RetentionPattern) : (before ++ rest).find? gives = before.find? gives := by
    rw [List.find?_append, Option.or_of_isSome]
    rw [List.find?_isSome, ← List.any_eq_true]
    exact hany
  rw [lookup_eq, lookup_eq, firstPrecision, firstPrecision, firstFunction, firstFunction,
    hfind hprecision, hfind hprecision, hfind hfunction, hfind hfunction]

/-- A pattern that does not apply is passed over. -/
theorem lookup_of_not_appliesTo {pattern : RetentionPattern} (before behind : List RetentionPattern)
    (hother : pattern.appliesTo metric = false) :
    { rules with patterns := before ++ pattern :: behind }.lookup metric age =
      { rules with patterns := before ++ behind }.lookup metric age := by
  have hfind {gives : RetentionPattern → Bool} (hnone : gives pattern = false) :
      (before ++ pattern :: behind).find? gives = (before ++ behind).find? gives := by
    rw [List.find?_append, List.find?_append, List.find?_cons_of_neg (by simp [hnone])]
  have hprecision : pattern.givesPrecision age metric = false := by
    rw [RetentionPattern.givesPrecision, hother, Bool.false_and]
  have hfunction : pattern.givesFunction metric = false := by
    rw [RetentionPattern.givesFunction, hother, Bool.false_and]
  rw [lookup_eq, lookup_eq, firstPrecision, firstPrecision, firstFunction, firstFunction,
    hfind hprecision, hfind hfunction]

/-! ## The first pattern decides -/

theorem precision_lookup (metric : String) (age : UInt32) :
    match rules.patterns.find? (·.givesPrecision age metric) with
    | some pattern => ∃ step, pattern.InForce age step ∧
        (rules.lookup metric age).precision = step.precision
    | none => (rules.lookup metric age).precision = rules.defaultPrecision := by
  rw [lookup_eq, firstPrecision]
  cases hfind : rules.patterns.find? (·.givesPrecision age metric) with
  | none => rfl
  | some pattern =>
      have hgives := List.find?_some hfind
      rw [RetentionPattern.givesPrecision, Bool.and_eq_true_iff, ← pattern.isSome_precisionAt,
        Option.isSome_iff_exists] at hgives
      obtain ⟨-, precision, hprecision⟩ := hgives
      simpa [hprecision] using pattern.exists_inForce age hprecision

theorem function_lookup_decided (metric : String) (age : UInt32) :
    match rules.patterns.find? (·.givesFunction metric) with
    | some pattern => pattern.function = some (rules.lookup metric age).function
    | none => (rules.lookup metric age).function = rules.defaultFunction := by
  rw [lookup_eq, firstFunction]
  cases hfind : rules.patterns.find? (·.givesFunction metric) with
  | none => rfl
  | some pattern =>
      have hgives := List.find?_some hfind
      rw [RetentionPattern.givesFunction, Bool.and_eq_true_iff, Option.isSome_iff_exists] at hgives
      obtain ⟨-, function, hfunction⟩ := hgives
      simp [hfunction]

/-- The precision of a metric is that of the step in force in the first pattern that
applies and has a step for the age, and its function that of the first pattern that
applies and names one; what no pattern decides is the default. So the precision is
positive, the age has no part in the function, and neither a pattern behind those
that decide both nor one that does not apply has any influence. -/
theorem lookup_decided_by_first (metric : String) (age : UInt32) :
    (match rules.patterns.find? (·.givesPrecision age metric) with
      | some pattern => ∃ step, pattern.InForce age step ∧
          (rules.lookup metric age).precision = step.precision
      | none => (rules.lookup metric age).precision = rules.defaultPrecision) ∧
    (match rules.patterns.find? (·.givesFunction metric) with
      | some pattern => pattern.function = some (rules.lookup metric age).function
      | none => (rules.lookup metric age).function = rules.defaultFunction) ∧
    (rules.lookup metric age).precision ≠ 0 ∧
    (rules.lookup metric age).function = rules.lookupFunction metric ∧
    (∀ before behind others, rules.patterns = before ++ behind →
      before.any (·.givesPrecision age metric) = true →
      before.any (·.givesFunction metric) = true →
        { rules with patterns := before ++ others }.lookup metric age = rules.lookup metric age) ∧
    (∀ before pattern behind, rules.patterns = before ++ pattern :: behind →
      pattern.appliesTo metric = false →
        { rules with patterns := before ++ behind }.lookup metric age =
          rules.lookup metric age) := by
  refine ⟨rules.precision_lookup metric age, rules.function_lookup_decided metric age,
    rules.precision_lookup_ne_zero metric age, rules.function_lookup metric age, ?_, ?_⟩
  · intro before behind others hpatterns hprecision hfunction
    rw [← rules.lookup_of_resolved behind others hprecision hfunction, ← hpatterns]
  · intro before pattern behind hpatterns hother
    rw [← rules.lookup_of_not_appliesTo before behind hother, ← hpatterns]

/-- The first pattern names the function at any age, but leaves the precision of ages
that its ladder does not reach to the second one. -/
example :
    let first : RetentionPattern := ⟨none, some .max, [⟨3600, 300⟩], by simp, by simp⟩
    let second : RetentionPattern :=
      ⟨none, some .sum, [⟨0, 10⟩, ⟨7200, 600⟩], by simp, by decide⟩
    let rules : RuleSet := ⟨[first, second], 60, .average, by decide⟩
    rules.lookup "a" 60 = ⟨10, .max⟩ ∧ rules.lookup "a" 7200 = ⟨300, .max⟩ := by
  decide +kernel

end RuleSet

end SeriesGateway
