import SeriesGateway.Rules.RuleSet

/-! # Looked-up precisions

No ladder has a step of zero seconds, and neither has a rule set as its default,
so whatever a metric is called and however old the query, its precision is
positive.
-/

namespace SeriesGateway

theorem RetentionPattern.precisionAt_ne_zero (pattern : RetentionPattern) (age : UInt32) :
    ∀ precision ∈ pattern.precisionAt age, precision ≠ 0 := by
  intro precision hprecision
  rw [Option.mem_def, precisionAt] at hprecision
  split at hprecision
  next => cases hprecision
  next =>
    obtain ⟨step, hstep, rfl⟩ := Option.map_eq_some_iff.mp hprecision
    exact pattern.positive step (List.mem_of_getElem? hstep)

namespace RuleSet

/-- Scanning patterns finds no precision of zero. -/
theorem resolve_precision_ne_zero (metric : String) (age : UInt32)
    (patterns : List RetentionPattern) {precision : Option UInt32}
    (hprecision : ∀ value ∈ precision, value ≠ 0) (function : Option Aggregation) :
    ∀ value ∈ (resolve metric age patterns precision function).1, value ≠ 0 := by
  fun_induction resolve metric age patterns precision function with
  | case1 => exact hprecision
  | case2 => exact hprecision
  | case3 pattern rest precision function _ _ ih =>
      apply ih
      cases precision with
      | none => exact pattern.precisionAt_ne_zero age
      | some known => exact hprecision
  | case4 pattern rest precision function _ _ ih => exact ih hprecision

theorem precision_lookup_ne_zero (rules : RuleSet) (metric : String) (age : UInt32) :
    (rules.lookup metric age).precision ≠ 0 := by
  have hnone : ∀ value ∈ (none : Option UInt32), value ≠ 0 := nofun
  have hfound := resolve_precision_ne_zero metric age rules.patterns hnone none
  unfold lookup
  cases hprecision : (resolve metric age rules.patterns none none).1 with
  | none => simpa [hprecision] using rules.positive
  | some precision => simpa [hprecision] using hfound precision hprecision

end RuleSet

end SeriesGateway
