import Mathlib.Data.List.Forall2
import SeriesGateway.Plan.Grouping
import SeriesGateway.Proofs.Step.History

/-! # Agreement on a step

Participants that each report the common multiple of some steps, or that it does
not fit, agree on the common multiple of all of these steps. Partial multiples
never exceed the whole one, so whether there is an answer, and which, does not
depend on the order of the reports.
-/

namespace SeriesGateway.Step

/-- The answer that some steps call for: their common multiple if it fits, and an
overflow if it does not. -/
def IsCommonStep (steps : List UInt32) : Except StepError UInt32 → Prop
  | .ok step => step.toNat = commonMultiple steps
  | .error error => UInt32.size ≤ commonMultiple steps ∧ ∃ a b, error = .overflow a b

theorem isCommonStep_perm {first second : List UInt32} (hperm : first.Perm second)
    (answer : Except StepError UInt32) :
    IsCommonStep first answer ↔ IsCommonStep second answer := by
  cases answer <;> simp only [IsCommonStep, commonMultiple_perm hperm]

/-- Checked folding fails exactly if the common multiple of all steps does not
fit, whatever came before. -/
theorem isCommonStep_foldSteps {common : UInt32} {earlier : List UInt32}
    (hcommon : common.toNat = commonMultiple earlier) (steps : List UInt32) :
    IsCommonStep (earlier ++ steps) (Plan.Grouping.foldSteps common steps) := by
  induction steps generalizing common earlier with
  | nil => simpa [Plan.Grouping.foldSteps, IsCommonStep] using hcommon
  | cons step rest ih =>
      have hjoin : join common.toNat step.toNat = commonMultiple (earlier ++ [step]) := by
        rw [commonMultiple_append, hcommon, commonMultiple_cons, commonMultiple_nil, join_zero]
      rw [List.append_cons, Plan.Grouping.foldSteps, lcm?_eq, hjoin]
      by_cases hfits : commonMultiple (earlier ++ [step]) < UInt32.size
      · rw [if_pos hfits]
        exact ih (UInt32.toNat_ofNat_of_lt' hfits)
      · rw [if_neg hfits]
        have hlarge := commonMultiple_le_append (earlier ++ [step]) rest
        exact ⟨Nat.le_trans (Nat.le_of_not_lt hfits) hlarge, _, _, rfl⟩

/-- A target group reports what its steps call for. -/
theorem isCommonStep_contribution (grouping : Plan.Grouping) :
    IsCommonStep (grouping.groups.map (·.step)) grouping.contribution := by
  have hzero : (0 : UInt32).toNat = commonMultiple [] := rfl
  exact isCommonStep_foldSteps hzero (grouping.groups.map (·.step))

/-- Reports of participants, each of which needs some steps, fail together exactly
if the common multiple of all steps does not fit. -/
theorem firstFailure?_of_isCommonStep {folded earlier : List UInt32}
    (hfolded : commonMultiple folded = commonMultiple earlier)
    (hfits : commonMultiple earlier < UInt32.size) {reports : List Report}
    {needs : List (List UInt32)} (hreports : List.Forall₂ IsCommonStep needs reports) :
    match Barrier.firstFailure? folded reports with
    | some error => IsCommonStep (earlier ++ needs.flatten) (.error error)
    | none => commonMultiple (folded ++ Barrier.contributions reports) =
        commonMultiple (earlier ++ needs.flatten) ∧
      commonMultiple (earlier ++ needs.flatten) < UInt32.size := by
  induction hreports generalizing folded earlier with
  | nil => simpa [Barrier.firstFailure?, Barrier.contributions, hfolded] using hfits
  | @cons steps report needs reports hreport _ ih =>
      rw [List.flatten_cons, ← List.append_assoc]
      have hpart := commonMultiple_le_append (earlier ++ steps) needs.flatten
      cases report with
      | error error =>
          obtain ⟨hlarge, hoverflow⟩ := hreport
          have hsteps : commonMultiple steps ≤ commonMultiple (earlier ++ steps) := by
            rw [commonMultiple_perm List.perm_append_comm]
            exact commonMultiple_le_append steps earlier
          exact ⟨Nat.le_trans hlarge (Nat.le_trans hsteps hpart), hoverflow⟩
      | ok step =>
          have hnext : commonMultiple (folded ++ [step]) = commonMultiple (earlier ++ steps) := by
            rw [commonMultiple_append, commonMultiple_append, hfolded, commonMultiple_cons,
              commonMultiple_nil, join_zero, hreport]
          rw [Barrier.firstFailure?, hnext]
          by_cases hsmall : commonMultiple (earlier ++ steps) < UInt32.size
          · rw [if_pos hsmall]
            simpa [Barrier.contributions, Except.toOption] using ih hnext hsmall
          · rw [if_neg hsmall]
            exact ⟨Nat.le_trans (Nat.le_of_not_lt hsmall) hpart, _, _, rfl⟩

namespace Barrier

/-- When all have reported, everyone who asks is told the same. -/
theorem answer_of_isCommonStep {reports : List Report} {needs : List (List UInt32)}
    (hreports : List.Forall₂ IsCommonStep needs reports) (hfits : reports.length < UInt64.size) :
    ∃ common, IsCommonStep needs.flatten common ∧
      ∀ waited, (ofReports reports.length reports).answer true waited = common := by
  have hempty : commonMultiple [] < UInt32.size := by decide
  have hfirst := firstFailure?_of_isCommonStep (Eq.refl (commonMultiple [])) hempty hreports
  have hanswer := answer_ofReports (Nat.le_refl reports.length) hfits true
  rw [List.nil_append, List.nil_append] at hfirst
  cases hfailure : firstFailure? [] reports with
  | some error =>
      rw [hfailure] at hfirst hanswer
      exact ⟨.error error, hfirst, hanswer⟩
  | none =>
      rw [hfailure] at hfirst hanswer
      simp only [true_and, if_true] at hanswer
      refine ⟨.ok (ofReports reports.length reports).step, ?_, fun waited => ?_⟩
      · exact (step_ofReports _ hfailure).trans hfirst.1
      · obtain ⟨step, hok, hstep⟩ := hanswer waited
        rw [hok, ← UInt32.toNat_inj.mp (hstep.trans (step_ofReports _ hfailure).symm)]

end Barrier

end SeriesGateway.Step
