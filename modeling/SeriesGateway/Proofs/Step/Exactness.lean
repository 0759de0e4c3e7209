import Mathlib.Logic.Function.Iterate
import SeriesGateway.Proofs.Step.Agreement

/-! # Exact multiples

The loop that looks for a divisor ends and never divides by zero, because a remainder is
less than what it was divided by. The divisor that it finds divides, so a multiple is a
product without a remainder to lose, and the check of the product is one of the multiple
itself. Folded over steps it fails exactly if the multiple of all of them does not fit.
-/

namespace SeriesGateway.Step

/-! ## The divisor -/

/-- One turn of the loop that looks for a divisor. -/
def divisorTurn (pair : UInt32 × UInt32) : UInt32 × UInt32 := (pair.2, pair.1 % pair.2)

/-- The loop goes on as long as there is a number to divide by, and comes to the divisor. -/
theorem exists_turns_gcd (a b : UInt32) :
    ∃ turns, (∀ earlier < turns, (divisorTurn^[earlier] (a, b)).2 ≠ 0) ∧
      divisorTurn^[turns] (a, b) = (gcd a b, 0) := by
  fun_induction gcd a b with
  | case1 a => exact ⟨0, fun _ hlt => absurd hlt (Nat.not_lt_zero _), rfl⟩
  | case2 a b hb ih =>
      obtain ⟨turns, hgoesOn, hends⟩ := ih
      refine ⟨turns + 1, fun earlier hearlier => ?_, hends⟩
      cases earlier with
      | zero => exact hb
      | succ earlier => exact hgoesOn earlier (Nat.lt_of_succ_lt_succ hearlier)

theorem gcd_ne_zero {a : UInt32} (ha : a ≠ 0) (b : UInt32) : gcd a b ≠ 0 := by
  intro hzero
  have hgcd := toNat_gcd a b
  rw [hzero] at hgcd
  exact Nat.ne_of_gt (Nat.gcd_pos_of_pos_left _ (toNat_pos_of_ne_zero ha)) hgcd.symm

/-! ## The multiple of two steps -/

variable {a b multiple : UInt32}

theorem lcm?_eq_some_iff : lcm? a b = some multiple ↔ multiple.toNat = commonMultiple [a, b] := by
  rw [lcm?_eq, commonMultiple_cons, commonMultiple_cons, commonMultiple_nil, join_zero]
  split
  next hfits =>
    rw [Option.some.injEq, ← UInt32.toNat_inj, UInt32.toNat_ofNat_of_lt' hfits]
    exact eq_comm
  next hlarge =>
    refine iff_of_false nofun fun hsame => hlarge ?_
    rw [← hsame]
    exact multiple.toNat_lt_size

theorem lcm?_eq_none_iff : lcm? a b = none ↔ UInt32.size ≤ commonMultiple [a, b] := by
  rw [lcm?_eq, commonMultiple_cons, commonMultiple_cons, commonMultiple_nil, join_zero]
  split
  next hfits => exact iff_of_false nofun (Nat.not_le.mpr hfits)
  next hlarge => exact iff_of_true rfl (Nat.le_of_not_lt hlarge)

/-- What is multiplied has been divided without a remainder, and the product fits. -/
theorem toNat_of_lcm? (ha : a ≠ 0) (hb : b ≠ 0) (h : lcm? a b = some multiple) :
    multiple.toNat = (a / gcd a b).toNat * b.toNat := by
  have hmultiple := lcm?_eq_some_iff.mp h
  rwa [commonMultiple_cons, commonMultiple_cons, commonMultiple_nil, join_zero,
    join_of_pos (toNat_pos_of_ne_zero ha) (toNat_pos_of_ne_zero hb), ← toNat_quotient_mul]
    at hmultiple

/-! ## The multiple of any steps -/

theorem toOption_foldSteps (common : UInt32) (steps : List UInt32) :
    (Plan.Grouping.foldSteps common steps).toOption = steps.foldlM lcm? common := by
  induction steps generalizing common with
  | nil => rfl
  | cons step rest ih =>
      rw [Plan.Grouping.foldSteps, List.foldlM_cons]
      cases lcm? common step with
      | some folded => exact ih folded
      | none => rfl

theorem isCommonStep_foldSteps_zero (steps : List UInt32) :
    IsCommonStep steps (Plan.Grouping.foldSteps 0 steps) := by
  have hzero : (0 : UInt32).toNat = commonMultiple [] := rfl
  exact isCommonStep_foldSteps hzero steps

theorem foldlM_lcm?_eq_some_iff {steps : List UInt32} :
    steps.foldlM lcm? 0 = some multiple ↔ multiple.toNat = commonMultiple steps := by
  have hcommon := isCommonStep_foldSteps_zero steps
  rw [← toOption_foldSteps]
  cases hfolded : Plan.Grouping.foldSteps 0 steps with
  | ok folded =>
      rw [hfolded] at hcommon
      rw [← hcommon, UInt32.toNat_inj]
      exact Option.some_inj.trans eq_comm
  | error error =>
      rw [hfolded] at hcommon
      refine iff_of_false nofun fun hsame => Nat.not_le.mpr multiple.toNat_lt_size ?_
      rw [hsame]
      exact hcommon.1

theorem foldlM_lcm?_eq_none_iff {steps : List UInt32} :
    steps.foldlM lcm? 0 = none ↔ UInt32.size ≤ commonMultiple steps := by
  have hcommon := isCommonStep_foldSteps_zero steps
  rw [← toOption_foldSteps]
  cases hfolded : Plan.Grouping.foldSteps 0 steps with
  | ok folded =>
      rw [hfolded] at hcommon
      exact iff_of_false nofun (hcommon ▸ Nat.not_le.mpr folded.toNat_lt_size)
  | error error =>
      rw [hfolded] at hcommon
      exact iff_of_true rfl hcommon.1

/-- Steps that are the same but for their order and number come to the same. -/
theorem foldlM_lcm?_congr {steps others : List UInt32}
    (hsame : ∀ step, step ∈ steps ↔ step ∈ others) :
    steps.foldlM lcm? 0 = others.foldlM lcm? 0 := by
  apply Option.ext
  intro multiple
  rw [foldlM_lcm?_eq_some_iff, foldlM_lcm?_eq_some_iff, commonMultiple_congr hsame]

/-- Checked multiples are exact.

* The loop that looks for a divisor ends, never divides by zero, and comes to the greatest
  common divisor.
* The multiple of two steps that are not zero is an exact product: nothing is lost by the
  division, by a number that is not zero, and nothing by the multiplication.
* The multiple of two steps, and that of any steps as folded for a target group, is the
  least common multiple of those that are not zero if it fits, and there is none exactly if
  it does not fit.
* Steps that differ only in their order, or in how often each is there, have the same
  multiple, or neither has one. -/
theorem checked_multiples_exact :
    (∀ a b : UInt32,
      (∃ turns, (∀ earlier < turns, (divisorTurn^[earlier] (a, b)).2 ≠ 0) ∧
        divisorTurn^[turns] (a, b) = (gcd a b, 0)) ∧
      (gcd a b).toNat = Nat.gcd a.toNat b.toNat) ∧
    (∀ a b : UInt32, a ≠ 0 → b ≠ 0 →
      gcd a b ≠ 0 ∧ (a / gcd a b).toNat * (gcd a b).toNat = a.toNat ∧
      ∀ multiple, lcm? a b = some multiple →
        multiple.toNat = (a / gcd a b).toNat * b.toNat) ∧
    (∀ a b : UInt32,
      (∀ multiple, lcm? a b = some multiple ↔ multiple.toNat = commonMultiple [a, b]) ∧
      (lcm? a b = none ↔ UInt32.size ≤ commonMultiple [a, b])) ∧
    (∀ steps : List UInt32,
      (Plan.Grouping.foldSteps 0 steps).toOption = steps.foldlM lcm? 0 ∧
      (∀ multiple, steps.foldlM lcm? 0 = some multiple ↔
        multiple.toNat = commonMultiple steps) ∧
      (steps.foldlM lcm? 0 = none ↔ UInt32.size ≤ commonMultiple steps)) ∧
    ∀ steps others : List UInt32, (∀ step, step ∈ steps ↔ step ∈ others) →
      steps.foldlM lcm? 0 = others.foldlM lcm? 0 := by
  refine ⟨fun a b => ⟨exists_turns_gcd a b, toNat_gcd a b⟩, fun a b ha hb => ?_,
    fun a b => ⟨fun _ => lcm?_eq_some_iff, lcm?_eq_none_iff⟩, fun steps => ?_,
    fun steps others => foldlM_lcm?_congr⟩
  · refine ⟨gcd_ne_zero ha b, ?_, fun multiple => toNat_of_lcm? ha hb⟩
    rw [UInt32.toNat_div, toNat_gcd]
    exact Nat.div_mul_cancel (Nat.gcd_dvd_left _ _)
  · exact ⟨toOption_foldSteps 0 steps, fun _ => foldlM_lcm?_eq_some_iff, foldlM_lcm?_eq_none_iff⟩

/-- At the bound of what fits, and just beyond it. -/
example :
    lcm? 65535 65537 = some 4294967295 ∧ lcm? 65536 65537 = none ∧
      [65535, 0, 65537, 65535].foldlM lcm? 0 = some 4294967295 := by
  decide +kernel

end SeriesGateway.Step
