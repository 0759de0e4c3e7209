import Mathlib.Order.Bounds.Basic
import SeriesGateway.Arithmetic

/-! # Aligned times

The floor of a time is the step times a quotient, computed without wrapping, so
it grows with the time. The floor and the ceiling of a time are multiples of the
step, also where the next multiple above does not fit. The floor is the largest
multiple up to the time. The ceiling is the smallest one from it on, or the largest
one that fits if there is none from it on.
-/

namespace SeriesGateway.Step

theorem toNat_pos_of_ne_zero {step : UInt32} (hstep : step ≠ 0) : 0 < step.toNat :=
  Nat.pos_of_ne_zero fun hzero => hstep (UInt32.toNat_inj.mp hzero)

theorem toNat_floor (value step : UInt32) :
    (floor value step).toNat =
      (positive step).toNat * (value.toNat / (positive step).toNat) := by
  have hle : value % positive step ≤ value := by
    rw [UInt32.le_iff_toNat_le, UInt32.toNat_mod]
    exact Nat.mod_le _ _
  have hsplit := Nat.div_add_mod value.toNat (positive step).toNat
  rw [floor, UInt32.toNat_sub_of_le _ _ hle, UInt32.toNat_mod]
  omega

theorem floor_mono {first second : UInt32} (hle : first ≤ second) (step : UInt32) :
    floor first step ≤ floor second step := by
  rw [UInt32.le_iff_toNat_le, toNat_floor, toNat_floor]
  exact Nat.mul_le_mul_left _ (Nat.div_le_div_right (UInt32.le_iff_toNat_le.mp hle))

theorem positive_ne_zero (step : UInt32) : positive step ≠ 0 := by
  unfold positive
  split
  next => decide
  next hstep => exact hstep

theorem positive_of_ne_zero {step : UInt32} (hstep : step ≠ 0) : positive step = step :=
  if_neg hstep

@[simp]
theorem positive_positive (step : UInt32) : positive (positive step) = positive step :=
  positive_of_ne_zero (positive_ne_zero step)

theorem positive_pos (step : UInt32) : 0 < (positive step).toNat :=
  toNat_pos_of_ne_zero (positive_ne_zero step)

theorem dvd_floor (value step : UInt32) :
    (positive step).toNat ∣ (floor value step).toNat := by
  rw [toNat_floor]
  exact Nat.dvd_mul_right _ _

theorem dvd_ceil (value step : UInt32) :
    (positive step).toNat ∣ (ceil value step).toNat := by
  have hexcess : (value % positive step).toNat = value.toNat % (positive step).toNat :=
    UInt32.toNat_mod value (positive step)
  unfold ceil
  dsimp only
  split
  next hnone =>
    rw [hnone] at hexcess
    exact Nat.dvd_of_mod_eq_zero hexcess.symm
  next =>
    split
    next hfits =>
      have hlt := Nat.mod_lt value.toNat (positive_pos step)
      have hle : value % positive step ≤ positive step := by
        rw [UInt32.le_iff_toNat_le, hexcess]
        exact Nat.le_of_lt hlt
      have hsplit := Nat.div_add_mod value.toNat (positive step).toNat
      rw [UInt32.toNat_add, Nat.mod_eq_of_lt hfits, UInt32.toNat_sub_of_le _ _ hle, hexcess]
      refine ⟨value.toNat / (positive step).toNat + 1, ?_⟩
      rw [Nat.mul_add, Nat.mul_one]
      omega
    next => exact dvd_floor maxTime step

theorem floor_le (value step : UInt32) : (floor value step).toNat ≤ value.toNat := by
  rw [toNat_floor]
  exact Nat.mul_div_le _ _

theorem lt_floor_add (value step : UInt32) :
    value.toNat < (floor value step).toNat + (positive step).toNat := by
  rw [toNat_floor]
  exact Nat.lt_mul_div_succ _ (positive_pos step)

theorem le_floor {value step : UInt32} {bound : Nat} (hdvd : (positive step).toNat ∣ bound)
    (hle : bound ≤ value.toNat) : bound ≤ (floor value step).toNat :=
  Nat.le_of_lt_add_of_dvd (Nat.lt_of_le_of_lt hle (lt_floor_add value step)) hdvd
    (dvd_floor value step)

/-- A multiple of the step is its own floor. -/
theorem floor_of_dvd {value step : UInt32} (hdvd : (positive step).toNat ∣ value.toNat) :
    floor value step = value := by
  rw [← UInt32.toNat_inj]
  exact Nat.le_antisymm (floor_le value step) (le_floor hdvd (Nat.le_refl _))

/-- A coarse floor can be taken by way of a finer one. -/
theorem floor_floor {fine coarse : UInt32}
    (hdvd : (positive fine).toNat ∣ (positive coarse).toNat) (value : UInt32) :
    floor (floor value fine) coarse = floor value coarse := by
  have hle : floor value fine ≤ value := UInt32.le_iff_toNat_le.mpr (floor_le value fine)
  have hcoarse : (positive fine).toNat ∣ (floor value coarse).toNat :=
    Nat.dvd_trans hdvd (dvd_floor value coarse)
  rw [← UInt32.toNat_inj]
  apply Nat.le_antisymm
  · exact UInt32.le_iff_toNat_le.mp (floor_mono hle coarse)
  · exact le_floor (dvd_floor value coarse) (le_floor hcoarse (floor_le value coarse))

/-- The part of a time ends at or before a multiple of the step exactly if the time is in
front of it. -/
theorem floor_add_le_iff {value step : UInt32} {bound : Nat}
    (hdvd : (positive step).toNat ∣ bound) :
    (floor value step).toNat + (positive step).toNat ≤ bound ↔ value.toNat < bound := by
  have hlt := lt_floor_add value step
  constructor
  · omega
  · intro hbefore
    apply Nat.le_of_not_lt
    intro hbeyond
    have hle := Nat.le_of_lt_add_of_dvd hbeyond hdvd (dvd_floor value step)
    have hfloor := floor_le value step
    omega

/-- The ceiling is the first multiple from the time on, or no multiple from there on
fits and it is the last one that does. -/
theorem ceil_cases (value step : UInt32) :
    value.toNat ≤ (ceil value step).toNat ∧
        (ceil value step).toNat < value.toNat + (positive step).toNat ∨
      ceil value step = floor maxTime step ∧
        ∀ bound < UInt32.size, (positive step).toNat ∣ bound → bound < value.toNat := by
  have hlt := Nat.mod_lt value.toNat (positive_pos step)
  have hsplit := Nat.div_add_mod value.toNat (positive step).toNat
  have hexcess : (value % positive step).toNat = value.toNat % (positive step).toNat :=
    UInt32.toNat_mod value (positive step)
  have hmissing : (positive step - value % positive step).toNat =
      (positive step).toNat - value.toNat % (positive step).toNat := by
    rw [UInt32.toNat_sub_of_le _ _ ?_, hexcess]
    rw [UInt32.le_iff_toNat_le, hexcess]
    exact Nat.le_of_lt hlt
  unfold ceil
  dsimp only
  split
  next => exact .inl ⟨Nat.le_refl _, by omega⟩
  next hsome =>
    have hpos : 0 < value.toNat % (positive step).toNat := by
      rw [← hexcess]
      exact toNat_pos_of_ne_zero hsome
    split
    next hfits =>
      rw [UInt32.toNat_add, Nat.mod_eq_of_lt hfits, hmissing]
      exact .inl ⟨by omega, by omega⟩
    next hbeyond =>
      -- the first multiple from the time on is beyond all that fits
      have hnext : (positive step).toNat ∣
          value.toNat + (positive step - value % positive step).toNat := by
        refine ⟨value.toNat / (positive step).toNat + 1, ?_⟩
        rw [Nat.mul_add, hmissing]
        omega
      refine .inr ⟨rfl, fun bound hbound hdvd => Nat.lt_of_not_le fun hle => hbeyond ?_⟩
      have hfirst := Nat.le_of_lt_add_of_dvd (by omega) hnext hdvd
      exact Nat.lt_of_le_of_lt hfirst hbound

theorem ceil_lt (value step : UInt32) :
    (ceil value step).toNat < value.toNat + (positive step).toNat := by
  rcases ceil_cases value step with ⟨-, hlt⟩ | ⟨-, hnone⟩
  · exact hlt
  · exact Nat.lt_add_right _ (hnone _ (ceil value step).toNat_lt (dvd_ceil value step))

/-- If a whole step fits behind a time, its ceiling is less than a step away. -/
theorem ceil_bounds {value step : UInt32}
    (hfits : value.toNat + (positive step).toNat < UInt32.size) :
    value.toNat ≤ (ceil value step).toNat ∧
      (ceil value step).toNat < value.toNat + (positive step).toNat := by
  refine (ceil_cases value step).resolve_right ?_
  rintro ⟨-, hnone⟩
  have hfloor := floor_le value step
  have hnext := hnone ((floor value step).toNat + (positive step).toNat) (by omega)
    ((Nat.dvd_add_right (dvd_floor value step)).mpr (Nat.dvd_refl _))
  exact Nat.lt_asymm hnext (lt_floor_add value step)

theorem isGreatest_floor_maxTime (step : UInt32) :
    IsGreatest {bound | (positive step).toNat ∣ bound ∧ bound < UInt32.size}
      (floor maxTime step).toNat :=
  ⟨⟨dvd_floor maxTime step, UInt32.toNat_lt _⟩,
    fun _ hbound => le_floor hbound.1 (Nat.le_of_lt_succ hbound.2)⟩

theorem isLeast_ceil {value step : UInt32}
    (hsome : ∃ bound < UInt32.size, (positive step).toNat ∣ bound ∧ value.toNat ≤ bound) :
    IsLeast {bound | (positive step).toNat ∣ bound ∧ value.toNat ≤ bound}
      (ceil value step).toNat := by
  obtain ⟨bound, hfits, hdvd, hle⟩ := hsome
  rcases ceil_cases value step with ⟨hreach, hlt⟩ | ⟨-, hnone⟩
  · refine ⟨⟨dvd_ceil value step, hreach⟩, fun other hother => ?_⟩
    exact Nat.le_of_lt_add_of_dvd (Nat.lt_of_lt_of_le hlt (Nat.add_le_add_right hother.2 _))
      (dvd_ceil value step) hother.1
  · exact absurd hle (Nat.not_le_of_lt (hnone bound hfits hdvd))

theorem isGreatest_ceil {value step : UInt32}
    (hnone : ¬ ∃ bound < UInt32.size, (positive step).toNat ∣ bound ∧ value.toNat ≤ bound) :
    IsGreatest {bound | (positive step).toNat ∣ bound ∧ bound < UInt32.size}
      (ceil value step).toNat := by
  rcases ceil_cases value step with ⟨hreach, -⟩ | ⟨hlast, -⟩
  · exact absurd ⟨_, (ceil value step).toNat_lt, dvd_ceil value step, hreach⟩ hnone
  · rw [hlast]
    exact isGreatest_floor_maxTime step

theorem floor_le_ceil {first second : UInt32} (hle : first ≤ second) (step : UInt32) :
    floor first step ≤ ceil second step := by
  rw [UInt32.le_iff_toNat_le] at hle ⊢
  rcases ceil_cases second step with ⟨hreach, -⟩ | ⟨hlast, -⟩
  · exact Nat.le_trans (floor_le first step) (Nat.le_trans hle hreach)
  · rw [hlast]
    exact (isGreatest_floor_maxTime step).2 ⟨dvd_floor first step, UInt32.toNat_lt _⟩

/-! ## Parts -/

theorem toNat_parts {whole part : UInt32} (hpart : part ≠ 0) :
    (parts whole part).toNat =
      whole.toNat / part.toNat + if whole.toNat % part.toNat = 0 then 0 else 1 := by
  have hpos := toNat_pos_of_ne_zero hpart
  have hlt := whole.toNat_lt
  have hsplit := Nat.div_add_mod whole.toNat part.toNat
  have hle : whole.toNat / part.toNat ≤ part.toNat * (whole.toNat / part.toNat) :=
    Nat.le_mul_of_pos_left _ hpos
  have hrest : whole % part = 0 ↔ whole.toNat % part.toNat = 0 := by
    rw [← UInt32.toNat_inj, UInt32.toNat_mod]
    rfl
  by_cases hnone : whole.toNat % part.toNat = 0
  · simp [parts, hrest, hnone]
  · rw [parts, if_neg (mt hrest.mp hnone), if_neg hnone, UInt32.toNat_add, UInt32.toNat_div]
    exact Nat.mod_eq_of_lt (by simp; omega)

/-- No fewer parts than these cover the whole. -/
theorem parts_le_iff {whole part : UInt32} (hpart : part ≠ 0) {bound : Nat} :
    (parts whole part).toNat ≤ bound ↔ whole.toNat ≤ bound * part.toNat := by
  have hpos := toNat_pos_of_ne_zero hpart
  have hsplit := Nat.div_add_mod' whole.toNat part.toNat
  rw [toNat_parts hpart]
  split
  next hnone =>
    rw [hnone, Nat.add_zero] at hsplit
    rw [Nat.add_zero, ← Nat.mul_le_mul_right_iff hpos, hsplit]
  next hsome =>
    -- the last part is not full
    have hne : whole.toNat ≠ bound * part.toNat := by
      intro heq
      exact hsome (by simp [heq])
    rw [Nat.add_one_le_iff, Nat.div_lt_iff_lt_mul hpos]
    exact ⟨Nat.le_of_lt, fun hle => Nat.lt_of_le_of_ne hle hne⟩

end SeriesGateway.Step
