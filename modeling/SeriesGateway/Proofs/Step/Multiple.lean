import SeriesGateway.Arithmetic
import SeriesGateway.Proofs.Step.Align

/-! # Common multiples as numbers

The common multiple of steps without the bound of a step, and what the checked
multiple has to do with it: the check fails exactly if the number does not fit.
A common multiple is never less than one of some of its steps, so steps that fail
in one order fail in every order.
-/

namespace SeriesGateway.Step

/-- The least common multiple of all steps but zero, or zero if there are none. -/
def commonMultiple (steps : List UInt32) : Nat :=
  match (steps.map (·.toNat)).filter (· ≠ 0) with
  | [] => 0
  | first :: rest => (first :: rest).foldr Nat.lcm 1

/-- The least common multiple of two numbers, where zero is neutral. -/
def join (a b : Nat) : Nat := if a = 0 then b else if b = 0 then a else Nat.lcm a b

/-! ## Two numbers -/

@[simp]
theorem zero_join (a : Nat) : join 0 a = a := by simp [join]

@[simp]
theorem join_zero (a : Nat) : join a 0 = a := by
  unfold join
  split <;> simp_all

theorem join_of_pos {a b : Nat} (ha : 0 < a) (hb : 0 < b) : join a b = Nat.lcm a b := by
  rw [join, if_neg (Nat.ne_of_gt ha), if_neg (Nat.ne_of_gt hb)]

theorem join_self (a : Nat) : join a a = a := by
  rcases Nat.eq_zero_or_pos a with rfl | ha
  · simp
  · rw [join_of_pos ha ha, Nat.lcm_self]

theorem join_comm (a b : Nat) : join a b = join b a := by
  rcases Nat.eq_zero_or_pos a with rfl | ha
  · simp
  rcases Nat.eq_zero_or_pos b with rfl | hb
  · simp
  rw [join_of_pos ha hb, join_of_pos hb ha, Nat.lcm_comm]

theorem join_pos {a b : Nat} (ha : 0 < a) : 0 < join a b := by
  rcases Nat.eq_zero_or_pos b with rfl | hb
  · simpa using ha
  · rw [join_of_pos ha hb]
    exact Nat.lcm_pos ha hb

theorem join_assoc (a b c : Nat) : join (join a b) c = join a (join b c) := by
  rcases Nat.eq_zero_or_pos a with rfl | ha
  · simp
  rcases Nat.eq_zero_or_pos b with rfl | hb
  · simp
  rcases Nat.eq_zero_or_pos c with rfl | hc
  · simp
  rw [join_of_pos (join_pos ha) hc, join_of_pos ha (join_pos hb), join_of_pos ha hb,
    join_of_pos hb hc, Nat.lcm_assoc]

theorem le_join_left (a b : Nat) : a ≤ join a b := by
  rcases Nat.eq_zero_or_pos a with rfl | ha
  · exact Nat.zero_le _
  rcases Nat.eq_zero_or_pos b with rfl | hb
  · simp
  rw [join_of_pos ha hb]
  exact Nat.le_of_dvd (Nat.lcm_pos ha hb) (Nat.dvd_lcm_left a b)

/-! ## Any number of steps -/

@[simp]
theorem commonMultiple_nil : commonMultiple [] = 0 := rfl

theorem foldr_lcm_pos {numbers : List Nat} (hpos : ∀ number ∈ numbers, 0 < number) :
    0 < numbers.foldr Nat.lcm 1 := by
  induction numbers with
  | nil => exact Nat.one_pos
  | cons number rest ih =>
      obtain ⟨hnumber, hrest⟩ := List.forall_mem_cons.mp hpos
      exact Nat.lcm_pos hnumber (ih hrest)

theorem commonMultiple_cons (step : UInt32) (rest : List UInt32) :
    commonMultiple (step :: rest) = join step.toNat (commonMultiple rest) := by
  unfold commonMultiple
  rcases Nat.eq_zero_or_pos step.toNat with hzero | hstep
  · simp [hzero]
  rw [List.map_cons, List.filter_cons_of_pos (by simpa using Nat.ne_of_gt hstep)]
  have hpos : ∀ number ∈ (rest.map (·.toNat)).filter (· ≠ 0), 0 < number := by
    intro number hnumber
    simpa [Nat.pos_iff_ne_zero] using (List.mem_filter.mp hnumber).2
  cases hrest : (rest.map (·.toNat)).filter (· ≠ 0) with
  | nil => simp
  | cons first others =>
      rw [hrest] at hpos
      dsimp only
      rw [join_of_pos hstep (foldr_lcm_pos hpos), List.foldr_cons]

theorem commonMultiple_append (first second : List UInt32) :
    commonMultiple (first ++ second) = join (commonMultiple first) (commonMultiple second) := by
  induction first with
  | nil => simp
  | cons step rest ih =>
      rw [List.cons_append, commonMultiple_cons, commonMultiple_cons, ih, join_assoc]

theorem commonMultiple_perm {first second : List UInt32} (hperm : first.Perm second) :
    commonMultiple first = commonMultiple second := by
  induction hperm with
  | nil => rfl
  | cons step _ ih => rw [commonMultiple_cons, commonMultiple_cons, ih]
  | swap a b rest =>
      simp only [commonMultiple_cons]
      rw [← join_assoc, ← join_assoc, join_comm b.toNat]
  | trans _ _ ih₁ ih₂ => exact ih₁.trans ih₂

/-- More steps have no less a common multiple. -/
theorem commonMultiple_le_append (first second : List UInt32) :
    commonMultiple first ≤ commonMultiple (first ++ second) := by
  rw [commonMultiple_append]
  exact le_join_left _ _

theorem dvd_join_left {a : Nat} (ha : 0 < a) (b : Nat) : a ∣ join a b := by
  rcases Nat.eq_zero_or_pos b with rfl | hb
  · simp
  · rw [join_of_pos ha hb]
    exact Nat.dvd_lcm_left a b

theorem commonMultiple_of_mem {step : UInt32} {steps : List UInt32} (hmem : step ∈ steps) :
    ∃ others, commonMultiple steps = join step.toNat (commonMultiple others) := by
  obtain ⟨before, after, rfl⟩ := List.append_of_mem hmem
  refine ⟨before ++ after, ?_⟩
  rw [commonMultiple_perm List.perm_middle, commonMultiple_cons]

theorem commonMultiple_pos {step : UInt32} {steps : List UInt32} (hmem : step ∈ steps)
    (hstep : step ≠ 0) : 0 < commonMultiple steps := by
  obtain ⟨others, hothers⟩ := commonMultiple_of_mem hmem
  rw [hothers]
  exact join_pos (toNat_pos_of_ne_zero hstep)

/-- Every step but zero divides the common multiple. -/
theorem dvd_commonMultiple {step : UInt32} {steps : List UInt32} (hmem : step ∈ steps)
    (hstep : step ≠ 0) : step.toNat ∣ commonMultiple steps := by
  obtain ⟨others, hothers⟩ := commonMultiple_of_mem hmem
  rw [hothers]
  exact dvd_join_left (toNat_pos_of_ne_zero hstep) _

/-- A step that is there already adds nothing. -/
theorem commonMultiple_cons_of_mem {step : UInt32} {steps : List UInt32} (hmem : step ∈ steps) :
    commonMultiple (step :: steps) = commonMultiple steps := by
  obtain ⟨others, hothers⟩ := commonMultiple_of_mem hmem
  rw [commonMultiple_cons, hothers, ← join_assoc, join_self]

theorem commonMultiple_append_of_subset {part steps : List UInt32} (hsubset : part ⊆ steps) :
    commonMultiple (part ++ steps) = commonMultiple steps := by
  induction part with
  | nil => rfl
  | cons step rest ih =>
      obtain ⟨hstep, hrest⟩ := List.cons_subset.mp hsubset
      rw [List.cons_append, commonMultiple_cons_of_mem (List.mem_append_right rest hstep), ih hrest]

/-- Only which steps there are matters, and neither their order nor how often each is there. -/
theorem commonMultiple_congr {first second : List UInt32}
    (hsame : ∀ step, step ∈ first ↔ step ∈ second) :
    commonMultiple first = commonMultiple second := by
  rw [← commonMultiple_append_of_subset fun step => (hsame step).mpr,
    commonMultiple_perm List.perm_append_comm,
    commonMultiple_append_of_subset fun step => (hsame step).mp]

/-! ## The checked multiple -/

theorem toNat_gcd (a b : UInt32) : (gcd a b).toNat = Nat.gcd a.toNat b.toNat := by
  fun_induction gcd a b with
  | case1 a => simp
  | case2 a b hb ih => rw [ih, UInt32.toNat_mod, Nat.gcd_comm b.toNat, ← Nat.gcd_rec, Nat.gcd_comm]

theorem toNat_quotient_mul {a b : UInt32} :
    (a / gcd a b).toNat * b.toNat = Nat.lcm a.toNat b.toNat := by
  rw [UInt32.toNat_div, toNat_gcd, Nat.lcm_eq_mul_div,
    Nat.div_mul_right_comm (Nat.gcd_dvd_left _ _)]

/-- The checked multiple of two steps is their common multiple if that fits. -/
theorem lcm?_eq (a b : UInt32) :
    lcm? a b =
      if join a.toNat b.toNat < UInt32.size then some (UInt32.ofNat (join a.toNat b.toNat))
      else none := by
  unfold lcm?
  split
  next hzero =>
    rcases hzero with rfl | rfl
    · simp [Max.max, b.toNat_lt_size]
    · have hmax : max a 0 = a := by
        rcases Decidable.em (a = 0) with rfl | ha
        · rfl
        · exact if_neg fun hle => ha (UInt32.le_zero_iff.mp hle)
      simp [hmax, a.toNat_lt_size]
  next hzero =>
    obtain ⟨ha, hb⟩ := not_or.mp hzero
    rw [join_of_pos (by simpa [Nat.pos_iff_ne_zero, ← UInt32.toNat_inj] using ha)
      (by simpa [Nat.pos_iff_ne_zero, ← UInt32.toNat_inj] using hb)]
    simp only [toNat_quotient_mul]
    split
    next hfits =>
      rw [← toNat_quotient_mul, UInt32.ofNat_mul, UInt32.ofNat_toNat, UInt32.ofNat_toNat]
    next => rfl

end SeriesGateway.Step
