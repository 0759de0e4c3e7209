import Mathlib.Data.List.Basic
import SeriesGateway.Aggregation
import SeriesGateway.Proofs.Sample.Division

/-! # Reductions

Every function reduces a single number to itself. Four of the functions reduce numbers by
picking one of two again and again. It makes no difference in which order the pairs are
picked from, as long as the numbers stay in theirs.
-/

namespace SeriesGateway.Aggregation

variable {function : Aggregation} {pick : Sample → Sample → Sample} {sample : Sample}
  {samples : List Sample}

theorem filter_numbers (hnumbers : ∀ s ∈ samples, s.isNaN = false) :
    samples.filter (fun s => !s.isNaN) = samples :=
  List.filter_eq_self.mpr fun s hs => by rw [hnumbers s hs, Bool.not_false]

/-- A single number is reduced to itself. -/
theorem reduce_singleton (function : Aggregation) (hnumber : sample.isNaN = false) :
    function.reduce [sample] = sample := by
  rw [reduce, filter_numbers (by simpa using hnumber)]
  cases function with
  | average => exact Sample.divCount_one hnumber
  | sum | min | max | first | last => rfl

/-- The function reduces numbers by picking one of two, from the front on. -/
structure PicksBy (function : Aggregation) (pick : Sample → Sample → Sample) : Prop where
  reduce_cons : ∀ {sample : Sample} {samples : List Sample},
    (∀ s ∈ sample :: samples, s.isNaN = false) →
      function.reduce (sample :: samples) = samples.foldl pick sample
  assoc : Std.Associative pick
  picks : ∀ a b, pick a b = a ∨ pick a b = b

theorem picksBy_min : PicksBy .min Sample.least where
  reduce_cons hnumbers := by rw [reduce, filter_numbers hnumbers]
  assoc := ⟨fun a b c => by unfold Sample.least; grind⟩
  picks a b := by
    unfold Sample.least
    split
    · exact .inr rfl
    · exact .inl rfl

theorem picksBy_max : PicksBy .max Sample.greatest where
  reduce_cons hnumbers := by rw [reduce, filter_numbers hnumbers]
  assoc := ⟨fun a b c => by unfold Sample.greatest; grind⟩
  picks a b := by
    unfold Sample.greatest
    split
    · exact .inr rfl
    · exact .inl rfl

theorem picksBy_first : PicksBy .first fun a _ => a where
  reduce_cons hnumbers := by
    rw [reduce, filter_numbers hnumbers, List.foldl_fixed]
  assoc := ⟨fun _ _ _ => rfl⟩
  picks _ _ := .inl rfl

theorem foldl_last (sample : Sample) (samples : List Sample) :
    samples.foldl (fun _ b => b) sample = samples.getLastD sample := by
  induction samples generalizing sample with
  | nil => rfl
  | cons next rest ih => rw [List.foldl_cons, ih, List.getLastD_cons]

theorem picksBy_last : PicksBy .last fun _ b => b where
  reduce_cons hnumbers := by rw [reduce, filter_numbers hnumbers, foldl_last]
  assoc := ⟨fun _ _ _ => rfl⟩
  picks _ _ := .inr rfl

theorem exists_picksBy (hfunction : function ∈ [min, max, first, last]) :
    ∃ pick, PicksBy function pick := by
  cases function with
  | min => exact ⟨_, picksBy_min⟩
  | max => exact ⟨_, picksBy_max⟩
  | first => exact ⟨_, picksBy_first⟩
  | last => exact ⟨_, picksBy_last⟩
  | sum | average => simp at hfunction

/-- What is picked from numbers is a number. -/
theorem PicksBy.isNaN_foldl (h : PicksBy function pick)
    (hnumbers : ∀ s ∈ sample :: samples, s.isNaN = false) :
    (samples.foldl pick sample).isNaN = false := by
  induction samples generalizing sample with
  | nil => exact hnumbers sample List.mem_cons_self
  | cons next rest ih =>
      obtain ⟨hsample, hnext, hrest⟩ : sample.isNaN = false ∧ next.isNaN = false ∧
          ∀ s ∈ rest, s.isNaN = false := by simpa using hnumbers
      apply ih
      intro s hs
      rcases List.mem_cons.mp hs with rfl | hs
      · rcases h.picks sample next with hpick | hpick
        · rwa [hpick]
        · rwa [hpick]
      · exact hrest s hs

end SeriesGateway.Aggregation
