import SeriesGateway.Arithmetic

/-! # Properties that hold at the beginning

If no element of a sequence with a property follows one without it, the elements
with the property are those at the beginning, and halving counts them.
-/

namespace SeriesGateway

section Beginning

variable {α : Type} {holds : α → Bool} {elements : List α}

theorem takeWhile_eq_filter
    (hbeginning : elements.Pairwise fun a b => holds b = true → holds a = true) :
    elements.takeWhile holds = elements.filter holds := by
  induction elements with
  | nil => rfl
  | cons element rest ih =>
      obtain ⟨hfirst, hrest⟩ := List.pairwise_cons.mp hbeginning
      by_cases hholds : holds element = true
      · rw [List.takeWhile_cons_of_pos hholds, List.filter_cons_of_pos hholds, ih hrest]
      · rw [List.takeWhile_cons_of_neg hholds, List.filter_cons_of_neg hholds]
        apply Eq.symm
        rw [List.filter_eq_nil_iff]
        exact fun other hother hlater => hholds (hfirst other hother hlater)

theorem dropWhile_eq_filter
    (hbeginning : elements.Pairwise fun a b => holds b = true → holds a = true) :
    elements.dropWhile holds = elements.filter fun element => !holds element := by
  induction elements with
  | nil => rfl
  | cons element rest ih =>
      obtain ⟨hfirst, hrest⟩ := List.pairwise_cons.mp hbeginning
      by_cases hholds : holds element = true
      · rw [List.dropWhile_cons_of_pos hholds, List.filter_cons_of_neg (by simp [hholds]), ih hrest]
      · rw [List.dropWhile_cons_of_neg hholds]
        apply Eq.symm
        rw [List.filter_eq_self]
        intro other hother
        rw [Bool.not_eq_true', ← Bool.not_eq_true]
        rcases List.mem_cons.mp hother with rfl | hother
        · exact hholds
        · exact fun hlater => hholds (hfirst other hother hlater)

end Beginning

namespace Search

variable {α : Type} {items : Array α} {holds : α → Bool} {count : Nat}

/-- Halving keeps the end of the property between `base` and `base + size`. -/
theorem bisectFrom_eq (hcount : ∀ i, items[i]?.any holds = true ↔ i < count) (base size : Nat)
    (hbase : base ≤ count) (hsize : count ≤ base + size) :
    bisectFrom items holds base size = count := by
  fun_induction bisectFrom items holds base size with
  | case1 base size hlarge middle ih =>
      -- the middle element tells on which side of it the property ends
      have hmiddle := hcount middle
      by_cases hholds : items[middle]?.any holds = true
      · have hlt := hmiddle.mp hholds
        simp only [dif_pos hholds, if_pos hholds] at ih ⊢
        exact ih (Nat.le_of_lt hlt) (by omega)
      · have hle : count ≤ middle := Nat.le_of_not_lt fun hlt => hholds (hmiddle.mpr hlt)
        simp only [dif_neg hholds, if_neg hholds] at ih ⊢
        exact ih hbase (by omega)
  | case2 base size hsmall hholds =>
      have hlt := (hcount base).mp hholds
      omega
  | case3 base size hsmall hholds =>
      have hle : ¬ base < count := fun hlt => hholds ((hcount base).mpr hlt)
      omega

theorem any_getElem?_iff {elements : List α}
    (hbeginning : elements.Pairwise fun a b => holds b = true → holds a = true) (i : Nat) :
    elements[i]?.any holds = true ↔ i < (elements.takeWhile holds).length := by
  induction elements generalizing i with
  | nil => simp
  | cons element rest ih =>
      obtain ⟨hfirst, hrest⟩ := List.pairwise_cons.mp hbeginning
      by_cases hholds : holds element = true
      · rw [List.takeWhile_cons_of_pos hholds]
        cases i with
        | zero => simp [hholds]
        | succ i => simp [ih hrest]
      · rw [List.takeWhile_cons_of_neg hholds]
        cases i with
        | zero => simp [hholds]
        | succ i =>
            simp only [List.getElem?_cons_succ, List.length_nil, Nat.not_lt_zero, iff_false,
              Option.any_eq_true, not_exists, not_and]
            intro other hother hlater
            exact hholds (hfirst other (List.mem_of_getElem? hother) hlater)

/-- Halving counts the elements at the beginning that have the property, if no
other element has it. -/
theorem bisect_eq {elements : List α}
    (hbeginning : elements.Pairwise fun a b => holds b = true → holds a = true) :
    bisect elements.toArray holds = (elements.takeWhile holds).length := by
  apply bisectFrom_eq
  · intro i
    rw [List.getElem?_toArray]
    exact any_getElem?_iff hbeginning i
  · exact Nat.zero_le _
  · rw [List.size_toArray, Nat.zero_add]
    exact (List.takeWhile_sublist holds).length_le

end Search

end SeriesGateway
