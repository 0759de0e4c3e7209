import Mathlib.Data.List.DropRight
import SeriesGateway.Text.Fields

/-! # Trimmed texts

Trimming takes blanks off both ends and nothing else, and it does not see blanks that
are put there.
-/

namespace SeriesGateway.Text

variable {text core before after : List Char}

theorem trim_eq (text : List Char) : trim text = (text.dropWhile isBlank).rdropWhile isBlank := rfl

theorem exists_trim (text : List Char) : ∃ before after, text = before ++ trim text ++ after ∧
    (∀ c ∈ before, isBlank c = true) ∧ ∀ c ∈ after, isBlank c = true := by
  refine ⟨text.takeWhile isBlank, (text.dropWhile isBlank).rtakeWhile isBlank, ?_,
    fun c => List.mem_takeWhile_imp, fun c => List.mem_rtakeWhile_imp⟩
  rw [trim_eq, List.append_assoc, List.rdropWhile_append_rtakeWhile,
    List.takeWhile_append_dropWhile]

theorem trim_eq_nil_iff : trim text = [] ↔ ∀ c ∈ text, isBlank c = true := by
  rw [trim_eq, List.rdropWhile_eq_nil_iff, ← List.dropWhile_eq_nil_iff, List.dropWhile_idempotent,
    List.dropWhile_eq_nil_iff]

theorem not_mem_of_isBlank {c : Char} (hc : isBlank c = false)
    (hblank : ∀ c ∈ text, isBlank c = true) : c ∉ text :=
  fun hmem => Bool.false_ne_true (hc.symm.trans (hblank c hmem))

/-! ## Blanks at the ends -/

theorem trim_blank_append (hbefore : ∀ c ∈ before, isBlank c = true) (text : List Char) :
    trim (before ++ text) = trim text := by
  rw [trim_eq, List.dropWhile_append_of_pos hbefore, ← trim_eq]

theorem rdropWhile_append_blank (hafter : ∀ c ∈ after, isBlank c = true) (text : List Char) :
    (text ++ after).rdropWhile isBlank = text.rdropWhile isBlank := by
  rw [List.rdropWhile, List.reverse_append, List.dropWhile_append_of_pos, ← List.rdropWhile]
  simpa using hafter

theorem trim_append_blank (hafter : ∀ c ∈ after, isBlank c = true) (text : List Char) :
    trim (text ++ after) = trim text := by
  rw [trim_eq, trim_eq, List.dropWhile_append]
  split
  next hblank =>
    rw [List.isEmpty_iff] at hblank
    rw [hblank, List.dropWhile_eq_nil_iff.mpr hafter]
  next => rw [rdropWhile_append_blank hafter]

/-- A text without blanks is what is left when blanks stand around it. -/
theorem trim_padded (hbefore : ∀ c ∈ before, isBlank c = true)
    (hafter : ∀ c ∈ after, isBlank c = true) (hcore : ∀ c ∈ core, isBlank c = false) :
    trim (before ++ core ++ after) = core := by
  have hfirst : core.dropWhile isBlank = core :=
    List.dropWhile_eq_self_iff.mpr fun hlength => by simp [hcore]
  have hlast : core.rdropWhile isBlank = core :=
    List.rdropWhile_eq_self_iff.mpr fun hne => by simp [hcore]
  rw [trim_append_blank hafter, trim_blank_append hbefore, trim_eq, hfirst, hlast]

theorem trim_dropWhile (text : List Char) : trim (text.dropWhile isBlank) = trim text := by
  rw [trim_eq, List.dropWhile_idempotent, ← trim_eq]

theorem trim_rdropWhile (text : List Char) : trim (text.rdropWhile isBlank) = trim text := by
  have hblank : ∀ c ∈ text.rtakeWhile isBlank, isBlank c = true := fun c => List.mem_rtakeWhile_imp
  rw [← trim_append_blank hblank, List.rdropWhile_append_rtakeWhile]

/-! ## Around other characters -/

theorem dropWhile_append_cons {c : Char} (hc : isBlank c = false) (before after : List Char) :
    (before ++ c :: after).dropWhile isBlank = before.dropWhile isBlank ++ c :: after := by
  rw [List.dropWhile_append, List.dropWhile_cons_of_neg (by simp [hc])]
  split
  next hblank => rw [List.isEmpty_iff.mp hblank, List.nil_append]
  next => rfl

theorem rdropWhile_append_cons {c : Char} (hc : isBlank c = false) (before after : List Char) :
    (before ++ c :: after).rdropWhile isBlank = before ++ c :: after.rdropWhile isBlank := by
  have hreverse : (before ++ c :: after).reverse = after.reverse ++ c :: before.reverse := by simp
  rw [List.rdropWhile, hreverse, dropWhile_append_cons hc, List.rdropWhile]
  simp

/-- On both sides of a character that is not blank only the far end is trimmed. -/
theorem trim_append_cons {c : Char} (hc : isBlank c = false) (before after : List Char) :
    trim (before ++ c :: after) =
      before.dropWhile isBlank ++ c :: after.rdropWhile isBlank := by
  rw [trim_eq, dropWhile_append_cons hc, rdropWhile_append_cons hc]

end SeriesGateway.Text
