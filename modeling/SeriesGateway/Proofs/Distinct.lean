import Mathlib.Data.List.Induction
import Mathlib.Data.List.Nodup

/-! # First occurrences

Lists without repetitions, as they come about by going through a list from the front
and keeping what is new.
-/

namespace SeriesGateway

variable {α : Type} [BEq α] [LawfulBEq α]

theorem eraseDups_concat [DecidableEq α] (xs : List α) (x : α) :
    (xs ++ [x]).eraseDups = if x ∈ xs then xs.eraseDups else xs.eraseDups ++ [x] := by
  rw [List.eraseDups_append, List.removeAll]
  split
  next hold => simp [hold]
  next hnew => simp [hnew, List.eraseDups_cons]

theorem nodup_eraseDups [DecidableEq α] (xs : List α) : xs.eraseDups.Nodup := by
  induction xs using List.reverseRecOn with
  | nil => exact List.nodup_nil
  | append_singleton xs x ih =>
      rw [eraseDups_concat]
      split
      next => exact ih
      next hnew =>
        rw [(List.perm_append_singleton x xs.eraseDups).nodup_iff, List.nodup_cons]
        exact ⟨by simpa using hnew, ih⟩

theorem eraseDups_of_nodup [DecidableEq α] {xs : List α} (h : xs.Nodup) : xs.eraseDups = xs := by
  induction xs using List.reverseRecOn with
  | nil => rfl
  | append_singleton xs x ih =>
      rw [(List.perm_append_singleton x xs).nodup_iff, List.nodup_cons] at h
      rw [eraseDups_concat, if_neg h.1, ih h.2]

end SeriesGateway
