import Mathlib.Data.List.Perm.Basic
import SeriesGateway.Proofs.Point.Winner

/-! # Winning whatever the order

Which point wins a key depends on the order of a history only where timestamps
tie. Parts of a history that never tie with each other can be put in any order.
-/

namespace SeriesGateway.Point

/-- No point of one part ties with a point of the other. -/
def Apart (first second : List Point) : Prop :=
  ∀ a ∈ first, ∀ b ∈ second, a.key = b.key → a.timestamp ≠ b.timestamp

theorem Apart.symm {first second : List Point} (h : Apart first second) : Apart second first :=
  fun a ha b hb hkey => (h b hb a ha hkey.symm).symm

/-- Two histories have the same points and the same winners. -/
structure Interchangeable (first second : List Point) : Prop where
  mem : ∀ point : Point, point ∈ first ↔ point ∈ second
  wins : ∀ point : Point, point.Wins first ↔ point.Wins second

variable {point : Point} {first second third fourth : List Point}

/-- A point wins an appended history in its first part against the second, or in
the second against the first. -/
theorem wins_append : point.Wins (first ++ second) ↔
    (point.Wins first ∧ ∀ other ∈ second, other.key = point.key →
      other.timestamp < point.timestamp) ∨
    (point.Wins second ∧ ∀ other ∈ first, other.key = point.key →
      other.timestamp ≤ point.timestamp) := by
  -- by induction on the first part: its first point wins, or leaves it to the others
  induction first with
  | nil => simp [not_wins_nil]
  | cons kept rest ih =>
      rw [List.cons_append, wins_cons, wins_cons, ih, List.forall_mem_append, List.forall_mem_cons]
      constructor
      · rintro (⟨rfl, hrest, hsecond⟩ | ⟨⟨hrest, hsecond⟩ | ⟨hwins, hrest⟩, hkept⟩)
        · exact .inl ⟨.inl ⟨rfl, hrest⟩, hsecond⟩
        · exact .inl ⟨.inr ⟨hrest, hkept⟩, hsecond⟩
        · exact .inr ⟨hwins, hkept, hrest⟩
      · rintro (⟨⟨rfl, hrest⟩ | ⟨hrest, hkept⟩, hsecond⟩ | ⟨hwins, hkept, hrest⟩)
        · exact .inl ⟨rfl, hrest, hsecond⟩
        · exact .inr ⟨.inl ⟨hrest, hsecond⟩, hkept⟩
        · exact .inr ⟨.inr ⟨hwins, hrest⟩, hkept⟩

/-- Only the points of the metric matter. -/
theorem wins_filter_metric {history : List Point} :
    point.Wins (history.filter (·.metricId == point.metricId)) ↔ point.Wins history := by
  rw [← wins_filter, List.filter_filter, ← @wins_filter point history]
  have hkey : history.filter (fun other => other.key == point.key &&
      other.metricId == point.metricId) = history.filter (·.key == point.key) := by
    apply List.filter_congr
    intro other _
    have hmetric : other.key = point.key → other.metricId = point.metricId :=
      fun hkey => (key_eq_iff.mp hkey).1
    simpa using hmetric
  rw [hkey]

namespace Interchangeable

theorem refl (history : List Point) : Interchangeable history history :=
  ⟨fun _ => Iff.rfl, fun _ => Iff.rfl⟩

theorem trans (h : Interchangeable first second) (h' : Interchangeable second third) :
    Interchangeable first third :=
  ⟨fun point => (h.mem point).trans (h'.mem point),
    fun point => (h.wins point).trans (h'.wins point)⟩

theorem append (h : Interchangeable first second) (h' : Interchangeable third fourth) :
    Interchangeable (first ++ third) (second ++ fourth) where
  mem point := by rw [List.mem_append, List.mem_append, h.mem, h'.mem]
  wins point := by simp only [wins_append, h.wins, h'.wins, h.mem, h'.mem]

end Interchangeable

/-- Parts that never tie can be exchanged. -/
theorem Apart.interchangeable (h : Apart first second) :
    Interchangeable (first ++ second) (second ++ first) where
  mem point := by rw [List.mem_append, List.mem_append, or_comm]
  wins point := by
    -- without ties it makes no difference which of the parts comes first
    have hfirst : point ∈ first → ∀ other ∈ second, other.key = point.key →
        (other.timestamp < point.timestamp ↔ other.timestamp ≤ point.timestamp) := by
      intro hpoint other hother hkey
      have hne := h point hpoint other hother hkey.symm
      exact ⟨UInt32.le_of_lt, fun hle => UInt32.lt_of_le_of_ne hle hne.symm⟩
    have hsecond : point ∈ second → ∀ other ∈ first, other.key = point.key →
        (other.timestamp < point.timestamp ↔ other.timestamp ≤ point.timestamp) := by
      intro hpoint other hother hkey
      have hne := h other hother point hpoint hkey
      exact ⟨UInt32.le_of_lt, fun hle => UInt32.lt_of_le_of_ne hle hne⟩
    rw [wins_append, wins_append, or_comm]
    apply or_congr
    · apply and_congr_right
      intro hwins
      exact forall₃_congr fun other hother hkey => (hsecond hwins.mem other hother hkey).symm
    · apply and_congr_right
      intro hwins
      exact forall₃_congr fun other hother hkey => hfirst hwins.mem other hother hkey

/-- Parts of which no two ever tie can be put in any order. -/
theorem interchangeable_of_perm {parts others : List (List Point)} (hperm : parts.Perm others)
    (hapart : parts.Pairwise Apart) : Interchangeable parts.flatten others.flatten := by
  induction hperm with
  | nil => exact .refl _
  | cons part _ ih =>
      rw [List.flatten_cons, List.flatten_cons]
      exact (Interchangeable.refl part).append (ih hapart.of_cons)
  | swap part other rest =>
      have happart := (List.pairwise_cons.mp hapart).1 part List.mem_cons_self
      simp only [List.flatten_cons, ← List.append_assoc]
      exact happart.interchangeable.append (.refl _)
  | trans hfirst _ ih ih' =>
      exact (ih hapart).trans (ih' ((hfirst.pairwise_iff Apart.symm).mp hapart))

end SeriesGateway.Point
