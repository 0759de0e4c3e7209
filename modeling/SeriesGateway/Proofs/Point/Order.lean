import SeriesGateway.Point.Consolidation

/-! # Order of points

Points are ordered by metric and then by time. Both numbers together are one
number, the key of a point, so the three comparisons of points are comparisons
of numbers. Sorting is stable: the points of one key keep their order.
-/

namespace SeriesGateway

namespace Point

/-- Metric and time of a point as one number. -/
def key (point : Point) : Nat := point.metricId.toNat * UInt32.size + point.time.toNat

/-- Strictly before by metric, then by time. -/
def KeyLt (a b : Point) : Prop :=
  a.metricId < b.metricId ∨ a.metricId = b.metricId ∧ a.time < b.time

theorem key_eq_iff {a b : Point} : a.key = b.key ↔ a.metricId = b.metricId ∧ a.time = b.time := by
  have ha := a.time.toNat_lt
  have hb := b.time.toNat_lt
  simp only [key, UInt32.size, ← UInt32.toNat_inj]
  omega

theorem sameKey_iff {a b : Point} : a.sameKey b = true ↔ a.key = b.key := by
  rw [key_eq_iff]
  simp [sameKey]

theorem keyLt_iff {a b : Point} : a.KeyLt b ↔ a.key < b.key := by
  have ha := a.time.toNat_lt
  have hb := b.time.toNat_lt
  simp only [KeyLt, key, UInt32.size, UInt32.lt_iff_toNat_lt, ← UInt32.toNat_inj]
  omega

theorem keyLe_iff {a b : Point} : a.keyLe b = true ↔ a.key ≤ b.key := by
  have ha := a.time.toNat_lt
  have hb := b.time.toNat_lt
  simp only [keyLe, key, UInt32.size, Bool.or_eq_true, Bool.and_eq_true, beq_iff_eq,
    decide_eq_true_eq, UInt32.lt_iff_toNat_lt, UInt32.le_iff_toNat_le, ← UInt32.toNat_inj]
  omega

theorem metricId_le_of_key_le {a b : Point} (hle : a.key ≤ b.key) : a.metricId ≤ b.metricId := by
  have ha := a.time.toNat_lt
  have hb := b.time.toNat_lt
  simp only [key, UInt32.size, UInt32.le_iff_toNat_le] at hle ⊢
  omega

theorem keyLe_trans (a b c : Point) (hab : a.keyLe b = true) (hbc : b.keyLe c = true) :
    a.keyLe c = true := by
  rw [keyLe_iff] at *
  exact Nat.le_trans hab hbc

theorem keyLe_total (a b : Point) : (a.keyLe b || b.keyLe a) = true := by
  rw [Bool.or_eq_true, keyLe_iff, keyLe_iff]
  exact Nat.le_total a.key b.key

end Point

namespace PointStore

theorem pairwise_sort (store : PointStore) :
    store.sort.points.Pairwise fun a b => a.key ≤ b.key :=
  (List.pairwise_mergeSort Point.keyLe_trans Point.keyLe_total store.points).imp Point.keyLe_iff.mp

theorem perm_sort (store : PointStore) : store.sort.points.Perm store.points :=
  List.mergeSort_perm store.points Point.keyLe

/-- The points of one key stay in the order they were ingested in. -/
theorem filter_key_sort (store : PointStore) (key : Nat) :
    store.sort.points.filter (·.key == key) = store.points.filter (·.key == key) := by
  have hordered : (store.points.filter (·.key == key)).Pairwise fun a b => a.keyLe b = true := by
    apply List.pairwise_of_forall_mem_list
    intro a ha b hb
    have hakey := (List.mem_filter.mp ha).2
    have hbkey := (List.mem_filter.mp hb).2
    rw [beq_iff_eq] at hakey hbkey
    exact Point.keyLe_iff.mpr (Nat.le_of_eq (hakey.trans hbkey.symm))
  -- a stable sort keeps every sublist that is in order already
  have hsublist := List.sublist_mergeSort Point.keyLe_trans Point.keyLe_total hordered
    List.filter_sublist
  have hkept := hsublist.filter (·.key == key)
  rw [List.filter_filter] at hkept
  simp only [Bool.and_self] at hkept
  exact (hkept.eq_of_length ((perm_sort store).filter _).length_eq.symm).symm

end PointStore

end SeriesGateway
