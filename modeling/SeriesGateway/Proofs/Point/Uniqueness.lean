import SeriesGateway.Proofs.Point.Ingestion
import SeriesGateway.Proofs.Point.Winner

/-! # One point per key

In sorted points the runs are the keys, and since sorting is stable the winner of
a run is the winner of its key in the history of the store. What is kept is
strictly ascending, so keeping winners again changes nothing.
-/

namespace SeriesGateway.PointStore

variable {kept point : Point} {rest : List Point}

/-- Where a run ends in ascending points, its key does not come again. -/
theorem key_lt_of_run_end {next other : Point}
    (hsorted : (kept :: next :: rest).Pairwise fun a b => a.key ≤ b.key)
    (hdiffer : ¬ kept.sameKey next = true) (hother : other ∈ next :: rest) :
    kept.key < other.key := by
  obtain ⟨hkept, hnext⟩ := List.pairwise_cons.mp hsorted
  have hfirst := hkept next List.mem_cons_self
  rw [Point.sameKey_iff] at hdiffer
  rcases List.mem_cons.mp hother with rfl | hother
  · omega
  · have hle := (List.pairwise_cons.mp hnext).1 other hother
    omega

/-- In ascending points the winners of the runs are the winners of the keys. -/
theorem mem_winners (hsorted : (kept :: rest).Pairwise fun a b => a.key ≤ b.key) :
    point ∈ winners kept rest ↔ point.Wins (kept :: rest) := by
  induction rest generalizing kept with
  | nil =>
      rw [winners, Point.wins_cons_of_ne (by simp)]
      simp [Point.not_wins_nil]
  | cons next rest ih =>
      rw [winners]
      split
      next hsame =>
        have hkey := Point.sameKey_iff.mp hsame
        split
        next hle => rw [ih hsorted.of_cons, Point.wins_cons_cons_of_le hkey hle]
        next hlt =>
          have hshort := hsorted.sublist ((List.sublist_cons_self next rest).cons_cons kept)
          rw [ih hshort, Point.wins_cons_cons_of_lt hkey (UInt32.not_le.mp hlt)]
      next hdiffer =>
        have hfresh : ∀ other ∈ next :: rest, other.key ≠ kept.key :=
          fun other hother => Nat.ne_of_gt (key_lt_of_run_end hsorted hdiffer hother)
        rw [List.mem_cons, ih hsorted.of_cons, Point.wins_cons_of_ne hfresh]

/-- The winners of the runs of ascending points are strictly ascending. -/
theorem pairwise_winners (hsorted : (kept :: rest).Pairwise fun a b => a.key ≤ b.key) :
    (winners kept rest).Pairwise fun a b => a.key < b.key := by
  induction rest generalizing kept with
  | nil => exact List.pairwise_singleton _ _
  | cons next rest ih =>
      rw [winners]
      split
      next hsame =>
        split
        · exact ih hsorted.of_cons
        · exact ih (hsorted.sublist ((List.sublist_cons_self next rest).cons_cons kept))
      next hdiffer =>
        refine List.pairwise_cons.mpr ⟨?_, ih hsorted.of_cons⟩
        intro other hother
        -- the winners behind are among the points behind
        have hwins := (mem_winners hsorted.of_cons).mp hother
        exact key_lt_of_run_end hsorted hdiffer hwins.mem

/-- Strictly ascending points are runs of one point each. -/
theorem winners_of_pairwise (hsorted : (kept :: rest).Pairwise fun a b => a.key < b.key) :
    winners kept rest = kept :: rest := by
  induction rest generalizing kept with
  | nil => rfl
  | cons next rest ih =>
      obtain ⟨hkept, hnext⟩ := List.pairwise_cons.mp hsorted
      have hlt := hkept next List.mem_cons_self
      rw [winners, if_neg (by rw [Point.sameKey_iff]; omega), ih hnext]

theorem mem_runWinners {points : List Point}
    (hsorted : points.Pairwise fun a b => a.key ≤ b.key) :
    point ∈ runWinners points ↔ point.Wins points := by
  cases points with
  | nil => simp [runWinners, Point.not_wins_nil]
  | cons kept rest => exact mem_winners hsorted

theorem wins_sort (store : PointStore) :
    point.Wins store.sort.points ↔ point.Wins store.points := by
  rw [← Point.wins_filter, filter_key_sort, Point.wins_filter]

theorem mem_points_uniq_sort (store : PointStore) : point ∈ store.sort.uniq.points ↔
    point.isLive = true ∧ point.Wins store.points := by
  rw [uniq_points, List.mem_filter, mem_runWinners (pairwise_sort store), wins_sort, and_comm]

/-- Keeping the winners of ascending points leaves strictly ascending ones. -/
theorem pairwise_uniq {store : PointStore}
    (hsorted : store.points.Pairwise fun a b => a.key ≤ b.key) :
    store.uniq.points.Pairwise fun a b => a.key < b.key := by
  rw [uniq_points]
  apply List.Pairwise.filter
  cases hpoints : store.points with
  | nil => exact List.Pairwise.nil
  | cons kept rest =>
      rw [hpoints] at hsorted
      exact pairwise_winners hsorted

theorem pairwise_uniq_sort (store : PointStore) :
    store.sort.uniq.points.Pairwise fun a b => a.key < b.key :=
  pairwise_uniq (pairwise_sort store)

theorem uniq_of_pairwise {store : PointStore}
    (hsorted : store.points.Pairwise fun a b => a.key < b.key)
    (hlive : ∀ point ∈ store.points, point.isLive = true) : store.uniq = store := by
  have hpoints : store.uniq.points = store.points := by
    rw [uniq_points]
    cases hcases : store.points with
    | nil => rfl
    | cons kept rest =>
        rw [hcases] at hsorted hlive
        rw [runWinners, winners_of_pairwise hsorted]
        exact List.filter_eq_self.mpr hlive
  cases store
  exact congrArg _ hpoints

/-- Sorting and keeping winners leaves, of everything that ever entered a store,
exactly the winner of each key of a metric, unless it is not a number; a NaN
that wins deletes its key. Every key has a winner, the result is strictly
ascending, and keeping winners again changes nothing. -/
theorem uniq_sort_keeps_winners (store : PointStore) (ingestions : List Ingestion) :
    let history := store.points ++ store.enteringAll ingestions
    let result := (ingestions.foldl ingest store).sort.uniq
    (∀ point, point ∈ result.points ↔
      point.metricId ≠ 0 ∧ point.value.isNaN = false ∧ point.Wins history) ∧
    (∀ point ∈ history, ∃ winner : Point, winner.Wins history ∧
      winner.metricId = point.metricId ∧ winner.time = point.time) ∧
    result.points.Pairwise Point.KeyLt ∧
    result.uniq = result := by
  intro history result
  have hmem : ∀ point, point ∈ result.points ↔ point.isLive = true ∧ point.Wins history := by
    intro point
    rw [mem_points_uniq_sort, points_ingestAll]
  have hascending := pairwise_uniq_sort (ingestions.foldl ingest store)
  refine ⟨?_, ?_, ?_, ?_⟩
  · intro point
    rw [hmem, Point.isLive]
    simp [and_assoc]
  · intro point hpoint
    obtain ⟨winner, hwins, hkey⟩ := Point.exists_wins hpoint
    exact ⟨winner, hwins, Point.key_eq_iff.mp hkey⟩
  · exact hascending.imp Point.keyLt_iff.mpr
  · exact uniq_of_pairwise hascending fun point hpoint => ((hmem point).mp hpoint).1

end SeriesGateway.PointStore
