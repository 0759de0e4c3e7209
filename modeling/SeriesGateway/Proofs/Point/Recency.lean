import Mathlib.Data.List.Nodup
import SeriesGateway.Proofs.Point.Entry
import SeriesGateway.Proofs.Point.Uniqueness

/-! # Recent points against stored ones

Recent points enter a store behind all others. So of a key that has points of both kinds a
recent one wins exactly if the newest of them is as new as the newest of the others: ties go
to the recent points.
-/

namespace SeriesGateway

namespace Point

/-- The greatest timestamp of the points of a metric and time. -/
def newest? (id time : UInt32) (points : List Point) : Option Nat :=
  ((points.filter fun point => point.metricId = id ∧ point.time = time).map
    (·.timestamp.toNat)).max?

/-- The point at a position of a history wins its key. -/
def WinsAt (point : Point) (position : Nat) (history : List Point) : Prop :=
  ∃ earlier later, history = earlier ++ point :: later ∧ earlier.length = position ∧
    (∀ other ∈ earlier, other.sameKey point → other.timestamp ≤ point.timestamp) ∧
    (∀ other ∈ later, other.sameKey point → other.timestamp < point.timestamp)

variable {point winner : Point} {history stored recent : List Point} {id time : UInt32}

theorem wins_iff_exists_winsAt :
    point.Wins history ↔ ∃ position, point.WinsAt position history := by
  constructor
  · rintro ⟨earlier, later, hhistory, hearlier, hlater⟩
    exact ⟨earlier.length, earlier, later, hhistory, rfl, hearlier, hlater⟩
  · rintro ⟨position, earlier, later, hhistory, -, hearlier, hlater⟩
    exact ⟨earlier, later, hhistory, hearlier, hlater⟩

/-- A key has one winner. -/
theorem Wins.eq (h : point.Wins history) (hwinner : winner.Wins history)
    (hkey : point.key = winner.key) : point = winner := by
  induction history with
  | nil => exact absurd h not_wins_nil
  | cons kept rest ih =>
      rcases wins_cons.mp h with ⟨rfl, hrest⟩ | ⟨hrest, hkept⟩
      · rcases wins_cons.mp hwinner with ⟨rfl, -⟩ | ⟨hlater, hkept⟩
        · rfl
        · have hlt := hrest winner hlater.mem hkey.symm
          exact absurd (hkept hkey) (UInt32.not_le.mpr hlt)
      · rcases wins_cons.mp hwinner with ⟨rfl, hothers⟩ | ⟨hlater, -⟩
        · have hlt := hothers point hrest.mem hkey
          exact absurd (hkept hkey.symm) (UInt32.not_le.mpr hlt)
        · exact ih hrest hlater

theorem newest?_eq_some_iff {newest : Nat} : newest? id time history = some newest ↔
    (∃ point ∈ history, point.metricId = id ∧ point.time = time ∧
      point.timestamp.toNat = newest) ∧
    ∀ point ∈ history, point.metricId = id → point.time = time →
      point.timestamp.toNat ≤ newest := by
  rw [newest?, List.max?_eq_some_iff]
  simp only [List.mem_map, List.mem_filter, decide_eq_true_eq, and_assoc, forall_exists_index,
    and_imp]
  refine and_congr_right fun _ =>
    ⟨fun h point hpoint hid htime => h _ point hpoint hid htime rfl, ?_⟩
  rintro h _ point hpoint hid htime rfl
  exact h point hpoint hid htime

/-- Of two kinds of points in one history the later kind wins a key exactly if its newest
point is as new as the newest of the earlier kind. -/
theorem WinsAt.length_le_iff {position : Nat} (h : winner.WinsAt position (stored ++ recent))
    {old new : Nat} (hold : newest? winner.metricId winner.time stored = some old)
    (hnew : newest? winner.metricId winner.time recent = some new) :
    stored.length ≤ position ↔ old ≤ new := by
  obtain ⟨earlier, later, hhistory, rfl, hearlier, hlater⟩ := h
  obtain ⟨⟨last, hlast, hlastId, hlastTime, rfl⟩, hold⟩ := newest?_eq_some_iff.mp hold
  obtain ⟨⟨first, hfirst, hfirstId, hfirstTime, rfl⟩, hnew⟩ := newest?_eq_some_iff.mp hnew
  have hlastKey : last.sameKey winner = true :=
    sameKey_iff.mpr (key_eq_iff.mpr ⟨hlastId, hlastTime⟩)
  have hfirstKey : first.sameKey winner = true :=
    sameKey_iff.mpr (key_eq_iff.mpr ⟨hfirstId, hfirstTime⟩)
  rcases List.append_eq_append_iff.mp hhistory with
    ⟨between, rfl, hrecent⟩ | ⟨between, hstored, hlaterIs⟩
  · -- the winner is a recent point
    have hwinner : winner ∈ recent := by simp [hrecent]
    have hle := hearlier last (List.mem_append_left _ hlast) hlastKey
    simpa using Nat.le_trans (UInt32.le_iff_toNat_le.mp hle) (hnew winner hwinner rfl rfl)
  · -- the winner is a stored point, or the first of the recent ones
    cases between with
    | nil =>
        rw [List.append_nil] at hstored
        subst hstored
        have hwinner : winner ∈ recent := by
          rw [List.nil_append] at hlaterIs
          simp [← hlaterIs]
        have hle := hearlier last hlast hlastKey
        simpa using Nat.le_trans (UInt32.le_iff_toNat_le.mp hle) (hnew winner hwinner rfl rfl)
    | cons head between =>
        obtain ⟨rfl, rfl⟩ := List.cons.inj hlaterIs
        have hwinner : winner ∈ stored := by simp [hstored]
        have hlt := hlater first (List.mem_append_right _ hfirst) hfirstKey
        have hbeaten := Nat.lt_of_lt_of_le (UInt32.lt_iff_toNat_lt.mp hlt)
          (hold winner hwinner rfl rfl)
        have hshort : ¬ stored.length ≤ earlier.length := by simp [hstored]
        exact iff_of_false hshort (Nat.not_le.mpr hbeaten)

end Point

namespace PointStore

variable {id time : UInt32}

/-- Recent points enter in their order, each under the number of its metric. -/
theorem forall₂_numberRecent (store : PointStore) (recent : List RecentPoint) :
    List.Forall₂ (fun point arrived : _ => point.value = arrived.value ∧
        point.time = arrived.time ∧ point.timestamp = arrived.timestamp ∧
        (store.appendRecent recent).metricId? arrived.metric = some point.metricId)
      (store.numberRecent recent) recent := by
  induction recent generalizing store with
  | nil => exact .nil
  | cons first rest ih =>
      have hprefix : (store.intern first.metric).2.metrics <+:
          ((store.appendRecentPoint first).appendRecent rest).metrics := by
        rw [appendRecent_eq_enterAll]
        exact metrics_prefix_enterAll (store.appendRecentPoint first) _
      refine .cons ⟨rfl, rfl, rfl, ?_⟩ (ih _)
      exact metricId?_of_prefix hprefix (metricId?_intern store first.metric)

/-- What is kept of a key is its winner, unless it is not a number. -/
theorem filter_uniq_sort {store : PointStore} {winner : Point} (h : winner.Wins store.points)
    (hid : winner.metricId ≠ 0) :
    (store.sort.uniq.points.filter fun point =>
        point.metricId = winner.metricId ∧ point.time = winner.time) =
      if winner.value.isNaN then [] else [winner] := by
  have hwinner : ∀ point ∈ store.sort.uniq.points,
      decide (point.metricId = winner.metricId ∧ point.time = winner.time) =
        decide (point = winner) := by
    intro point hpoint
    have hwins := ((mem_points_uniq_sort store).mp hpoint).2
    refine decide_eq_decide.mpr ⟨fun hkey => hwins.eq h (Point.key_eq_iff.mpr hkey), ?_⟩
    rintro rfl
    exact ⟨rfl, rfl⟩
  have hnodup : store.sort.uniq.points.Nodup :=
    (pairwise_uniq_sort store).imp fun hlt hsame => Nat.ne_of_lt hlt (congrArg Point.key hsame)
  have hmem : winner ∈ store.sort.uniq.points ↔ winner.value.isNaN = false := by
    rw [mem_points_uniq_sort, Point.isLive]
    simp [hid, h]
  rw [List.filter_congr hwinner, List.filter_eq]
  cases hnumber : winner.value.isNaN with
  | true =>
      rw [hnumber] at hmem
      rw [List.count_eq_zero_of_not_mem (by simp [hmem])]
      rfl
  | false =>
      rw [List.count_eq_one_of_mem hnodup (hmem.mpr hnumber)]
      rfl

/-- A key that has stored and recent points has a winner, which is a recent one exactly if
the newest recent point is as new as the newest stored one. -/
theorem exists_winnerAt {store : PointStore} {recent : List RecentPoint} (hid : id ≠ 0)
    {old new : Nat} (hold : Point.newest? id time store.points = some old)
    (hnew : Point.newest? id time (store.numberRecent recent) = some new) :
    ∃ position winner, winner.metricId = id ∧ winner.time = time ∧
      winner.WinsAt position (store.appendRecent recent).points ∧
      (store.points.length ≤ position ↔ old ≤ new) ∧
      ((store.appendRecent recent).sort.uniq.points.filter fun point =>
          point.metricId = id ∧ point.time = time) =
        if winner.value.isNaN then [] else [winner] := by
  obtain ⟨⟨point, hpoint, hpointId, hpointTime, -⟩, -⟩ := Point.newest?_eq_some_iff.mp hold
  have hmerged := points_appendRecent store recent
  obtain ⟨winner, hwins, hkey⟩ :=
    Point.exists_wins (show point ∈ (store.appendRecent recent).points by simp [hmerged, hpoint])
  obtain ⟨hsameId, hsameTime⟩ := Point.key_eq_iff.mp hkey
  obtain rfl : winner.metricId = id := hsameId.trans hpointId
  obtain rfl : winner.time = time := hsameTime.trans hpointTime
  obtain ⟨position, hposition⟩ := Point.wins_iff_exists_winsAt.mp hwins
  refine ⟨position, winner, rfl, rfl, hposition, ?_, filter_uniq_sort hwins hid⟩
  rw [hmerged] at hposition
  exact hposition.length_le_iff hold hnew

/-- Recent points are merged with a store as if they had been ingested behind all of its
points, in their own order: of a key that has points of both kinds the winner is a recent one
exactly if the newest recent point is as new as the newest stored one, and it is kept, or
deletes the key if it is not a number. -/
structure MergesBehind (store : PointStore) (recent : List RecentPoint) : Prop where
  points_eq : (store.appendRecent recent).points = store.points ++ store.numberRecent recent
  numbered : List.Forall₂ (fun point arrived : _ => point.value = arrived.value ∧
      point.time = arrived.time ∧ point.timestamp = arrived.timestamp ∧
      (store.appendRecent recent).metricId? arrived.metric = some point.metricId)
    (store.numberRecent recent) recent
  contest : ∀ {id time : UInt32}, id ≠ 0 → ∀ {old new : Nat},
    Point.newest? id time store.points = some old →
    Point.newest? id time (store.numberRecent recent) = some new →
      ∃ position winner, winner.metricId = id ∧ winner.time = time ∧
        winner.WinsAt position (store.appendRecent recent).points ∧
        (store.points.length ≤ position ↔ old ≤ new) ∧
        ((store.appendRecent recent).sort.uniq.points.filter fun point =>
            point.metricId = id ∧ point.time = time) =
          if winner.value.isNaN then [] else [winner]

theorem mergesBehind (store : PointStore) (recent : List RecentPoint) :
    store.MergesBehind recent where
  points_eq := points_appendRecent store recent
  numbered := forall₂_numberRecent store recent
  contest := exists_winnerAt

end PointStore

end SeriesGateway
