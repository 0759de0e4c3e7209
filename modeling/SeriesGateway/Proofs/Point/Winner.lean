import SeriesGateway.Proofs.Point.Order

/-! # Winners

Of the points of one key the one with the greatest timestamp wins, and among
equal ones the last. The pass over sorted points compares each point with the
winner so far of its run and discards the loser where it stands; what is left at
the end are the winners of the runs, in order.
-/

namespace SeriesGateway

namespace PointStore

/-! ## The pass in place -/

/-- The winners of the runs of a list that starts with `kept`, the winner so far
of the first run. -/
def winners (kept : Point) : List Point → List Point
  | [] => [kept]
  | point :: rest =>
    if kept.sameKey point then
      winners (if kept.timestamp ≤ point.timestamp then point else kept) rest
    else kept :: winners point rest

theorem isLive_discard (point : Point) : point.discard.isLive = false := by
  simp [Point.isLive, Point.discard]

/-- The state of the pass. In front of the winner so far, at `keep`, are the
points it is done with, of which `live` remain; between the winner and the next
point, at `next`, all are discarded; and `rest` is still to be compared. -/
def Scanned (points : Array Point) (keep next : Nat) (live : List Point) (kept : Point)
    (rest : List Point) : Prop :=
  ∃ done discarded, points.toList = done ++ kept :: (discarded ++ rest) ∧
    keep = done.length ∧ next = done.length + 1 + discarded.length ∧
    done.filter Point.isLive = live ∧ discarded.filter Point.isLive = []

namespace Scanned

variable {points : Array Point} {keep next : Nat} {live rest : List Point} {kept point : Point}

theorem start (point : Point) (rest : List Point) :
    Scanned (point :: rest).toArray 0 1 [] point rest :=
  ⟨[], [], rfl, rfl, rfl, rfl, rfl⟩

theorem getElem_keep (h : Scanned points keep next live kept rest) (hkeep : keep < points.size) :
    points[keep] = kept := by
  obtain ⟨done, discarded, hpoints, rfl, -⟩ := h
  rw [← Array.getElem_toList]
  simp [hpoints]

theorem getElem_next (h : Scanned points keep next live kept (point :: rest))
    (hnext : next < points.size) : points[next] = point := by
  obtain ⟨done, discarded, hpoints, -, rfl, -⟩ := h
  rw [← Array.getElem_toList]
  simp [hpoints, Nat.add_assoc, Nat.add_comm 1]

theorem size_eq (h : Scanned points keep next live kept rest) :
    points.size = next + rest.length := by
  obtain ⟨done, discarded, hpoints, -, rfl, -⟩ := h
  rw [← Array.length_toList, hpoints]
  simp only [List.length_append, List.length_cons]
  omega

/-- The winner so far loses against the next point. -/
theorem replace (h : Scanned points keep next live kept (point :: rest))
    (hkeep : keep < points.size) :
    Scanned (points.set keep kept.discard) next (next + 1) live point rest := by
  obtain ⟨done, discarded, hpoints, rfl, rfl, hdone, hdiscarded⟩ := h
  refine ⟨done ++ kept.discard :: discarded, [], ?_, ?_, ?_, ?_, rfl⟩
  · rw [Array.toList_set, hpoints]
    simp
  · simp [Nat.add_assoc, Nat.add_comm 1]
  · simp [Nat.add_assoc, Nat.add_comm 1]
  · simp [hdone, hdiscarded, isLive_discard]

/-- The next point loses against the winner so far. -/
theorem skip (h : Scanned points keep next live kept (point :: rest))
    (hnext : next < points.size) :
    Scanned (points.set next point.discard) keep (next + 1) live kept rest := by
  obtain ⟨done, discarded, hpoints, rfl, rfl, hdone, hdiscarded⟩ := h
  refine ⟨done, discarded ++ [point.discard], ?_, rfl, ?_, hdone, ?_⟩
  · rw [Array.toList_set, hpoints]
    simp [Nat.add_assoc, Nat.add_comm 1]
  · simp [Nat.add_assoc]
  · simp [hdiscarded, isLive_discard]

/-- The next point has another key, so the winner so far has won its run. -/
theorem advance (h : Scanned points keep next live kept (point :: rest)) :
    Scanned points next (next + 1) (live ++ [kept].filter Point.isLive) point rest := by
  obtain ⟨done, discarded, hpoints, rfl, rfl, hdone, hdiscarded⟩ := h
  refine ⟨done ++ kept :: discarded, [], ?_, ?_, ?_, ?_, rfl⟩
  · simp [hpoints]
  · simp [Nat.add_assoc, Nat.add_comm 1]
  · simp [Nat.add_assoc, Nat.add_comm 1]
  · rw [← hdone, List.filter_append, List.filter_cons]
    split <;> simp_all

end Scanned

/-- Behind the pass, the live points are those it was done with and the live
winners of the rest. -/
theorem filter_discardLosers {points : Array Point} {keep next : Nat} {hkeep : keep < next}
    {live rest : List Point} {kept : Point} (h : Scanned points keep next live kept rest) :
    (discardLosers points keep next hkeep).toList.filter Point.isLive =
      live ++ (winners kept rest).filter Point.isLive := by
  -- by induction on the points still to be compared; each branch is a step of `Scanned`
  induction rest generalizing points keep next live kept with
  | nil =>
      have hsize := h.size_eq
      rw [discardLosers, dif_neg (by simp at hsize; omega)]
      obtain ⟨done, discarded, hpoints, -, -, rfl, hdiscarded⟩ := h
      rw [hpoints]
      simp [winners, List.filter_cons, hdiscarded]
  | cons point rest ih =>
      have hnext : next < points.size := by
        have hsize := h.size_eq
        simp only [List.length_cons] at hsize
        omega
      have hkept := h.getElem_keep (by omega)
      have hpoint := h.getElem_next hnext
      rw [discardLosers, dif_pos hnext, winners]
      simp only [hkept, hpoint]
      split
      · split
        · exact ih (h.replace (by omega))
        · exact ih (h.skip hnext)
      · rw [ih h.advance, List.append_assoc, ← List.filter_append, List.singleton_append]

/-- The winners of the runs of a list. -/
def runWinners : List Point → List Point
  | [] => []
  | point :: rest => winners point rest

/-- The pass keeps the live winners of the runs. -/
theorem uniq_points (store : PointStore) :
    store.uniq.points = (runWinners store.points).filter Point.isLive := by
  unfold uniq
  simp only [Array.toList_filter]
  cases store.points with
  | nil => simp [discardLosers, runWinners]
  | cons point rest => exact filter_discardLosers (Scanned.start point rest)

end PointStore

/-! ## Winning a key -/

namespace Point

/-- The point wins its key in a history: no earlier point of the key has a
greater timestamp, and no later one has a timestamp as great. -/
def Wins (point : Point) (history : List Point) : Prop :=
  ∃ earlier later, history = earlier ++ point :: later ∧
    (∀ other ∈ earlier, other.sameKey point → other.timestamp ≤ point.timestamp) ∧
    (∀ other ∈ later, other.sameKey point → other.timestamp < point.timestamp)

variable {point kept other : Point} {history rest : List Point}

theorem Wins.mem (h : point.Wins history) : point ∈ history := by
  obtain ⟨earlier, later, rfl, -, -⟩ := h
  simp

theorem Wins.le (h : point.Wins history) (hother : other ∈ history)
    (hkey : other.key = point.key) : other.timestamp ≤ point.timestamp := by
  obtain ⟨earlier, later, rfl, hearlier, hlater⟩ := h
  rw [← sameKey_iff] at hkey
  rcases List.mem_append.mp hother with hother | hother
  · exact hearlier other hother hkey
  · rcases List.mem_cons.mp hother with rfl | hother
    · exact UInt32.le_refl _
    · exact UInt32.le_of_lt (hlater other hother hkey)

theorem not_wins_nil : ¬ point.Wins [] := fun h => nomatch h.mem

/-- The first point of a history wins over all that follow, or it does not win
against the winner of the rest. -/
theorem wins_cons : point.Wins (kept :: rest) ↔
    (point = kept ∧ ∀ other ∈ rest, other.key = kept.key → other.timestamp < kept.timestamp) ∨
      (point.Wins rest ∧ (kept.key = point.key → kept.timestamp ≤ point.timestamp)) := by
  simp only [← sameKey_iff]
  constructor
  · rintro ⟨earlier, later, hhistory, hearlier, hlater⟩
    cases earlier with
    | nil =>
        obtain ⟨rfl, rfl⟩ := List.cons.inj hhistory
        exact .inl ⟨rfl, hlater⟩
    | cons first earlier =>
        obtain ⟨rfl, rfl⟩ := List.cons.inj hhistory
        refine .inr ⟨⟨earlier, later, rfl, ?_, hlater⟩, ?_⟩
        · exact fun other hother => hearlier other (List.mem_cons_of_mem _ hother)
        · exact hearlier _ List.mem_cons_self
  · rintro (⟨rfl, hrest⟩ | ⟨⟨earlier, later, rfl, hearlier, hlater⟩, hkept⟩)
    · exact ⟨[], rest, rfl, by simp, hrest⟩
    · refine ⟨kept :: earlier, later, rfl, ?_, hlater⟩
      intro other hother
      rcases List.mem_cons.mp hother with rfl | hother
      · exact hkept
      · exact hearlier other hother

/-- A point that a later one of its key catches up with plays no part. -/
theorem wins_cons_cons_of_le (hkey : kept.key = other.key)
    (hle : kept.timestamp ≤ other.timestamp) :
    point.Wins (kept :: other :: rest) ↔ point.Wins (other :: rest) := by
  rw [wins_cons]
  constructor
  · rintro (⟨rfl, hrest⟩ | ⟨hwins, -⟩)
    · have hlt := hrest other List.mem_cons_self hkey.symm
      exact absurd hle (UInt32.not_le.mpr hlt)
    · exact hwins
  · intro hwins
    refine .inr ⟨hwins, fun hsame => UInt32.le_trans hle ?_⟩
    exact hwins.le List.mem_cons_self (hkey.symm.trans hsame)

/-- A point that an earlier one of its key beats plays no part. -/
theorem wins_cons_cons_of_lt (hkey : kept.key = other.key)
    (hlt : other.timestamp < kept.timestamp) :
    point.Wins (kept :: other :: rest) ↔ point.Wins (kept :: rest) := by
  rw [wins_cons, wins_cons, wins_cons]
  constructor
  · rintro (⟨rfl, hrest⟩ | ⟨⟨rfl, -⟩ | ⟨hwins, -⟩, hkept⟩)
    · exact .inl ⟨rfl, fun later hlater => hrest later (List.mem_cons_of_mem _ hlater)⟩
    · exact absurd (hkept hkey) (UInt32.not_le.mpr hlt)
    · exact .inr ⟨hwins, hkept⟩
  · rintro (⟨rfl, hrest⟩ | ⟨hwins, hkept⟩)
    · refine .inl ⟨rfl, ?_⟩
      intro later hlater hsame
      rcases List.mem_cons.mp hlater with rfl | hlater
      · exact hlt
      · exact hrest later hlater hsame
    · refine .inr ⟨.inr ⟨hwins, fun hsame => ?_⟩, hkept⟩
      exact UInt32.le_trans (UInt32.le_of_lt hlt) (hkept (hkey.trans hsame))

/-- A point whose key does not come again wins it. -/
theorem wins_cons_of_ne (hne : ∀ other ∈ rest, other.key ≠ kept.key) :
    point.Wins (kept :: rest) ↔ point = kept ∨ point.Wins rest := by
  rw [wins_cons]
  constructor
  · exact Or.imp And.left And.left
  · refine Or.imp (fun hpoint => ⟨hpoint, fun other hother hsame => ?_⟩) fun hwins => ⟨hwins, ?_⟩
    · exact absurd hsame (hne other hother)
    · exact fun hsame => absurd hsame.symm (hne point hwins.mem)

/-- Only the points of the key matter. -/
theorem wins_filter : point.Wins (history.filter (·.key == point.key)) ↔ point.Wins history := by
  induction history with
  | nil => rfl
  | cons kept rest ih =>
      by_cases hkey : kept.key = point.key
      · rw [List.filter_cons_of_pos (by simpa using hkey), wins_cons, wins_cons, ih]
        have hrest : (∀ other ∈ rest.filter (·.key == point.key), other.key = kept.key →
            other.timestamp < kept.timestamp) ↔
            ∀ other ∈ rest, other.key = kept.key → other.timestamp < kept.timestamp := by
          simp only [List.mem_filter, beq_iff_eq, hkey, and_imp]
          apply forall₂_congr
          intro other hother
          exact ⟨fun h hsame => h hsame hsame, fun h hsame _ => h hsame⟩
        rw [hrest]
      · rw [List.filter_cons_of_neg (by simpa using hkey), wins_cons, ih]
        constructor
        · exact fun hwins => .inr ⟨hwins, fun hsame => absurd hsame hkey⟩
        · rintro (⟨rfl, -⟩ | ⟨hwins, -⟩)
          · exact absurd rfl hkey
          · exact hwins

/-- Every key of a history has a winner. -/
theorem exists_wins (hpoint : point ∈ history) :
    ∃ winner : Point, winner.Wins history ∧ winner.key = point.key := by
  induction history generalizing point with
  | nil => simp at hpoint
  | cons kept rest ih =>
      by_cases hrest : ∃ other ∈ rest, other.key = point.key
      · obtain ⟨other, hother, hsame⟩ := hrest
        obtain ⟨winner, hwins, hwinner⟩ := ih hother
        -- the first point beats the winner of the rest only if it is strictly newer
        by_cases hbeats : kept.key = point.key ∧ winner.timestamp < kept.timestamp
        · obtain ⟨hkept, hlt⟩ := hbeats
          refine ⟨kept, wins_cons.mpr (.inl ⟨rfl, ?_⟩), hkept⟩
          intro later hlater hkey
          have hle := hwins.le hlater (by rw [hkey, hkept, hwinner, hsame])
          exact UInt32.lt_of_le_of_lt hle hlt
        · refine ⟨winner, wins_cons.mpr (.inr ⟨hwins, ?_⟩), hwinner.trans hsame⟩
          intro hkept
          rw [hwinner, hsame] at hkept
          exact UInt32.not_lt.mp fun hlt => hbeats ⟨hkept, hlt⟩
      · have hkept : point = kept := by
          rcases List.mem_cons.mp hpoint with hkept | hpoint
          · exact hkept
          · exact absurd ⟨point, hpoint, rfl⟩ hrest
        refine ⟨kept, wins_cons.mpr (.inl ⟨rfl, ?_⟩), by rw [hkept]⟩
        intro later hlater hkey
        exact absurd ⟨later, hlater, by rw [hkey, hkept]⟩ hrest

end Point

end SeriesGateway
