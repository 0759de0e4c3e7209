import Mathlib.Data.List.Nodup
import SeriesGateway.Fetch.Admission

/-! # Laws of pools

A pool hands out its slots one by one, and a slot that is given back goes to the
ticket that waits longest. So no slot is ever lost or handed out twice, and nobody
waits while a slot is free. A ledger keeps its pools apart: what happens in one of
them leaves the others as they are.
-/

namespace SeriesGateway.Fetch

namespace Pool

variable {pool : Pool} {ticket other : Ticket}

/-! ## Asking and leaving, case by case -/

/-- Asking changes a pool only for a ticket that is new to it. -/
theorem claim_cases (pool : Pool) (ticket : Ticket) :
    (ticket ∈ pool.holders ∧ pool.claim ticket = (true, pool)) ∨
    (ticket ∉ pool.holders ∧ ticket ∈ pool.waiting ∧ pool.claim ticket = (false, pool)) ∨
    (ticket ∉ pool.holders ∧ ticket ∉ pool.waiting ∧ 0 < pool.free ∧
      pool.claim ticket =
        (true, { pool with free := pool.free - 1, holders := pool.holders ++ [ticket] })) ∨
    (ticket ∉ pool.holders ∧ ticket ∉ pool.waiting ∧ pool.free = 0 ∧
      pool.claim ticket = (false, { pool with waiting := pool.waiting ++ [ticket] })) := by
  unfold claim
  by_cases hholds : ticket ∈ pool.holders
  · exact .inl ⟨hholds, if_pos hholds⟩
  rw [if_neg hholds]
  by_cases hwaits : ticket ∈ pool.waiting
  · exact .inr (.inl ⟨hholds, hwaits, if_pos hwaits⟩)
  rw [if_neg hwaits]
  by_cases hfree : 0 < pool.free
  · exact .inr (.inr (.inl ⟨hholds, hwaits, hfree, if_pos hfree⟩))
  · exact .inr (.inr (.inr ⟨hholds, hwaits, Nat.eq_zero_of_not_pos hfree, if_neg hfree⟩))

/-- A ticket gives back its slot, which goes to the first in the queue if there is
one, or else its place in the queue. -/
theorem leave_cases (pool : Pool) (ticket : Ticket) :
    (ticket ∈ pool.holders ∧ pool.waiting = [] ∧
      (pool.leave ticket).2 =
        { pool with free := pool.free + 1, holders := pool.holders.erase ticket }) ∨
    (∃ next rest, ticket ∈ pool.holders ∧ pool.waiting = next :: rest ∧
      (pool.leave ticket).2 =
        { pool with holders := pool.holders.erase ticket ++ [next], waiting := rest }) ∨
    (ticket ∉ pool.holders ∧
      (pool.leave ticket).2 = { pool with waiting := pool.waiting.erase ticket }) := by
  unfold leave
  by_cases hholds : ticket ∈ pool.holders
  · rw [if_pos hholds]
    cases hwaiting : pool.waiting with
    | nil => exact .inl ⟨hholds, rfl, rfl⟩
    | cons next rest => exact .inr (.inl ⟨next, rest, hholds, rfl, rfl⟩)
  · rw [if_neg hholds]
    exact .inr (.inr ⟨hholds, rfl⟩)

@[simp]
theorem limit_claim (pool : Pool) (ticket : Ticket) :
    (pool.claim ticket).2.limit = pool.limit := by
  rcases pool.claim_cases ticket with ⟨-, h⟩ | ⟨-, -, h⟩ | ⟨-, -, -, h⟩ | ⟨-, -, -, h⟩ <;> rw [h]

@[simp]
theorem limit_leave (pool : Pool) (ticket : Ticket) :
    (pool.leave ticket).2.limit = pool.limit := by
  rcases pool.leave_cases ticket with ⟨-, -, h⟩ | ⟨_, _, -, -, h⟩ | ⟨-, h⟩ <;> rw [h]

theorem claim_of_mem (hholds : ticket ∈ pool.holders) : pool.claim ticket = (true, pool) :=
  if_pos hholds

theorem mem_holders_claim :
    other ∈ (pool.claim ticket).2.holders ↔
      other ∈ pool.holders ∨ other = ticket ∧ (pool.claim ticket).1 = true := by
  rcases pool.claim_cases ticket with
    ⟨hholds, h⟩ | ⟨-, -, h⟩ | ⟨-, -, -, h⟩ | ⟨-, -, -, h⟩ <;> rw [h]
  · exact ⟨.inl, fun hor => hor.elim id fun hsame => hsame.1 ▸ hholds⟩
  · simp
  · simp
  · simp

theorem mem_waiting_claim :
    other ∈ (pool.claim ticket).2.waiting ↔
      other ∈ pool.waiting ∨ other = ticket ∧ (pool.claim ticket).1 = false := by
  rcases pool.claim_cases ticket with
    ⟨-, h⟩ | ⟨-, hwaits, h⟩ | ⟨-, -, -, h⟩ | ⟨-, -, -, h⟩ <;> rw [h]
  · simp
  · exact ⟨.inl, fun hor => hor.elim id fun hsame => hsame.1 ▸ hwaits⟩
  · simp
  · simp

/-! ## Balance -/

/-- What holds of a pool at any time: every slot is free or has one holder, nobody
has two slots or two places in the queue, and nobody waits while a slot is free. -/
structure Balanced (pool : Pool) : Prop where
  total : pool.free + pool.holders.length = pool.limit
  nodup_holders : pool.holders.Nodup
  nodup_waiting : pool.waiting.Nodup
  apart : ∀ ticket ∈ pool.waiting, ticket ∉ pool.holders
  full : pool.waiting ≠ [] → pool.free = 0

theorem balanced_ofLimit (limit : Nat) : (ofLimit limit).Balanced where
  total := by simp [ofLimit]
  nodup_holders := List.nodup_nil
  nodup_waiting := List.nodup_nil
  apart := by simp [ofLimit]
  full := by simp [ofLimit]

theorem nodup_concat {tickets : List Ticket} (hnodup : tickets.Nodup) (hnew : ticket ∉ tickets) :
    (tickets ++ [ticket]).Nodup :=
  (List.perm_append_singleton ticket tickets).nodup_iff.mpr (List.nodup_cons.mpr ⟨hnew, hnodup⟩)

namespace Balanced

theorem claim (h : pool.Balanced) (ticket : Ticket) : (pool.claim ticket).2.Balanced := by
  rcases pool.claim_cases ticket with
    ⟨-, heq⟩ | ⟨-, -, heq⟩ | ⟨hholds, hwaits, hfree, heq⟩ | ⟨hholds, hwaits, hfree, heq⟩ <;>
    rw [heq]
  · exact h
  · exact h
  · have hnobody : pool.waiting = [] := by
      by_contra hsome
      exact Nat.ne_of_gt hfree (h.full hsome)
    have htotal := h.total
    refine
      { total := ?_, nodup_holders := nodup_concat h.nodup_holders hholds,
        nodup_waiting := h.nodup_waiting, apart := ?_, full := fun hsome => absurd hnobody hsome }
    · simp only [List.length_append, List.length_singleton]
      omega
    · simp [hnobody]
  · refine
      { total := h.total, nodup_holders := h.nodup_holders,
        nodup_waiting := nodup_concat h.nodup_waiting hwaits, apart := ?_, full := fun _ => hfree }
    intro other hother
    rcases List.mem_append.mp hother with hold | hnew
    · exact h.apart other hold
    · exact List.mem_singleton.mp hnew ▸ hholds

theorem leave (h : pool.Balanced) (ticket : Ticket) : (pool.leave ticket).2.Balanced := by
  have htotal := h.total
  rcases pool.leave_cases ticket with
    ⟨hholds, hnobody, heq⟩ | ⟨next, rest, hholds, hqueue, heq⟩ | ⟨hholds, heq⟩ <;> rw [heq]
  · have hpos := List.length_pos_of_mem hholds
    refine
      { total := ?_, nodup_holders := h.nodup_holders.erase ticket,
        nodup_waiting := h.nodup_waiting, apart := ?_, full := fun hsome => absurd hnobody hsome }
    · simp only [List.length_erase_of_mem hholds]
      omega
    · simp [hnobody]
  · have hpos := List.length_pos_of_mem hholds
    have hwaiting := h.nodup_waiting
    rw [hqueue, List.nodup_cons] at hwaiting
    have hnext : next ∉ pool.holders := h.apart next (by simp [hqueue])
    refine
      { total := ?_, nodup_holders := ?_, nodup_waiting := hwaiting.2, apart := ?_,
        full := fun _ => h.full (by simp [hqueue]) }
    · simp only [List.length_append, List.length_erase_of_mem hholds, List.length_singleton]
      omega
    · exact nodup_concat (h.nodup_holders.erase ticket)
        fun hmem => hnext (List.mem_of_mem_erase hmem)
    · intro other hother hmem
      rcases List.mem_append.mp hmem with hold | hnew
      · exact h.apart other (by simp [hqueue, hother]) (List.mem_of_mem_erase hold)
      · exact hwaiting.1 (List.mem_singleton.mp hnew ▸ hother)
  · refine
      { total := h.total, nodup_holders := h.nodup_holders,
        nodup_waiting := h.nodup_waiting.erase ticket,
        apart := fun other hother => h.apart other (List.mem_of_mem_erase hother), full := ?_ }
    intro hsome
    apply h.full
    intro hnobody
    simp [hnobody] at hsome

/-- Asking for a slot gives it exactly if one is free or set aside for the ticket. -/
theorem claim_fst_iff (h : pool.Balanced) :
    (pool.claim ticket).1 = true ↔ 0 < pool.free ∨ ticket ∈ pool.holders := by
  rcases pool.claim_cases ticket with
    ⟨hholds, heq⟩ | ⟨hholds, hwaits, heq⟩ | ⟨-, -, hfree, heq⟩ | ⟨hholds, -, hfree, heq⟩ <;>
    rw [heq]
  · simp [hholds]
  · have hfull := h.full (List.ne_nil_of_mem hwaits)
    simp [hholds, hfull]
  · simp [hfree]
  · simp [hholds, hfree]

/-- Whoever has left is neither among the holders nor in the queue. -/
theorem not_mem_leave (h : pool.Balanced) :
    ticket ∉ (pool.leave ticket).2.holders ∧ ticket ∉ (pool.leave ticket).2.waiting := by
  rcases pool.leave_cases ticket with
    ⟨hholds, hnobody, heq⟩ | ⟨next, rest, hholds, hqueue, heq⟩ | ⟨hholds, heq⟩ <;> rw [heq]
  · exact ⟨h.nodup_holders.not_mem_erase, by simp [hnobody]⟩
  · have hout : ticket ∉ next :: rest := fun hin => h.apart ticket (hqueue ▸ hin) hholds
    rw [List.mem_cons, not_or] at hout
    refine ⟨?_, hout.2⟩
    rw [List.mem_append, not_or, List.mem_singleton]
    exact ⟨h.nodup_holders.not_mem_erase, hout.1⟩
  · exact ⟨hholds, h.nodup_waiting.not_mem_erase⟩

end Balanced

/-- When a ticket leaves, the slots of the others stay theirs. -/
theorem mem_holders_leave_of_mem (hne : other ≠ ticket) (hholds : other ∈ pool.holders) :
    other ∈ (pool.leave ticket).2.holders := by
  have hkept := (List.mem_erase_of_ne hne).mpr hholds
  rcases pool.leave_cases ticket with ⟨-, -, heq⟩ | ⟨_, _, -, -, heq⟩ | ⟨-, heq⟩ <;> rw [heq]
  · exact hkept
  · exact List.mem_append_left _ hkept
  · exact hholds

/-- A new holder was the first in the queue. -/
theorem mem_of_mem_holders_leave (hholds : other ∈ (pool.leave ticket).2.holders) :
    other ∈ pool.holders ∨ other ∈ pool.waiting := by
  rcases pool.leave_cases ticket with ⟨-, -, heq⟩ | ⟨next, rest, -, hqueue, heq⟩ | ⟨-, heq⟩ <;>
    rw [heq] at hholds
  · exact .inl (List.mem_of_mem_erase hholds)
  · rcases List.mem_append.mp hholds with hold | hnew
    · exact .inl (List.mem_of_mem_erase hold)
    · exact .inr (by simp [hqueue, List.mem_singleton.mp hnew])
  · exact .inl hholds

theorem mem_waiting_of_leave (hwaits : other ∈ (pool.leave ticket).2.waiting) :
    other ∈ pool.waiting := by
  rcases pool.leave_cases ticket with ⟨-, -, heq⟩ | ⟨_, _, -, hqueue, heq⟩ | ⟨-, heq⟩ <;>
    rw [heq] at hwaits
  · exact hwaits
  · simp [hqueue, hwaits]
  · exact List.mem_of_mem_erase hwaits

end Pool

namespace Ledger

variable {ledger : Ledger} {ticket : Ticket} {id other : PoolId}

/-- The names of the pools of a ledger. -/
def ids (ledger : Ledger) : List PoolId := ledger.pools.map (·.1)

@[simp]
theorem ids_put (ledger : Ledger) (id : PoolId) (pool : Pool) :
    (ledger.put id pool).ids = ledger.ids := by
  rw [ids, ids, put, List.map_map]
  apply List.map_congr_left
  intro entry _
  dsimp only [Function.comp]
  split
  next hsame => exact hsame.symm
  next => rfl

theorem pool?_cons (name : PoolId) (pool : Pool) (pools : List (PoolId × Pool)) (id : PoolId) :
    pool? ⟨(name, pool) :: pools⟩ id = if id = name then some pool else pool? ⟨pools⟩ id := by
  rw [pool?, pool?, List.lookup_cons]
  by_cases hsame : id = name
  · rw [if_pos hsame, beq_iff_eq.mpr hsame]
  · rw [if_neg hsame, beq_eq_false_iff_ne.mpr hsame]

/-- Where every pool has a name of its own, each entry is found by its name. -/
theorem pool?_eq_some_iff (hnodup : ledger.ids.Nodup) {pool : Pool} :
    ledger.pool? id = some pool ↔ (id, pool) ∈ ledger.pools := by
  rcases ledger with ⟨pools⟩
  induction pools with
  | nil => simp [pool?]
  | cons entry rest ih =>
      rcases entry with ⟨name, found⟩
      rw [ids, List.map_cons, List.nodup_cons] at hnodup
      rw [pool?_cons, List.mem_cons, Prod.mk.injEq]
      split
      next hsame =>
        subst hsame
        have hout : (id, pool) ∉ rest := fun hin => hnodup.1 (List.mem_map.mpr ⟨_, hin, rfl⟩)
        simp [hout, eq_comm]
      next hother => simpa [hother] using ih hnodup.2

theorem pool?_put (ledger : Ledger) (id other : PoolId) (pool : Pool) :
    (ledger.put id pool).pool? other =
      if other = id then (ledger.pool? id).map fun _ => pool else ledger.pool? other := by
  rcases ledger with ⟨pools⟩
  induction pools with
  | nil => simp [put, pool?]
  | cons entry rest ih =>
      rcases entry with ⟨name, found⟩
      have hput : put ⟨(name, found) :: rest⟩ id pool =
          ⟨(name, if name = id then pool else found) :: (put ⟨rest⟩ id pool).pools⟩ := by
        by_cases hsame : name = id <;> simp [put, hsame]
      rw [hput, pool?_cons, pool?_cons, pool?_cons, ih]
      by_cases hsame : other = id
      · subst hsame
        by_cases hname : other = name
        · subst hname
          simp
        · simp [hname]
      · by_cases hname : other = name
        · subst hname
          simp [hsame]
        · simp [hname, hsame]

/-- Where every pool has a name of its own, writing back what was read changes nothing. -/
theorem put_self (hnodup : ledger.ids.Nodup) {pool : Pool} (hpool : ledger.pool? id = some pool) :
    ledger.put id pool = ledger := by
  rcases ledger with ⟨pools⟩
  have hentries : ∀ entry ∈ pools, (if entry.1 = id then (id, pool) else entry) = entry := by
    induction pools with
    | nil => simp
    | cons first rest ih =>
        rw [ids, List.map_cons, List.nodup_cons] at hnodup
        rw [pool?_cons] at hpool
        intro entry hentry
        by_cases hsame : id = first.1
        · rw [if_pos hsame] at hpool
          obtain rfl := Option.some.inj hpool
          rcases List.mem_cons.mp hentry with rfl | hrest
          · simp [hsame]
          · have hother : entry.1 ≠ id := by
              rintro rfl
              exact hnodup.1 (hsame ▸ List.mem_map_of_mem hrest)
            rw [if_neg hother]
        · rw [if_neg hsame] at hpool
          rcases List.mem_cons.mp hentry with rfl | hrest
          · rw [if_neg (Ne.symm hsame)]
          · exact ih hnodup.2 hpool entry hrest
  rw [put, Ledger.mk.injEq]
  exact (List.map_congr_left hentries).trans (List.map_id' pools)

/-! ## Asking and leaving -/

theorem pool?_claim (ledger : Ledger) (ticket : Ticket) (id other : PoolId) :
    (ledger.claim ticket id).2.pool? other =
      if other = id then (ledger.pool? id).map fun pool => (pool.claim ticket).2
      else ledger.pool? other := by
  unfold claim
  split
  next hnone =>
    rw [hnone]
    split
    next hsame => rw [hsame, hnone]; rfl
    next => rfl
  next pool hpool =>
    rw [pool?_put, hpool]
    rfl

@[simp]
theorem ids_claim (ledger : Ledger) (ticket : Ticket) (id : PoolId) :
    (ledger.claim ticket id).2.ids = ledger.ids := by
  unfold claim
  split
  next => rfl
  next => exact ids_put _ _ _

theorem claim_fst (ledger : Ledger) (ticket : Ticket) (id : PoolId) :
    (ledger.claim ticket id).1 = true ↔
      ∀ pool, ledger.pool? id = some pool → (pool.claim ticket).1 = true := by
  unfold claim
  split
  next hnone => simp [hnone]
  next pool hpool => simp [hpool]

@[simp]
theorem ids_leave (ledger : Ledger) (ticket : Ticket) (ids : List PoolId) :
    (ledger.leave ticket ids).2.ids = ledger.ids := by
  induction ids generalizing ledger with
  | nil => rfl
  | cons id rest ih =>
      rw [leave]
      split
      next => exact ih ledger
      next => exact (ih _).trans (ids_put _ _ _)

theorem pool?_leave (ledger : Ledger) (ticket : Ticket) {ids : List PoolId} (hnodup : ids.Nodup)
    (other : PoolId) :
    (ledger.leave ticket ids).2.pool? other =
      if other ∈ ids then (ledger.pool? other).map fun pool => (pool.leave ticket).2
      else ledger.pool? other := by
  induction ids generalizing ledger with
  | nil => simp [leave]
  | cons id rest ih =>
      obtain ⟨hid, hrest⟩ := List.nodup_cons.mp hnodup
      have hfirst : (ledger.leave ticket (id :: rest)).2.pool? other =
          if other ∈ rest then
            (if other = id then (ledger.pool? id).map fun pool => (pool.leave ticket).2
              else ledger.pool? other).map fun pool => (pool.leave ticket).2
          else
            if other = id then (ledger.pool? id).map fun pool => (pool.leave ticket).2
            else ledger.pool? other := by
        rw [leave]
        split
        next hnone =>
          rw [ih ledger hrest, hnone]
          by_cases hsame : other = id
          · simp [hsame, hnone]
          · simp [hsame]
        next pool hpool =>
          rw [ih _ hrest, pool?_put, hpool]
          rfl
      rw [hfirst]
      by_cases hsame : other = id
      · subst hsame
        simp [hid]
      · simp [hsame]

/-! ## Limits -/

theorem limit_put (ledger : Ledger) (id other : PoolId) {pool found : Pool}
    (hfound : ledger.pool? id = some found) (hlimit : pool.limit = found.limit) :
    ((ledger.put id pool).pool? other).map (·.limit) = (ledger.pool? other).map (·.limit) := by
  rw [pool?_put]
  split
  next hsame =>
    rw [hsame, hfound]
    simpa using hlimit
  next => rfl

theorem limit_claim (ledger : Ledger) (ticket : Ticket) (id other : PoolId) :
    ((ledger.claim ticket id).2.pool? other).map (·.limit) =
      (ledger.pool? other).map (·.limit) := by
  unfold claim
  split
  next => rfl
  next pool hpool => exact limit_put ledger id other hpool (pool.limit_claim ticket)

theorem limit_leave (ledger : Ledger) (ticket : Ticket) (ids : List PoolId) (other : PoolId) :
    ((ledger.leave ticket ids).2.pool? other).map (·.limit) =
      (ledger.pool? other).map (·.limit) := by
  induction ids generalizing ledger with
  | nil => rfl
  | cons id rest ih =>
      rw [leave]
      split
      next => exact ih ledger
      next pool hpool =>
        exact (ih _).trans (limit_put ledger id other hpool (pool.limit_leave ticket))

end Ledger

end SeriesGateway.Fetch
