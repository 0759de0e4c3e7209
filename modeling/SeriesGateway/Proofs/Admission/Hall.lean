import Mathlib.Data.List.Flatten
import Mathlib.Data.List.Perm.Subperm
import Mathlib.Logic.Function.Basic
import SeriesGateway.Proofs.Admission.Pool

/-! # Queries among the pools

Any number of queries, of any number of requests, ask for their slots one by one,
each in the order request, bucket, all; a query that has all of them runs. At any
time a query may leave for whatever reason, with whatever it has by then. In every
state this can come to the slots of a pool are free or held, never more queries run
on a pool than it has slots, and whoever has left holds nothing. Because all ask in
one order, a query that waits never waits for a circle of others.
-/

namespace SeriesGateway.Fetch

/-- How a query stands with its pools, in the order it asks them: those it was given
a slot of, and those it still needs one of. -/
structure Standing where
  held : List PoolId
  left : List PoolId
deriving DecidableEq, Repr

/-- The pools, and the queries that have arrived and not left. -/
structure Hall where
  ledger : Ledger
  standings : Ticket → Option Standing

namespace Hall

/-- What can happen to one query. -/
inductive Act where
  | arrive (ticket : Ticket) (range : UInt32)
  /-- It asks for the next slot it needs. -/
  | ask (ticket : Ticket)
  /-- It leaves: its round trip is over, it failed, it ran out of time or was given up. -/
  | depart (ticket : Ticket)

def opening (config : FetchConfig) (requests : Nat) : Hall :=
  ⟨.ofConfig config requests, fun _ => none⟩

def perform (config : FetchConfig) (hall : Hall) : Act → Hall
  | .arrive ticket range =>
    match hall.standings ticket with
    | none =>
      ⟨hall.ledger, Function.update hall.standings ticket
        (some ⟨[], poolsFor config ticket.group.request range⟩)⟩
    | some _ => hall
  | .ask ticket =>
    match hall.standings ticket with
    | some ⟨held, id :: left⟩ =>
      match hall.ledger.claim ticket id with
      | (true, ledger) =>
        ⟨ledger, Function.update hall.standings ticket (some ⟨held ++ [id], left⟩)⟩
      | (false, ledger) => ⟨ledger, hall.standings⟩
    | _ => hall
  | .depart ticket =>
    match hall.standings ticket with
    | some standing =>
      ⟨(hall.ledger.leave ticket (standing.held ++ standing.left)).2,
        Function.update hall.standings ticket none⟩
    | none => hall

/-- The hall after the acts of any number of queries, one at a time and in any order. -/
def after (config : FetchConfig) (hall : Hall) (acts : List Act) : Hall :=
  acts.foldl (perform config) hall

/-- The query has arrived and needs a slot that it was not given yet. -/
def Waits (hall : Hall) (ticket : Ticket) : Prop :=
  ∃ held id left, hall.standings ticket = some ⟨held, id :: left⟩

/-- The query has all slots that it needs. -/
def Runs (hall : Hall) (ticket : Ticket) : Prop :=
  ∃ held, hall.standings ticket = some ⟨held, []⟩

end Hall

/-! ## Pools in order -/

/-- The place of a pool in the order in which slots are asked for. -/
def PoolId.rank : PoolId → Nat
  | request _ => 0
  | bucket _ => 1
  | all => 2

/-- The slots of a pool, as they are configured for a number of requests; zero is no
limit. -/
def slotsOf (config : FetchConfig) (requests : Nat) : PoolId → Nat
  | .request number => if number < requests then config.maxQueriesPerRequest else 0
  | .bucket position => ((config.rangeLimits[position]?).map (·.maxConcurrent)).getD 0
  | .all => config.maxConcurrentQueries

theorem pairwise_poolsFor (config : FetchConfig) (request : Nat) (range : UInt32) :
    (poolsFor config request range).Pairwise fun a b => a.rank < b.rank := by
  unfold poolsFor
  cases config.bucket? range <;> simp [PoolId.rank]

theorem nodup_poolsFor (config : FetchConfig) (request : Nat) (range : UInt32) :
    (poolsFor config request range).Nodup := by
  apply (pairwise_poolsFor config request range).imp
  rintro a b hlt rfl
  exact Nat.lt_irrefl _ hlt

namespace Ledger

variable {config : FetchConfig} {requests : Nat}

/-- There is a slot for a ticket in a pool: it has no limit, one is free, or somebody left
one to the ticket. -/
def HasSlot (ledger : Ledger) (ticket : Ticket) (id : PoolId) : Prop :=
  ∀ pool, ledger.pool? id = some pool → 0 < pool.free ∨ ticket ∈ pool.holders

theorem limited_sublist (id : PoolId) (limit : Nat) :
    ((limited id limit).map (·.1)).Sublist [id] := by
  unfold limited
  split <;> simp

theorem mem_limited {id : PoolId} {limit : Nat} {entry : PoolId × Pool} :
    entry ∈ limited id limit ↔ limit ≠ 0 ∧ entry = (id, .ofLimit limit) := by
  unfold limited
  split
  next hnone => simp [hnone]
  next hsome => simp [hsome]

theorem nodup_ids_ofConfig (config : FetchConfig) (requests : Nat) :
    (ofConfig config requests).ids.Nodup := by
  let names : List PoolId := [.all] ++
    (config.rangeLimits.zipIdx.map fun entry => .bucket entry.2) ++
    (List.range requests).map .request
  have hbuckets : (config.rangeLimits.zipIdx.map fun entry => PoolId.bucket entry.2).Nodup := by
    rw [← Function.comp_def, ← List.map_map, List.zipIdx_map_snd]
    exact List.Nodup.map (fun a b hsame => PoolId.bucket.inj hsame) List.nodup_range'
  have hnames : names.Nodup := by
    refine List.nodup_append.mpr ⟨List.nodup_append.mpr ⟨?_, hbuckets, ?_⟩, ?_, ?_⟩
    · exact List.nodup_singleton _
    · rintro a ha b hb rfl
      obtain rfl := List.mem_singleton.mp ha
      obtain ⟨entry, -, hsame⟩ := List.mem_map.mp hb
      cases hsame
    · exact List.Nodup.map (fun a b hsame => PoolId.request.inj hsame) List.nodup_range
    · rintro a ha b hb rfl
      obtain ⟨number, -, rfl⟩ := List.mem_map.mp hb
      simp at ha
  refine hnames.sublist ?_
  rw [ids, ofConfig, List.map_append, List.map_append]
  refine ((limited_sublist _ _).append ?_).append ?_
  · rw [List.map_flatMap, List.map_eq_flatMap]
    exact List.Sublist.flatMap_right _ fun entry _ => limited_sublist _ _
  · rw [List.map_flatMap, List.map_eq_flatMap]
    exact List.Sublist.flatMap_right _ fun number _ => limited_sublist _ _

theorem pool?_ofConfig (config : FetchConfig) (requests : Nat) (id : PoolId) :
    (ofConfig config requests).pool? id =
      if slotsOf config requests id = 0 then none
      else some (.ofLimit (slotsOf config requests id)) := by
  apply Option.ext
  intro pool
  rw [pool?_eq_some_iff (nodup_ids_ofConfig config requests)]
  have hmem : (id, pool) ∈ (ofConfig config requests).pools ↔
      slotsOf config requests id ≠ 0 ∧ pool = .ofLimit (slotsOf config requests id) := by
    rw [ofConfig]
    simp only [List.mem_append, List.mem_flatMap, mem_limited, Prod.exists,
      List.mem_zipIdx_iff_getElem?, List.mem_range, Prod.mk.injEq]
    cases id with
    | request number =>
        by_cases hlt : number < requests <;> simp [slotsOf, hlt]
    | bucket position =>
        cases hlimit : config.rangeLimits[position]? with
        | none => simp [slotsOf, hlimit]
        | some limit => simp [slotsOf, hlimit]
    | all => simp [slotsOf]
  rw [hmem]
  split
  next hnone => simp [hnone]
  next hsome => simp [hsome, eq_comm]

theorem slotsOf_le (hopen : CanOpen config) (requests : Nat) (id : PoolId) :
    slotsOf config requests id ≤ Pool.capacity := by
  obtain ⟨hall, hbuckets, hrequest⟩ := hopen
  cases id with
  | request number =>
      rw [slotsOf]
      split
      next => exact hrequest
      next => exact Nat.zero_le _
  | bucket position =>
      cases hlimit : config.rangeLimits[position]? with
      | none => simp [slotsOf, hlimit]
      | some limit => simpa [slotsOf, hlimit] using hbuckets limit (List.mem_of_getElem? hlimit)
  | all => exact hall

/-- Pools can be made exactly by the settings that give none of them too many slots. -/
theorem canOpen_iff (config : FetchConfig) :
    CanOpen config ↔ ∀ requests id pool, (ofConfig config requests).pool? id = some pool →
      pool.limit ≤ Pool.capacity := by
  constructor
  · intro hopen requests id pool hpool
    rw [pool?_ofConfig] at hpool
    split at hpool
    next => cases hpool
    next =>
      obtain rfl := Option.some.inj hpool
      exact slotsOf_le hopen requests id
  · intro hlimits
    have hslots : ∀ id, slotsOf config 1 id ≤ Pool.capacity := by
      intro id
      by_cases hnone : slotsOf config 1 id = 0
      · rw [hnone]
        exact Nat.zero_le _
      · exact hlimits 1 id _ (by rw [pool?_ofConfig, if_neg hnone])
    refine ⟨hslots .all, fun limit hlimit => ?_, hslots (.request 0)⟩
    obtain ⟨position, hposition⟩ := List.mem_iff_getElem?.mp hlimit
    simpa [slotsOf, hposition] using hslots (.bucket position)

end Ledger

namespace Hall

/-! ## Order in the hall -/

/-- Who stands where after one ticket has moved. -/
theorem standing_of_update {standings : Ticket → Option Standing} {ticket other : Ticket}
    {moved : Option Standing} {standing : Standing}
    (h : Function.update standings ticket moved other = some standing) :
    other = ticket ∧ moved = some standing ∨
      other ≠ ticket ∧ standings other = some standing := by
  rw [Function.update_apply] at h
  split at h
  next hsame => exact .inl ⟨hsame, h⟩
  next hother => exact .inr ⟨hother, h⟩

/-- What is certain of a hall: its pools are in balance, a query has the slots it was
given, and only the query itself has them; besides these a query has at most the slot
it asks for next, if somebody left it to it, and it waits for no other. -/
structure Orderly (config : FetchConfig) (hall : Hall) : Prop where
  nodup_ids : hall.ledger.ids.Nodup
  balanced : ∀ {id pool}, hall.ledger.pool? id = some pool → pool.Balanced
  needs : ∀ {ticket standing}, hall.standings ticket = some standing →
    ∃ range, standing.held ++ standing.left = poolsFor config ticket.group.request range
  mem_holders : ∀ {id pool}, hall.ledger.pool? id = some pool →
    ∀ {ticket standing}, hall.standings ticket = some standing → id ∈ standing.held →
      ticket ∈ pool.holders
  of_mem_holders : ∀ {id pool}, hall.ledger.pool? id = some pool → ∀ {ticket},
    ticket ∈ pool.holders → ∃ standing, hall.standings ticket = some standing ∧
      (id ∈ standing.held ∨ standing.left.head? = some id)
  of_mem_waiting : ∀ {id pool}, hall.ledger.pool? id = some pool → ∀ {ticket},
    ticket ∈ pool.waiting → ∃ standing, hall.standings ticket = some standing ∧
      standing.left.head? = some id

variable {config : FetchConfig} {requests : Nat} {hall : Hall}

theorem orderly_opening (config : FetchConfig) (requests : Nat) :
    Orderly config (opening config requests) := by
  have hpools : ∀ {id pool}, (opening config requests).ledger.pool? id = some pool →
      ∃ limit, pool = .ofLimit limit := by
    intro id pool hpool
    rw [opening, Ledger.pool?_ofConfig] at hpool
    split at hpool
    next => cases hpool
    next => exact ⟨_, (Option.some.inj hpool).symm⟩
  refine
    { nodup_ids := Ledger.nodup_ids_ofConfig config requests, balanced := ?_,
      needs := by simp [opening], mem_holders := ?_, of_mem_holders := ?_, of_mem_waiting := ?_ }
  · intro id pool hpool
    obtain ⟨limit, rfl⟩ := hpools hpool
    exact Pool.balanced_ofLimit limit
  · simp [opening]
  · intro id pool hpool ticket hholds
    obtain ⟨limit, rfl⟩ := hpools hpool
    cases hholds
  · intro id pool hpool ticket hwaits
    obtain ⟨limit, rfl⟩ := hpools hpool
    cases hwaits

namespace Orderly

theorem arrive (h : Orderly config hall) (ticket : Ticket) (range : UInt32) :
    Orderly config (hall.perform config (.arrive ticket range)) := by
  rw [perform]
  split
  next hnew =>
    have hold : ∀ {other standing}, hall.standings other = some standing → other ≠ ticket := by
      rintro other standing hstanding rfl
      rw [hnew] at hstanding
      cases hstanding
    refine { h with needs := ?_, mem_holders := ?_, of_mem_holders := ?_, of_mem_waiting := ?_ }
    · intro other standing hstanding
      rcases standing_of_update hstanding with ⟨rfl, hmoved⟩ | ⟨-, hstill⟩
      · cases hmoved
        exact ⟨range, rfl⟩
      · exact h.needs hstill
    · intro id pool hpool other standing hstanding hheld
      rcases standing_of_update hstanding with ⟨-, hmoved⟩ | ⟨-, hstill⟩
      · cases hmoved
        cases hheld
      · exact h.mem_holders hpool hstill hheld
    · intro id pool hpool other hholds
      obtain ⟨standing, hstanding, hplace⟩ := h.of_mem_holders hpool hholds
      exact ⟨standing, (Function.update_of_ne (hold hstanding) _ _).trans hstanding, hplace⟩
    · intro id pool hpool other hwaits
      obtain ⟨standing, hstanding, hplace⟩ := h.of_mem_waiting hpool hwaits
      exact ⟨standing, (Function.update_of_ne (hold hstanding) _ _).trans hstanding, hplace⟩
  next => exact h

/-- Asking for a slot of a pool makes the ticket a holder if it is given one, makes it
wait if not, and changes nothing else. -/
theorem exists_pool_of_claim (h : Orderly config hall) {ticket : Ticket} {id name : PoolId}
    {given : Bool} {ledger : Ledger} (hclaim : hall.ledger.claim ticket id = (given, ledger))
    {found : Pool} (hfound : ledger.pool? name = some found) :
    ∃ pool, hall.ledger.pool? name = some pool ∧ found.Balanced ∧
      (∀ other, other ∈ found.holders ↔ other ∈ pool.holders ∨
        name = id ∧ other = ticket ∧ given = true) ∧
      (∀ other, other ∈ found.waiting ↔ other ∈ pool.waiting ∨
        name = id ∧ other = ticket ∧ given = false) := by
  have hgiven : (hall.ledger.claim ticket id).1 = given := congrArg Prod.fst hclaim
  have hledger : (hall.ledger.claim ticket id).2 = ledger := congrArg Prod.snd hclaim
  rw [← hledger, Ledger.pool?_claim] at hfound
  split at hfound
  next hsame =>
    subst hsame
    obtain ⟨pool, hpool, rfl⟩ := Option.map_eq_some_iff.mp hfound
    have hfst : (pool.claim ticket).1 = given := by rw [← hgiven, Ledger.claim, hpool]
    refine ⟨pool, hpool, (h.balanced hpool).claim ticket, fun other => ?_, fun other => ?_⟩
    · rw [Pool.mem_holders_claim, hfst]
      simp
    · rw [Pool.mem_waiting_claim, hfst]
      simp
  next hother =>
    exact ⟨found, hfound, h.balanced hfound, by simp [hother], by simp [hother]⟩

theorem nodup_ids_of_claim (h : Orderly config hall) {ticket : Ticket} {id : PoolId}
    {given : Bool} {ledger : Ledger} (hclaim : hall.ledger.claim ticket id = (given, ledger)) :
    ledger.ids.Nodup := by
  have hledger : (hall.ledger.claim ticket id).2 = ledger := congrArg Prod.snd hclaim
  rw [← hledger, Ledger.ids_claim]
  exact h.nodup_ids

/-- A query that is given the slot it asks for has it. -/
theorem granted (h : Orderly config hall) {ticket : Ticket} {held left : List PoolId}
    {id : PoolId} (hasking : hall.standings ticket = some ⟨held, id :: left⟩) {ledger : Ledger}
    (hclaim : hall.ledger.claim ticket id = (true, ledger)) :
    Orderly config
      ⟨ledger, Function.update hall.standings ticket (some ⟨held ++ [id], left⟩)⟩ := by
  have hpools {name found} (hfound : ledger.pool? name = some found) :=
    h.exists_pool_of_claim hclaim hfound
  simp only [Bool.true_eq_false, and_true, and_false, or_false] at hpools
  refine
    { nodup_ids := h.nodup_ids_of_claim hclaim, balanced := ?_, needs := ?_, mem_holders := ?_,
      of_mem_holders := ?_, of_mem_waiting := ?_ }
  · intro name found hfound
    obtain ⟨-, -, hbalanced, -⟩ := hpools hfound
    exact hbalanced
  · intro other standing hstanding
    rcases standing_of_update hstanding with ⟨rfl, hmoved⟩ | ⟨-, hstill⟩
    · cases hmoved
      simpa using h.needs hasking
    · exact h.needs hstill
  · intro name found hfound other standing hstanding hheld
    obtain ⟨pool, hpool, -, hholders, -⟩ := hpools hfound
    rw [hholders]
    rcases standing_of_update hstanding with ⟨rfl, hmoved⟩ | ⟨-, hstill⟩
    · cases hmoved
      rcases List.mem_append.mp hheld with hold | hnew
      · exact .inl (h.mem_holders hpool hasking hold)
      · exact .inr ⟨List.mem_singleton.mp hnew, rfl⟩
    · exact .inl (h.mem_holders hpool hstill hheld)
  · intro name found hfound other hholds
    obtain ⟨pool, hpool, -, hholders, -⟩ := hpools hfound
    simp only [Function.update_apply]
    rcases (hholders other).mp hholds with hold | ⟨rfl, rfl⟩
    · obtain ⟨standing, hstanding, hplace⟩ := h.of_mem_holders hpool hold
      split
      next hsame =>
        -- the slot it was given is now one it has
        rw [hsame, hasking] at hstanding
        obtain rfl := Option.some.inj hstanding
        refine ⟨_, rfl, .inl ?_⟩
        simpa [eq_comm] using hplace
      next => exact ⟨standing, hstanding, hplace⟩
    · exact ⟨_, if_pos rfl, .inl (by simp)⟩
  · intro name found hfound other hwaits
    obtain ⟨pool, hpool, hbalanced, hholders, hwaiting⟩ := hpools hfound
    obtain ⟨standing, hstanding, hplace⟩ := h.of_mem_waiting hpool ((hwaiting other).mp hwaits)
    simp only [Function.update_apply]
    split
    next hsame =>
      -- nobody both has a slot of a pool and waits for one
      subst hsame
      rw [hasking] at hstanding
      obtain rfl := Option.some.inj hstanding
      have hname : name = id := by simpa [eq_comm] using hplace
      exact absurd ((hholders other).mpr (.inr ⟨hname, rfl⟩)) (hbalanced.apart other hwaits)
    next => exact ⟨standing, hstanding, hplace⟩

/-- A query that is not given the slot it asks for waits for it. -/
theorem queued (h : Orderly config hall) {ticket : Ticket} {held left : List PoolId}
    {id : PoolId} (hasking : hall.standings ticket = some ⟨held, id :: left⟩) {ledger : Ledger}
    (hclaim : hall.ledger.claim ticket id = (false, ledger)) :
    Orderly config ⟨ledger, hall.standings⟩ := by
  have hpools {name found} (hfound : ledger.pool? name = some found) :=
    h.exists_pool_of_claim hclaim hfound
  simp only [Bool.false_eq_true, and_true, and_false, or_false] at hpools
  refine
    { h with
      nodup_ids := h.nodup_ids_of_claim hclaim, balanced := ?_, mem_holders := ?_,
      of_mem_holders := ?_, of_mem_waiting := ?_ }
  · intro name found hfound
    obtain ⟨-, -, hbalanced, -⟩ := hpools hfound
    exact hbalanced
  · intro name found hfound other standing hstanding hheld
    obtain ⟨pool, hpool, -, hholders, -⟩ := hpools hfound
    exact (hholders other).mpr (h.mem_holders hpool hstanding hheld)
  · intro name found hfound other hholds
    obtain ⟨pool, hpool, -, hholders, -⟩ := hpools hfound
    exact h.of_mem_holders hpool ((hholders other).mp hholds)
  · intro name found hfound other hwaits
    obtain ⟨pool, hpool, -, -, hwaiting⟩ := hpools hfound
    rcases (hwaiting other).mp hwaits with hold | ⟨rfl, rfl⟩
    · exact h.of_mem_waiting hpool hold
    · exact ⟨_, hasking, rfl⟩

theorem ask (h : Orderly config hall) (ticket : Ticket) :
    Orderly config (hall.perform config (.ask ticket)) := by
  simp only [perform]
  split
  next hasking =>
    split
    next hclaim => exact h.granted hasking hclaim
    next hclaim => exact h.queued hasking hclaim
  next => exact h

/-- A ticket that leaves takes nothing with it from any pool; what it left goes to who
waits next. -/
theorem exists_pool_of_leave (h : Orderly config hall) {ticket : Ticket} {standing : Standing}
    (hstanding : hall.standings ticket = some standing) {name : PoolId} {found : Pool}
    (hfound : (hall.ledger.leave ticket (standing.held ++ standing.left)).2.pool? name =
      some found) :
    ∃ pool, hall.ledger.pool? name = some pool ∧ found.Balanced ∧
      ticket ∉ found.holders ∧ ticket ∉ found.waiting ∧
      (∀ other ≠ ticket, other ∈ pool.holders → other ∈ found.holders) ∧
      (∀ other, other ∈ found.holders → other ∈ pool.holders ∨ other ∈ pool.waiting) ∧
      (∀ other, other ∈ found.waiting → other ∈ pool.waiting) := by
  have hnodup : (standing.held ++ standing.left).Nodup := by
    obtain ⟨range, hneeds⟩ := h.needs hstanding
    rw [hneeds]
    exact nodup_poolsFor config ticket.group.request range
  rw [Ledger.pool?_leave _ _ hnodup] at hfound
  split at hfound
  next =>
    obtain ⟨pool, hpool, rfl⟩ := Option.map_eq_some_iff.mp hfound
    have hbalanced := h.balanced hpool
    refine ⟨pool, hpool, hbalanced.leave ticket, hbalanced.not_mem_leave.1,
      hbalanced.not_mem_leave.2, ?_, ?_, ?_⟩
    · exact fun other hne hholds => Pool.mem_holders_leave_of_mem hne hholds
    · exact fun other hholds => Pool.mem_of_mem_holders_leave hholds
    · exact fun other hwaits => Pool.mem_waiting_of_leave hwaits
  next hout =>
    rw [List.mem_append, not_or] at hout
    refine ⟨found, hfound, h.balanced hfound, ?_, ?_, fun _ _ => id, fun _ => .inl, fun _ => id⟩
    · intro hholds
      obtain ⟨same, hsame, hplace⟩ := h.of_mem_holders hfound hholds
      rw [hstanding] at hsame
      obtain rfl := Option.some.inj hsame
      exact hplace.elim hout.1 fun hnext => hout.2 (List.mem_of_mem_head? hnext)
    · intro hwaits
      obtain ⟨same, hsame, hnext⟩ := h.of_mem_waiting hfound hwaits
      rw [hstanding] at hsame
      obtain rfl := Option.some.inj hsame
      exact hout.2 (List.mem_of_mem_head? hnext)

theorem depart (h : Orderly config hall) (ticket : Ticket) :
    Orderly config (hall.perform config (.depart ticket)) := by
  simp only [perform]
  split
  next leaving hleaving =>
    have hpools {name found} (hfound : (hall.ledger.leave ticket
        (leaving.held ++ leaving.left)).2.pool? name = some found) :=
      h.exists_pool_of_leave hleaving hfound
    refine
      { nodup_ids := ?_, balanced := ?_, needs := ?_, mem_holders := ?_, of_mem_holders := ?_,
        of_mem_waiting := ?_ }
    · rw [Ledger.ids_leave]
      exact h.nodup_ids
    · intro name found hfound
      obtain ⟨-, -, hbalanced, -⟩ := hpools hfound
      exact hbalanced
    · intro other standing hstanding
      rcases standing_of_update hstanding with ⟨-, hgone⟩ | ⟨-, hstill⟩
      · cases hgone
      · exact h.needs hstill
    · intro name found hfound other standing hstanding hheld
      obtain ⟨pool, hpool, -, -, -, hkept, -⟩ := hpools hfound
      rcases standing_of_update hstanding with ⟨-, hgone⟩ | ⟨hne, hstill⟩
      · cases hgone
      · exact hkept other hne (h.mem_holders hpool hstill hheld)
    · intro name found hfound other hholds
      obtain ⟨pool, hpool, -, hgone, -, -, hholders, -⟩ := hpools hfound
      have hne : other ≠ ticket := fun hsame => hgone (hsame ▸ hholds)
      simp only [Function.update_of_ne hne]
      rcases hholders other hholds with hold | hnext
      · exact h.of_mem_holders hpool hold
      · obtain ⟨standing, hstanding, hplace⟩ := h.of_mem_waiting hpool hnext
        exact ⟨standing, hstanding, .inr hplace⟩
    · intro name found hfound other hwaits
      obtain ⟨pool, hpool, -, -, hgone, -, -, hwaiting⟩ := hpools hfound
      have hne : other ≠ ticket := fun hsame => hgone (hsame ▸ hwaits)
      simp only [Function.update_of_ne hne]
      exact h.of_mem_waiting hpool (hwaiting other hwaits)
  next => exact h

theorem perform (h : Orderly config hall) (act : Act) :
    Orderly config (hall.perform config act) := by
  cases act with
  | arrive ticket range => exact h.arrive ticket range
  | ask ticket => exact h.ask ticket
  | depart ticket => exact h.depart ticket

theorem after (h : Orderly config hall) (acts : List Act) :
    Orderly config (hall.after config acts) := by
  induction acts generalizing hall with
  | nil => exact h
  | cons act rest ih => exact ih (h.perform act)

end Orderly

/-! ## Slots -/

theorem limit_perform (config : FetchConfig) (hall : Hall) (act : Act) (id : PoolId) :
    ((hall.perform config act).ledger.pool? id).map (·.limit) =
      (hall.ledger.pool? id).map (·.limit) := by
  cases act with
  | arrive ticket range =>
      simp only [perform]
      split <;> rfl
  | ask ticket =>
      simp only [perform]
      split
      next held next left _ =>
        have hsame := hall.ledger.limit_claim ticket next id
        split
        next hclaim => rwa [hclaim] at hsame
        next hclaim => rwa [hclaim] at hsame
      next => rfl
  | depart ticket =>
      simp only [perform]
      split
      next => exact hall.ledger.limit_leave ticket _ id
      next => rfl

theorem limit_after (config : FetchConfig) (hall : Hall) (acts : List Act) (id : PoolId) :
    ((hall.after config acts).ledger.pool? id).map (·.limit) =
      (hall.ledger.pool? id).map (·.limit) := by
  induction acts generalizing hall with
  | nil => rfl
  | cons act rest ih => exact (ih _).trans (limit_perform config hall act id)

/-- How the slots of a configuration are shared among the queries of a hall. -/
structure Conserved (config : FetchConfig) (requests : Nat) (hall : Hall) : Prop where
  /-- There is a pool exactly where slots are configured, and it has as many. -/
  limit_eq : ∀ id, (hall.ledger.pool? id).map (·.limit) =
    if slotsOf config requests id = 0 then none else some (slotsOf config requests id)
  /-- Every slot is free or held. -/
  total : ∀ {id pool}, hall.ledger.pool? id = some pool →
    pool.free + pool.holders.length = pool.limit
  /-- Nobody holds two slots of a pool. -/
  nodup_holders : ∀ {id pool}, hall.ledger.pool? id = some pool → pool.holders.Nodup
  /-- A slot that a query was given is held by it. -/
  mem_holders : ∀ {id pool}, hall.ledger.pool? id = some pool →
    ∀ {ticket standing}, hall.standings ticket = some standing → id ∈ standing.held →
      ticket ∈ pool.holders
  /-- A slot is held by a query that was given it, or that asks for it next. -/
  of_mem_holders : ∀ {id pool}, hall.ledger.pool? id = some pool → ∀ {ticket},
    ticket ∈ pool.holders → ∃ standing, hall.standings ticket = some standing ∧
      (id ∈ standing.held ∨ standing.left.head? = some id)
  /-- No more queries run with a slot of a pool than it has slots. -/
  running_le : ∀ {id pool}, hall.ledger.pool? id = some pool → ∀ tickets : List Ticket,
    tickets.Nodup → (∀ ticket ∈ tickets, ∃ held, hall.standings ticket = some ⟨held, []⟩ ∧
      id ∈ held) → tickets.length ≤ pool.limit
  /-- Where no slots are configured, asking always succeeds and takes nothing. -/
  unlimited : ∀ id, slotsOf config requests id = 0 → ∀ ticket,
    hall.ledger.claim ticket id = (true, hall.ledger)
  /-- Who is not there has no slot and no place in a queue. -/
  absent : ∀ {ticket}, hall.standings ticket = none →
    ∀ {id pool}, hall.ledger.pool? id = some pool →
      ticket ∉ pool.holders ∧ ticket ∉ pool.waiting

theorem conserved_after (config : FetchConfig) (requests : Nat) (acts : List Act) :
    Conserved config requests ((opening config requests).after config acts) := by
  have h := (orderly_opening config requests).after acts
  have hlimits : ∀ id, (((opening config requests).after config acts).ledger.pool? id).map
      (·.limit) =
        if slotsOf config requests id = 0 then none else some (slotsOf config requests id) := by
    intro id
    rw [limit_after, opening, Ledger.pool?_ofConfig]
    split <;> rfl
  refine
    { limit_eq := hlimits, total := fun hpool => (h.balanced hpool).total,
      nodup_holders := fun hpool => (h.balanced hpool).nodup_holders,
      mem_holders := h.mem_holders, of_mem_holders := h.of_mem_holders, running_le := ?_,
      unlimited := ?_, absent := ?_ }
  · intro id pool hpool tickets hnodup hrunning
    have hsub : tickets ⊆ pool.holders := by
      intro ticket hticket
      obtain ⟨held, hstanding, hheld⟩ := hrunning ticket hticket
      exact h.mem_holders hpool hstanding hheld
    have htotal := (h.balanced hpool).total
    have hle := (hnodup.subperm hsub).length_le
    omega
  · intro id hnone ticket
    have hlimit := hlimits id
    rw [if_pos hnone, Option.map_eq_none_iff] at hlimit
    rw [Ledger.claim, hlimit]
  · intro ticket hgone id pool hpool
    constructor
    · intro hholds
      obtain ⟨standing, hstanding, -⟩ := h.of_mem_holders hpool hholds
      rw [hgone] at hstanding
      cases hstanding
    · intro hwaits
      obtain ⟨standing, hstanding, -⟩ := h.of_mem_waiting hpool hwaits
      rw [hgone] at hstanding
      cases hstanding

/-! ## Progress -/

/-- The query waits, and there is a slot for it where it needs one next. -/
def Proceeds (hall : Hall) (ticket : Ticket) : Prop :=
  ∃ held id left, hall.standings ticket = some ⟨held, id :: left⟩ ∧
    hall.ledger.HasSlot ticket id

/-- Asking for a slot gives one exactly where there is one. -/
theorem Orderly.claim_fst_iff (h : Orderly config hall) (ticket : Ticket) (id : PoolId) :
    (hall.ledger.claim ticket id).1 = true ↔ hall.ledger.HasSlot ticket id := by
  rw [Ledger.claim_fst]
  exact forall₂_congr fun _ hpool => (h.balanced hpool).claim_fst_iff

/-- Whoever holds the slots of a pool that somebody waits for either runs or waits for
a later pool. So the one that has come furthest finds its next slot. -/
theorem Orderly.exists_runs_or_proceeds (h : Orderly config hall)
    (hpositive : ∀ {id pool}, hall.ledger.pool? id = some pool → 0 < pool.limit) {ticket : Ticket}
    {held left : List PoolId} {id : PoolId}
    (hwaits : hall.standings ticket = some ⟨held, id :: left⟩) :
    (∃ other, hall.Runs other) ∨ ∃ other, hall.Proceeds other := by
  -- by how many places the pool stands before the last one
  induction hrank : PoolId.all.rank - id.rank using Nat.strongRecOn
    generalizing ticket held id left with
  | ind distance ih =>
      by_cases hslot : hall.ledger.HasSlot ticket id
      · exact .inr ⟨ticket, held, id, left, hwaits, hslot⟩
      simp only [Ledger.HasSlot, not_forall, not_or] at hslot
      obtain ⟨pool, hpool, hnone, -⟩ := hslot
      -- no slot is free, so somebody holds one
      have hsome : pool.holders ≠ [] := by
        intro hnobody
        have htotal := (h.balanced hpool).total
        have hlimit := hpositive hpool
        rw [hnobody, List.length_nil] at htotal
        omega
      obtain ⟨holder, hholder⟩ := List.exists_mem_of_ne_nil _ hsome
      obtain ⟨⟨before, after⟩, hstanding, hplace⟩ := h.of_mem_holders hpool hholder
      cases after with
      | nil => exact .inl ⟨holder, before, hstanding⟩
      | cons next rest =>
          rcases hplace with hgiven | hnext
          · obtain ⟨range, hneeds⟩ := h.needs hstanding
            have hordered := pairwise_poolsFor config holder.group.request range
            rw [← hneeds, List.pairwise_append] at hordered
            have hlater := hordered.2.2 id hgiven next List.mem_cons_self
            have hlast : next.rank ≤ PoolId.all.rank := by cases next <;> simp [PoolId.rank]
            exact ih _ (by omega) hstanding rfl
          · obtain rfl := Option.some.inj hnext
            refine .inr ⟨holder, before, next, rest, hstanding, fun found hfound => .inr ?_⟩
            rw [hpool] at hfound
            exact Option.some.inj hfound ▸ hholder

/-- However a hall has come about, nobody in it waits in vain. -/
theorem exists_runs_or_proceeds_after (config : FetchConfig) (requests : Nat) (acts : List Act)
    {ticket : Ticket} (hwaits : ((opening config requests).after config acts).Waits ticket) :
    (∃ other, ((opening config requests).after config acts).Runs other) ∨
      ∃ other, ((opening config requests).after config acts).Proceeds other := by
  obtain ⟨held, id, left, hstanding⟩ := hwaits
  refine ((orderly_opening config requests).after acts).exists_runs_or_proceeds ?_ hstanding
  intro id pool hpool
  have hlimit := (conserved_after config requests acts).limit_eq id
  rw [hpool] at hlimit
  split at hlimit
  next => cases hlimit
  next hsome =>
    rw [Option.map_some, Option.some.injEq] at hlimit
    omega

end Hall

end SeriesGateway.Fetch
