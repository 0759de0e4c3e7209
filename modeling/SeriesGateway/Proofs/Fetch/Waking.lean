import SeriesGateway.Proofs.Admission.Hall
import SeriesGateway.Proofs.Fetch.Courses

/-! # Who is woken

A slot that is given back goes to someone who waits for it, and nobody waits but those
who asked. So all who are woken in a turn have asked for slots before.
-/

namespace SeriesGateway.Fetch

variable {known : GroupId → Prop}

/-! ## Slots -/

/-- Only queries of known groups wait for a slot. -/
def Ledger.Knows (known : GroupId → Prop) (ledger : Ledger) : Prop :=
  ∀ id pool, ledger.pool? id = some pool → ∀ ticket ∈ pool.waiting, known ticket.group

namespace Ledger

variable {ledger : Ledger}

theorem knows_ofConfig (known : GroupId → Prop) (config : FetchConfig) (requests : Nat) :
    (ofConfig config requests).Knows known := by
  have hempty : ∀ entry ∈ (ofConfig config requests).pools, entry.2.waiting = [] := by
    have hlimited : ∀ {id limit entry}, entry ∈ limited id limit → entry.2.waiting = [] := by
      intro id limit entry hentry
      rw [(mem_limited.mp hentry).2]
      rfl
    intro entry hentry
    simp only [ofConfig, List.mem_append, List.mem_flatMap] at hentry
    rcases hentry with (hall | ⟨_, -, hbucket⟩) | ⟨_, -, hrequest⟩
    · exact hlimited hall
    · exact hlimited hbucket
    · exact hlimited hrequest
  intro id pool hpool ticket hticket
  have hentry := (pool?_eq_some_iff (nodup_ids_ofConfig config requests)).mp hpool
  rw [hempty _ hentry] at hticket
  cases hticket

theorem Knows.put (h : ledger.Knows known) {id : PoolId} {pool : Pool}
    (hpool : ∀ ticket ∈ pool.waiting, known ticket.group) : (ledger.put id pool).Knows known := by
  intro other found hfound
  rw [pool?_put] at hfound
  split at hfound
  next =>
    obtain ⟨_, -, rfl⟩ := Option.map_eq_some_iff.mp hfound
    exact hpool
  next => exact h other found hfound

theorem Knows.claim (h : ledger.Knows known) {ticket : Ticket} (hticket : known ticket.group)
    (id : PoolId) : (ledger.claim ticket id).2.Knows known := by
  unfold Ledger.claim
  split
  next => exact h
  next pool hpool =>
    apply h.put
    intro other hother
    rcases Pool.mem_waiting_claim.mp hother with hbefore | ⟨rfl, -⟩
    · exact h id pool hpool other hbefore
    · exact hticket

theorem Knows.enter (h : ledger.Knows known) {ticket : Ticket} (hticket : known ticket.group)
    (ids : List PoolId) : (ledger.enter ticket ids).2.Knows known := by
  induction ids generalizing ledger with
  | nil => exact h
  | cons id rest ih =>
      have hclaim := h.claim hticket id
      unfold Ledger.enter
      split
      next hclaimed =>
        rw [hclaimed] at hclaim
        exact ih hclaim
      next hclaimed =>
        rw [hclaimed] at hclaim
        exact hclaim

theorem Knows.leave (h : ledger.Knows known) (ticket : Ticket) (ids : List PoolId) :
    (ledger.leave ticket ids).2.Knows known ∧
      ∀ next ∈ (ledger.leave ticket ids).1, known next.group := by
  induction ids generalizing ledger with
  | nil => exact ⟨h, by simp [Ledger.leave]⟩
  | cons id rest ih =>
      unfold Ledger.leave
      split
      next => exact ih h
      next pool hpool =>
        have hput : (ledger.put id (pool.leave ticket).2).Knows known :=
          h.put fun other hother => h id pool hpool other (Pool.mem_waiting_of_leave hother)
        obtain ⟨hledger, hothers⟩ := ih hput
        refine ⟨hledger, fun next hnext => ?_⟩
        rcases List.mem_append.mp hnext with hfirst | hlater
        · apply h id pool hpool
          unfold Pool.leave at hfirst
          split at hfirst
          next =>
            split at hfirst
            next => cases hfirst
            next hwaiting => simp_all
          next => cases hfirst
        · exact hothers next hlater

end Ledger

/-- Only known groups wait for a slot or were woken in this turn. -/
structure Floor.Knows (known : GroupId → Prop) (floor : Floor) : Prop where
  waiting : floor.ledger.Knows known
  woken : ∀ id ∈ floor.woken, known id

theorem Floor.Knows.record {floor : Floor} (h : floor.Knows known) (event : Event) :
    (floor.record event).Knows known :=
  ⟨h.waiting, h.woken⟩

theorem Floor.Knows.leave {floor : Floor} (h : floor.Knows known) (ticket : Ticket)
    (pools : List PoolId) : (floor.leave ticket pools).Knows known := by
  obtain ⟨hledger, hnext⟩ := h.waiting.leave ticket pools
  refine ⟨hledger, fun id hid => ?_⟩
  rcases List.mem_append.mp hid with hbefore | hnow
  · exact h.woken id hbefore
  · obtain ⟨next, hmem, rfl⟩ := List.mem_map.mp hnow
    exact hnext next hmem

/-! ## Queries -/

namespace QueryRun

variable {floor : Floor}

theorem knows_awaitBody (run : QueryRun) (h : floor.Knows known) (stream : Stream)
    (reception : Wire.Reception) (left : List Delivery) (arrives expires : Timer) :
    (run.awaitBody stream reception left arrives expires floor).2.Knows known := by
  unfold awaitBody
  split
  next => exact h.leave _ _
  next =>
    split
    · exact h.leave _ _
    · exact h

theorem knows_awaitAnswer (run : QueryRun) (h : floor.Knows known) (answer : Answer)
    (arrives expires : Timer) :
    (run.awaitAnswer answer arrives expires floor).2.Knows known := by
  have hreturned := h.record (.returned run.ticket)
  unfold awaitAnswer
  split
  · dsimp only
    split
    · exact hreturned.leave _ _
    · exact hreturned.leave _ _
    · exact run.knows_awaitBody hreturned _ _ _ _ _
  · split
    · exact hreturned.leave _ _
    · exact h

theorem knows_act (storage : Storage) (run : QueryRun) (h : floor.Knows known)
    (hrun : known run.ticket.group) : (run.act storage floor).2.Knows known := by
  by_cases hwaiting : run.isWaiting = true
  · have hentered : Floor.Knows known
        { floor with ledger := (floor.ledger.enter run.ticket run.pools).2 } :=
      ⟨h.waiting.enter hrun run.pools, h.woken⟩
    rw [act_eq_of_isWaiting storage hwaiting]
    dsimp only
    split
    · exact run.knows_awaitAnswer (hentered.record _) _ _ _
    · split
      · exact hentered.leave _ _
      · exact hentered
  · unfold act
    split
    next hphase => simp [isWaiting, hphase] at hwaiting
    next => exact run.knows_awaitAnswer h _ _ _
    next => exact run.knows_awaitBody h _ _ _ _ _
    next => exact h
    next => exact h

theorem knows_cancel (run : QueryRun) (h : floor.Knows known) : (cancel floor run).Knows known := by
  unfold cancel
  split
  next => exact h.leave _ _
  next => exact (h.record _).leave _ _
  next => exact h.leave _ _
  next => exact h
  next => exact h

end QueryRun

namespace Fetching

variable {floor : Floor}

theorem knows_actAll (storage : Storage) (reversed : Bool) (store : PointStore)
    (h : floor.Knows known) {queries : List QueryRun}
    (hqueries : ∀ query ∈ queries, known query.ticket.group) :
    (actAll storage reversed store floor queries).2.2.Knows known := by
  induction queries generalizing store floor with
  | nil => exact h
  | cons run rest ih =>
      obtain ⟨hrun, hrest⟩ := List.forall_mem_cons.mp hqueries
      have hfirst := run.knows_act storage h hrun
      rw [actAll]
      dsimp only
      split
      · exact hfirst
      · exact ih _ hfirst hrest

theorem knows_cancel (h : floor.Knows known) (queries : List QueryRun) :
    (cancel floor queries).Knows known := by
  induction queries generalizing floor with
  | nil => exact h
  | cons run rest ih => exact ih (run.knows_cancel h)

end Fetching

/-! ## Groups -/

theorem RecentRun.knows_act (context : RequestContext) (group : GroupId) (metrics : List String)
    (start stop : UInt32) {floor : Floor} (h : floor.Knows known) (run : RecentRun) :
    (run.act context group metrics start stop floor).2.Knows known := by
  unfold act
  split
  · split
    · exact h
    · exact h.record _
  · exact h
  · exact h
  · exact h

namespace GroupRun

variable {context : RequestContext} {run : GroupRun} {barrier : Step.Barrier} {floor next : Floor}
  {turn : Turn}

theorem Fetched.knows {work : Fetching} (h : run.Fetched context work floor turn next)
    (hfloor : floor.Knows known) (hqueries : ∀ query ∈ work.queries, known query.ticket.group) :
    next.Knows known := by
  have hacted : (run.acted context work floor).2.2.Knows known :=
    Fetching.knows_actAll _ _ _ hfloor hqueries
  have hasked : (run.asked context work floor).2.Knows known :=
    RecentRun.knows_act _ _ _ _ _ hacted _
  cases h with
  | crashesFirst => exact Fetching.knows_cancel hfloor _
  | crashes => exact Fetching.knows_cancel hacted _
  | crashesLast => exact Fetching.knows_cancel hasked _
  | ends => exact hasked
  | goesOn => exact hasked

theorem Advanced.knows (h : run.Advanced context barrier floor turn next)
    (hfloor : floor.Knows known) (hrun : known run.id)
    (hqueries : ∀ query ∈ run.phase.queries, known query.ticket.group) : next.Knows known := by
  cases h with
  | waits => exact hfloor
  | unplanned => exact hfloor
  | fetches =>
      unfold fetch
      dsimp only
      split
      next => exact hfloor
      next =>
        apply (fetched_fetchOn context run _ floor).knows hfloor
        intro query hquery
        obtain ⟨entry, -, rfl⟩ := List.mem_map.mp hquery
        exact hrun
  | goesOn hfetching =>
      rw [hfetching] at hqueries
      exact (fetched_fetchOn context run _ floor).knows hfloor hqueries

theorem knows_act (hopen : run.isDone = false) (hcourse : run.OnCourse context)
    (barrier : Step.Barrier) (hfloor : floor.Knows known) (hrun : known run.id)
    (hqueries : ∀ query ∈ run.phase.queries, known query.ticket.group) :
    (run.act context barrier floor).2.2.2.Knows known := by
  have hadvanced := (advanced_advance hopen hcourse barrier floor).knows hfloor hrun hqueries
  rcases run.act_cases context barrier floor with
    ⟨result, -, hact⟩ | ⟨phase, -, -, hact⟩ | ⟨phase, -, -, hact⟩ <;> rw [hact]
  · exact hadvanced
  · dsimp only
    unfold abandonPhase
    split
    · exact Fetching.knows_cancel hadvanced _
    · exact hadvanced
  · exact hadvanced

end GroupRun

end SeriesGateway.Fetch
