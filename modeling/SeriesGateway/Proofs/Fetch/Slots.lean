import SeriesGateway.Proofs.Admission.Occupancy
import SeriesGateway.Proofs.Fetch.Reachability

/-! # Slots of a run

Every state that a run can come to is one of a hall in which the queries of all groups
stand. So what holds in every hall holds for the pools of a run: no slot is lost, no
pool runs more queries than it has slots, who has ended holds nothing, and a query that
waits never waits in vain.
-/

namespace SeriesGateway.Fetch

/-! ## Tickets of a group -/

theorem map_ticket_of_badges {config : FetchConfig} {id : GroupId} {plan : Plan.QueryPlan}
    {queries : List QueryRun}
    (hbadges : queries.map (·.badge) = RequestRun.badgesOf config id plan) :
    queries.map (·.ticket) = (List.range plan.queries.length).map fun i => ⟨id, i⟩ := by
  calc queries.map (·.ticket) = (queries.map (·.badge)).map (·.1) := by rw [List.map_map]; rfl
    _ = (plan.queries.zipIdx.map (·.2)).map fun i => ⟨id, i⟩ := by
      rw [hbadges, RequestRun.badgesOf, List.map_map, List.map_map]
      rfl
    _ = (List.range plan.queries.length).map fun i => ⟨id, i⟩ := by
      rw [List.zipIdx_map_snd, List.range_eq_range']

theorem nodup_of_badges {config : FetchConfig} {id : GroupId} {plan : Plan.QueryPlan}
    {queries : List QueryRun}
    (hbadges : queries.map (·.badge) = RequestRun.badgesOf config id plan) :
    (queries.map (·.ticket)).Nodup := by
  rw [map_ticket_of_badges hbadges]
  exact List.Nodup.map (fun a b hsame => (Ticket.mk.inj hsame).2) List.nodup_range

theorem group_of_badges {config : FetchConfig} {id : GroupId} {plan : Plan.QueryPlan}
    {queries : List QueryRun}
    (hbadges : queries.map (·.badge) = RequestRun.badgesOf config id plan) :
    ∀ ticket ∈ queries.map (·.ticket), ticket.group = id := by
  rw [map_ticket_of_badges hbadges]
  intro ticket hticket
  obtain ⟨i, -, rfl⟩ := List.mem_map.mp hticket
  rfl

/-- The queries of a new plan wait for all of their slots. -/
theorem admission_of_mem_queriesOf {context : RequestContext} {id : GroupId}
    {plan : Plan.QueryPlan} {query : QueryRun}
    (hquery : query ∈ Fetching.queriesOf context id plan) :
    query.phase = .admission ∧
      ∃ range, query.pools = poolsFor context.config query.ticket.group.request range := by
  obtain ⟨entry, -, rfl⟩ := List.mem_map.mp hquery
  exact ⟨rfl, _, rfl⟩

namespace Hall

/-- Queries of one group have come to stand in a hall, and nobody else of the group. -/
structure Seats (config : FetchConfig) (hall next : Hall) (id : GroupId)
    (queries : List QueryRun) : Prop where
  leads : Leads config hall next (queries.map (·.ticket))
  nodup : (queries.map (·.ticket)).Nodup
  own : ∀ ticket ∈ queries.map (·.ticket), ticket.group = id
  stands : ∀ query ∈ queries, query.Stands (next.standings query.ticket)
  absent : ∀ ticket : Ticket, ticket.group = id → ticket ∉ queries.map (·.ticket) →
    next.standings ticket = none

variable {config : FetchConfig} {hall : Hall}

/-- The queries that a group works on in a turn come to the hall if they are new, and
act in it. -/
theorem seats_acted (horderly : Orderly config hall) (context : RequestContext)
    (hconfig : context.config = config) {group : GroupRun} {barrier : Step.Barrier}
    {work : Fetching} (hwork : group.WorksOn context barrier work)
    (hbadges : work.queries.map (·.badge) = RequestRun.badgesOf config group.id work.plan)
    (hstands : ∀ query ∈ group.phase.queries, query.Stands (hall.standings query.ticket))
    (habsent : ∀ ticket : Ticket, ticket.group = group.id →
      ticket ∉ group.phase.queries.map (·.ticket) → hall.standings ticket = none)
    {floor : Floor} (hledger : hall.ledger = floor.ledger) :
    ∃ next, Seats config hall next group.id (group.acted context work floor).1 ∧
      next.ledger = (group.acted context work floor).2.2.ledger := by
  have hnodup := nodup_of_badges hbadges
  have hown := group_of_badges hbadges
  obtain ⟨here, harrived, hsame, hpresent⟩ : ∃ here,
      Leads config hall here (work.queries.map (·.ticket)) ∧ here.ledger = hall.ledger ∧
        ∀ query ∈ work.queries, query.Stands (here.standings query.ticket) := by
    rcases hwork with hbegun | ⟨hnone, plan, -, rfl⟩
    · refine ⟨hall, .refl config hall _, rfl, ?_⟩
      rwa [hbegun] at hstands
    · apply leads_arrivals hnodup
      intro query hquery
      obtain ⟨hphase, hneeds⟩ := admission_of_mem_queriesOf hquery
      rw [hconfig] at hneeds
      exact ⟨hphase, hneeds,
        habsent _ (hown _ (List.mem_map_of_mem hquery)) (by simp [hnone])⟩
  obtain ⟨next, hacted, hnext, hstanding⟩ := leads_actAll (harrived.orderly horderly) hnodup
    hpresent (hsame.trans hledger) context.storage group.group.isReversed work.store
  have hleads := harrived.trans hacted
  have htickets : (group.acted context work floor).1.map (·.ticket) =
      work.queries.map (·.ticket) :=
    Fetching.map_ticket_actAll _ _ _ _ _
  refine ⟨next,
    { leads := htickets ▸ hleads, nodup := htickets ▸ hnodup, own := htickets ▸ hown,
      stands := hstanding, absent := ?_ }, hnext⟩
  intro ticket hticket hout
  rw [htickets] at hout
  rw [hleads.others ticket hout]
  apply habsent ticket hticket
  rcases hwork with hbegun | ⟨hnone, -⟩
  · rwa [hbegun]
  · simp [hnone]

/-- When the queries are given up, nobody of the group is left. -/
theorem Seats.cancel {next : Hall} {id : GroupId} {queries : List QueryRun}
    (h : Seats config hall next id queries) {floor : Floor} (hledger : next.ledger = floor.ledger) :
    ∃ later, Leads config hall later (queries.map (·.ticket)) ∧
      later.ledger = (Fetching.cancel floor queries).ledger ∧
      ∀ ticket : Ticket, ticket.group = id → later.standings ticket = none := by
  obtain ⟨later, hleft, hlater, hgone⟩ := leads_cancelAll config h.nodup h.stands hledger
  refine ⟨later, h.leads.trans hleft, hlater, fun ticket hticket => ?_⟩
  by_cases hin : ticket ∈ queries.map (·.ticket)
  · exact hgone ticket hin
  · rw [hleft.others ticket hin]
    exact h.absent ticket hticket hin

end Hall

namespace Run

/-- The hall shows the run: it has its pools, and the queries of all groups stand in it,
and nobody else. -/
structure Shown (hall : Hall) (run : Run) : Prop where
  ledger_eq : hall.ledger = run.floor.ledger
  stands : ∀ id, ∀ query ∈ run.queriesAt id, query.Stands (hall.standings query.ticket)
  absent : ∀ ticket, ticket ∉ (run.queriesAt ticket.group).map (·.ticket) →
    hall.standings ticket = none

variable {orchestrator : Orchestrator} {requests : List (Nat × Request)} {run : Run}

theorem shown_start (orchestrator : Orchestrator) (requests : List (Nat × Request)) :
    Shown (.opening orchestrator.config requests.length) (start orchestrator requests) where
  ledger_eq := rfl
  stands id query hquery := by
    rw [queriesAt_start] at hquery
    cases hquery
  absent _ _ := rfl

/-- The queries that a group has on their way are those of a plan. -/
theorem Played.queriesAt_cases (h : Played orchestrator requests run) (id : GroupId) :
    run.queriesAt id = [] ∨
      ∃ plan, (run.queriesAt id).map (·.badge) =
        RequestRun.badgesOf orchestrator.config id plan := by
  unfold queriesAt
  split
  next => exact .inl rfl
  next request hrequest =>
    obtain ⟨_, _, -, henrolled, -⟩ := h.exists_enrolled hrequest
    unfold RequestRun.queriesAt
    cases hgroup : request.groups[id.position]? with
    | none => exact .inl rfl
    | some group =>
        rw [Option.map_some, Option.getD_some]
        cases hphase : group.phase with
        | fetching work => exact .inr ⟨work.plan, henrolled.badges hgroup hphase⟩
        | _ => exact .inl rfl

theorem Played.group_of_query (h : Played orchestrator requests run) {id : GroupId}
    {query : QueryRun} (hquery : query ∈ run.queriesAt id) : query.ticket.group = id := by
  rcases h.queriesAt_cases id with hnone | ⟨plan, hbadges⟩
  · rw [hnone] at hquery
    cases hquery
  · exact group_of_badges hbadges _ (List.mem_map_of_mem hquery)

namespace Shown

variable {hall : Hall}

/-- When the queries of one group have acted, those of all others still stand where they
stood. -/
theorem of_leads (h : Shown hall run) (hrun : Played orchestrator requests run) {after : Run}
    {id : GroupId} {queries : List QueryRun}
    (hqueries : ∀ other, after.queriesAt other =
      if other = id then queries else run.queriesAt other)
    {next : Hall} {tickets : List Ticket}
    (hleads : Hall.Leads orchestrator.config hall next tickets)
    (hown : ∀ ticket ∈ tickets, ticket.group = id) (hledger : next.ledger = after.floor.ledger)
    (hstands : ∀ query ∈ queries, query.Stands (next.standings query.ticket))
    (habsent : ∀ ticket, ticket.group = id → ticket ∉ queries.map (·.ticket) →
      next.standings ticket = none) : Shown next after where
  ledger_eq := hledger
  stands other query hquery := by
    rw [hqueries] at hquery
    split at hquery
    next => exact hstands query hquery
    next hother =>
      have hgroup := hrun.group_of_query hquery
      rw [hleads.others _ fun hin => hother (hgroup ▸ hown _ hin)]
      exact h.stands other query hquery
  absent ticket hout := by
    rw [hqueries] at hout
    split at hout
    next hsame => exact habsent ticket hsame hout
    next hother =>
      rw [hleads.others _ fun hin => hother (hown _ hin)]
      exact h.absent ticket hout

/-- The turn of a group is one of the hall: the queries it works on act, and depart if
the turn ends the group. -/
theorem turn (h : Shown hall run) (horderly : Hall.Orderly orchestrator.config hall)
    (hrun : Played orchestrator requests run) {after : Run} {id : GroupId}
    {request following : RequestRun} {group acted : GroupRun} {turn : Turn} {next : Floor}
    (hrequest : run.requests[id.request]? = some request)
    (hgroup : request.groups[id.position]? = some group)
    (hturned : request.Turned orchestrator id.position group acted turn
      { run.floor with woken := [] } following next)
    (hrequests : after.requests = run.requests.set id.request following)
    (hledger : after.floor.ledger = next.ledger) :
    ∃ tickets later, Hall.Leads orchestrator.config hall later tickets ∧ Shown later after := by
  obtain ⟨started, -, hcourse⟩ := hturned.course
  have hqueries := queriesAt_of_turned hrequest hgroup hturned hrequests
  have hown : run.queriesAt id = group.phase.queries := by
    rw [queriesAt, hrequest]
    simp [RequestRun.queriesAt, hgroup]
  obtain ⟨_, _, -, henrolled, -⟩ := hrun.exists_enrolled hrequest
  have hid : group.id = id := henrolled.id_eq hgroup
  have hbefore : ∀ ticket, ticket.group = id → ticket ∉ group.phase.queries.map (·.ticket) →
      hall.standings ticket = none := by
    rintro ticket rfl hout
    rw [← hown] at hout
    exact h.absent ticket hout
  -- a group that neither has queries nor begins any leaves the hall as it is
  have hquiet : group.phase.queries = [] → turn.phase.queries = [] →
      next.ledger = run.floor.ledger → Shown hall after := by
    intro hnone hafter hsame
    rw [hafter] at hqueries
    rw [hnone] at hbefore
    exact h.of_leads hrun hqueries (.refl _ hall []) (by simp)
      (h.ledger_eq.trans (hsame.symm.trans hledger.symm)) (by simp) hbefore
  -- the queries that a group works on stand in the hall, and act there one by one
  have hworks : ∀ {work : Fetching},
      group.WorksOn (request.context orchestrator started) following.barrier work →
        ∃ here, Hall.Seats orchestrator.config hall here id
            (group.acted (request.context orchestrator started) work
              { run.floor with woken := [] }).1 ∧
          here.ledger = (group.acted (request.context orchestrator started) work
            { run.floor with woken := [] }).2.2.ledger := by
    intro work hwork
    have hbadges := henrolled.map_badge_of_worksOn hgroup hwork
    subst hid
    exact Hall.seats_acted horderly (request.context orchestrator started) rfl hwork
      hbadges (hown ▸ h.stands group.id) hbefore h.ledger_eq
  cases hcourse with
  | waits grouping expires hnone => exact ⟨[], hall, .refl _ hall _, hquiet hnone rfl rfl⟩
  | fails error hnone => exact ⟨[], hall, .refl _ hall _, hquiet hnone rfl rfl⟩
  | empty hnone => exact ⟨[], hall, .refl _ hall _, hquiet hnone rfl rfl⟩
  | works hwork hsame =>
      obtain ⟨here, hseats, hhere⟩ := hworks hwork
      exact ⟨_, here, hseats.leads, h.of_leads hrun hqueries hseats.leads hseats.own
        (hhere.trans (hsame.symm.trans hledger.symm)) hseats.stands hseats.absent⟩
  | @breaks work _ error hfetching hsame =>
      have hbadges := henrolled.badges hgroup hfetching
      rw [hfetching] at hown hbefore
      have hseats : Hall.Seats orchestrator.config hall hall id work.queries :=
        { leads := .refl _ hall _
          nodup := nodup_of_badges hbadges
          own := group_of_badges hbadges
          stands := by
            have hstands := h.stands id
            rwa [hown] at hstands
          absent := hbefore }
      let floor : Floor := { run.floor with woken := [] }
      obtain ⟨later, hleads, hlater, hgone⟩ :=
        hseats.cancel (show hall.ledger = floor.ledger from h.ledger_eq)
      exact ⟨_, later, hleads, h.of_leads hrun hqueries hleads hseats.own
        (hlater.trans (hsame.symm.trans hledger.symm)) (by simp [Turn.phase, GroupPhase.queries])
        fun ticket hticket _ => hgone ticket hticket⟩
  | ends hwork hsame =>
      obtain ⟨here, hseats, hhere⟩ := hworks hwork
      obtain ⟨later, hleads, hlater, hgone⟩ := hseats.cancel hhere
      exact ⟨_, later, hleads, h.of_leads hrun hqueries hleads hseats.own
        (hlater.trans (hsame.symm.trans hledger.symm)) (by simp [Turn.phase, GroupPhase.queries])
        fun ticket hticket _ => hgone ticket hticket⟩

end Shown

/-- Every state that a run can come to is shown by a hall. -/
theorem exists_shown (h : Reachable orchestrator requests run) :
    ∃ acts, Shown ((Hall.opening orchestrator.config requests.length).after orchestrator.config
      acts) run := by
  apply h.rec_happens
  · exact ⟨[], shown_start orchestrator requests⟩
  · rintro run after hrun - hhappens ⟨acts, hshown⟩
    cases hhappens with
    | quiet hledger hcalls hqueries =>
        refine ⟨acts, hshown.ledger_eq.trans hledger.symm, ?_, ?_⟩
        · intro id
          rw [hqueries]
          exact hshown.stands id
        · intro ticket
          rw [hqueries]
          exact hshown.absent ticket
    | turn hrequest hgroup hopen hturned hrequests hledger hcalls =>
        obtain ⟨_, _, hleads, hlater⟩ := hshown.turn ((Hall.orderly_opening _ _).after acts) hrun
          hrequest hgroup hturned hrequests hledger
        -- the turn adds the acts of its queries to those that came before
        obtain ⟨more, rfl⟩ := hleads.exists_acts
        refine ⟨acts ++ more, ?_⟩
        rw [Hall.after, List.foldl_append]
        exact hlater

namespace Shown

variable {hall : Hall}

theorem exists_query (h : Shown hall run) {ticket : Ticket} {standing : Standing}
    (hstanding : hall.standings ticket = some standing) :
    ∃ query ∈ run.queriesAt ticket.group, query.ticket = ticket ∧
      query.Stands (some standing) := by
  by_cases hin : ticket ∈ (run.queriesAt ticket.group).map (·.ticket)
  · obtain ⟨query, hquery, rfl⟩ := List.mem_map.mp hin
    have hstands := h.stands _ query hquery
    rw [hstanding] at hstands
    exact ⟨query, hquery, rfl, hstands⟩
  · rw [h.absent ticket hin] at hstanding
    cases hstanding

/-- A query that runs has all of its slots. -/
theorem standing_of_isRunning (h : Shown hall run) {id : GroupId} {query : QueryRun}
    (hquery : query ∈ run.queriesAt id) (hrunning : query.isRunning = true) :
    hall.standings query.ticket = some ⟨query.pools, []⟩ := by
  simp only [QueryRun.isRunning, Bool.and_eq_true, Bool.not_eq_true'] at hrunning
  have hstands := h.stands id query hquery
  cases hstanding : hall.standings query.ticket with
  | none =>
      rw [hstanding] at hstands
      have hover : query.isOver = true := hstands
      rw [hrunning.2] at hover
      cases hover
  | some standing =>
      rw [hstanding] at hstands
      obtain ⟨-, hpools, hleft⟩ := hstands
      have hnone := hleft.mpr hrunning.1
      rw [hnone, List.append_nil] at hpools
      rw [← hpools, ← hnone]

/-- A query that waits needs a slot that it was not given yet. -/
theorem standing_of_isWaiting (h : Shown hall run) {id : GroupId} {query : QueryRun}
    (hquery : query ∈ run.queriesAt id) (hwaiting : query.isWaiting = true) :
    ∃ held name left, hall.standings query.ticket = some ⟨held, name :: left⟩ := by
  have hstands := h.stands id query hquery
  cases hstanding : hall.standings query.ticket with
  | none =>
      rw [hstanding] at hstands
      have hover : query.isOver = true := hstands
      rw [QueryRun.isOver, QueryRun.phase_of_isWaiting hwaiting] at hover
      cases hover
  | some standing =>
      rw [hstanding] at hstands
      obtain ⟨-, -, hleft⟩ := hstands
      rcases standing with ⟨held, _ | ⟨name, left⟩⟩
      · rw [hwaiting] at hleft
        exact absurd (hleft.mp rfl) (by simp)
      · exact ⟨held, name, left, rfl⟩

end Shown

/-- A group that has ended has no query left. -/
theorem queriesAt_of_isDone {number : Nat} {request : RequestRun}
    (hrequest : run.requests[number]? = some request)
    (hdone : ∀ group ∈ request.groups, group.isDone = true) (position : Nat) :
    run.queriesAt ⟨number, position⟩ = [] := by
  simp only [queriesAt, hrequest, RequestRun.queriesAt]
  cases hgroup : request.groups[position]? with
  | none => rfl
  | some group =>
      have hended := hdone group (List.mem_of_getElem? hgroup)
      simp [GroupRun.isDone_iff_phase.mp hended, GroupPhase.queries]

/-- How the slots of a configuration are shared among the queries of a run. -/
structure Conserved (config : FetchConfig) (requests : Nat) (run : Run) : Prop where
  /-- There is a pool exactly where slots are configured, and it has as many. -/
  limit_eq : ∀ id, (run.floor.ledger.pool? id).map (·.limit) =
    if slotsOf config requests id = 0 then none else some (slotsOf config requests id)
  /-- Every slot is free or held. -/
  total : ∀ {id pool}, run.floor.ledger.pool? id = some pool →
    pool.free + pool.holders.length = pool.limit
  /-- Nobody holds two slots of a pool. -/
  nodup_holders : ∀ {id pool}, run.floor.ledger.pool? id = some pool → pool.holders.Nodup
  /-- A query that runs holds a slot of each of its pools. -/
  mem_holders : ∀ {id pool}, run.floor.ledger.pool? id = some pool → ∀ group,
    ∀ query ∈ run.queriesAt group, query.isRunning = true → id ∈ query.pools →
      query.ticket ∈ pool.holders
  /-- A slot is held by a query that needs it and is not over. -/
  of_mem_holders : ∀ {id pool}, run.floor.ledger.pool? id = some pool →
    ∀ ticket ∈ pool.holders, ∃ query ∈ run.queriesAt ticket.group,
      query.ticket = ticket ∧ query.isOver = false ∧ id ∈ query.pools
  /-- No more queries run with a slot of a pool than it has slots. -/
  running_le : ∀ {id pool}, run.floor.ledger.pool? id = some pool → ∀ tickets : List Ticket,
    tickets.Nodup → (∀ ticket ∈ tickets, ∃ query ∈ run.queriesAt ticket.group,
      query.ticket = ticket ∧ query.isRunning = true ∧ id ∈ query.pools) →
        tickets.length ≤ pool.limit
  /-- Where no slots are configured, asking always succeeds and takes nothing. -/
  unlimited : ∀ id, slotsOf config requests id = 0 → ∀ ticket,
    run.floor.ledger.claim ticket id = (true, run.floor.ledger)
  /-- When all groups of a request have ended, none of its queries has a slot or a place
  in a queue. -/
  released : ∀ {number request}, run.requests[number]? = some request →
    (∀ group ∈ request.groups, group.isDone = true) →
      ∀ {id pool}, run.floor.ledger.pool? id = some pool → ∀ ticket : Ticket,
        ticket.group.request = number → ticket ∉ pool.holders ∧ ticket ∉ pool.waiting

theorem conserved_of_shown {config : FetchConfig} {requests : Nat} {hall : Hall}
    (hshown : Shown hall run) (h : Hall.Conserved config requests hall) :
    Conserved config requests run := by
  have hledger := hshown.ledger_eq
  refine
    { limit_eq := hledger ▸ h.limit_eq, total := hledger ▸ h.total,
      nodup_holders := hledger ▸ h.nodup_holders, mem_holders := ?_, of_mem_holders := ?_,
      running_le := ?_, unlimited := hledger ▸ h.unlimited, released := ?_ }
  · intro id pool hpool group query hquery hrunning hneeds
    rw [← hledger] at hpool
    exact h.mem_holders hpool (hshown.standing_of_isRunning hquery hrunning) hneeds
  · intro id pool hpool ticket hholds
    rw [← hledger] at hpool
    obtain ⟨standing, hstanding, hplace⟩ := h.of_mem_holders hpool hholds
    obtain ⟨query, hquery, hticket, hopen, hpools, -⟩ := hshown.exists_query hstanding
    refine ⟨query, hquery, hticket, hopen, ?_⟩
    rw [← hpools, List.mem_append]
    exact hplace.imp_right List.mem_of_mem_head?
  · intro id pool hpool tickets hnodup hrunning
    rw [← hledger] at hpool
    apply h.running_le hpool tickets hnodup
    intro ticket hticket
    obtain ⟨query, hquery, rfl, hruns, hneeds⟩ := hrunning ticket hticket
    exact ⟨query.pools, hshown.standing_of_isRunning hquery hruns, hneeds⟩
  · intro number request hrequest hdone id pool hpool ticket hnumber
    rw [← hledger] at hpool
    apply h.absent _ hpool
    apply hshown.absent
    have hnone := queriesAt_of_isDone hrequest hdone ticket.group.position
    rw [← hnumber] at hnone
    simp [hnone]

/-- Slots are conserved, whatever happens. In a hall any number of queries may arrive, ask
for their slots one by one, and leave at any moment for any reason; at any moment of a
run its queries share its pools as in a hall. So every slot of every pool is free or
held, as many as are configured; no pool runs more queries than it has slots; a limit of
zero keeps nobody waiting; and a request whose groups have all ended holds nothing. -/
theorem slots_conserved (orchestrator : Orchestrator) (requests : List (Nat × Request)) :
    (∀ acts, Hall.Conserved orchestrator.config requests.length
      ((Hall.opening orchestrator.config requests.length).after orchestrator.config acts)) ∧
    ∀ run, Reachable orchestrator requests run →
      Conserved orchestrator.config requests.length run := by
  refine ⟨fun acts => Hall.conserved_after _ _ acts, fun run hrun => ?_⟩
  obtain ⟨acts, hshown⟩ := exists_shown hrun
  exact conserved_of_shown hshown (Hall.conserved_after _ _ acts)

/-- There is one slot in all for two targets: the query of one target runs, and that of
the other one waits. -/
theorem slots_conserved_of_full_pool :
    let rules : RuleSet := ⟨[], 60, .last, by decide⟩
    let target (metric : String) := (TargetGroup.new "points" rules).push metric metric "t"
    let orchestrator : Orchestrator :=
      ⟨{ FetchConfig.standard with maxConcurrentQueries := 1 },
        fun _ _ => ⟨5, .body ⟨[], 0, none⟩⟩, .absent⟩
    let asked : Request :=
      ⟨[(⟨60, 180, 0⟩, target "a"), (⟨60, 180, 0⟩, target "b")], 1000, by decide⟩
    let run := (((start orchestrator [(0, asked)]).act (.request 0)).act (.group ⟨0, 0⟩)).act
      (.group ⟨0, 1⟩)
    run.floor.ledger.pool? .all = some ⟨1, 0, [⟨⟨0, 0⟩, 0⟩], [⟨⟨0, 1⟩, 0⟩]⟩ ∧
      Conserved orchestrator.config 1 run := by
  intro rules target orchestrator asked run
  have hreachable : Reachable orchestrator [(0, asked)] run :=
    ((Reachable.start.act _).act _).act _
  exact ⟨by decide +kernel, (slots_conserved orchestrator [(0, asked)]).2 run hreachable⟩

/-- Nobody waits in vain. If any query waits for a slot, in a hall or at any moment of a
run, then some query has all the slots it needs and runs, or there is a slot for some
query where it needs one next: the query holds a slot of every pool before, and is given
the next one when it asks. -/
theorem runs_or_proceeds (orchestrator : Orchestrator) (requests : List (Nat × Request)) :
    (∀ acts,
      let hall := (Hall.opening orchestrator.config requests.length).after orchestrator.config acts
      ∀ ticket, hall.Waits ticket →
        (∃ other, hall.Runs other) ∨ ∃ other, hall.Proceeds other) ∧
    ∀ run, Reachable orchestrator requests run →
      ∀ id, ∀ query ∈ run.queriesAt id, query.isWaiting = true →
        (∃ group, ∃ other ∈ run.queriesAt group, other.isRunning = true) ∨
        ∃ group, ∃ other ∈ run.queriesAt group, ∃ held next left,
          other.isWaiting = true ∧ other.pools = held ++ next :: left ∧
          (∀ earlier ∈ held, ∀ pool, run.floor.ledger.pool? earlier = some pool →
            other.ticket ∈ pool.holders) ∧
          run.floor.ledger.HasSlot other.ticket next ∧
          (run.floor.ledger.claim other.ticket next).1 = true := by
  refine ⟨fun acts ticket => Hall.exists_runs_or_proceeds_after _ _ acts,
    fun run hrun id query hquery hwaiting => ?_⟩
  obtain ⟨acts, hshown⟩ := exists_shown hrun
  have horderly := (Hall.orderly_opening orchestrator.config requests.length).after acts
  have hledger := hshown.ledger_eq
  rcases Hall.exists_runs_or_proceeds_after _ _ acts
      (hshown.standing_of_isWaiting hquery hwaiting) with
    ⟨other, held, hstanding⟩ | ⟨other, held, next, left, hstanding, hslot⟩
  · obtain ⟨runner, hrunner, -, hopen, -, hleft⟩ := hshown.exists_query hstanding
    refine .inl ⟨_, runner, hrunner, ?_⟩
    rw [QueryRun.isRunning, hopen, hleft.mp rfl]
    rfl
  · obtain ⟨waiter, hwaiter, rfl, -, hpools, hleft⟩ := hshown.exists_query hstanding
    refine .inr ⟨_, waiter, hwaiter, held, next, left, ?_, hpools.symm, ?_, ?_, ?_⟩
    · simpa using hleft
    · intro earlier hearlier pool hpool
      rw [← hledger] at hpool
      exact horderly.mem_holders hpool hstanding hearlier
    · rwa [← hledger]
    · rw [← hledger]
      exact (horderly.claim_fst_iff _ _).mpr hslot

/-- There is one slot in all for two targets: the query of one target has given it back,
and that of the other one, which still waits, has not noticed yet. -/
theorem runs_or_proceeds_of_handover :
    let rules : RuleSet := ⟨[], 60, .last, by decide⟩
    let target (metric : String) := (TargetGroup.new "points" rules).push metric metric "t"
    let orchestrator : Orchestrator :=
      ⟨{ FetchConfig.standard with maxConcurrentQueries := 1 },
        fun _ _ => ⟨5, .body ⟨[], 0, none⟩⟩, .absent⟩
    let asked : Request :=
      ⟨[(⟨60, 180, 0⟩, target "a"), (⟨60, 180, 0⟩, target "b")], 1000, by decide⟩
    let run := (((start orchestrator [(0, asked)]).act (.request 0)).act (.group ⟨0, 0⟩)).act
      (.group ⟨0, 1⟩)
    let later : Run := { run with floor.clock.now := 10 }
    let after := later.act (.group ⟨0, 0⟩)
    ∃ query ∈ after.queriesAt ⟨0, 1⟩, query.isWaiting = true ∧
      ((∃ group, ∃ other ∈ after.queriesAt group, other.isRunning = true) ∨
      ∃ group, ∃ other ∈ after.queriesAt group, ∃ held next left,
        other.isWaiting = true ∧ other.pools = held ++ next :: left ∧
        (∀ earlier ∈ held, ∀ pool, after.floor.ledger.pool? earlier = some pool →
          other.ticket ∈ pool.holders) ∧
        after.floor.ledger.HasSlot other.ticket next ∧
        (after.floor.ledger.claim other.ticket next).1 = true) := by
  intro rules target orchestrator asked run later after
  have hrun : Reachable orchestrator [(0, asked)] run := ((Reachable.start.act _).act _).act _
  have hlater : Reachable orchestrator [(0, asked)] later := hrun.pass 10
  have hafter : Reachable orchestrator [(0, asked)] after := hlater.act _
  have hwaits : (after.queriesAt ⟨0, 1⟩).any (·.isWaiting) = true := by decide +kernel
  obtain ⟨query, hquery, hwaiting⟩ := List.any_eq_true.mp hwaits
  exact ⟨query, hquery, hwaiting,
    (runs_or_proceeds orchestrator [(0, asked)]).2 after hafter ⟨0, 1⟩ query hquery hwaiting⟩

end Run

end SeriesGateway.Fetch
