import SeriesGateway.Proofs.Checks
import SeriesGateway.Proofs.Fetch.Fulfilment
import SeriesGateway.Proofs.Fetch.Slots

/-! # Queries that are sent

A query is sent in the turn in which it has all of its slots, and never again; it is over
without having been sent only if it waited for them until its deadline. So a group that ends
with a reply has sent all queries of its plan, and so has every group that ends before its
deadline, unless one of its queries or the secondary source took it down.
-/

namespace SeriesGateway.Fetch

/-- A query with the ticket it is sent under. -/
abbrev Call : Type := Ticket × Plan.StorageQuery

/-! ## Queries -/

/-- No delivery of a body ends with a wait for slots. -/
theorem Stream.comesTo_ne_refused (stream : Stream) (expires : Nat) (reception : Wire.Reception)
    (arrives : Nat) (left : List Delivery) (waited : Duration) :
    stream.comesTo expires reception arrives left ≠
      some (.error (.admissionTimeout waited)) := by
  induction left generalizing reception arrives with
  | nil =>
      unfold Stream.comesTo
      split
      · simp
      · split <;> simp
  | cons delivery rest ih =>
      unfold Stream.comesTo
      split
      · simp
      · split
        · simp
        · exact ih _ _

namespace QueryRun

/-- What is on record of a query: nothing as long as it waits for slots, and then that it was
sent, unless it waited until its deadline. -/
structure Recorded (calls : List Call) (run : QueryRun) : Prop where
  waiting : run.isWaiting = true → run.ticket ∉ calls.map (·.1)
  sent : run.isWaiting = false → (run.ticket, run.query) ∈ calls ∨
    ∃ waited, run.phase = .ended (.error (.admissionTimeout waited))

variable {storage : Storage} {run : QueryRun} {floor : Floor} {calls more : List Call}

/-- What others send does not matter. -/
theorem Recorded.mono (h : run.Recorded calls) (hsub : calls ⊆ more)
    (hothers : ∀ call ∈ more, call ∈ calls ∨ call.1 ≠ run.ticket) : run.Recorded more where
  waiting hwaiting hin := by
    obtain ⟨call, hcall, hticket⟩ := List.mem_map.mp hin
    rcases hothers call hcall with hold | hother
    · exact h.waiting hwaiting (List.mem_map.mpr ⟨call, hold, hticket⟩)
    · exact hother hticket
  sent hpast := (h.sent hpast).imp_left (@hsub _)

/-- A query is sent once. -/
theorem Recorded.act (h : run.Recorded floor.calls) (hnodup : (floor.calls.map (·.1)).Nodup) :
    let acted := run.act storage floor
    acted.1.Recorded acted.2.calls ∧ (acted.2.calls.map (·.1)).Nodup ∧
      floor.calls ⊆ acted.2.calls := by
  by_cases hwaiting : run.isWaiting = true
  · have hunsent := h.waiting hwaiting
    rw [act_eq_of_isWaiting storage hwaiting]
    dsimp only
    split
    next =>
      obtain ⟨hbadge, hpast, -, hcalls, -⟩ := call_spec storage run
        { floor with ledger := (floor.ledger.enter run.ticket run.pools).2 }
      obtain ⟨hticket, hquery, -⟩ : _ ∧ _ ∧ _ := by simpa [badge] using hbadge
      rw [hcalls]
      refine ⟨⟨fun hstill => absurd (hpast.symm.trans hstill) Bool.false_ne_true, fun _ => ?_⟩,
        ?_, List.subset_append_left _ _⟩
      · rw [hticket, hquery]
        exact .inl (List.mem_append_right _ List.mem_cons_self)
      · rw [List.map_append, List.nodup_append]
        refine ⟨hnodup, List.nodup_singleton _, ?_⟩
        intro ticket hticket own hown hsame
        rw [hsame, List.mem_singleton.mp hown] at hticket
        exact hunsent hticket
    next =>
      split
      next =>
        exact ⟨⟨fun hstill => absurd hstill Bool.false_ne_true, fun _ => .inr ⟨_, rfl⟩⟩, hnodup,
          List.Subset.refl _⟩
      next => exact ⟨⟨h.waiting, h.sent⟩, hnodup, List.Subset.refl _⟩
  · rw [Bool.not_eq_true] at hwaiting
    by_cases hover : run.isOver = true
    · rw [act_of_isOver storage hover]
      exact ⟨h, hnodup, List.Subset.refl _⟩
    · have hrunning : run.isRunning = true := by simp [isRunning, hwaiting, hover]
      have hacted := proceeded_act storage hrunning floor
      obtain ⟨hticket, hquery, -⟩ : _ ∧ _ ∧ _ := by simpa [badge] using hacted.badge_eq
      dsimp only
      rw [hacted.calls_eq]
      refine ⟨⟨fun hstill => ?_, fun _ => ?_⟩, hnodup, List.Subset.refl _⟩
      · rw [hacted.isWaiting_eq] at hstill
        cases hstill
      · rw [hticket, hquery]
        refine .inl ((h.sent hwaiting).resolve_right ?_)
        rintro ⟨waited, hended⟩
        simp [isOver, hended] at hover

/-- What storage makes of a call is never that the query was not sent. -/
theorem prospect_ne_refused (hwaiting : run.phase = .admission) (waited : Duration) :
    run.prospect storage ≠ .ok (.error (.admissionTimeout waited)) := by
  rw [prospect, hwaiting]
  dsimp only
  unfold callComesTo
  split
  · simp [timeoutError]
  · split
    · simp
    · simp
    · rw [bodyComesTo, Ne, Except.ok.injEq]
      intro hsame
      cases hends : Stream.comesTo _ _ _ _ _ with
      | none =>
          rw [hends] at hsame
          cases hsame
      | some result =>
          rw [hends] at hsame
          exact Stream.comesTo_ne_refused _ _ _ _ _ _ (hends.trans (congrArg some hsame))

end QueryRun

namespace Fetching

/-- The queries of a plan with their tickets. -/
def callsOf (id : GroupId) (plan : Plan.QueryPlan) : List Call :=
  plan.queries.zipIdx.map fun (query, i) => (⟨id, i⟩, query)

theorem nodup_callsOf (id : GroupId) (plan : Plan.QueryPlan) : (callsOf id plan).Nodup := by
  apply List.Nodup.of_map (·.1.query)
  rw [callsOf, List.map_map]
  change (plan.queries.zipIdx.map Prod.snd).Nodup
  rw [List.zipIdx_map_snd]
  exact List.nodup_range'

theorem mem_callsOf {id : GroupId} {plan : Plan.QueryPlan} {call : Call} :
    call ∈ callsOf id plan ↔ call.1.group = id ∧ plan.queries[call.1.query]? = some call.2 := by
  rw [callsOf, List.mem_map]
  constructor
  · rintro ⟨⟨query, i⟩, hquery, rfl⟩
    exact ⟨rfl, List.mem_zipIdx_iff_getElem?.mp hquery⟩
  · rintro ⟨hgroup, hquery⟩
    obtain ⟨⟨group, i⟩, query⟩ := call
    obtain rfl : group = id := hgroup
    exact ⟨(query, i), List.mem_zipIdx_iff_getElem?.mpr hquery, rfl⟩

theorem map_call_of_badges {config : FetchConfig} {id : GroupId} {plan : Plan.QueryPlan}
    {queries : List QueryRun}
    (hbadges : queries.map (·.badge) = RequestRun.badgesOf config id plan) :
    queries.map (fun query => (query.ticket, query.query)) = callsOf id plan := by
  calc queries.map (fun query => (query.ticket, query.query))
      = (queries.map (·.badge)).map fun badge => (badge.1, badge.2.1) := by
        rw [List.map_map]
        rfl
    _ = callsOf id plan := by
        rw [hbadges, RequestRun.badgesOf, callsOf, List.map_map]
        rfl

/-- Queries that act one after the other are sent once each. -/
theorem recorded_actAll (storage : Storage) (reversed : Bool) (store : PointStore) {floor : Floor}
    {queries : List QueryRun} (hnodup : (floor.calls.map (·.1)).Nodup)
    (htickets : (queries.map (·.ticket)).Nodup)
    (h : ∀ query ∈ queries, query.Recorded floor.calls) :
    let acted := actAll storage reversed store floor queries
    (∀ query ∈ acted.1, query.Recorded acted.2.2.calls) ∧ (acted.2.2.calls.map (·.1)).Nodup ∧
      floor.calls ⊆ acted.2.2.calls := by
  induction queries generalizing store floor with
  | nil => exact ⟨List.forall_mem_nil _, hnodup, List.Subset.refl _⟩
  | cons run rest ih =>
      obtain ⟨hrun, hrest⟩ := List.forall_mem_cons.mp h
      rw [List.map_cons, List.nodup_cons] at htickets
      obtain ⟨hafter, hnext, hsub⟩ := @QueryRun.Recorded.act storage run floor hrun hnodup
      have hticket : (run.act storage floor).1.ticket = run.ticket :=
        congrArg (·.1) (run.act_spec storage floor).1
      have hothers : ∀ query ∈ rest, query.Recorded (run.act storage floor).2.calls := by
        intro query hquery
        refine (hrest query hquery).mono hsub fun call hcall => ?_
        rcases (run.act_spec storage floor).2.1 with hsame | hmore
        · exact .inl (hsame ▸ hcall)
        · rw [hmore, List.mem_append, List.mem_singleton] at hcall
          refine hcall.imp_right fun hown hsame => htickets.1 ?_
          rw [hown] at hsame
          exact List.mem_map.mpr ⟨query, hquery, hsame.symm⟩
      rw [actAll]
      dsimp only
      split
      next => exact ⟨List.forall_mem_cons.mpr ⟨hafter, hothers⟩, hnext, hsub⟩
      next =>
        obtain ⟨hlater, hlast, hmore⟩ :=
          ih (collect reversed store run (run.act storage floor).1) hnext htickets.2 hothers
        refine ⟨List.forall_mem_cons.mpr ⟨?_, hlater⟩, hlast, List.Subset.trans hsub hmore⟩
        refine hafter.mono hmore fun call hcall => ?_
        refine (calls_actAll storage reversed _ _ rest call hcall).imp_right ?_
        rintro ⟨query, hquery, rfl⟩ hsame
        rw [hticket] at hsame
        exact htickets.1 (List.mem_map.mpr ⟨query, hquery, hsame⟩)

/-- Queries whose verdict is good have all ended with rows. -/
theorem exists_responses_of_verdict {queries : List QueryRun}
    (hverdict : verdict? queries = some (.ok ())) :
    ∃ responses, List.Forall₂ (fun query rows => query.phase = .ended (.ok rows))
      queries responses := by
  rw [verdict?, Option.map_eq_some_iff] at hverdict
  obtain ⟨results, hresults, hgood⟩ := hverdict
  obtain ⟨responses, hresponses⟩ : ∃ responses, results.mapM id = .ok responses := by
    cases hall : results.mapM id with
    | ok responses => exact ⟨responses, rfl⟩
    | error error =>
        rw [hall] at hgood
        cases hgood
  obtain rfl := eq_map_of_outcomeOf hresponses
  refine ⟨responses, ?_⟩
  clear hgood hresponses
  induction queries generalizing responses with
  | nil =>
      obtain rfl := List.map_eq_nil_iff.mp (Option.some.inj hresults).symm
      exact .nil
  | cons query rest ih =>
      rw [List.mapM_cons] at hresults
      obtain ⟨result, hresult, hresults⟩ := Option.bind_eq_some_iff.mp hresults
      obtain ⟨others, hothers, hresults⟩ := Option.bind_eq_some_iff.mp hresults
      cases responses with
      | nil => cases hresults
      | cons rows responses =>
          obtain ⟨rfl, rfl⟩ := List.cons.inj (Option.some.inj hresults)
          refine .cons ?_ (ih responses hothers)
          unfold QueryRun.result? at hresult
          split at hresult
          next hended => rw [hended, Option.some.inj hresult]
          next => cases hresult

end Fetching

/-! ## Groups -/

namespace GroupRun

variable {context : RequestContext} {run : GroupRun} {barrier : Step.Barrier} {floor next : Floor}
  {turn : Turn} {work : Fetching}

/-- Who gives up waiting makes no plan, so a plan is made with what the released barrier
answers. -/
theorem plans_of_answered? (hmode : context.mode = .aggregated) {expires : Timer} {clock : Clock}
    {plan : Plan.QueryPlan}
    (h : run.answered? context (.resolve run.group run.frame context.epoch) expires barrier clock =
      some (.ok plan)) : run.Plans context barrier plan := by
  obtain ⟨hanswer, -⟩ := of_answered? h
  obtain ⟨common, hcommon, hplan⟩ := Checks.bind_eq_ok_iff.mp hanswer.symm
  rw [Plans, hmode]
  refine ⟨common, hplan, fun _ => ?_⟩
  cases hreleased : barrier.released with
  | true => exact ⟨rfl, _, hreleased ▸ hcommon⟩
  | false =>
      rw [hreleased, Step.Barrier.answer] at hcommon
      split at hcommon <;> cases hcommon

/-- A plan that a group makes in a turn is made at the barrier. -/
theorem plans_of_planned? (hcourse : run.OnCourse context)
    {plan : Plan.QueryPlan} {clock : Clock}
    (h : run.planned? context barrier clock = some (.ok plan)) :
    run.Plans context barrier plan := by
  unfold planned? at h
  split at h
  next grouping expires hwaiting =>
    obtain ⟨hmode, -, rfl⟩ := hcourse.waiting hwaiting
    exact plans_of_answered? hmode h
  next hmode _ =>
    rw [Plans, hmode]
    exact (Except.ok.inj (Option.some.inj h)).symm
  next hmode _ =>
    dsimp only at h
    split at h
    next => cases h
    next =>
      split at h
      next hempty =>
        rw [Plans, hmode]
        exact ⟨0, Option.some.inj h,
          fun hsome => absurd (Plan.Grouping.isEmpty_resolve_iff.mp hempty) hsome⟩
      next => exact plans_of_answered? hmode h

/-- What is on record of a group: its queries as they stand, and nothing as long as it has
none. -/
structure OnRecord (config : FetchConfig) (calls : List Call) (run : GroupRun) : Prop where
  nodup : (calls.map (·.1)).Nodup
  queries : ∀ query ∈ run.phase.queries, query.Recorded calls
  fresh : run.phase.queries = [] → ∀ call ∈ calls, call.1.group ≠ run.id
  badges : ∀ work, run.phase = .fetching work →
    work.queries.map (·.badge) = RequestRun.badgesOf config run.id work.plan

namespace OnRecord

/-- The queries that a group works on are sent once each. -/
theorem acted (h : run.OnRecord context.config floor.calls)
    (hwork : run.WorksOn context barrier work) :
    ((run.acted context work floor).1.map fun query => (query.ticket, query.query)) =
        Fetching.callsOf run.id work.plan ∧
      (∀ query ∈ (run.acted context work floor).1,
        query.Recorded (run.acted context work floor).2.2.calls) ∧
      ((run.acted context work floor).2.2.calls.map (·.1)).Nodup ∧
      floor.calls ⊆ (run.acted context work floor).2.2.calls := by
  obtain ⟨hbadges, hqueries⟩ : work.queries.map (·.badge) =
        RequestRun.badgesOf context.config run.id work.plan ∧
      ∀ query ∈ work.queries, query.Recorded floor.calls := by
    rcases hwork with hbegun | ⟨hnone, plan, -, rfl⟩
    · refine ⟨h.badges work hbegun, ?_⟩
      have hqueries := h.queries
      rwa [hbegun] at hqueries
    · have hbadges := RequestRun.map_badge_queriesOf context run.id plan
      refine ⟨hbadges, fun query hquery => ?_⟩
      have hown := group_of_badges hbadges _ (List.mem_map_of_mem hquery)
      obtain ⟨hwaiting, -⟩ := admission_of_mem_queriesOf hquery
      refine ⟨fun _ hin => ?_, fun hpast => ?_⟩
      · obtain ⟨call, hcall, hsame⟩ := List.mem_map.mp hin
        exact h.fresh hnone call hcall (by rw [hsame, hown])
      · simp [QueryRun.isWaiting, hwaiting] at hpast
  have hacted := (Fetching.map_badge_actAll context.storage run.group.isReversed work.store floor
    work.queries).trans hbadges
  exact ⟨Fetching.map_call_of_badges hacted, Fetching.recorded_actAll _ _ _ h.nodup
    (nodup_of_badges hbadges) hqueries⟩

/-- If none of the queries waits for slots, or waited in vain, all of them were sent. -/
theorem sent_of_acted (h : run.OnRecord context.config floor.calls)
    (hwork : run.WorksOn context barrier work)
    (hpast : ∀ query ∈ (run.acted context work floor).1, query.isWaiting = false ∧
      ∀ waited, query.phase ≠ .ended (.error (.admissionTimeout waited))) :
    Fetching.callsOf run.id work.plan ⊆ (run.acted context work floor).2.2.calls := by
  obtain ⟨hcalls, hrecorded, -⟩ := h.acted hwork
  rw [← hcalls]
  intro call hcall
  obtain ⟨query, hquery, rfl⟩ := List.mem_map.mp hcall
  obtain ⟨hpast, hserved⟩ := hpast query hquery
  exact ((hrecorded query hquery).sent hpast).resolve_right fun ⟨waited, hended⟩ =>
    hserved waited hended

end OnRecord

namespace Fetched

/-- A group that replies has sent all of its queries. -/
theorem sent_of_reply (h : run.Fetched context work floor turn next)
    (hrecord : run.OnRecord context.config floor.calls) (hwork : run.WorksOn context barrier work)
    {reply : GroupReply} (hreply : turn = .ends (.ok reply)) :
    Fetching.callsOf run.id work.plan ⊆ next.calls := by
  cases h with
  | crashesFirst => cases hreply
  | crashes => cases hreply
  | crashesLast => cases hreply
  | goesOn => cases hreply
  | @ends verdict points hverdict hpoints =>
      rw [(run.asked_spec context work floor).2.1]
      refine hrecord.sent_of_acted hwork fun query hquery => ?_
      cases verdict with
      | error error => cases hreply
      | ok =>
          obtain ⟨responses, hended⟩ := Fetching.exists_responses_of_verdict hverdict
          obtain ⟨position, hposition, rfl⟩ := List.mem_iff_getElem.mp hquery
          have hrows := hended.get hposition (hended.length_eq ▸ hposition)
          rw [List.get_eq_getElem] at hrows
          simp [QueryRun.isWaiting, hrows]

/-- A group that ends in time has sent all of its queries, unless one of them or the secondary
source took it down. -/
theorem sent_in_time (h : run.Fetched context work floor turn next)
    (hrecord : run.OnRecord context.config floor.calls) (hwork : run.WorksOn context barrier work)
    (hforetold : work.Foretold context run.id run.group)
    (htimers : ∀ timer ∈ work.timers, floor.clock.now ≤ timer.due)
    (hearly : floor.clock.now < context.deadline) {result : Except FetchError GroupReply}
    (hends : turn = .ends result) :
    (∃ reason, result = .error (.taskFailed reason)) ∨
      Fetching.callsOf run.id work.plan ⊆ next.calls := by
  have hafter := foretold_acted hforetold htimers hearly
  cases h with
  | crashesFirst => exact .inl ⟨_, (Turn.ends.inj hends).symm⟩
  | crashes => exact .inl ⟨_, (Turn.ends.inj hends).symm⟩
  | crashesLast => exact .inl ⟨_, (Turn.ends.inj hends).symm⟩
  | goesOn => cases hends
  | @ends verdict points hverdict hpoints =>
      rw [(run.asked_spec context work floor).2.1]
      refine .inr (hrecord.sent_of_acted hwork fun query hquery => ⟨?_, fun waited hended => ?_⟩)
      · have hover := Fetching.isOver_of_verdict? hverdict query hquery
        unfold QueryRun.isWaiting
        split
        next hwaiting => simp [QueryRun.isOver, hwaiting] at hover
        next => rfl
      · -- what the query was to come to is something else
        have hfate : query.prospect context.storage ∈
            Fetching.fates context run.id work.plan :=
          hafter.fates ▸ List.mem_map_of_mem hquery
        obtain ⟨begun, hbegun, hsame⟩ := List.mem_map.mp hfate
        refine begun.prospect_ne_refused (admission_of_mem_queriesOf hbegun).1 waited
          (hsame.trans ?_)
        rw [QueryRun.prospect, hended]

end Fetched

namespace Advanced

theorem sent_of_reply (h : run.Advanced context barrier floor turn next)
    (hcourse : run.OnCourse context)
    (hrecord : run.OnRecord context.config floor.calls) {reply : GroupReply}
    (hreply : turn = .ends (.ok reply)) :
    ∃ work, run.WorksOn context barrier work ∧
      Fetching.callsOf run.id work.plan ⊆ next.calls := by
  cases h with
  | waits => cases hreply
  | unplanned => cases hreply
  | @fetches plan hbefore hplanned =>
      have hwork : run.WorksOn context barrier
          ⟨plan, Fetching.describedStore plan, Fetching.queriesOf context run.id plan, .unasked,
            false⟩ :=
        .inr ⟨hbefore, plan, plans_of_planned? hcourse hplanned, rfl⟩
      refine ⟨_, hwork, ?_⟩
      unfold fetch at hreply ⊢
      dsimp only at hreply ⊢
      split at hreply
      next hnone => simp [Fetching.callsOf, List.isEmpty_iff.mp hnone]
      next hsome =>
        rw [if_neg hsome]
        exact (fetched_fetchOn context run _ floor).sent_of_reply hrecord hwork hreply
  | @goesOn work hfetching =>
      have hwork : run.WorksOn context barrier work := .inl hfetching
      exact ⟨work, hwork,
        (fetched_fetchOn context run work floor).sent_of_reply hrecord hwork hreply⟩

theorem sent_in_time (h : run.Advanced context barrier floor turn next)
    (hcourse : run.OnCourse context)
    (hrecord : run.OnRecord context.config floor.calls) {plan : Plan.QueryPlan}
    (hforetold : run.phase.Foretold context run.id run.frame run.group (.ok plan))
    (hplanned : run.phase.queries = [] →
      ∀ found, run.planned? context barrier floor.clock = some found → found = .ok plan)
    (htimers : ∀ timer ∈ run.phase.timers, floor.clock.now ≤ timer.due)
    (hearly : floor.clock.now < context.deadline) {result : Except FetchError GroupReply}
    (hends : turn = .ends result) :
    (∃ reason, result = .error (.taskFailed reason)) ∨
      Fetching.callsOf run.id plan ⊆ next.calls := by
  cases h with
  | waits => cases hends
  | unplanned hbefore hsome => cases hplanned hbefore _ hsome
  | @fetches other hbefore hsome =>
      obtain rfl := Except.ok.inj (hplanned hbefore _ hsome)
      have hwork : run.WorksOn context barrier
          ⟨other, Fetching.describedStore other, Fetching.queriesOf context run.id other,
            .unasked, false⟩ :=
        .inr ⟨hbefore, other, plans_of_planned? hcourse hsome, rfl⟩
      unfold fetch at hends ⊢
      dsimp only at hends ⊢
      split at hends
      next hnone => exact .inr (by simp [Fetching.callsOf, List.isEmpty_iff.mp hnone])
      next hqueries =>
        rw [if_neg hqueries]
        refine (fetched_fetchOn context run _ floor).sent_in_time hrecord hwork
          (Fetching.foretold_new context run.id run.group other) ?_ hearly hends
        simp [Fetching.timers, Fetching.timers_queriesOf, RecentRun.timers]
  | @goesOn work hfetching =>
      rw [hfetching] at hforetold htimers
      obtain ⟨hplan, -, hforetold⟩ := hforetold
      obtain rfl := Except.ok.inj hplan
      have hwork : run.WorksOn context barrier work := .inl hfetching
      exact (fetched_fetchOn context run work floor).sent_in_time hrecord hwork hforetold htimers
        hearly hends

end Advanced

/-- A group that replies in a turn has sent all queries of the plan that it works on. -/
theorem act_sent_of_reply (hopen : run.isDone = false) (hcourse : run.OnCourse context)
    (hrecord : run.OnRecord context.config floor.calls) {reply : GroupReply}
    (hreply : (run.act context barrier floor).2.1 = some (.ok reply)) :
    ∃ work, run.WorksOn context (run.act context barrier floor).2.2.1 work ∧
      Fetching.callsOf run.id work.plan ⊆ (run.act context barrier floor).2.2.2.calls := by
  have hadvanced := advanced_advance hopen hcourse barrier floor
  rcases run.act_cases context barrier floor with
    ⟨result, hturn, hact⟩ | ⟨phase, -, -, hact⟩ | ⟨phase, -, -, hact⟩
  · rw [hact] at hreply ⊢
    obtain rfl := Option.some.inj hreply
    exact hadvanced.sent_of_reply hcourse hrecord hturn
  · rw [hact] at hreply
    cases hreply
  · rw [hact] at hreply
    cases hreply

/-- A group that ends in a turn in time has sent all queries of the plan that it is known to
go by, unless one of them or the secondary source took it down. -/
theorem act_sent_in_time (hopen : run.isDone = false) (hcourse : run.OnCourse context)
    (hrecord : run.OnRecord context.config floor.calls) {plan : Plan.QueryPlan}
    (hforetold : run.phase.Foretold context run.id run.frame run.group (.ok plan))
    (hplanned : run.phase.queries = [] → ∀ found,
      run.planned? context (run.act context barrier floor).2.2.1 floor.clock = some found →
        found = .ok plan)
    (htimers : ∀ timer ∈ run.phase.timers, floor.clock.now ≤ timer.due)
    (hearly : floor.clock.now < context.deadline) {result : Except FetchError GroupReply}
    (hresult : (run.act context barrier floor).2.1 = some result) :
    (∃ reason, result = .error (.taskFailed reason)) ∨
      Fetching.callsOf run.id plan ⊆ (run.act context barrier floor).2.2.2.calls := by
  have hadvanced := advanced_advance hopen hcourse barrier floor
  have hclock := (advance_course hopen hcourse barrier floor).clock_eq
  rcases run.act_cases context barrier floor with
    ⟨ended, hturn, hact⟩ | ⟨phase, -, hlate, -⟩ | ⟨phase, -, -, hact⟩
  · rw [hact] at hplanned hresult ⊢
    obtain rfl := Option.some.inj hresult
    exact hadvanced.sent_in_time hcourse hrecord hforetold hplanned htimers hearly hturn
  · rw [hclock] at hlate
    exact absurd hearly (Nat.not_lt.mpr hlate)
  · rw [hact] at hresult
    cases hresult

/-- What is new on record after queries have acted is their own; and whoever has anything on
record then has queries. -/
theorem OnRecord.own_of_acted (h : run.OnRecord context.config floor.calls)
    (hwork : run.WorksOn context barrier work) :
    ∀ call ∈ (run.acted context work floor).2.2.calls,
      (call ∈ floor.calls ∨ call.1.group = run.id) ∧
        (call.1.group = run.id → (run.acted context work floor).1 ≠ []) := by
  obtain ⟨hcalls, -⟩ := h.acted hwork
  have htickets : (run.acted context work floor).1.map (·.ticket) = work.queries.map (·.ticket) :=
    Fetching.map_ticket_actAll _ _ _ _ _
  intro call hcall
  rcases Fetching.calls_actAll _ _ _ _ _ call hcall with hold | ⟨query, hquery, rfl⟩
  · refine ⟨.inl hold, fun hown hnone => h.fresh ?_ call hold hown⟩
    rcases hwork with hbegun | ⟨hbefore, -⟩
    · rw [hnone] at htickets
      rw [hbegun]
      exact List.map_eq_nil_iff.mp htickets.symm
    · exact hbefore
  · obtain ⟨other, hother, hsame⟩ := List.mem_map.mp (htickets ▸ List.mem_map_of_mem hquery)
    have hown : (other.ticket, other.query) ∈ Fetching.callsOf run.id work.plan :=
      hcalls ▸ List.mem_map_of_mem hother
    exact ⟨.inr (hsame ▸ (Fetching.mem_callsOf.mp hown).1), fun _ => List.ne_nil_of_mem hother⟩

/-- After a turn the record is right about the queries that the group has then. What is new on
it is from the group; and if anything on it is, the group has queries on their way, or has
ended. -/
theorem Course.recorded (h : run.Course context barrier floor turn next)
    (hrecord : run.OnRecord context.config floor.calls) :
    (∀ query ∈ turn.phase.queries, query.Recorded next.calls) ∧
      (next.calls.map (·.1)).Nodup ∧ floor.calls ⊆ next.calls ∧
      ∀ call ∈ next.calls, (call ∈ floor.calls ∨ call.1.group = run.id) ∧
        (call.1.group = run.id → turn.phase = .done ∨ turn.phase.queries ≠ []) := by
  cases h with
  | waits grouping expires hbefore =>
      exact ⟨List.forall_mem_nil _, hrecord.nodup, List.Subset.refl _, fun call hcall =>
        ⟨.inl hcall, fun hown => absurd hown (hrecord.fresh hbefore call hcall)⟩⟩
  | fails =>
      exact ⟨List.forall_mem_nil _, hrecord.nodup, List.Subset.refl _, fun _ hcall =>
        ⟨.inl hcall, fun _ => .inl rfl⟩⟩
  | empty =>
      exact ⟨List.forall_mem_nil _, hrecord.nodup, List.Subset.refl _, fun _ hcall =>
        ⟨.inl hcall, fun _ => .inl rfl⟩⟩
  | works hwork hledger hcalls =>
      obtain ⟨-, hrecorded, hnodup, hsub⟩ := hrecord.acted hwork
      rw [hcalls]
      exact ⟨hrecorded, hnodup, hsub, fun call hcall =>
        (hrecord.own_of_acted hwork call hcall).imp_right fun hown hsame => .inr (hown hsame)⟩
  | breaks error hfetching hledger hcalls =>
      rw [hcalls]
      exact ⟨List.forall_mem_nil _, hrecord.nodup, List.Subset.refl _, fun _ hcall =>
        ⟨.inl hcall, fun _ => .inl rfl⟩⟩
  | ends hwork hledger hcalls =>
      obtain ⟨-, -, hnodup, hsub⟩ := hrecord.acted hwork
      rw [hcalls]
      exact ⟨List.forall_mem_nil _, hnodup, hsub, fun call hcall =>
        ⟨(hrecord.own_of_acted hwork call hcall).1, fun _ => .inl rfl⟩⟩

end GroupRun

end SeriesGateway.Fetch
