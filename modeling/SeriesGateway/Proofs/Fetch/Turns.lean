import SeriesGateway.Proofs.Fetch.Schedule

/-! # Turns

All that a turn can do, of a query and of a group, said once. A query enters its
pools, stays in them as long as it runs, and leaves them in the turn in which it is
over. Turns take no time. A group does nothing to what others share but through its
queries; it begins queries only by a plan that it makes in that turn, with a step that the
barrier answers at that moment.
-/

namespace SeriesGateway.Fetch

/-! ## Calls on record -/

/-- Who asks storage for what, if this is on record. -/
def Event.call? : Event → Option (Ticket × Plan.StorageQuery)
  | called ticket _ query => some (ticket, query)
  | returned _ => none
  | asked .. => none

/-- The queries that were sent, in order. -/
def Floor.calls (floor : Floor) : List (Ticket × Plan.StorageQuery) :=
  floor.events.filterMap Event.call?

theorem Floor.mem_calls {floor : Floor} {ticket : Ticket} {time : Nat} {query : Plan.StorageQuery}
    (hcalled : .called ticket time query ∈ floor.events) : (ticket, query) ∈ floor.calls :=
  List.mem_filterMap.mpr ⟨_, hcalled, rfl⟩

/-! ## Turns of a query -/

namespace QueryRun

/-- Whether a query still needs slots. -/
def isWaiting (run : QueryRun) : Bool :=
  match run.phase with
  | .admission => true
  | _ => false

/-- Whether a query has all of its slots, and uses them. -/
def isRunning (run : QueryRun) : Bool := !run.isWaiting && !run.isOver

/-- What of a query never changes: who it is, what it asks for, and which pools it
needs slots of. -/
def badge (run : QueryRun) : Ticket × Plan.StorageQuery × List PoolId :=
  (run.ticket, run.query, run.pools)

/-- The slots after a turn: they are given back in the turn in which the query is over. -/
def settle (run : QueryRun) (ledger : Ledger) : Ledger :=
  if run.isOver then (ledger.leave run.ticket run.pools).2 else ledger

/-- What a turn of a query that is past admission does. -/
structure Proceeded (run after : QueryRun) (before next : Floor) : Prop where
  badge_eq : after.badge = run.badge
  isWaiting_eq : after.isWaiting = false
  ledger_eq : next.ledger = after.settle before.ledger
  calls_eq : next.calls = before.calls
  clock_eq : next.clock = before.clock

variable {storage : Storage} {run : QueryRun} {floor : Floor}

theorem proceeded_close (run : QueryRun) {phase : QueryPhase} (floor : Floor)
    (hover : ({ run with phase } : QueryRun).isOver = true) :
    run.Proceeded (run.close phase floor).1 floor (run.close phase floor).2 where
  badge_eq := rfl
  isWaiting_eq := by
    cases phase with
    | admission => cases hover
    | _ => rfl
  ledger_eq := by
    rw [settle, close, if_pos hover]
    rfl
  calls_eq := rfl
  clock_eq := rfl

theorem proceeded_fail (run : QueryRun) (error : FetchError) (floor : Floor) :
    run.Proceeded (run.fail error floor).1 floor (run.fail error floor).2 :=
  run.proceeded_close floor rfl

theorem proceeded_awaitBody (run : QueryRun) (stream : Stream) (reception : Wire.Reception)
    (left : List Delivery) (arrives expires : Timer) (floor : Floor) :
    run.Proceeded (run.awaitBody stream reception left arrives expires floor).1 floor
      (run.awaitBody stream reception left arrives expires floor).2 := by
  unfold awaitBody
  split
  next => exact run.proceeded_close floor rfl
  next =>
    split
    · exact run.proceeded_fail _ floor
    · exact ⟨rfl, rfl, rfl, rfl, rfl⟩

theorem calls_record_returned (floor : Floor) (ticket : Ticket) :
    (floor.record (.returned ticket)).calls = floor.calls := by
  simp [Floor.calls, Floor.record, Event.call?]

theorem proceeded_awaitAnswer (run : QueryRun) (answer : Answer) (arrives expires : Timer)
    (floor : Floor) :
    run.Proceeded (run.awaitAnswer answer arrives expires floor).1 floor
      (run.awaitAnswer answer arrives expires floor).2 := by
  have hreturned : ∀ {after next}, run.Proceeded after (floor.record (.returned run.ticket)) next →
      run.Proceeded after floor next := fun h =>
    { h with calls_eq := h.calls_eq.trans (calls_record_returned floor run.ticket) }
  unfold awaitAnswer
  split
  · dsimp only
    split
    · exact hreturned (run.proceeded_close _ rfl)
    · exact hreturned (run.proceeded_fail _ _)
    · exact hreturned (run.proceeded_awaitBody _ _ _ _ _ _)
  · split
    · exact hreturned (run.proceeded_fail _ _)
    · exact ⟨rfl, rfl, rfl, rfl, rfl⟩

/-- A query that is past admission goes on or is over. -/
theorem proceeded_act (storage : Storage) (hrunning : run.isRunning = true) (floor : Floor) :
    run.Proceeded (run.act storage floor).1 floor (run.act storage floor).2 := by
  unfold act
  split
  next hphase => simp [isRunning, isWaiting, hphase] at hrunning
  next => exact run.proceeded_awaitAnswer _ _ _ floor
  next => exact run.proceeded_awaitBody _ _ _ _ _ floor
  next hphase => simp [isRunning, isOver, hphase] at hrunning
  next hphase => simp [isRunning, isOver, hphase] at hrunning

theorem act_of_isOver (storage : Storage) (hover : run.isOver = true) (floor : Floor) :
    run.act storage floor = (run, floor) := by
  unfold act
  split <;> first | rfl | simp_all [isOver]

theorem phase_of_isWaiting (hwaiting : run.isWaiting = true) : run.phase = .admission := by
  unfold isWaiting at hwaiting
  split at hwaiting
  next hphase => exact hphase
  next => cases hwaiting

/-- A query that has its slots is sent. -/
theorem call_spec (storage : Storage) (run : QueryRun) (floor : Floor) :
    let after := (run.call storage floor).1
    let next := (run.call storage floor).2
    after.badge = run.badge ∧ after.isWaiting = false ∧ next.ledger = after.settle floor.ledger ∧
      next.calls = floor.calls ++ [(run.ticket, run.query)] ∧ next.clock = floor.clock := by
  have hanswered := run.proceeded_awaitAnswer (storage run.ticket run.query)
    (floor.clock.timer (storage run.ticket run.query).delay)
    (floor.clock.timer run.timeout.millisCovering)
    (floor.record (.called run.ticket floor.clock.now run.query))
  refine ⟨hanswered.badge_eq, hanswered.isWaiting_eq, hanswered.ledger_eq, ?_,
    hanswered.clock_eq⟩
  refine hanswered.calls_eq.trans ?_
  simp [Floor.calls, Floor.record, Event.call?]

theorem act_eq_of_isWaiting (storage : Storage) (hwaiting : run.isWaiting = true)
    (floor : Floor) :
    run.act storage floor =
      let entered := floor.ledger.enter run.ticket run.pools
      let here : Floor := { floor with ledger := entered.2 }
      if entered.1 then run.call storage here
      else if run.deadline ≤ here.clock.now then
        run.fail (.admissionTimeout (.ofMillis (here.clock.now - run.started))) here
      else (run, here) := by
  unfold act
  rw [phase_of_isWaiting hwaiting]
  simp only [Floor.enter]
  cases (floor.ledger.enter run.ticket run.pools).1 with
  | true => rw [if_pos rfl]
  | false => rw [if_neg Bool.false_ne_true]

/-- A query that still needs slots asks for them. It is sent in the turn in which it
has them all; it is over without having been sent if its time is up. -/
theorem act_of_isWaiting (storage : Storage) (hwaiting : run.isWaiting = true) (floor : Floor) :
    let entered := floor.ledger.enter run.ticket run.pools
    let acted := run.act storage floor
    acted.1.badge = run.badge ∧ acted.2.ledger = acted.1.settle entered.2 ∧
      (acted.1.isWaiting = true → entered.1 = false) ∧
      (acted.1.isRunning = true → entered.1 = true) ∧
      (acted.2.calls = floor.calls ∨
        acted.2.calls = floor.calls ++ [(run.ticket, run.query)]) ∧
      acted.2.clock = floor.clock := by
  dsimp only
  rw [act_eq_of_isWaiting storage hwaiting]
  dsimp only
  split
  next hadmitted =>
    obtain ⟨hbadge, hpast, hledger, hcalls, hclock⟩ := call_spec storage run
      { floor with ledger := (floor.ledger.enter run.ticket run.pools).2 }
    refine ⟨hbadge, hledger, ?_, fun _ => hadmitted, .inr hcalls, hclock⟩
    intro hstill
    rw [hpast] at hstill
    cases hstill
  next hrefused =>
    rw [Bool.not_eq_true] at hrefused
    split
    next =>
      have hfailed := run.proceeded_fail
        (.admissionTimeout (.ofMillis (floor.clock.now - run.started)))
        { floor with ledger := (floor.ledger.enter run.ticket run.pools).2 }
      exact ⟨hfailed.badge_eq, hfailed.ledger_eq, fun _ => hrefused, nofun,
        .inl hfailed.calls_eq, hfailed.clock_eq⟩
    next =>
      refine ⟨rfl, ?_, fun _ => hrefused, ?_, .inl rfl, rfl⟩
      · simp [settle, isOver, phase_of_isWaiting hwaiting]
      · simp [isRunning, hwaiting]

/-- Whatever a turn does, a query stays who it is, nothing but its own call comes on
record, and no time passes. -/
theorem act_spec (storage : Storage) (run : QueryRun) (floor : Floor) :
    (run.act storage floor).1.badge = run.badge ∧
      ((run.act storage floor).2.calls = floor.calls ∨
        (run.act storage floor).2.calls = floor.calls ++ [(run.ticket, run.query)]) ∧
      (run.act storage floor).2.clock = floor.clock := by
  by_cases hwaiting : run.isWaiting = true
  · obtain ⟨hbadge, -, -, -, hcalls, hclock⟩ := act_of_isWaiting storage hwaiting floor
    exact ⟨hbadge, hcalls, hclock⟩
  by_cases hover : run.isOver = true
  · rw [act_of_isOver storage hover]
    exact ⟨rfl, .inl rfl, rfl⟩
  · have hrunning : run.isRunning = true := by simp [isRunning, hwaiting, hover]
    have hacted := proceeded_act storage hrunning floor
    exact ⟨hacted.badge_eq, .inl hacted.calls_eq, hacted.clock_eq⟩

theorem cancel_spec (floor : Floor) (run : QueryRun) :
    (cancel floor run).ledger =
        (if run.isOver then floor.ledger else (floor.ledger.leave run.ticket run.pools).2) ∧
      (cancel floor run).calls = floor.calls ∧ (cancel floor run).clock = floor.clock := by
  unfold cancel isOver
  cases run.phase with
  | calling answer arrives expires =>
      exact ⟨rfl, calls_record_returned floor run.ticket, rfl⟩
  | _ => exact ⟨rfl, rfl, rfl⟩

end QueryRun

namespace Fetching

variable {storage : Storage} {reversed : Bool} {store : PointStore} {floor : Floor}

theorem map_badge_actAll (storage : Storage) (reversed : Bool) (store : PointStore) (floor : Floor)
    (queries : List QueryRun) :
    (actAll storage reversed store floor queries).1.map (·.badge) = queries.map (·.badge) := by
  induction queries generalizing store floor with
  | nil => rfl
  | cons run rest ih =>
      rw [actAll]
      dsimp only
      split
      · simp [(run.act_spec storage floor).1]
      · simp [(run.act_spec storage floor).1, ih]

theorem map_ticket_actAll (storage : Storage) (reversed : Bool) (store : PointStore)
    (floor : Floor) (queries : List QueryRun) :
    (actAll storage reversed store floor queries).1.map (·.ticket) = queries.map (·.ticket) := by
  have hbadges := congrArg (List.map (·.1))
    (map_badge_actAll storage reversed store floor queries)
  rwa [List.map_map, List.map_map] at hbadges

/-- Queries that act one after the other put only calls of their own on record. -/
theorem calls_actAll (storage : Storage) (reversed : Bool) (store : PointStore) (floor : Floor)
    (queries : List QueryRun) :
    ∀ call ∈ (actAll storage reversed store floor queries).2.2.calls,
      call ∈ floor.calls ∨ ∃ run ∈ queries, call = (run.ticket, run.query) := by
  induction queries generalizing store floor with
  | nil => exact fun call hcall => .inl hcall
  | cons run rest ih =>
      have hfirst : ∀ call ∈ (run.act storage floor).2.calls,
          call ∈ floor.calls ∨ ∃ other ∈ run :: rest, call = (other.ticket, other.query) := by
        intro call hcall
        rcases (run.act_spec storage floor).2.1 with hsame | hmore
        · exact .inl (hsame ▸ hcall)
        · rw [hmore, List.mem_append, List.mem_singleton] at hcall
          exact hcall.imp_right fun hown => ⟨run, List.mem_cons_self, hown⟩
      intro call hcall
      rw [actAll] at hcall
      dsimp only at hcall
      split at hcall
      · exact hfirst call hcall
      · rcases ih _ _ call hcall with hbefore | ⟨other, hother, hown⟩
        · exact hfirst call hbefore
        · exact .inr ⟨other, List.mem_cons_of_mem run hother, hown⟩

theorem clock_actAll (storage : Storage) (reversed : Bool) (store : PointStore) (floor : Floor)
    (queries : List QueryRun) :
    (actAll storage reversed store floor queries).2.2.clock = floor.clock := by
  induction queries generalizing store floor with
  | nil => rfl
  | cons run rest ih =>
      have hfirst := (run.act_spec storage floor).2.2
      rw [actAll]
      dsimp only
      split
      · exact hfirst
      · exact (ih _ _).trans hfirst

theorem calls_cancel (floor : Floor) (queries : List QueryRun) :
    (cancel floor queries).calls = floor.calls := by
  induction queries generalizing floor with
  | nil => rfl
  | cons run rest ih => exact (ih _).trans (QueryRun.cancel_spec floor run).2.1

theorem clock_cancel (floor : Floor) (queries : List QueryRun) :
    (cancel floor queries).clock = floor.clock := by
  induction queries generalizing floor with
  | nil => rfl
  | cons run rest ih => exact (ih _).trans (QueryRun.cancel_spec floor run).2.2

/-- Giving up queries that are over gives nothing back. -/
theorem ledger_cancel_of_over {queries : List QueryRun}
    (hover : ∀ run ∈ queries, run.isOver = true) (floor : Floor) :
    (cancel floor queries).ledger = floor.ledger := by
  induction queries generalizing floor with
  | nil => rfl
  | cons run rest ih =>
      obtain ⟨hrun, hrest⟩ := List.forall_mem_cons.mp hover
      refine (ih hrest _).trans ?_
      rw [(QueryRun.cancel_spec floor run).1, if_pos hrun]

/-- What is given back does not depend on anything but who has it. -/
theorem ledger_cancel_congr {first second : Floor} (hledger : first.ledger = second.ledger)
    (queries : List QueryRun) :
    (cancel first queries).ledger = (cancel second queries).ledger := by
  induction queries generalizing first second with
  | nil => exact hledger
  | cons run rest ih =>
      apply ih
      rw [(QueryRun.cancel_spec first run).1, (QueryRun.cancel_spec second run).1, hledger]

/-- There is a verdict only when all queries have ended. -/
theorem isOver_of_verdict? {queries : List QueryRun} {verdict : Except FetchError Unit}
    (hverdict : verdict? queries = some verdict) : ∀ run ∈ queries, run.isOver = true := by
  rw [verdict?, Option.map_eq_some_iff] at hverdict
  obtain ⟨results, hresults, -⟩ := hverdict
  induction queries generalizing results with
  | nil => simp
  | cons run rest ih =>
      rw [List.mapM_cons] at hresults
      simp only [Option.bind_eq_bind, Option.bind_eq_some_iff] at hresults
      obtain ⟨result, hresult, others, hothers, -⟩ := hresults
      refine List.forall_mem_cons.mpr ⟨?_, ih others hothers⟩
      unfold QueryRun.result? at hresult
      split at hresult
      next hended => rw [QueryRun.isOver, hended]
      next => cases hresult

end Fetching

/-! ## Turns of a group -/

/-- The queries that a group has on their way. -/
def GroupPhase.queries : GroupPhase → List QueryRun
  | fetching work => work.queries
  | _ => []

/-- The phase that a turn leaves a group in. -/
def Turn.phase : Turn → GroupPhase
  | goesOn phase => phase
  | ends _ => .done

/-- The result that a turn ends a group with. -/
def Turn.result? : Turn → Option (Except FetchError GroupReply)
  | goesOn _ => none
  | ends result => some result

theorem RecentRun.act_spec (context : RequestContext) (group : GroupId) (metrics : List String)
    (start stop : UInt32) (floor : Floor) (run : RecentRun) :
    (run.act context group metrics start stop floor).2.ledger = floor.ledger ∧
      (run.act context group metrics start stop floor).2.calls = floor.calls ∧
      (run.act context group metrics start stop floor).2.clock = floor.clock := by
  unfold RecentRun.act
  split
  · split
    · exact ⟨rfl, rfl, rfl⟩
    · exact ⟨rfl, by simp [Floor.calls, Floor.record, Event.call?], rfl⟩
  · exact ⟨rfl, rfl, rfl⟩
  · exact ⟨rfl, rfl, rfl⟩
  · exact ⟨rfl, rfl, rfl⟩

namespace GroupRun

/-- The group makes this plan at a barrier. Where storage aggregates, the plan is made
with what the released barrier answers; only a group without metrics does not ask. -/
def Plans (context : RequestContext) (run : GroupRun) (barrier : Step.Barrier)
    (plan : Plan.QueryPlan) : Prop :=
  match context.mode with
  | .unaggregated => plan = .unaggregated run.group run.frame context.epoch
  | .aggregated => ∃ common,
    Plan.QueryPlan.aggregated run.group run.frame context.epoch common = .ok plan ∧
      (run.group.metrics ≠ [] →
        barrier.released = true ∧ ∃ waited, barrier.answer true waited = .ok common)

/-- What a group works on in a turn: what it has begun before, or a plan that it makes
now. -/
def WorksOn (context : RequestContext) (run : GroupRun) (barrier : Step.Barrier)
    (work : Fetching) : Prop :=
  run.phase = .fetching work ∨
    run.phase.queries = [] ∧ ∃ plan, run.Plans context barrier plan ∧
      work = ⟨plan, Fetching.describedStore plan, Fetching.queriesOf context run.id plan, .unasked,
        false⟩

/-- What a turn of a group can come to, with the floor that it leaves behind. The
barrier is the one after the turn. -/
inductive Course (context : RequestContext) (run : GroupRun) (barrier : Step.Barrier)
    (floor : Floor) : Turn → Floor → Prop
  /-- The group has no queries, and begins none. -/
  | waits (grouping : Plan.Grouping) (expires : Timer) (hbefore : run.phase.queries = []) :
    Course context run barrier floor (.goesOn (.waiting grouping expires)) floor
  /-- The group fails before it begins any query. -/
  | fails (error : FetchError) (hbefore : run.phase.queries = []) :
    Course context run barrier floor (.ends (.error error)) floor
  /-- The group has nothing to ask for. -/
  | empty {plan : Plan.QueryPlan} (hbefore : run.phase.queries = [])
      (hplan : run.Plans context barrier plan) (hnone : plan.queries = []) :
    Course context run barrier floor
      (.ends (.ok (.ofPlan run.group plan (Fetching.describedStore plan)))) floor
  /-- The queries act, and some of them or the secondary source are not done. -/
  | works {work : Fetching} {next : Floor} (hwork : run.WorksOn context barrier work)
      (hledger : next.ledger = (run.acted context work floor).2.2.ledger)
      (hcalls : next.calls = (run.acted context work floor).2.2.calls)
      (hclock : next.clock = floor.clock) (recent : RecentRun) (recentFirst : Bool) :
    Course context run barrier floor
      (.goesOn (.fetching ⟨work.plan, (run.acted context work floor).2.1,
        (run.acted context work floor).1, recent, recentFirst⟩)) next
  /-- The group is taken down before its queries act, and they are given up. -/
  | breaks {work : Fetching} {next : Floor} (error : FetchError)
      (hfetching : run.phase = .fetching work)
      (hledger : next.ledger = (Fetching.cancel floor work.queries).ledger)
      (hcalls : next.calls = floor.calls) (hclock : next.clock = floor.clock) :
    Course context run barrier floor (.ends (.error error)) next
  /-- The queries act, and those that are not over after that are given up. -/
  | ends {work : Fetching} {next : Floor} {result : Except FetchError GroupReply}
      (hwork : run.WorksOn context barrier work)
      (hledger : next.ledger = (Fetching.cancel (run.acted context work floor).2.2
        (run.acted context work floor).1).ledger)
      (hcalls : next.calls = (run.acted context work floor).2.2.calls)
      (hclock : next.clock = floor.clock)
      (hreply : ∀ reply, result = .ok reply →
        ∃ store, reply = .ofPlan run.group work.plan store) :
    Course context run barrier floor (.ends result) next

variable {context : RequestContext} {run : GroupRun} {barrier : Step.Barrier}

theorem asked_spec (context : RequestContext) (run : GroupRun) (work : Fetching) (floor : Floor) :
    (run.asked context work floor).2.ledger = (run.acted context work floor).2.2.ledger ∧
      (run.asked context work floor).2.calls = (run.acted context work floor).2.2.calls ∧
      (run.asked context work floor).2.clock = floor.clock := by
  obtain ⟨hledger, hcalls, hclock⟩ := work.recent.act_spec context run.id run.group.metrics
    work.plan.start work.plan.stop (run.acted context work floor).2.2
  exact ⟨hledger, hcalls, hclock.trans (Fetching.clock_actAll _ _ _ _ _)⟩

theorem Fetched.course {work : Fetching} {floor next : Floor} {turn : Turn}
    (h : run.Fetched context work floor turn next) (hwork : run.WorksOn context barrier work) :
    run.Course context barrier floor turn next := by
  have hclock : (run.acted context work floor).2.2.clock = floor.clock :=
    Fetching.clock_actAll _ _ _ _ _
  obtain ⟨hledgerAsked, hcallsAsked, hclockAsked⟩ := run.asked_spec context work floor
  cases h with
  | crashesFirst hfirst =>
      rcases hwork with hfetching | ⟨-, plan, -, rfl⟩
      · exact .breaks _ hfetching rfl (Fetching.calls_cancel _ _) (Fetching.clock_cancel _ _)
      · cases hfirst
  | crashes =>
      exact .ends hwork rfl (Fetching.calls_cancel _ _) ((Fetching.clock_cancel _ _).trans hclock)
        nofun
  | crashesLast =>
      exact .ends hwork (Fetching.ledger_cancel_congr hledgerAsked _)
        ((Fetching.calls_cancel _ _).trans hcallsAsked)
        ((Fetching.clock_cancel _ _).trans hclockAsked) nofun
  | @ends verdict points hverdict hpoints =>
      have hover := Fetching.ledger_cancel_of_over (Fetching.isOver_of_verdict? hverdict)
        (run.acted context work floor).2.2
      refine .ends hwork (hledgerAsked.trans hover.symm) hcallsAsked hclockAsked
        fun reply hreply => ?_
      cases verdict with
      | error error => cases hreply
      | ok =>
          cases hreply
          exact ⟨_, rfl⟩
  | goesOn => exact .works hwork hledgerAsked hcallsAsked hclockAsked _ _

theorem fetch_course (hbefore : run.phase.queries = []) {plan : Plan.QueryPlan}
    (hplan : run.Plans context barrier plan) (floor : Floor) :
    run.Course context barrier floor (run.fetch context plan floor).1
      (run.fetch context plan floor).2 := by
  unfold fetch
  dsimp only
  split
  next hnone => exact .empty hbefore hplan (by simpa using hnone)
  next => exact (fetched_fetchOn context run _ floor).course (.inr ⟨hbefore, plan, hplan, rfl⟩)

theorem fetchAggregated_course (hmode : context.mode = .aggregated)
    (hbefore : run.phase.queries = []) {common : Except StepError UInt32}
    (hcommon : ∀ step, common = .ok step → run.group.metrics ≠ [] →
      barrier.released = true ∧ ∃ waited, barrier.answer true waited = .ok step)
    (floor : Floor) :
    run.Course context barrier floor
      (run.fetchAggregated context (.resolve run.group run.frame context.epoch) common floor).1
      (run.fetchAggregated context (.resolve run.group run.frame context.epoch) common
        floor).2 := by
  unfold fetchAggregated
  dsimp only
  split
  next plan hplan =>
    apply fetch_course hbefore
    rw [Plans, hmode]
    cases common with
    | error error => cases hplan
    | ok step => exact ⟨step, hplan, hcommon step rfl⟩
  next => exact .fails _ hbefore

theorem awaitStep_course (hmode : context.mode = .aggregated) (hbefore : run.phase.queries = [])
    (expires : Timer) (floor : Floor) :
    run.Course context barrier floor
      (run.awaitStep context (.resolve run.group run.frame context.epoch) expires barrier floor).1
      (run.awaitStep context (.resolve run.group run.frame context.epoch) expires barrier
        floor).2 := by
  unfold awaitStep
  dsimp only
  split
  next hreleased =>
    exact fetchAggregated_course hmode hbefore (fun _ hstep _ => ⟨hreleased, _, hstep⟩) floor
  next hclosed =>
    split
    next =>
      apply fetchAggregated_course hmode hbefore
      -- whoever gives up is answered with an error
      intro step hstep
      rw [Step.Barrier.answer] at hstep
      split at hstep
      next => cases hstep
      next => cases hstep
    next => exact .waits _ expires hbefore

theorem begin_course (hready : run.phase = .ready) (barrier : Step.Barrier) (floor : Floor) :
    run.Course context (run.begin context barrier floor).2.1 floor
      (run.begin context barrier floor).1 (run.begin context barrier floor).2.2 := by
  have hbefore : run.phase.queries = [] := by rw [hready]; rfl
  unfold begin
  split
  next hmode =>
    apply fetch_course hbefore
    rw [Plans, hmode]
  next hmode =>
    dsimp only
    split
    next => exact .fails _ hbefore
    next step _ =>
      dsimp only
      split
      next hempty =>
        apply fetchAggregated_course hmode hbefore
        intro _ _ hsome
        exact absurd (Plan.Grouping.isEmpty_resolve_iff.mp hempty) hsome
      next => exact awaitStep_course hmode hbefore _ floor

theorem advance_course (hopen : run.isDone = false) (hcourse : run.OnCourse context)
    (barrier : Step.Barrier) (floor : Floor) :
    run.Course context (run.advance context barrier floor).2.1 floor
      (run.advance context barrier floor).1 (run.advance context barrier floor).2.2 := by
  unfold advance
  split
  next hready => exact begin_course hready barrier floor
  next grouping expires hwaiting =>
    obtain ⟨hmode, -, rfl⟩ := hcourse.waiting hwaiting
    exact awaitStep_course hmode (by rw [hwaiting]; rfl) expires floor
  next work hfetching => exact (fetched_fetchOn context run work floor).course (.inl hfetching)
  next hdone =>
    rw [isDone, hdone] at hopen
    cases hopen

/-- A turn takes one of these courses, also if the deadline ends it. -/
theorem act_course (hopen : run.isDone = false) (hcourse : run.OnCourse context)
    (barrier : Step.Barrier) (floor : Floor) :
    ∃ turn, run.Course context (run.act context barrier floor).2.2.1 floor turn
        (run.act context barrier floor).2.2.2 ∧
      (run.act context barrier floor).1.phase = turn.phase ∧
      (run.act context barrier floor).2.1 = turn.result? := by
  have hturn := advance_course hopen hcourse barrier floor
  unfold act
  split
  next result _ _ hadvance =>
    rw [hadvance] at hturn
    exact ⟨.ends result, hturn, rfl, rfl⟩
  next phase _ next hadvance =>
    rw [hadvance] at hturn
    split
    next =>
      refine ⟨.ends (.error .deadline), ?_, rfl, rfl⟩
      dsimp only at hturn ⊢
      cases hturn with
      | waits grouping expires hbefore => exact .fails _ hbefore
      | works hwork hledger hcalls hclock recent =>
          exact .ends hwork (Fetching.ledger_cancel_congr hledger _)
            ((Fetching.calls_cancel _ _).trans hcalls)
            ((Fetching.clock_cancel _ _).trans hclock) nofun
    next => exact ⟨.goesOn phase, hturn, rfl, rfl⟩

theorem Course.clock_eq {floor next : Floor} {turn : Turn}
    (h : run.Course context barrier floor turn next) : next.clock = floor.clock := by
  cases h with
  | works hwork hledger hcalls hclock => exact hclock
  | breaks error hfetching hledger hcalls hclock => exact hclock
  | ends hwork hledger hcalls hclock hreply => exact hclock
  | _ => rfl

/-- A turn gives a group a result exactly if it ends the group. -/
theorem Course.isDone_iff {floor next : Floor} {turn : Turn}
    (h : run.Course context barrier floor turn next) {after : GroupRun}
    (hafter : after.phase = turn.phase) : after.isDone = turn.result?.isSome := by
  rw [isDone, hafter]
  cases h <;> rfl

/-- A group that has a turn when its time is up has its last one. -/
theorem isDone_act_of_deadline (hopen : run.isDone = false) (hcourse : run.OnCourse context)
    (barrier : Step.Barrier) {floor : Floor} (hlate : context.deadline ≤ floor.clock.now) :
    (run.act context barrier floor).1.isDone = true := by
  have hclock := (advance_course hopen hcourse barrier floor).clock_eq
  unfold act
  split
  next => rfl
  next hadvance =>
    rw [hadvance] at hclock
    rw [if_pos (by rw [hclock]; exact hlate)]
    rfl

end GroupRun

end SeriesGateway.Fetch
