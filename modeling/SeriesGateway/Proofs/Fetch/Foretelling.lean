import SeriesGateway.Proofs.Fetch.Foresight
import SeriesGateway.Proofs.Traversal

/-! # What a group comes to

A group that makes its plan has foretold what it ends with, up to the order in which the
responses of its queries are added to its points: its turns only let come what is to come,
as long as none of them is late.
-/

namespace SeriesGateway.Fetch

/-! ## Work -/

namespace Fetching

/-- What the queries of a plan come to, in their order. -/
def fates (context : RequestContext) (id : GroupId) (plan : Plan.QueryPlan) :
    List (Fate (Except FetchError (List Wire.Row))) :=
  (queriesOf context id plan).map (·.prospect context.storage)

/-- The points that the secondary source adds for a plan. -/
def recentOf (context : RequestContext) (id : GroupId) (group : TargetGroup)
    (plan : Plan.QueryPlan) : Fate (List RecentPoint) :=
  context.secondary.adds context.config id group.metrics plan.start plan.stop

/-- What queries that end come to together: the rows of all of them, or else the first
error. -/
def outcomeOf (results : List (Except FetchError (List Wire.Row))) :
    Except FetchError (List (List Wire.Row)) :=
  results.mapM id

theorem eq_map_of_outcomeOf {results : List (Except FetchError (List Wire.Row))}
    {responses : List (List Wire.Row)} (h : outcomeOf results = .ok responses) :
    results = responses.map .ok := by
  unfold outcomeOf at h
  induction results generalizing responses with
  | nil =>
      cases h
      rfl
  | cons result rest ih =>
      obtain ⟨rows, others, hresult, hothers, rfl⟩ := Traversal.mapM_cons_eq_ok_iff.mp h
      rw [List.map_cons, ← ih hothers, ← hresult]
      rfl

/-- The store holds the responses of the queries that have ended well, in some order. -/
def HoldsResponses (group : TargetGroup) (work : Fetching) : Prop :=
  ∃ order, work.store = storeOf group.isReversed work.plan order ∧
    order.Perm (work.queries.filterMap (·.rows?))

/-- What is to come of queries and of the secondary source is what was to come of them when
the work for the plan began. -/
structure Foretold (context : RequestContext) (id : GroupId) (group : TargetGroup)
    (work : Fetching) : Prop where
  fates : work.queries.map (·.prospect context.storage) = fates context id work.plan
  deadlines : ∀ query ∈ work.queries, query.deadline = context.deadline
  store : work.HoldsResponses group
  recent : work.recent.prospect context id group.metrics work.plan.start work.plan.stop =
    recentOf context id group work.plan

variable {context : RequestContext} {id : GroupId} {group : TargetGroup}

theorem Foretold.queries_ne_nil {work : Fetching} (h : work.Foretold context id group)
    (hsome : work.plan.queries ≠ []) : work.queries ≠ [] := by
  intro hnone
  have hlength := congrArg List.length h.fates
  rw [hnone] at hlength
  simp only [Fetching.fates, queriesOf, List.length_map, List.length_zipIdx,
    List.length_nil] at hlength
  exact hsome (List.eq_nil_of_length_eq_zero hlength.symm)

theorem holdsResponses_new (context : RequestContext) (id : GroupId) (group : TargetGroup)
    (plan : Plan.QueryPlan) :
    HoldsResponses group
      ⟨plan, describedStore plan, queriesOf context id plan, .unasked, false⟩ := by
  refine ⟨[], rfl, ?_⟩
  rw [List.filterMap_eq_nil_iff.mpr]
  intro query hquery
  obtain ⟨entry, -, rfl⟩ := List.mem_map.mp hquery
  rfl

theorem foretold_new (context : RequestContext) (id : GroupId) (group : TargetGroup)
    (plan : Plan.QueryPlan) :
    Foretold context id group
      ⟨plan, describedStore plan, queriesOf context id plan, .unasked, false⟩ where
  fates := rfl
  deadlines := by
    intro query hquery
    obtain ⟨entry, -, rfl⟩ := List.mem_map.mp hquery
    rfl
  store := holdsResponses_new context id group plan
  recent := rfl

/-- Before they are sent queries have no timers. -/
theorem timers_queriesOf (context : RequestContext) (id : GroupId) (plan : Plan.QueryPlan) :
    (queriesOf context id plan).flatMap (·.timers) = [] := by
  rw [List.flatMap_eq_nil_iff]
  intro query hquery
  obtain ⟨entry, -, rfl⟩ := List.mem_map.mp hquery
  rfl

section ActAll

variable {storage : Storage} {reversed : Bool}

/-- Turns in time do not change what queries come to, also if one crashes before the others
have theirs. -/
theorem map_prospect_actAll (store : PointStore) {floor : Floor} {now : Nat}
    (hnow : floor.clock.now = now) {queries : List QueryRun}
    (htimers : ∀ query ∈ queries, ∀ timer ∈ query.timers, now ≤ timer.due)
    (hearly : ∀ query ∈ queries, now < query.deadline) :
    (actAll storage reversed store floor queries).1.map (·.prospect storage) =
      queries.map (·.prospect storage) := by
  induction queries generalizing store floor with
  | nil => rfl
  | cons run rest ih =>
      obtain ⟨hrun, hrest⟩ := List.forall_mem_cons.mp htimers
      obtain ⟨hrunEarly, hrestEarly⟩ := List.forall_mem_cons.mp hearly
      have hfirst : (run.act storage floor).1.prospect storage = run.prospect storage :=
        QueryRun.prospect_act (by rwa [hnow]) (by rwa [hnow])
      have hlater : (run.act storage floor).2.clock.now = now := by
        rw [(run.act_spec storage floor).2.2, hnow]
      rw [actAll]
      dsimp only
      split
      next => simp only [List.map_cons, hfirst]
      next => simp only [List.map_cons, hfirst, ih _ hlater hrest hrestEarly]

/-- Queries that act one after the other add the rows of those that end well. -/
theorem exists_order_actAll (store : PointStore) (floor : Floor) (queries : List QueryRun) :
    ∃ more : List (List Wire.Row),
      (actAll storage reversed store floor queries).2.1 = more.foldl (addRows reversed) store ∧
      (queries.filterMap (·.rows?) ++ more).Perm
        ((actAll storage reversed store floor queries).1.filterMap (·.rows?)) := by
  induction queries generalizing store floor with
  | nil => exact ⟨[], rfl, .nil⟩
  | cons run rest ih =>
      let after := (run.act storage floor).1
      have hfilter : ∀ (query : QueryRun) others,
          (query :: others).filterMap (·.rows?) =
            query.rows?.toList ++ others.filterMap (·.rows?) := by
        intro query others
        cases hrows : query.rows? <;> simp [hrows]
      obtain ⟨added, hstore, hrows⟩ : ∃ added : List (List Wire.Row),
          collect reversed store run after = added.foldl (addRows reversed) store ∧
            run.rows?.toList ++ added = after.rows?.toList := by
        rcases collect_act storage reversed run floor with ⟨hsame, hsilent⟩ |
          ⟨hnone, rows, hended, hadds⟩
        · exact ⟨[], hsilent store, by rw [List.append_nil, hsame]⟩
        · refine ⟨[rows], hadds store, ?_⟩
          rw [QueryRun.rows?_of_none hnone, QueryRun.rows?_of_result? hended]
          rfl
      rw [actAll]
      dsimp only
      split
      next =>
        refine ⟨added, hstore, ?_⟩
        rw [hfilter, hfilter, ← hrows, List.append_assoc, List.append_assoc]
        exact List.perm_append_comm.append_left _
      next =>
        obtain ⟨more, hmore, hperm⟩ :=
          ih (collect reversed store run after) (run.act storage floor).2
        refine ⟨added ++ more, ?_, ?_⟩
        · rw [List.foldl_append, ← hstore]
          exact hmore
        · rw [hfilter, hfilter, ← hrows, List.append_assoc, List.append_assoc]
          refine List.Perm.append_left _ (List.Perm.trans ?_ (hperm.append_left added))
          rw [← List.append_assoc, ← List.append_assoc]
          exact List.perm_append_comm.append_right more

end ActAll

/-- When all queries have ended, what they ended with is what they were to come to. -/
theorem map_prospect_of_results {storage : Storage} {queries : List QueryRun}
    {results : List (Except FetchError (List Wire.Row))}
    (h : queries.mapM QueryRun.result? = some results) :
    queries.map (·.prospect storage) = results.map .ok ∧
      queries.filterMap (·.rows?) = results.filterMap Except.toOption := by
  induction queries generalizing results with
  | nil =>
      cases h
      exact ⟨rfl, rfl⟩
  | cons run rest ih =>
      rw [List.mapM_cons] at h
      obtain ⟨result, hresult, h⟩ := Option.bind_eq_some_iff.mp h
      obtain ⟨others, hothers, h⟩ := Option.bind_eq_some_iff.mp h
      cases h
      obtain ⟨hprospects, hrows⟩ := ih hothers
      refine ⟨?_, ?_⟩
      · rw [List.map_cons, List.map_cons, hprospects, QueryRun.prospect_of_result? hresult]
      · rw [List.filterMap_cons, List.filterMap_cons, QueryRun.rows?_of_result? hresult, hrows]

end Fetching

/-! ## Results -/

/-- What a group can end with that plans so, if it ends before its deadline. Only the order
in which responses were added is left open. -/
inductive Foreseen (context : RequestContext) (id : GroupId) (group : TargetGroup) :
    Except StepError Plan.QueryPlan → Except FetchError GroupReply → Prop
  | unplanned (error : StepError) :
    Foreseen context id group (.error error) (.error (.step error))
  /-- There is nothing to ask for. -/
  | idle {plan : Plan.QueryPlan} (hnone : plan.queries = []) :
    Foreseen context id group (.ok plan) (.ok (.ofPlan group plan (Fetching.describedStore plan)))
  /-- A query or the secondary source takes the group down. -/
  | crashes {plan : Plan.QueryPlan} {reason : String}
      (hcrash : Except.error reason ∈ Fetching.fates context id plan ∨
        Fetching.recentOf context id group plan = .error reason) :
    Foreseen context id group (.ok plan) (.error (.taskFailed reason))
  | fails {plan : Plan.QueryPlan} {results : List (Except FetchError (List Wire.Row))}
      {recent : List RecentPoint} {error : FetchError}
      (hfates : Fetching.fates context id plan = results.map .ok)
      (hrecent : Fetching.recentOf context id group plan = .ok recent)
      (herror : Fetching.outcomeOf results = .error error) :
    Foreseen context id group (.ok plan) (.error error)
  | replies {plan : Plan.QueryPlan} {responses order : List (List Wire.Row)}
      {recent : List RecentPoint} (hsome : plan.queries ≠ [])
      (hfates : Fetching.fates context id plan = responses.map fun rows => .ok (.ok rows))
      (hrecent : Fetching.recentOf context id group plan = .ok recent)
      (horder : order.Perm responses) :
    Foreseen context id group (.ok plan) (.ok (.ofPlan group plan
      (Fetching.conclude plan (Fetching.storeOf group.isReversed plan order) recent)))

/-- What is known of a group that plans so, by how far it has come: who waits at the barrier
has patience, and steps that fit. -/
def GroupPhase.Foretold (context : RequestContext) (id : GroupId) (frame : TimeFrame)
    (group : TargetGroup) (planned : Except StepError Plan.QueryPlan) : GroupPhase → Prop
  | .waiting _ expires =>
    let patience := context.config.stepResolveTimeout.millisCovering
    expires.due = context.started + patience ∧ 0 < patience ∧
      ∃ step, (Plan.Grouping.resolve group frame context.epoch).contribution = .ok step
  | .fetching work =>
    planned = .ok work.plan ∧ work.plan.queries ≠ [] ∧ work.Foretold context id group
  | _ => True

namespace GroupRun

variable {context : RequestContext} {run : GroupRun} {barrier : Step.Barrier} {floor next : Floor}
  {turn : Turn}

/-- What a turn leads to is what was to come of the plan of the group. -/
def Fulfils (context : RequestContext) (run : GroupRun)
    (planned : Except StepError Plan.QueryPlan) : Turn → Prop
  | .goesOn phase => phase.Foretold context run.id run.frame run.group planned
  | .ends result => Foreseen context run.id run.group planned result

/-- Who begins to wait at the barrier has steps that fit, and patience. -/
theorem contribution_of_patience {clock : Clock} (hready : run.phase = .ready)
    (hnone : run.planned? context barrier clock = none) :
    0 < context.config.stepResolveTimeout.millisCovering ∧
      ∃ step, (Plan.Grouping.resolve run.group run.frame context.epoch).contribution =
        .ok step := by
  unfold planned? at hnone
  split at hnone
  next hwaiting => simp [hready] at hwaiting
  next => cases hnone
  next =>
    dsimp only at hnone
    split at hnone
    next => cases hnone
    next step hstep =>
      split at hnone
      next => cases hnone
      next =>
        have hlt : clock.now < clock.now + _ := lt_due_of_answered? hnone
        exact ⟨by omega, step, hstep⟩

/-- Queries that act add their responses as they end. -/
theorem holdsResponses_acted {work : Fetching} (h : work.HoldsResponses run.group) (floor : Floor)
    (recent : RecentRun) (recentFirst : Bool) :
    Fetching.HoldsResponses run.group
      ⟨work.plan, (run.acted context work floor).2.1, (run.acted context work floor).1, recent,
        recentFirst⟩ := by
  obtain ⟨order, hstore, horder⟩ := h
  obtain ⟨more, hmore, hperm⟩ := @Fetching.exists_order_actAll context.storage
    run.group.isReversed work.store floor work.queries
  refine ⟨order ++ more, ?_, (horder.append_right more).trans hperm⟩
  rw [Fetching.storeOf, List.foldl_append, ← Fetching.storeOf, ← hstore]
  exact hmore

/-- Nothing of what was foretold changes in a turn that is in time. -/
theorem foretold_acted {work : Fetching} (h : work.Foretold context run.id run.group)
    (htimers : ∀ timer ∈ work.timers, floor.clock.now ≤ timer.due)
    (hearly : floor.clock.now < context.deadline) :
    Fetching.Foretold context run.id run.group
      ⟨work.plan, (run.acted context work floor).2.1, (run.acted context work floor).1,
        (run.asked context work floor).1, !work.recentFirst⟩ where
  fates := by
    rw [← h.fates]
    refine Fetching.map_prospect_actAll work.store rfl (fun query hquery timer htimer => ?_)
      fun query hquery => ?_
    · exact htimers timer
        (List.mem_append_left _ (List.mem_flatMap.mpr ⟨query, hquery, htimer⟩))
    · rw [h.deadlines query hquery]
      exact hearly
  deadlines := by
    refine Fetching.forall_mem_actAll (fun query other hdeadline => ?_) _ _ _ h.deadlines
    obtain ⟨phase, hphase⟩ := query.exists_phase_act context.storage other
    rw [hphase]
    exact hdeadline
  store := holdsResponses_acted h.store floor _ _
  recent := by
    rw [← h.recent]
    apply RecentRun.prospect_act
    intro timer htimer
    rw [acted, Fetching.clock_actAll]
    exact htimers timer (List.mem_append_right _ htimer)

theorem Fetched.fulfils {work : Fetching} (h : run.Fetched context work floor turn next)
    (hwork : work.Foretold context run.id run.group) (hsome : work.plan.queries ≠ [])
    (htimers : ∀ timer ∈ work.timers, floor.clock.now ≤ timer.due)
    (hearly : floor.clock.now < context.deadline) :
    run.Fulfils context (.ok work.plan) turn := by
  have hafter := foretold_acted hwork htimers hearly
  cases h with
  | crashesFirst _ hcrashed =>
      refine .crashes (.inr ?_)
      rw [← hwork.recent, ← RecentRun.prospect_of_crash? hcrashed]
      exact (RecentRun.prospect_act fun timer htimer =>
        htimers timer (List.mem_append_right _ htimer)).symm
  | @crashes query _ hquery hcrashed =>
      refine .crashes (.inl ?_)
      rw [← hafter.fates]
      exact List.mem_map.mpr ⟨query, hquery, QueryRun.prospect_of_crash? hcrashed⟩
  | crashesLast hcrashed =>
      refine .crashes (.inr ?_)
      rw [← hafter.recent]
      exact RecentRun.prospect_of_crash? hcrashed
  | @ends verdict points hverdict hpoints =>
      obtain ⟨results, hresults, rfl⟩ := Option.map_eq_some_iff.mp hverdict
      obtain ⟨hfates, hrows⟩ :=
        @Fetching.map_prospect_of_results context.storage _ _ hresults
      rw [hafter.fates] at hfates
      have hrecent : Fetching.recentOf context run.id run.group work.plan = .ok points := by
        rw [← hafter.recent]
        exact RecentRun.prospect_of_points? hpoints
      rw [← Fetching.outcomeOf]
      cases hall : Fetching.outcomeOf results with
      | error error => exact .fails hfates hrecent hall
      | ok responses =>
          obtain rfl := Fetching.eq_map_of_outcomeOf hall
          obtain ⟨order, hstore, horder⟩ := hafter.store
          have hresponses : order.Perm responses := by
            refine horder.trans ?_
            rw [hrows, List.filterMap_map]
            simp [Function.comp_def, Except.toOption]
          dsimp only at hstore
          rw [hstore]
          refine .replies hsome ?_ hrecent hresponses
          rw [hfates, List.map_map]
          rfl
  | goesOn hsound => exact ⟨rfl, hsome, hafter⟩

/-- Whoever learns the plan that it goes by, and is not late, does what it has to. -/
theorem Advanced.fulfils {planned : Except StepError Plan.QueryPlan}
    (h : run.Advanced context barrier floor turn next)
    (hphase : run.phase.Foretold context run.id run.frame run.group planned)
    (hplanned : run.phase.queries = [] →
      ∀ plan, run.planned? context barrier floor.clock = some plan → plan = planned)
    (hready : run.phase = .ready → floor.clock.now = context.started)
    (htimers : ∀ timer ∈ run.phase.timers, floor.clock.now ≤ timer.due)
    (hearly : floor.clock.now < context.deadline) :
    run.Fulfils context planned turn := by
  cases h with
  | @waits expires hbefore hwaits hnone =>
      rcases hwaits with ⟨hfirst, rfl⟩ | ⟨grouping, hwaiting⟩
      · refine ⟨?_, contribution_of_patience hfirst hnone⟩
        rw [← hready hfirst]
        rfl
      · rw [hwaiting] at hphase
        exact hphase
  | unplanned hbefore hsome =>
      rw [← hplanned hbefore _ hsome]
      exact .unplanned _
  | @fetches plan hbefore hsome =>
      rw [← hplanned hbefore _ hsome]
      unfold fetch
      dsimp only
      split
      next hnone => exact .idle (List.isEmpty_iff.mp hnone)
      next hqueries =>
        refine (fetched_fetchOn context run _ floor).fulfils
          (Fetching.foretold_new context run.id run.group plan)
          (mt List.isEmpty_iff.mpr hqueries) ?_ hearly
        simp [Fetching.timers, Fetching.timers_queriesOf, RecentRun.timers]
  | @goesOn work hfetching =>
      rw [hfetching] at hphase htimers
      obtain ⟨rfl, hsome, hwork⟩ := hphase
      exact (fetched_fetchOn context run work floor).fulfils hwork hsome htimers hearly

/-- A turn that is in time ends the group as was foretold, or leaves it so. -/
theorem act_fulfils {planned : Except StepError Plan.QueryPlan} (hopen : run.isDone = false)
    (hcourse : run.OnCourse context)
    (hphase : run.phase.Foretold context run.id run.frame run.group planned)
    (hplanned : run.phase.queries = [] → ∀ plan,
      run.planned? context (run.act context barrier floor).2.2.1 floor.clock = some plan →
        plan = planned)
    (hready : run.phase = .ready → floor.clock.now = context.started)
    (htimers : ∀ timer ∈ run.phase.timers, floor.clock.now ≤ timer.due)
    (hearly : floor.clock.now < context.deadline) :
    let acted := run.act context barrier floor
    acted.1.phase.Foretold context run.id run.frame run.group planned ∧
      ∀ result, acted.2.1 = some result → Foreseen context run.id run.group planned result := by
  have hadvanced := advanced_advance hopen hcourse barrier floor
  have hclock := (advance_course hopen hcourse barrier floor).clock_eq
  dsimp only
  rcases run.act_cases context barrier floor with
    ⟨result, hturn, hact⟩ | ⟨phase, -, hlate, -⟩ | ⟨phase, hturn, -, hact⟩
  · rw [hact] at hplanned ⊢
    have hfulfils := hadvanced.fulfils hphase hplanned hready htimers hearly
    rw [hturn] at hfulfils
    refine ⟨trivial, fun other hother => ?_⟩
    rw [← Option.some.inj hother]
    exact hfulfils
  · rw [hclock] at hlate
    exact absurd hearly (Nat.not_lt.mpr hlate)
  · rw [hact] at hplanned ⊢
    have hfulfils := hadvanced.fulfils hphase hplanned hready htimers hearly
    rw [hturn] at hfulfils
    exact ⟨hfulfils, nofun⟩

end GroupRun

end SeriesGateway.Fetch
