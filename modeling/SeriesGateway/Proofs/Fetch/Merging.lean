import SeriesGateway.Proofs.Fetch.Record
import SeriesGateway.Proofs.Point.Recency

/-! # What a reply is made of

Whatever the schedule, a group that replies has added the response of each of its queries, in
the order in which these ended, and behind them the points that the secondary source gave.
Which these are is left open in one case only: an answer that takes longer than anybody waits
for it may still be found in time by a group that is kept waiting itself.
-/

namespace SeriesGateway.Fetch

/-! ## Answers -/

/-- Storage answers a call with a body that holds these rows, and all of it can be decoded. -/
def Storage.Answers (storage : Storage) (call : Call) (rows : List Wire.Row) : Prop :=
  ∃ stream, (storage call.1 call.2).outcome = .body stream ∧
    stream.response call.2.shape = .ok rows

theorem Storage.Answers.eq {storage : Storage} {call : Call} {rows others : List Wire.Row}
    (h : storage.Answers call rows) (hothers : storage.Answers call others) : rows = others := by
  obtain ⟨stream, hstream, hrows⟩ := h
  obtain ⟨same, hsame, hothers⟩ := hothers
  obtain rfl := Outcome.body.inj (hstream.symm.trans hsame)
  exact Except.ok.inj (hrows.symm.trans hothers)

/-- The points that the secondary source can give for a question: those that it answers with.
Without a source, and in place of an answer that fails or takes too long, there are none. -/
def Secondary.Gives (secondary : Secondary) (config : FetchConfig) (id : GroupId)
    (metrics : List String) (start stop : UInt32) (points : List RecentPoint) : Prop :=
  match secondary with
  | .absent => points = []
  | .present source =>
    let answer := source id metrics start stop
    answer.points = .ok points ∨ points = [] ∧
      ((∃ error, answer.points = .error (.failed error)) ∨
        config.secondaryTimeout.millisCovering < answer.delay)

namespace Secondary.Gives

variable {source : RecentSource} {config : FetchConfig} {id : GroupId} {metrics : List String}
  {start stop : UInt32} {points found : List RecentPoint}

/-- An answer that comes in time is taken. -/
theorem eq_of_in_time (h : (Secondary.present source).Gives config id metrics start stop points)
    (hfound : (source id metrics start stop).points = .ok found)
    (hintime : (source id metrics start stop).delay ≤ config.secondaryTimeout.millisCovering) :
    points = found := by
  rcases h with hpoints | ⟨-, ⟨error, herror⟩ | hslow⟩
  · exact Except.ok.inj (hpoints.symm.trans hfound)
  · cases hfound.symm.trans herror
  · exact absurd hintime (Nat.not_le.mpr hslow)

theorem eq_nil_of_failed
    (h : (Secondary.present source).Gives config id metrics start stop points)
    {error : TransportError}
    (hfailed : (source id metrics start stop).points = .error (.failed error)) : points = [] := by
  rcases h with hpoints | ⟨hnone, -⟩
  · cases hpoints.symm.trans hfailed
  · exact hnone

end Secondary.Gives

/-! ## Work in progress -/

/-- What the groups of a request talk to. -/
def RequestContext.orchestrator (context : RequestContext) : Orchestrator :=
  ⟨context.config, context.storage, context.secondary⟩

/-- The question to the secondary source is where the answer to it leads. -/
def RecentRun.Faithful (orchestrator : Orchestrator) (id : GroupId) (metrics : List String)
    (start stop : UInt32) : RecentRun → Prop
  | .unasked => True
  | .asking answer arrives expires => ∃ source begun,
    orchestrator.secondary = .present source ∧ answer = source id metrics start stop ∧
      arrives.due = begun + answer.delay ∧
      expires.due = begun + orchestrator.config.secondaryTimeout.millisCovering
  | .answered points =>
    orchestrator.secondary.Gives orchestrator.config id metrics start stop points
  | .crashed _ => True

namespace RecentRun

variable {context : RequestContext} {id : GroupId} {metrics : List String} {start stop : UInt32}

theorem faithful_await {source : RecentSource} (hsource : context.secondary = .present source)
    {clock : Clock} {arrives expires : Timer} {begun : Nat}
    (harrives : arrives.due = begun + (source id metrics start stop).delay)
    (hexpires : expires.due = begun + context.config.secondaryTimeout.millisCovering) :
    (await (source id metrics start stop) arrives expires clock).Faithful context.orchestrator id
      metrics start stop := by
  have hgives : ∀ points, (Secondary.present source).Gives context.config id metrics start stop
      points → (answered points).Faithful context.orchestrator id metrics start stop := by
    intro points hpoints
    rw [← hsource] at hpoints
    exact hpoints
  unfold await
  split
  next =>
    split
    next points hpoints => exact hgives points (.inl hpoints)
    next error herror => exact hgives [] (.inr ⟨rfl, .inl ⟨error, herror⟩⟩)
    next => trivial
  next hunreached =>
    have hlt := Clock.lt_due_of_not_reached hunreached
    split
    next hexpired =>
      have hslow := Nat.lt_of_le_of_lt (Clock.due_le_of_reached hexpired) hlt
      exact hgives [] (.inr ⟨rfl, .inr (by omega)⟩)
    next => exact ⟨source, begun, hsource, rfl, harrives, hexpires⟩

theorem Faithful.act {run : RecentRun}
    (h : run.Faithful context.orchestrator id metrics start stop) (floor : Floor) :
    (run.act context id metrics start stop floor).1.Faithful context.orchestrator id metrics start
      stop := by
  cases run with
  | unasked =>
      unfold RecentRun.act
      dsimp only
      split
      next hsecondary =>
        change context.secondary.Gives context.config id metrics start stop []
        rw [hsecondary]
        rfl
      next source hsecondary => exact faithful_await hsecondary rfl rfl
  | asking answer arrives expires =>
      obtain ⟨source, begun, hsource, rfl, harrives, hexpires⟩ := h
      exact faithful_await hsource harrives hexpires
  | answered points => exact h
  | crashed reason => trivial

theorem Faithful.gives {run : RecentRun} {orchestrator : Orchestrator}
    (h : run.Faithful orchestrator id metrics start stop) {points : List RecentPoint}
    (hpoints : run.points? = some points) :
    orchestrator.secondary.Gives orchestrator.config id metrics start stop points := by
  unfold points? at hpoints
  split at hpoints
  next => exact Option.some.inj hpoints ▸ h
  next => cases hpoints

end RecentRun

namespace Fetching

/-- The queries and the question of a group are where their answers lead, and its points are
the responses that it has so far. -/
structure Faithful (orchestrator : Orchestrator) (id : GroupId) (group : TargetGroup)
    (work : Fetching) : Prop where
  asks : work.plan.queries ≠ []
  calls : work.queries.map (fun query => (query.ticket, query.query)) = callsOf id work.plan
  queries : ∀ query ∈ work.queries, query.Faithful orchestrator.storage
  store : work.HoldsResponses group
  recent : work.recent.Faithful orchestrator id group.metrics work.plan.start work.plan.stop

variable {context : RequestContext} {id : GroupId} {group : TargetGroup}

theorem faithful_new (context : RequestContext) (id : GroupId) (group : TargetGroup)
    {plan : Plan.QueryPlan} (hasks : plan.queries ≠ []) :
    Faithful context.orchestrator id group
      ⟨plan, describedStore plan, queriesOf context id plan, .unasked, false⟩ where
  asks := hasks
  calls := map_call_of_badges (RequestRun.map_badge_queriesOf context id plan)
  queries := by
    intro query hquery
    rw [QueryRun.Faithful, (admission_of_mem_queriesOf hquery).1]
    trivial
  store := holdsResponses_new context id group plan
  recent := trivial

end Fetching

/-- A reply is made of the responses of all queries of a plan, in some order, and of the points
that the secondary source gave, which came behind them. -/
def GroupReply.MadeOf (orchestrator : Orchestrator) (id : GroupId) (group : TargetGroup)
    (plan : Plan.QueryPlan) (responses : List (List Wire.Row)) (recent : List RecentPoint)
    (reply : GroupReply) : Prop :=
  List.Forall₂ orchestrator.storage.Answers (Fetching.callsOf id plan) responses ∧
    orchestrator.secondary.Gives orchestrator.config id group.metrics plan.start plan.stop recent ∧
    ∃ order, order.Perm responses ∧
      (Fetching.storeOf group.isReversed plan order).MergesBehind recent ∧
      reply = .ofPlan group plan
        (Fetching.conclude plan (Fetching.storeOf group.isReversed plan order) recent)

/-- A reply is made so, unless there is nothing to ask for. -/
def GroupReply.Merges (orchestrator : Orchestrator) (id : GroupId) (group : TargetGroup)
    (plan : Plan.QueryPlan) (reply : GroupReply) : Prop :=
  plan.queries = [] ∧ reply = .ofPlan group plan (Fetching.describedStore plan) ∨
    plan.queries ≠ [] ∧
      ∃ responses recent, reply.MadeOf orchestrator id group plan responses recent

namespace GroupRun

variable {context : RequestContext} {run : GroupRun} {barrier : Step.Barrier} {floor next : Floor}
  {turn : Turn} {work : Fetching}

theorem faithful_acted (h : work.Faithful context.orchestrator run.id run.group) (floor : Floor)
    (recentFirst : Bool) :
    Fetching.Faithful context.orchestrator run.id run.group
      ⟨work.plan, (run.acted context work floor).2.1, (run.acted context work floor).1,
        (run.asked context work floor).1, recentFirst⟩ where
  asks := h.asks
  calls := by
    have hbadges := congrArg (List.map fun badge => (badge.1, badge.2.1))
      (Fetching.map_badge_actAll context.storage run.group.isReversed work.store floor work.queries)
    rw [List.map_map, List.map_map] at hbadges
    exact hbadges.trans h.calls
  queries := Fetching.forall_mem_actAll (fun _ other hquery => hquery.act other) _ _ _ h.queries
  store := holdsResponses_acted h.store floor _ recentFirst
  recent := h.recent.act _

/-- What a turn of a group comes to as far as answers are concerned. -/
def Delivers (context : RequestContext) (run : GroupRun) (barrier : Step.Barrier) : Turn → Prop
  | .goesOn phase =>
    ∀ work, phase = .fetching work → work.Faithful context.orchestrator run.id run.group
  | .ends result => ∀ reply, result = .ok reply → ∃ work, run.WorksOn context barrier work ∧
    reply.Merges context.orchestrator run.id run.group work.plan

/-- Queries that have all ended well were answered, each with its rows. -/
theorem answered_of_ended (hwork : work.Faithful context.orchestrator run.id run.group)
    {responses : List (List Wire.Row)}
    (h : List.Forall₂ (fun query rows => query.phase = .ended (.ok rows)) work.queries responses) :
    List.Forall₂ context.storage.Answers (Fetching.callsOf run.id work.plan) responses ∧
      work.queries.filterMap (·.rows?) = responses := by
  rw [← hwork.calls, List.forall₂_map_left_iff]
  have hfaithful := hwork.queries
  generalize work.queries = queries at h hfaithful
  induction h with
  | nil => exact ⟨.nil, rfl⟩
  | @cons query rows _ _ hended _ ih =>
      obtain ⟨hquery, hothers⟩ := List.forall_mem_cons.mp hfaithful
      obtain ⟨hanswers, hrows⟩ := ih hothers
      have hresult : query.result? = some (.ok rows) := by rw [QueryRun.result?, hended]
      refine ⟨.cons (hquery.receives hresult) hanswers, ?_⟩
      rw [List.filterMap_cons, QueryRun.rows?_of_result? hresult, hrows]
      rfl

theorem Fetched.delivers (h : run.Fetched context work floor turn next)
    (hworks : run.WorksOn context barrier work)
    (hwork : work.Faithful context.orchestrator run.id run.group) :
    run.Delivers context barrier turn := by
  have hafter := faithful_acted hwork floor
  cases h with
  | crashesFirst => exact nofun
  | crashes => exact nofun
  | crashesLast => exact nofun
  | goesOn =>
      rintro _ ⟨⟩
      exact hafter _
  | @ends verdict points hverdict hpoints =>
      intro reply hreply
      cases verdict with
      | error error => cases hreply
      | ok =>
          obtain rfl := Except.ok.inj hreply
          obtain ⟨responses, hended⟩ := Fetching.exists_responses_of_verdict hverdict
          obtain ⟨hanswers, hrows⟩ := answered_of_ended (hafter false) hended
          obtain ⟨order, hstore, horder⟩ := (hafter false).store
          have hgiven := (hafter false).recent.gives hpoints
          refine ⟨work, hworks, .inr ⟨hwork.asks, responses, points, hanswers, hgiven, order,
            hrows ▸ horder, PointStore.mergesBehind _ _, ?_⟩⟩
          dsimp only at hstore
          rw [hstore]

theorem Advanced.delivers (h : run.Advanced context barrier floor turn next)
    (hcourse : run.OnCourse context)
    (hwork : ∀ work, run.phase = .fetching work →
      work.Faithful context.orchestrator run.id run.group) :
    run.Delivers context barrier turn := by
  cases h with
  | waits => exact nofun
  | unplanned => exact nofun
  | @fetches plan hbefore hplanned =>
      have hworks : run.WorksOn context barrier
          ⟨plan, Fetching.describedStore plan, Fetching.queriesOf context run.id plan, .unasked,
            false⟩ :=
        .inr ⟨hbefore, plan, plans_of_planned? hcourse hplanned, rfl⟩
      unfold fetch
      dsimp only
      split
      next hnone =>
        rintro _ ⟨⟩
        exact ⟨_, hworks, .inl ⟨List.isEmpty_iff.mp hnone, rfl⟩⟩
      next hsome =>
        exact (fetched_fetchOn context run _ floor).delivers hworks
          (Fetching.faithful_new context run.id run.group (mt List.isEmpty_iff.mpr hsome))
  | @goesOn work hfetching =>
      exact (fetched_fetchOn context run work floor).delivers (.inl hfetching)
        (hwork work hfetching)

/-- A turn leaves a group where its answers lead; and a reply is made of them. -/
theorem act_delivers (hopen : run.isDone = false) (hcourse : run.OnCourse context)
    (hwork : ∀ work, run.phase = .fetching work →
      work.Faithful context.orchestrator run.id run.group) :
    let acted := run.act context barrier floor
    (∀ work, acted.1.phase = .fetching work →
      work.Faithful context.orchestrator run.id run.group) ∧
    ∀ reply, acted.2.1 = some (.ok reply) → ∃ work, run.WorksOn context acted.2.2.1 work ∧
      reply.Merges context.orchestrator run.id run.group work.plan := by
  have hdelivers := (advanced_advance hopen hcourse barrier floor).delivers hcourse hwork
  dsimp only
  rcases run.act_cases context barrier floor with
    ⟨result, hturn, hact⟩ | ⟨phase, -, -, hact⟩ | ⟨phase, hturn, -, hact⟩ <;> rw [hact]
  · rw [hturn] at hdelivers
    exact ⟨nofun, fun reply hreply => hdelivers reply (Option.some.inj hreply)⟩
  · exact ⟨nofun, nofun⟩
  · rw [hturn] at hdelivers
    exact ⟨hdelivers, nofun⟩

end GroupRun

/-! ## Runs -/

namespace Run

variable {orchestrator : Orchestrator} {requests : List (Nat × Request)} {run : Run}

theorem GroupTurn.delivers {id : GroupId} {request : RequestRun} {started : Nat}
    {group : GroupRun} {agents : List Agent}
    (h : run.GroupTurn orchestrator id request started group agents)
    (hrun : Played orchestrator requests run)
    (hwork : ∀ work, group.phase = .fetching work → work.Faithful orchestrator id group.group) :
    (∀ work, (run.turnOf orchestrator request started group).1.phase = .fetching work →
      work.Faithful orchestrator id group.group) ∧
    ∀ reply, (run.turnOf orchestrator request started group).2.1 = some (.ok reply) →
      ∃ work, group.WorksOn (request.context orchestrator started)
          (run.turnOf orchestrator request started group).2.2.1 work ∧
        reply.Merges orchestrator id group.group work.plan := by
  obtain rfl := h.id_eq hrun
  exact GroupRun.act_delivers h.open_eq (h.of_played hrun).1 hwork

/-- The groups of a run are where their answers lead. -/
theorem Reachable.faithful (h : Reachable orchestrator requests run) {id : GroupId}
    {group : GroupRun} (hgroup : run.openGroup? id = some group) {work : Fetching}
    (hfetching : group.phase = .fetching work) : work.Faithful orchestrator id group.group := by
  induction h generalizing group work with
  | start =>
      rw [openGroup?_start] at hgroup
      cases hgroup
  | @act run h agent ih =>
      cases agent with
      | request other =>
          obtain ⟨begun, hturn⟩ := h.played.requestTurn other
          rcases hturn.openGroup _ _ hgroup with hbefore | ⟨-, hready⟩
          · exact ih hbefore hfetching
          · rw [hready] at hfetching
            cases hfetching
      | group other =>
          rw [Run.act] at hgroup
          rcases groupTurn_or_idle h.played other with
            ⟨before, started, acting, agents, hturn⟩ | hidle
          · rw [hturn.openGroup?_eq] at hgroup
            split at hgroup
            next hsame =>
              subst hsame
              obtain rfl := Option.some.inj hgroup
              obtain ⟨-, -, hsameGroup, -⟩ := GroupRun.act_spec hturn.open_eq
                (hturn.of_played h.played).1 before.barrier { run.floor with woken := [] }
              rw [hsameGroup]
              exact (hturn.delivers h.played fun _ => ih hturn.openGroup?_before).1 work hfetching
            next => exact ih hgroup hfetching
          · rw [openGroup?_congr (actGroup_of_idle hidle).1] at hgroup
            exact ih hgroup hfetching
  | pass _ _ ih => exact ih hgroup hfetching
  | lineUp _ _ ih => exact ih hgroup hfetching
  | rearrange _ _ ih => exact ih hgroup hfetching

/-- Every reply of a run is made of answers to the queries of an agreed plan. -/
theorem Reachable.merges (h : Reachable orchestrator requests run) {number begins : Nat}
    {asked : Request} (hasked : requests[number]? = some (begins, asked)) {request : RequestRun}
    (hrequest : run.requests[number]? = some request) {result : GroupResult}
    (hresult : result ∈ request.results) {reply : GroupReply}
    (hreply : result.result = .ok reply) :
    ∃ group plan, asked.pairs[result.position]? = some (result.frame, group) ∧
      asked.PlanFor orchestrator result.frame group plan ∧
      reply.Merges orchestrator ⟨number, result.position⟩ group plan := by
  induction h generalizing request with
  | start =>
      rw [results_start hrequest] at hresult
      cases hresult
  | act h agent ih =>
      rcases h.played.result_cases hrequest hresult with
        ⟨before, hbefore, hold, -⟩ | ⟨before, started, group, agents, rfl, hturn, hframe, hended, -⟩
      · exact ih hbefore hold
      · obtain ⟨-, hsound⟩ := h.played.enrolled hasked hturn.request_eq
        rw [hreply] at hended
        obtain ⟨work, hworks, hmerges⟩ :=
          (hturn.delivers h.played fun _ => h.faithful hturn.openGroup?_before).2 reply hended
        refine ⟨group.group, work.plan, ?_, ?_, hmerges⟩
        · rw [hframe]
          exact (hsound.groups _ _ hturn.group_eq).2.1
        · rw [hframe]
          exact hturn.planFor_of_worksOn h.played hasked hworks
  | pass _ _ ih => exact ih hrequest hresult
  | lineUp _ _ ih => exact ih hrequest hresult
  | rearrange _ _ ih => exact ih hrequest hresult

end Run

end SeriesGateway.Fetch
