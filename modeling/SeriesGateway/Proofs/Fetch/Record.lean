import SeriesGateway.Proofs.Fetch.Dispatch

/-! # The record of a run

No query is ever sent twice in a run. A group that has replied has sent all queries of an
agreed plan; and so has, in a prompt run, every group that has ended before its deadline,
unless one of its queries or the secondary source took it down. A group whose own steps do
not fit ends with that.
-/

namespace SeriesGateway.Fetch

/-- Whether a group may have sent queries: it has some on their way, or has ended. -/
def GroupRun.HasQueried (run : GroupRun) : Prop :=
  run.isDone = true ∨ run.phase.queries ≠ []

/-- A group whose own steps do not fit ends with that in its first turn. -/
theorem GroupRun.act_of_overflow {context : RequestContext} (hmode : context.mode = .aggregated)
    {run : GroupRun} (hready : run.phase = .ready) {error : StepError}
    (herror : (Plan.Grouping.resolve run.group run.frame context.epoch).contribution =
      .error error) (barrier : Step.Barrier) (floor : Floor) :
    (run.act context barrier floor).2.1 = some (.error (.step error)) ∧
      (run.act context barrier floor).1.isDone = true := by
  simp [act, advance, hready, begin, hmode, herror, isDone]

namespace RequestRun

variable {orchestrator : Orchestrator} {number : Nat} {asked : Request} {run : RequestRun}

/-- A turn of a request leaves its groups as they are. -/
theorem Enrolled.getElem?_groups_act (h : run.Enrolled orchestrator number asked) (clock : Clock)
    {position : Nat} {group : GroupRun} (hgroup : run.groups[position]? = some group) :
    (run.act orchestrator clock).1.groups[position]? = some group := by
  rcases run.act_cases orchestrator clock with
    ⟨hact, -⟩ | ⟨_, _, -, -, -, hact⟩ | ⟨_, hpending, -, -, hact⟩ | ⟨_, -, hact⟩ <;> rw [hact]
  · exact hgroup
  · exact hgroup
  · rw [h.groups_of_pending hpending] at hgroup
    cases hgroup
  · rwa [groups_settle]

theorem results_settle (run : RequestRun) (clock : Clock) :
    (run.settle clock).results = run.results := by
  unfold settle
  split <;> rfl

theorem standsAt_settle {started : Nat} (hrunning : run.phase = .running started) (clock : Clock) :
    (run.settle clock).standsAt clock.now = run.standsAt clock.now := by
  unfold settle
  split
  next => simp only [standsAt, hrunning]
  next => rfl

/-- A turn of a request adds no results, and takes no time. -/
theorem act_results (orchestrator : Orchestrator) (run : RequestRun) (clock : Clock) :
    (run.act orchestrator clock).1.results = run.results ∧
      (run.act orchestrator clock).1.standsAt clock.now = run.standsAt clock.now := by
  rcases run.act_cases orchestrator clock with
    ⟨hact, -⟩ | ⟨_, _, hpending, -, -, hact⟩ | ⟨_, hpending, -, haccepted, hact⟩ |
      ⟨_, hrunning, hact⟩ <;> rw [hact]
  · exact ⟨rfl, rfl⟩
  · exact ⟨rfl, by simp only [standsAt, hpending]⟩
  · have hbegun : (run.begin orchestrator clock).phase = .running clock.now := by
      simp only [begin, haccepted]
    refine ⟨(results_settle _ clock).trans (by simp only [begin, haccepted]), ?_⟩
    rw [standsAt_settle hbegun]
    simp only [standsAt, hbegun, hpending]
  · exact ⟨results_settle run clock, standsAt_settle hrunning clock⟩

end RequestRun

namespace Run

variable {orchestrator : Orchestrator} {requests : List (Nat × Request)} {run : Run}

/-! ## Turns -/

/-- A group of the run, whatever has become of its request. -/
def groupAt? (run : Run) (id : GroupId) : Option GroupRun :=
  run.requests[id.request]?.bind (·.groups[id.position]?)

theorem queriesAt_eq_groupAt? (run : Run) (id : GroupId) :
    run.queriesAt id = ((run.groupAt? id).map (·.phase.queries)).getD [] := by
  unfold queriesAt groupAt?
  split
  next hrequest => rw [hrequest]; rfl
  next request hrequest => rw [hrequest]; rfl

theorem groupAt?_set {after : Run} {number : Nat} {request following : RequestRun}
    (hrequest : run.requests[number]? = some request)
    (hrequests : after.requests = run.requests.set number following) (id : GroupId) :
    after.groupAt? id =
      if id.request = number then following.groups[id.position]? else run.groupAt? id := by
  rw [groupAt?, getElem?_requests_set hrequest hrequests]
  split <;> rfl

/-- What the turn of a group comes to. -/
def turnOf (run : Run) (orchestrator : Orchestrator) (request : RequestRun) (started : Nat)
    (group : GroupRun) :
    GroupRun × Option (Except FetchError GroupReply) × Step.Barrier × Floor :=
  group.act (request.context orchestrator started) request.barrier { run.floor with woken := [] }

namespace GroupTurn

variable {id : GroupId} {request : RequestRun} {started : Nat} {group : GroupRun}
  {agents : List Agent}

theorem calls_eq (h : run.GroupTurn orchestrator id request started group agents) :
    (run.actGroup id).floor.calls =
      (run.turnOf orchestrator request started group).2.2.2.calls := by
  rw [h.after_eq]
  rfl

theorem groupAt?_eq (h : run.GroupTurn orchestrator id request started group agents)
    (other : GroupId) :
    (run.actGroup id).groupAt? other =
      if other = id then some (run.turnOf orchestrator request started group).1
      else run.groupAt? other := by
  have hlt := (List.getElem?_eq_some_iff.mp h.group_eq).1
  have hrequests := congrArg Run.requests h.after_eq
  rw [groupAt?_set h.request_eq hrequests]
  rcases other with ⟨number, position⟩
  rcases id with ⟨own, place⟩
  have hrequest := h.request_eq
  dsimp only at hlt hrequest ⊢
  by_cases hnumber : number = own
  · subst hnumber
    simp only [if_true, List.getElem?_set, groupAt?, hrequest, Option.bind_some,
      GroupId.mk.injEq, true_and]
    by_cases hposition : place = position
    · subst hposition
      simp [hlt, turnOf]
    · simp [hposition, Ne.symm hposition]
  · simp [hnumber]

theorem queriesAt_eq (h : run.GroupTurn orchestrator id request started group agents)
    (other : GroupId) :
    (run.actGroup id).queriesAt other =
      if other = id then (run.turnOf orchestrator request started group).1.phase.queries
      else run.queriesAt other := by
  rw [queriesAt_eq_groupAt?, h.groupAt?_eq, queriesAt_eq_groupAt?]
  split <;> rfl

theorem groupAt?_before (h : run.GroupTurn orchestrator id request started group agents) :
    run.groupAt? id = some group := by
  rw [groupAt?, h.request_eq]
  exact h.group_eq

end GroupTurn

/-- A result that a request has after a turn it had before, unless its group ended in this
turn. -/
theorem Played.result_cases (h : Played orchestrator requests run) {agent : Agent} {number : Nat}
    {after : RequestRun} (hafter : (run.act agent).requests[number]? = some after)
    {result : GroupResult} (hresult : result ∈ after.results) :
    (∃ before, run.requests[number]? = some before ∧ result ∈ before.results ∧
      before.standsAt run.floor.clock.now = after.standsAt run.floor.clock.now) ∨
    ∃ before started group agents, agent = .group ⟨number, result.position⟩ ∧
      run.GroupTurn orchestrator ⟨number, result.position⟩ before started group agents ∧
      result.frame = group.frame ∧
      (run.turnOf orchestrator before started group).2.1 = some result.result ∧
      after.standsAt run.floor.clock.now = run.floor.clock.now := by
  cases agent with
  | request other =>
      rw [Run.act] at hafter
      rcases h.actRequest_cases other with ⟨-, hsame⟩ | ⟨request, hrequest, hacted⟩
      · rw [hsame] at hafter
        exact .inl ⟨after, hafter, hresult, rfl⟩
      · rw [hacted] at hafter
        rcases eq_or_getElem?_of_set hafter with ⟨rfl, rfl⟩ | ⟨-, hold⟩
        · obtain ⟨hresults, hstands⟩ := request.act_results orchestrator run.floor.clock
          exact .inl ⟨request, hrequest, hresults ▸ hresult, hstands.symm⟩
        · exact .inl ⟨after, hold, hresult, rfl⟩
  | group id =>
      rw [Run.act] at hafter
      rcases groupTurn_or_idle h id with ⟨request, started, group, agents, hturn⟩ | hidle
      · rw [hturn.after_eq] at hafter
        rcases id with ⟨own, position⟩
        rcases eq_or_getElem?_of_set hafter with ⟨hnumber, rfl⟩ | ⟨-, hold⟩
        · obtain rfl : own = number := hnumber
          rcases List.mem_append.mp hresult with hold | hnew
          · refine .inl ⟨request, hturn.request_eq, hold, ?_⟩
            simp only [RequestRun.standsAt, hturn.running]
          · obtain ⟨ended, hended, rfl⟩ := List.mem_map.mp hnew
            refine .inr ⟨request, started, group, agents, rfl, hturn, rfl,
              Option.mem_toList.mp hended, ?_⟩
            simp only [RequestRun.standsAt, hturn.running]
        · exact .inl ⟨after, hold, hresult, rfl⟩
      · rw [(actGroup_of_idle hidle).1] at hafter
        exact .inl ⟨after, hafter, hresult, rfl⟩

/-- Turns take no time. -/
theorem Played.now_act (h : Played orchestrator requests run) (agent : Agent) :
    (run.act agent).floor.clock.now = run.floor.clock.now := by
  cases agent with
  | request number =>
      obtain ⟨begun, hturn⟩ := h.requestTurn number
      exact hturn.now_eq
  | group id =>
      rcases groupTurn_or_idle h id with ⟨request, started, group, agents, hturn⟩ | hidle
      · exact hturn.now_eq h
      · exact (actGroup_of_idle hidle).2.1

theorem results_start {number : Nat} {request : RequestRun}
    (hrequest : (start orchestrator requests).requests[number]? = some request) :
    request.results = [] := by
  obtain ⟨entry, -, rfl⟩ := List.mem_map.mp (List.mem_of_getElem? hrequest)
  rfl

/-! ## Nothing is sent twice -/

/-- What is on record of the queries of all groups: no ticket twice, the queries on their way
as they stand, and nothing of a group that has not queried. -/
structure Recorded (run : Run) : Prop where
  nodup : (run.floor.calls.map (·.1)).Nodup
  queries : ∀ id, ∀ query ∈ run.queriesAt id, query.Recorded run.floor.calls
  queried : ∀ call ∈ run.floor.calls, ∃ group, run.groupAt? call.1.group = some group ∧
    group.HasQueried

theorem recorded_start (orchestrator : Orchestrator) (requests : List (Nat × Request)) :
    (start orchestrator requests).Recorded where
  nodup := List.nodup_nil
  queries id query hquery := by
    rw [queriesAt_start] at hquery
    cases hquery
  queried _ hcall := absurd hcall List.not_mem_nil

namespace GroupTurn

variable {id : GroupId} {request : RequestRun} {started : Nat} {group : GroupRun}
  {agents : List Agent}

theorem onRecord (h : run.GroupTurn orchestrator id request started group agents)
    (hrun : Played orchestrator requests run) (hrecorded : run.Recorded) :
    group.OnRecord orchestrator.config ({ run.floor with woken := [] } : Floor).calls where
  nodup := hrecorded.nodup
  queries := by
    have hqueries := hrecorded.queries id
    rwa [queriesAt_eq_groupAt?, h.groupAt?_before] at hqueries
  fresh hnone call hcall hown := by
    obtain ⟨found, hfound, hqueried⟩ := hrecorded.queried call hcall
    rw [hown, h.id_eq hrun, h.groupAt?_before] at hfound
    obtain rfl := Option.some.inj hfound
    rcases hqueried with hdone | hsome
    · rw [h.open_eq] at hdone
      cases hdone
    · exact hsome hnone
  badges work hfetching := by
    obtain ⟨_, _, -, henrolled, -⟩ := hrun.exists_enrolled h.request_eq
    rw [h.id_eq hrun]
    exact henrolled.badges h.group_eq hfetching

/-- The turn of a group keeps the record right, and takes nothing off it. -/
theorem recorded (h : run.GroupTurn orchestrator id request started group agents)
    (hrun : Played orchestrator requests run) (hrecorded : run.Recorded) :
    (run.actGroup id).Recorded ∧ run.floor.calls ⊆ (run.actGroup id).floor.calls := by
  obtain ⟨turn, hcourse, hafter, -⟩ := GroupRun.act_course h.open_eq (h.of_played hrun).1
    request.barrier { run.floor with woken := [] }
  obtain ⟨hqueries, hnodup, hsub, hcalls⟩ := hcourse.recorded (h.onRecord hrun hrecorded)
  rw [← turnOf, ← h.calls_eq] at hqueries hnodup hsub hcalls
  rw [← turnOf] at hafter
  rw [h.id_eq hrun] at hcalls
  refine ⟨⟨hnodup, ?_, ?_⟩, hsub⟩
  · intro other query hquery
    rw [h.queriesAt_eq] at hquery
    split at hquery
    next =>
      rw [hafter] at hquery
      exact hqueries query hquery
    next hother =>
      have hgroup := hrun.group_of_query hquery
      refine (hrecorded.queries other query hquery).mono hsub fun call hcall => ?_
      refine (hcalls call hcall).1.imp_right fun hown hsame => hother ?_
      rw [← hgroup, ← hsame, hown]
  · intro call hcall
    obtain ⟨hold, hqueried⟩ := hcalls call hcall
    rw [h.groupAt?_eq]
    split
    next hown =>
      refine ⟨_, rfl, ?_⟩
      rw [GroupRun.HasQueried, GroupRun.isDone, hafter]
      rcases hqueried hown with hdone | hsome
      · rw [hdone]
        exact .inl rfl
      · exact .inr hsome
    next hother => exact hrecorded.queried call (hold.resolve_right hother)

end GroupTurn

/-- Whoever acts, the record stays right, and nothing is taken off it. -/
theorem Recorded.act (h : run.Recorded) (hrun : Played orchestrator requests run) (agent : Agent) :
    (run.act agent).Recorded ∧ run.floor.calls ⊆ (run.act agent).floor.calls := by
  cases agent with
  | request number =>
      rw [Run.act]
      rcases hrun.actRequest_cases number with ⟨-, hsame⟩ | ⟨request, hrequest, hafter⟩
      · rw [hsame]
        exact ⟨h, List.Subset.refl _⟩
      · have hrequests := congrArg Run.requests hafter
        have hcalls : (run.actRequest number).floor.calls = run.floor.calls := by
          rw [hafter]
          rfl
        obtain ⟨_, _, -, henrolled, -⟩ := hrun.exists_enrolled hrequest
        rw [hcalls]
        refine ⟨⟨hcalls ▸ h.nodup, ?_, ?_⟩, List.Subset.refl _⟩
        · intro id query hquery
          rw [hcalls]
          rw [queriesAt_set hrequest hrequests] at hquery
          split at hquery
          next hid =>
            rw [RequestRun.queriesAt_act henrolled] at hquery
            refine h.queries id query ?_
            rw [queriesAt, hid, hrequest]
            exact hquery
          next => exact h.queries id query hquery
        · intro call hcall
          rw [hcalls] at hcall
          obtain ⟨group, hgroup, hqueried⟩ := h.queried call hcall
          refine ⟨group, ?_, hqueried⟩
          rw [groupAt?_set hrequest hrequests]
          split
          next hid =>
            rw [groupAt?, hid, hrequest] at hgroup
            exact henrolled.getElem?_groups_act run.floor.clock hgroup
          next => exact hgroup
  | group id =>
      rw [Run.act]
      rcases groupTurn_or_idle hrun id with ⟨request, started, group, agents, hturn⟩ | hidle
      · exact hturn.recorded hrun h
      · obtain ⟨hrequests, -, -, -, hcalls⟩ := actGroup_of_idle hidle
        rw [hcalls]
        refine ⟨⟨hcalls ▸ h.nodup, ?_, ?_⟩, List.Subset.refl _⟩
        · simp only [queriesAt, hrequests, hcalls]
          exact h.queries
        · simp only [groupAt?, hrequests, hcalls]
          exact h.queried

theorem Reachable.recorded (h : Reachable orchestrator requests run) : run.Recorded := by
  induction h with
  | start => exact recorded_start orchestrator requests
  | act h agent ih => exact (ih.act h.played agent).1
  | pass _ _ ih => exact ⟨ih.nodup, ih.queries, ih.queried⟩
  | lineUp _ _ ih => exact ⟨ih.nodup, ih.queries, ih.queried⟩
  | rearrange _ _ ih => exact ⟨ih.nodup, ih.queries, ih.queried⟩

/-! ## What was sent for a result -/

namespace GroupTurn

variable {number begins : Nat} {asked : Request} {id : GroupId} {request : RequestRun}
  {started : Nat} {group : GroupRun} {agents : List Agent}

/-- What becomes of the request of the group. -/
theorem exists_following (h : run.GroupTurn orchestrator id request started group agents) :
    ∃ following, (run.actGroup id).requests[id.request]? = some following ∧
      following.barrier = (run.turnOf orchestrator request started group).2.2.1 ∧
      following.request = request.request ∧
      following.groups.length = request.groups.length := by
  rw [h.after_eq]
  exact ⟨_, List.getElem?_set_self (List.getElem?_eq_some_iff.mp h.request_eq).1, rfl, rfl,
    List.length_set⟩

/-- What a group works on in its turn has an agreed plan. -/
theorem planFor_of_worksOn (h : run.GroupTurn orchestrator id request started group agents)
    (hplayed : Played orchestrator requests run)
    (hasked : requests[id.request]? = some (begins, asked)) {work : Fetching}
    (hwork : group.WorksOn (request.context orchestrator started)
      (run.turnOf orchestrator request started group).2.2.1 work) :
    asked.PlanFor orchestrator group.frame group.group work.plan := by
  obtain ⟨following, hfollowing, hbarrier, hsame, hlength⟩ := h.exists_following
  obtain ⟨henrolled, hsound⟩ := hplayed.enrolled hasked h.request_eq
  obtain ⟨-, hnext⟩ := (hplayed.actGroup id).enrolled hasked hfollowing
  have hgathered : orchestrator.config.aggregated = true →
      ∃ order, RequestRun.Gathered asked following order := by
    obtain ⟨later, rfl⟩ := (hplayed.actGroup id).exists_moves hasked hfollowing
    exact fun haggregated => (RequestRun.gathered_new id.request begins asked).play
      (RequestRun.sound_new orchestrator id.request begins asked) haggregated later
  have hplanned : RequestRun.Planned orchestrator asked request := by
    obtain ⟨moves, rfl⟩ := hplayed.exists_moves hasked h.request_eq
    exact RequestRun.planned_play orchestrator id.request begins asked moves
  have hcontext :
      request.context orchestrator started = following.context orchestrator started := by
    rw [RequestRun.context, RequestRun.context, hsame]
  rw [hcontext, ← hbarrier] at hwork
  exact hplanned.planFor_of_worksOn hnext hgathered
    (hlength.trans (henrolled.of_running h.running).2) (List.mem_of_getElem? h.group_eq) hwork

/-- A group that replies in a turn has sent all queries of an agreed plan. -/
theorem sent_of_reply (h : run.GroupTurn orchestrator id request started group agents)
    (hrun : Reachable orchestrator requests run)
    (hasked : requests[id.request]? = some (begins, asked)) {reply : GroupReply}
    (hreply : (run.turnOf orchestrator request started group).2.1 = some (.ok reply)) :
    ∃ plan, asked.PlanFor orchestrator group.frame group.group plan ∧
      Fetching.callsOf id plan ⊆ (run.actGroup id).floor.calls := by
  obtain ⟨work, hwork, hsent⟩ := GroupRun.act_sent_of_reply h.open_eq
    (h.of_played hrun.played).1 (h.onRecord hrun.played hrun.recorded) hreply
  refine ⟨work.plan, h.planFor_of_worksOn hrun.played hasked hwork, ?_⟩
  rw [h.calls_eq, ← h.id_eq hrun.played]
  exact hsent

/-- A group that ends in a turn of a prompt run in time has sent all queries of its plan, unless
one of them took it down. -/
theorem sent_in_time (h : run.GroupTurn orchestrator id request started group agents)
    (hrun : Prompt orchestrator requests run)
    (hasked : requests[id.request]? = some (begins, asked))
    (hturn : run.Ready id → ∀ position < id.position, ¬ run.Ready ⟨id.request, position⟩)
    (hearly : run.floor.clock.now < (asked.contextAt orchestrator begins).deadline)
    {plan : Plan.QueryPlan}
    (hplan : asked.planAt orchestrator.config id.position (group.frame, group.group) = .ok plan)
    {result : Except FetchError GroupReply}
    (hresult : (run.turnOf orchestrator request started group).2.1 = some result)
    (hserved : ∀ reason, result ≠ .error (.taskFailed reason)) :
    Fetching.callsOf id plan ⊆ (run.actGroup id).floor.calls := by
  have hplayed := hrun.reachable.played
  obtain ⟨henrolled, hsound⟩ := hplayed.enrolled hasked h.request_eq
  have hforetold := hrun.foretold hasked h.request_eq
  obtain rfl := hforetold.running started h.running
  have hid := h.id_eq hplayed
  have hcontext := hsound.context_eq started
  have hopen := (h.openGroup?_at id.position).symm.trans h.openGroup?_before
  have hphase := hforetold.groups hearly id.position group hopen
  rw [hplan, ← hid] at hphase
  rw [h.calls_eq]
  rw [turnOf, hcontext] at hresult ⊢
  rw [← hid]
  have hunderway := (h.of_played hplayed).1
  rw [hcontext] at hunderway
  refine (@GroupRun.act_sent_in_time (asked.contextAt orchestrator started) group request.barrier
    { run.floor with woken := [] } h.open_eq hunderway
    (h.onRecord hplayed hrun.reachable.recorded) plan hphase ?_ ?_ hearly result
    hresult).resolve_left fun ⟨reason, hfailed⟩ => hserved reason hfailed
  · intro hbefore found hmade
    rw [← hplan]
    have hbarrier : (request.actGroup orchestrator group run.floor).1.barrier =
        (run.turnOf orchestrator request started group).2.2.1 := by
      rw [RequestRun.actGroup, h.running]
      rfl
    rw [← hcontext, ← turnOf, ← hbarrier] at hmade
    exact hforetold.planned hsound henrolled hopen h.open_eq (h.hasTurn hturn) hearly rfl hbefore
      (hcontext ▸ hmade)
  · intro timer htimer
    exact hrun.punctual.timers id group h.openGroup?_before timer
      (GroupRun.mem_timers_of_phase htimer)

end GroupTurn

section Results

variable {number begins : Nat} {asked : Request} {request : RequestRun} {result : GroupResult}

/-- Behind every reply of a run all queries of an agreed plan were sent. -/
theorem Reachable.sent_of_reply (h : Reachable orchestrator requests run)
    (hasked : requests[number]? = some (begins, asked))
    (hrequest : run.requests[number]? = some request) (hresult : result ∈ request.results)
    {reply : GroupReply} (hreply : result.result = .ok reply) :
    ∃ group plan, asked.pairs[result.position]? = some (result.frame, group) ∧
      asked.PlanFor orchestrator result.frame group plan ∧
      Fetching.callsOf ⟨number, result.position⟩ plan ⊆ run.floor.calls := by
  induction h generalizing request with
  | start =>
      rw [results_start hrequest] at hresult
      cases hresult
  | act h agent ih =>
      have hsub := (h.recorded.act h.played agent).2
      rcases h.played.result_cases hrequest hresult with
        ⟨before, hbefore, hold, -⟩ | ⟨before, started, group, agents, rfl, hturn, hframe, hended, -⟩
      · obtain ⟨group, plan, hpair, hplan, hsent⟩ := ih hbefore hold
        exact ⟨group, plan, hpair, hplan, List.Subset.trans hsent hsub⟩
      · obtain ⟨-, hsound⟩ := h.played.enrolled hasked hturn.request_eq
        rw [hreply] at hended
        obtain ⟨plan, hplan, hsent⟩ := hturn.sent_of_reply h hasked hended
        rw [hframe]
        exact ⟨group.group, plan, (hsound.groups _ _ hturn.group_eq).2.1, hplan, hsent⟩
  | pass _ _ ih => exact ih hrequest hresult
  | lineUp _ _ ih => exact ih hrequest hresult
  | rearrange _ _ ih => exact ih hrequest hresult

/-- Behind every result of a prompt run that is in time all queries of the plan that the request
tells were sent, unless one of them took the group down. -/
theorem Prompt.sent_in_time (h : Prompt orchestrator requests run)
    (hasked : requests[number]? = some (begins, asked))
    (hrequest : run.requests[number]? = some request)
    (hearly : request.standsAt run.floor.clock.now <
      (asked.contextAt orchestrator begins).deadline)
    (hresult : result ∈ request.results)
    (hserved : ∀ reason, result.result ≠ .error (.taskFailed reason))
    {group : TargetGroup} (hpair : asked.pairs[result.position]? = some (result.frame, group))
    {plan : Plan.QueryPlan}
    (hplan : asked.planAt orchestrator.config result.position (result.frame, group) = .ok plan) :
    Fetching.callsOf ⟨number, result.position⟩ plan ⊆ run.floor.calls := by
  induction h generalizing request with
  | start =>
      rw [results_start hrequest] at hresult
      cases hresult
  | @act run h agent hturn ih =>
      have hplayed := h.reachable.played
      have hsub := (h.reachable.recorded.act hplayed agent).2
      rw [hplayed.now_act agent] at hearly
      rcases hplayed.result_cases hrequest hresult with
        ⟨before, hbefore, hold, hstands⟩ |
          ⟨before, started, found, agents, rfl, hacts, hframe, hended, hstands⟩
      · exact List.Subset.trans (ih hbefore (hstands ▸ hearly) hold) hsub
      · obtain ⟨-, hsound⟩ := hplayed.enrolled hasked hacts.request_eq
        have hown := (hsound.groups _ _ hacts.group_eq).2.1
        rw [hpair] at hown
        obtain ⟨-, rfl⟩ := Prod.mk.inj (Option.some.inj hown)
        rw [hframe] at hplan
        rw [hstands] at hearly
        exact hacts.sent_in_time h hasked (hturn _ rfl) hearly hplan hended hserved
  | pass _ hforward _ _ ih =>
      refine ih hrequest (Nat.lt_of_le_of_lt ?_ hearly) hresult
      unfold RequestRun.standsAt
      split
      next => exact Nat.le_refl _
      next => exact hforward
  | lineUp _ _ ih => exact ih hrequest hearly hresult
  | rearrange _ _ ih => exact ih hrequest hearly hresult

end Results

/-! ## Steps that do not fit -/

section Overflow

variable {number begins : Nat} {asked : Request}

theorem GroupTurn.ends_of_overflow {id : GroupId} {request : RequestRun} {started : Nat}
    {group : GroupRun} {agents : List Agent}
    (h : run.GroupTurn orchestrator id request started group agents)
    (hrun : Played orchestrator requests run)
    (hasked : requests[id.request]? = some (begins, asked))
    (haggregated : orchestrator.config.aggregated = true) (hready : group.phase = .ready)
    {error : StepError} (herror : asked.reportOf (group.frame, group.group) = .error error) :
    (run.turnOf orchestrator request started group).2.1 = some (.error (.step error)) ∧
      (run.turnOf orchestrator request started group).1.isDone = true := by
  obtain ⟨-, hsound⟩ := hrun.enrolled hasked h.request_eq
  refine GroupRun.act_of_overflow (RequestContext.mode_eq_aggregated_iff.mpr haggregated) hready ?_
    request.barrier _
  rw [← herror, ← hsound.request_eq]
  rfl

/-- A group whose own steps do not fit has not had its first turn yet, or has ended. -/
theorem Reachable.ready_of_overflow (h : Reachable orchestrator requests run)
    (hasked : requests[number]? = some (begins, asked))
    (haggregated : orchestrator.config.aggregated = true) {position : Nat} {group : GroupRun}
    (hgroup : run.openGroup? ⟨number, position⟩ = some group) {error : StepError}
    (herror : asked.reportOf (group.frame, group.group) = .error error) :
    group.phase = .ready ∨ group.isDone = true := by
  induction h generalizing group with
  | start =>
      rw [openGroup?_start] at hgroup
      cases hgroup
  | @act run h agent ih =>
      cases agent with
      | request other =>
          obtain ⟨begun, hturn⟩ := h.played.requestTurn other
          rcases hturn.openGroup _ _ hgroup with hbefore | ⟨-, hready⟩
          · exact ih hbefore herror
          · exact .inl hready
      | group id =>
          rw [Run.act] at hgroup
          rcases groupTurn_or_idle h.played id with
            ⟨before, started, acting, agents, hturn⟩ | hidle
          · rw [hturn.openGroup?_eq] at hgroup
            split at hgroup
            next hsame =>
              subst hsame
              obtain rfl := Option.some.inj hgroup
              obtain ⟨-, hframe, htarget, -⟩ := GroupRun.act_spec hturn.open_eq
                (hturn.of_played h.played).1 before.barrier { run.floor with woken := [] }
              rw [hframe, htarget] at herror
              have hready := (ih hturn.openGroup?_before herror).resolve_right
                (by simp [hturn.open_eq])
              exact .inr (hturn.ends_of_overflow h.played hasked haggregated hready herror).2
            next => exact ih hgroup herror
          · rw [openGroup?_congr (actGroup_of_idle hidle).1] at hgroup
            exact ih hgroup herror
  | pass _ _ ih => exact ih hgroup herror
  | lineUp _ _ ih => exact ih hgroup herror
  | rearrange _ _ ih => exact ih hgroup herror

/-- A group whose own steps do not fit ends with just that. -/
theorem Reachable.result_of_overflow (h : Reachable orchestrator requests run)
    (hasked : requests[number]? = some (begins, asked))
    (haggregated : orchestrator.config.aggregated = true) {request : RequestRun}
    (hrequest : run.requests[number]? = some request) {result : GroupResult}
    (hresult : result ∈ request.results) {group : TargetGroup}
    (hpair : asked.pairs[result.position]? = some (result.frame, group)) {error : StepError}
    (herror : asked.reportOf (result.frame, group) = .error error) :
    result.result = .error (.step error) := by
  induction h generalizing request with
  | start =>
      rw [results_start hrequest] at hresult
      cases hresult
  | act h agent ih =>
      rcases h.played.result_cases hrequest hresult with
        ⟨before, hbefore, hold, -⟩ | ⟨before, started, found, agents, rfl, hturn, hframe, hended, -⟩
      · exact ih hbefore hold
      · obtain ⟨-, hsound⟩ := h.played.enrolled hasked hturn.request_eq
        have hown := (hsound.groups _ _ hturn.group_eq).2.1
        rw [hpair] at hown
        obtain ⟨-, rfl⟩ := Prod.mk.inj (Option.some.inj hown)
        rw [hframe] at herror
        have hready := (h.ready_of_overflow hasked haggregated hturn.openGroup?_before
          herror).resolve_right (by simp [hturn.open_eq])
        have hends := (hturn.ends_of_overflow h.played hasked haggregated hready herror).1
        exact Option.some.inj (hended.symm.trans hends)
  | pass _ _ ih => exact ih hrequest hresult
  | lineUp _ _ ih => exact ih hrequest hresult
  | rearrange _ _ ih => exact ih hrequest hresult

end Overflow

end Run

end SeriesGateway.Fetch
