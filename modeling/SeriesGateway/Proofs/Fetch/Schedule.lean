import SeriesGateway.Fetch.RequestRun
import SeriesGateway.Proofs.Fetch.Gathering
import SeriesGateway.Proofs.Plan.Resolution

/-! # Schedules

A request and its groups act one at a time, in any order, and between two turns
the clock and the slots may change in any way. Whatever the order, a group only
ever waits for the step of its own metrics, fetches by a plan of its own, and
ends with a reply that was built by such a plan, or with an error. A group
without metrics does not wait and does not fail.
-/

namespace SeriesGateway.Fetch

/-- What stands in a list after one entry was put in place of another. -/
theorem eq_or_getElem?_of_set {α : Type} {entries : List α} {place position : Nat}
    {entry found : α} (h : (entries.set place entry)[position]? = some found) :
    place = position ∧ found = entry ∨ place ≠ position ∧ entries[position]? = some found := by
  rw [List.getElem?_set] at h
  split at h
  next hsame =>
    split at h
    next => exact .inl ⟨hsame, (Option.some.inj h).symm⟩
    next => cases h
  next hother => exact .inr ⟨hother, h⟩

/-! ## Phases and results of a group -/

/-- The replies that a group can end with: without queries there is nothing to
consolidate. -/
def ReplyOf (mode : Plan.Mode) (epoch : UInt32) (frame : TimeFrame) (group : TargetGroup)
    (reply : GroupReply) : Prop :=
  ∃ plan, Plan.PlanOf mode epoch frame group plan ∧
    ((plan.queries = [] ∧ reply = .ofPlan group plan (Fetching.describedStore plan)) ∨
      ∃ responses recent, reply = .ofPlan group plan
        (Fetching.conclude plan (Fetching.storeOf group.isReversed plan responses) recent))

/-- The phases between the first turn of a group and its end. -/
def Underway (mode : Plan.Mode) (epoch : UInt32) (frame : TimeFrame) (group : TargetGroup) :
    GroupPhase → Prop
  | .ready => False
  | .waiting grouping _ =>
    mode = .aggregated ∧ group.metrics ≠ [] ∧ grouping = Plan.Grouping.resolve group frame epoch
  | .fetching work =>
    Plan.PlanOf mode epoch frame group work.plan ∧ group.metrics ≠ [] ∧
      ∃ responses, work.store = Fetching.storeOf group.isReversed work.plan responses
  | .done => False

/-- The results that a group can end with. -/
def ResultOf (mode : Plan.Mode) (epoch : UInt32) (frame : TimeFrame) (group : TargetGroup) :
    Except FetchError GroupReply → Prop
  | .ok reply => ReplyOf mode epoch frame group reply
  | .error _ => group.metrics ≠ []

/-- What a turn of a group can come to. -/
def TurnOf (mode : Plan.Mode) (epoch : UInt32) (frame : TimeFrame) (group : TargetGroup) :
    Turn → Prop
  | .goesOn phase => Underway mode epoch frame group phase
  | .ends result => ResultOf mode epoch frame group result

theorem metrics_of_underway {mode : Plan.Mode} {epoch : UInt32} {frame : TimeFrame}
    {group : TargetGroup} {phase : GroupPhase} (hphase : Underway mode epoch frame group phase) :
    group.metrics ≠ [] := by
  cases phase with
  | ready => cases hphase
  | waiting grouping expires => exact hphase.2.1
  | fetching work => exact hphase.2.1
  | done => cases hphase

/-! ## Turns of a group -/

namespace GroupRun

/-- A group that has not ended: it is at its first turn, or under way. -/
def OnCourse (context : RequestContext) (run : GroupRun) : Prop :=
  run.phase = .ready ∨ Underway context.mode context.epoch run.frame run.group run.phase

variable {context : RequestContext} {run : GroupRun}

theorem OnCourse.waiting (h : run.OnCourse context) {grouping : Plan.Grouping} {expires : Timer}
    (hwaiting : run.phase = .waiting grouping expires) :
    context.mode = .aggregated ∧ run.group.metrics ≠ [] ∧
      grouping = .resolve run.group run.frame context.epoch := by
  rw [OnCourse, hwaiting] at h
  exact h.resolve_left nofun

theorem OnCourse.fetching (h : run.OnCourse context) {work : Fetching}
    (hfetching : run.phase = .fetching work) :
    Plan.PlanOf context.mode context.epoch run.frame run.group work.plan ∧
      run.group.metrics ≠ [] ∧
      ∃ responses, work.store = Fetching.storeOf run.group.isReversed work.plan responses := by
  rw [OnCourse, hfetching] at h
  exact h.resolve_left nofun

theorem isDone_iff_phase : run.isDone = true ↔ run.phase = .done := by
  unfold isDone
  split <;> simp_all

/-- The queries of a group after all of them acted, with the store and the floor. -/
def acted (context : RequestContext) (run : GroupRun) (work : Fetching) (floor : Floor) :
    List QueryRun × PointStore × Floor :=
  Fetching.actAll context.storage run.group.isReversed work.store floor work.queries

/-- How the secondary source stands after a turn, with the floor. -/
def asked (context : RequestContext) (run : GroupRun) (work : Fetching) (floor : Floor) :
    RecentRun × Floor :=
  run.hear context work (run.acted context work floor).2.2

/-- What a group comes to in a turn in which its queries are to act. -/
inductive Fetched (context : RequestContext) (run : GroupRun) (work : Fetching)
    (floor : Floor) : Turn → Floor → Prop
  /-- The secondary source takes the group down before any query acts. -/
  | crashesFirst {reason : String} (hfirst : work.recentFirst = true)
      (hcrashed : (run.hear context work floor).1.crash? = some reason) :
    Fetched context run work floor (.ends (.error (.taskFailed reason)))
      (Fetching.cancel floor work.queries)
  /-- A query takes the group down. -/
  | crashes {query : QueryRun} {reason : String}
      (hquery : query ∈ (run.acted context work floor).1) (hcrashed : query.crash? = some reason) :
    Fetched context run work floor (.ends (.error (.taskFailed reason)))
      (Fetching.cancel (run.acted context work floor).2.2 (run.acted context work floor).1)
  /-- The secondary source takes the group down when the queries have acted. -/
  | crashesLast {reason : String}
      (hcrashed : (run.asked context work floor).1.crash? = some reason) :
    Fetched context run work floor (.ends (.error (.taskFailed reason)))
      (Fetching.cancel (run.asked context work floor).2 (run.acted context work floor).1)
  /-- All have come to an end. -/
  | ends {verdict : Except FetchError Unit} {points : List RecentPoint}
      (hverdict : Fetching.verdict? (run.acted context work floor).1 = some verdict)
      (hpoints : (run.asked context work floor).1.points? = some points) :
    Fetched context run work floor
      (.ends (verdict.map fun _ => .ofPlan run.group work.plan
        (Fetching.conclude work.plan (run.acted context work floor).2.1 points)))
      (run.asked context work floor).2
  /-- A query or the secondary source has not. -/
  | goesOn (hsound : ∀ query ∈ (run.acted context work floor).1, query.crash? = none) :
    Fetched context run work floor
      (.goesOn (.fetching ⟨work.plan, (run.acted context work floor).2.1,
        (run.acted context work floor).1, (run.asked context work floor).1,
        !work.recentFirst⟩))
      (run.asked context work floor).2

theorem fetched_fetchOn (context : RequestContext) (run : GroupRun) (work : Fetching)
    (floor : Floor) :
    run.Fetched context work floor (run.fetchOn context work floor).1
      (run.fetchOn context work floor).2 := by
  unfold fetchOn
  split
  next reason hfirst =>
    split at hfirst
    next hbefore => exact .crashesFirst hbefore hfirst
    next => cases hfirst
  next =>
    unfold fetchThenHear
    dsimp only
    rw [← acted, ← asked]
    split
    next reason hcrashed =>
      obtain ⟨query, hquery, hreason⟩ := List.exists_of_findSome?_eq_some hcrashed
      exact .crashes hquery hreason
    next hsound =>
      split
      next reason hcrashed => exact .crashesLast hcrashed
      next =>
        split
        next error points hverdict hpoints => exact Fetched.ends hverdict hpoints
        next points hverdict hpoints => exact Fetched.ends hverdict hpoints
        next => exact .goesOn (List.findSome?_eq_none_iff.mp hsound)

theorem Fetched.turnOf {work : Fetching} {floor next : Floor} {turn : Turn}
    (h : run.Fetched context work floor turn next)
    (hwork : Underway context.mode context.epoch run.frame run.group (.fetching work)) :
    TurnOf context.mode context.epoch run.frame run.group turn := by
  obtain ⟨hplan, hmetrics, responses, hstore⟩ := hwork
  obtain ⟨more, hmore⟩ := Fetching.exists_actAll hstore context.storage floor work.queries
  cases h with
  | crashesFirst => exact hmetrics
  | crashes => exact hmetrics
  | crashesLast => exact hmetrics
  | @ends verdict points =>
      cases verdict with
      | error error => exact hmetrics
      | ok => exact ⟨work.plan, hplan, .inr ⟨more, points, by rw [acted, hmore]⟩⟩
  | goesOn => exact ⟨hplan, hmetrics, more, hmore⟩

theorem fetch_turnOf {plan : Plan.QueryPlan}
    (hplan : Plan.PlanOf context.mode context.epoch run.frame run.group plan) (floor : Floor) :
    TurnOf context.mode context.epoch run.frame run.group (run.fetch context plan floor).1 := by
  unfold fetch
  dsimp only
  split
  next hnone => exact ⟨plan, hplan, .inl ⟨by simpa using hnone, rfl⟩⟩
  next hsome =>
    apply (fetched_fetchOn context run _ floor).turnOf
    refine ⟨hplan, ?_, [], rfl⟩
    intro hempty
    exact hsome (by simp [Plan.queries_of_empty hplan hempty])

theorem fetchAggregated_turnOf (hmode : context.mode = .aggregated)
    (hmetrics : run.group.metrics ≠ []) (common : Except StepError UInt32) (floor : Floor) :
    TurnOf context.mode context.epoch run.frame run.group
      (run.fetchAggregated context (.resolve run.group run.frame context.epoch) common
        floor).1 := by
  unfold fetchAggregated
  dsimp only
  split
  next plan hplan =>
    apply fetch_turnOf
    rw [hmode]
    cases common with
    | error error => cases hplan
    | ok step => exact ⟨step, hplan⟩
  next => exact hmetrics

theorem awaitStep_turnOf (hmode : context.mode = .aggregated) (hmetrics : run.group.metrics ≠ [])
    (expires : Timer) (barrier : Step.Barrier) (floor : Floor) :
    TurnOf context.mode context.epoch run.frame run.group
      (run.awaitStep context (.resolve run.group run.frame context.epoch) expires barrier
        floor).1 := by
  unfold awaitStep
  dsimp only
  split
  · exact fetchAggregated_turnOf hmode hmetrics _ _
  · split
    · exact fetchAggregated_turnOf hmode hmetrics _ _
    · exact ⟨hmode, hmetrics, rfl⟩

theorem begin_turnOf (barrier : Step.Barrier) (floor : Floor) :
    TurnOf context.mode context.epoch run.frame run.group
      (run.begin context barrier floor).1 := by
  unfold begin
  split
  next hmode =>
    apply fetch_turnOf
    rw [hmode]
    rfl
  next hmode =>
    dsimp only
    split
    next error herror =>
      -- only steps of metrics can overflow
      intro hempty
      rw [Plan.Grouping.resolve_of_empty _ _ hempty] at herror
      cases herror
    next step _ =>
      dsimp only
      split
      next hempty =>
        have hplan : (Except.ok 0).bind (Plan.QueryPlan.aggregatedWith run.group run.frame
            (.resolve run.group run.frame context.epoch)) = .ok (.empty .aggregated run.frame) := by
          rw [Except.bind, Plan.QueryPlan.aggregatedWith, if_pos hempty]
        rw [fetchAggregated, hplan]
        apply fetch_turnOf
        rw [hmode]
        exact ⟨0, hplan⟩
      next hsome =>
        exact awaitStep_turnOf hmode (mt Plan.Grouping.isEmpty_resolve_iff.mpr hsome) _ _ floor

theorem advance_turnOf (hopen : run.isDone = false) (hcourse : run.OnCourse context)
    (barrier : Step.Barrier) (floor : Floor) :
    TurnOf context.mode context.epoch run.frame run.group
      (run.advance context barrier floor).1 := by
  unfold advance
  split
  next => exact begin_turnOf barrier floor
  next grouping expires hwaiting =>
    obtain ⟨hmode, hmetrics, rfl⟩ := hcourse.waiting hwaiting
    exact awaitStep_turnOf hmode hmetrics expires barrier floor
  next work hfetching =>
    exact (fetched_fetchOn context run _ floor).turnOf (hcourse.fetching hfetching)
  next hdone =>
    rw [isDone, hdone] at hopen
    cases hopen

/-- A turn leaves a group what it is; unless it ends the group, the group goes on
to wait or to fetch. -/
theorem act_spec (hopen : run.isDone = false) (hcourse : run.OnCourse context)
    (barrier : Step.Barrier) (floor : Floor) :
    let after := (run.act context barrier floor).1
    after.id = run.id ∧ after.frame = run.frame ∧ after.group = run.group ∧
      (after.phase = .done ∨
        Underway context.mode context.epoch run.frame run.group after.phase) ∧
      ∀ result ∈ (run.act context barrier floor).2.1,
        ResultOf context.mode context.epoch run.frame run.group result := by
  have hturn := advance_turnOf hopen hcourse barrier floor
  unfold act
  split
  next result _ _ hadvance =>
    rw [hadvance] at hturn
    exact ⟨rfl, rfl, rfl, .inl rfl, by simpa [TurnOf] using hturn⟩
  next phase _ _ hadvance =>
    rw [hadvance] at hturn
    split
    · refine ⟨rfl, rfl, rfl, .inl rfl, ?_⟩
      simpa [ResultOf] using metrics_of_underway hturn
    · exact ⟨rfl, rfl, rfl, .inr hturn, by simp⟩

end GroupRun

/-! ## Turns of a request -/

/-- Who aggregates the answers to the requests of an orchestrator. -/
def Orchestrator.mode (orchestrator : Orchestrator) : Plan.Mode :=
  if orchestrator.config.aggregated then .aggregated else .unaggregated

namespace RequestRun

/-- A turn of the request itself, or of one of its groups, with what it finds of
the time, the slots and the record at that moment. -/
inductive Move where
  | request (clock : Clock)
  | group (position : Nat) (floor : Floor)

/-- The request after a turn. Groups that have ended, and positions without a
group, have no turn. -/
def move (orchestrator : Orchestrator) (run : RequestRun) : Move → RequestRun
  | .request clock => (run.act orchestrator clock).1
  | .group position floor =>
    match run.groups[position]? with
    | none => run
    | some group => if group.isDone then run else (run.actGroup orchestrator group floor).1

/-- A request after the turns of a schedule. -/
def play (orchestrator : Orchestrator) (run : RequestRun) (moves : List Move) : RequestRun :=
  moves.foldl (move orchestrator) run

/-- What is certain of a request after any turns: which groups it has, how far
they can be, and which results they can have ended with. -/
structure Sound (orchestrator : Orchestrator) (request : Request) (run : RequestRun) : Prop where
  request_eq : run.request = request
  groups : ∀ (position : Nat) (group : GroupRun), run.groups[position]? = some group →
    group.id.position = position ∧ request.pairs[position]? = some (group.frame, group.group) ∧
      (group.phase = .ready ∨ group.phase = .done ∨
        Underway orchestrator.mode request.epoch group.frame group.group group.phase)
  results : ∀ result ∈ run.results, ∃ group : TargetGroup,
    request.pairs[result.position]? = some (result.frame, group) ∧
      ResultOf orchestrator.mode request.epoch result.frame group result.result
  concluded : ∀ (ended : RequestEnd) (response : Response),
    run.phase = .concluded ended → ended.result = .ok response →
      Response.ofResults run.results = .ok response

variable {orchestrator : Orchestrator} {request : Request} {run : RequestRun}

theorem sound_new (orchestrator : Orchestrator) (number start : Nat) (request : Request) :
    Sound orchestrator request (new number start request) :=
  { request_eq := rfl
    groups := by simp [new]
    results := by simp [new]
    concluded := by simp [new] }

theorem getElem?_groupsOf (number : Nat) (request : Request) (position : Nat) :
    (groupsOf number request)[position]? =
      request.pairs[position]?.map fun pair => .new ⟨number, position⟩ pair.1 pair.2 := by
  simp [groupsOf, List.getElem?_zipIdx, Function.comp_def]

theorem Sound.begin (hrun : Sound orchestrator request run) (clock : Clock) :
    Sound orchestrator request (run.begin orchestrator clock) := by
  unfold RequestRun.begin
  split
  next =>
    refine { hrun with concluded := ?_ }
    intro ended response hended hok
    cases hended
    cases hok
  next =>
    refine { hrun with groups := ?_, concluded := by simp }
    intro position group hgroup
    rw [getElem?_groupsOf, Option.map_eq_some_iff, hrun.request_eq] at hgroup
    obtain ⟨pair, hpair, rfl⟩ := hgroup
    exact ⟨rfl, hpair, .inl rfl⟩

theorem Sound.settle (hrun : Sound orchestrator request run) (clock : Clock) :
    Sound orchestrator request (run.settle clock) := by
  unfold RequestRun.settle
  split
  next =>
    refine { hrun with concluded := ?_ }
    intro ended response hended hok
    cases hended
    exact hok
  next => exact hrun

theorem Sound.act (hrun : Sound orchestrator request run) (clock : Clock) :
    Sound orchestrator request (run.act orchestrator clock).1 := by
  unfold RequestRun.act
  split
  next =>
    split
    next =>
      dsimp only
      split
      · exact (hrun.begin clock).settle clock
      · exact hrun.begin clock
    next => exact hrun
  next => exact hrun.settle clock
  next => exact hrun

theorem Sound.length_groups_le (hrun : Sound orchestrator request run) :
    run.groups.length ≤ request.size := by
  apply Nat.le_of_not_lt
  intro hlt
  have hpair := (hrun.groups _ _ (List.getElem?_eq_getElem hlt)).2.1
  simp [Request.size] at hpair

theorem Sound.length_groups_lt (hrun : Sound orchestrator request run) :
    run.groups.length < UInt64.size :=
  Nat.lt_of_le_of_lt hrun.length_groups_le request.fits

/-- A group that has not ended is at its first turn or under way. -/
theorem Sound.phase_of_open (hrun : Sound orchestrator request run) {position : Nat}
    {group : GroupRun} (hgroup : run.groups[position]? = some group)
    (hopen : group.isDone = false) :
    group.phase = .ready ∨
      Underway orchestrator.mode request.epoch group.frame group.group group.phase := by
  obtain ⟨-, -, hready | hdone | hunderway⟩ := hrun.groups position group hgroup
  · exact .inl hready
  · rw [GroupRun.isDone, hdone] at hopen
    cases hopen
  · exact .inr hunderway

/-- The same in the context in which the group has its turn. -/
theorem Sound.onCourse (hrun : Sound orchestrator request run) {position : Nat}
    {group : GroupRun} (hgroup : run.groups[position]? = some group)
    (hopen : group.isDone = false) (started : Nat) :
    group.OnCourse (run.context orchestrator started) := by
  have hphase := hrun.phase_of_open hgroup hopen
  rw [← hrun.request_eq] at hphase
  exact hphase

/-- Only a request that runs gives its groups turns. -/
theorem actGroup_of_not_running (hidle : ∀ started, run.phase ≠ .running started)
    (orchestrator : Orchestrator) (group : GroupRun) (floor : Floor) :
    run.actGroup orchestrator group floor = (run, [], false, { floor with woken := [] }) := by
  unfold RequestRun.actGroup
  split
  next started hrunning => exact absurd hrunning (hidle started)
  next => rfl

/-- A request that runs, after one of its groups has acted. -/
theorem Sound.actGroup_eq (hrun : Sound orchestrator request run) {position : Nat}
    {group : GroupRun} (hgroup : run.groups[position]? = some group) {started : Nat}
    (hrunning : run.phase = .running started) (floor : Floor) :
    (run.actGroup orchestrator group floor).1 =
      let acted := group.act (run.context orchestrator started) run.barrier
        { floor with woken := [] }
      { run with
        barrier := acted.2.2.1
        groups := run.groups.set position acted.1
        results := run.results ++ acted.2.1.toList.map fun result =>
          ⟨position, group.frame, result⟩ } := by
  simp only [RequestRun.actGroup, hrunning, (hrun.groups position group hgroup).1]

theorem Sound.actGroup (hrun : Sound orchestrator request run) {position : Nat}
    {group : GroupRun} (hgroup : run.groups[position]? = some group)
    (hopen : group.isDone = false) (floor : Floor) :
    Sound orchestrator request (run.actGroup orchestrator group floor).1 := by
  obtain ⟨hposition, hpair, -⟩ := hrun.groups position group hgroup
  by_cases hrunning : ∃ started, run.phase = .running started
  · obtain ⟨started, hrunning⟩ := hrunning
    obtain ⟨hid, hframe, htarget, hafter, hresult⟩ :=
      GroupRun.act_spec hopen (hrun.onCourse hgroup hopen started) run.barrier
        { floor with woken := [] }
    rw [hrun.actGroup_eq hgroup hrunning]
    refine { hrun with groups := ?_, results := ?_, concluded := ?_ }
    · intro other otherGroup hother
      rcases eq_or_getElem?_of_set hother with ⟨rfl, rfl⟩ | ⟨-, hold⟩
      · rw [hframe, htarget, hid]
        refine ⟨hposition, hpair, ?_⟩
        rw [← hrun.request_eq]
        exact .inr hafter
      · exact hrun.groups other otherGroup hold
    · intro result hmem
      dsimp only at hmem
      rcases List.mem_append.mp hmem with hold | hnew
      · exact hrun.results result hold
      · obtain ⟨outcome, houtcome, rfl⟩ := List.mem_map.mp hnew
        rw [Option.mem_toList] at houtcome
        refine ⟨group.group, hpair, ?_⟩
        rw [← hrun.request_eq]
        exact hresult outcome houtcome
    · intro ended response hconcluded
      rw [hrunning] at hconcluded
      cases hconcluded
  · rw [actGroup_of_not_running (not_exists.mp hrunning)]
    exact hrun

theorem Sound.move (hrun : Sound orchestrator request run) (next : Move) :
    Sound orchestrator request (run.move orchestrator next) := by
  cases next with
  | request clock => exact hrun.act clock
  | group position floor =>
      simp only [RequestRun.move]
      split
      next => exact hrun
      next group hgroup =>
        split
        next => exact hrun
        next hopen => exact hrun.actGroup hgroup (by simpa using hopen) floor

theorem Sound.play (hrun : Sound orchestrator request run) (moves : List Move) :
    Sound orchestrator request (run.play orchestrator moves) := by
  induction moves generalizing run with
  | nil => exact hrun
  | cons next rest ih => exact ih (hrun.move next)

end RequestRun

end SeriesGateway.Fetch
