import SeriesGateway.Proofs.Fetch.Agreement
import SeriesGateway.Proofs.Fetch.Foretelling
import SeriesGateway.Proofs.Fetch.Promptness

/-! # What a request comes to

In a prompt run the groups of a request begin together and in their order, so the barrier
has the reports of all of them before any time passes. Which plan a group makes is then
told by its request alone, and so is what the group ends with.
-/

namespace SeriesGateway.Fetch

open Step (Barrier Report)

/-! ## Plans -/

theorem RequestContext.mode_eq_aggregated_iff {context : RequestContext} :
    context.mode = .aggregated ↔ context.config.aggregated = true := by
  unfold mode
  split <;> simp_all

namespace Request

/-- What the groups of a request share that began at a time. -/
def contextAt (orchestrator : Orchestrator) (request : Request) (begins : Nat) : RequestContext :=
  ⟨orchestrator.config, orchestrator.storage, orchestrator.secondary, request.epoch, begins⟩

/-- The reports that a group goes by: those of all groups, or only those up to its own if
groups have no patience. -/
def heard (config : FetchConfig) (request : Request) (position : Nat) : List Report :=
  let reports := request.pairs.map request.reportOf
  if config.stepResolveTimeout.millisCovering = 0 then reports.take (position + 1) else reports

/-- The common step that a group is given. -/
def commonFor (config : FetchConfig) (request : Request) (position : Nat) :
    Except StepError UInt32 :=
  let barrier := Barrier.ofReports request.size (request.heard config position)
  barrier.answer barrier.released config.stepResolveTimeout

/-- The plan that a group makes, or why it cannot make one. -/
def planAt (config : FetchConfig) (request : Request) (position : Nat)
    (pair : TimeFrame × TargetGroup) : Except StepError Plan.QueryPlan :=
  if config.aggregated then
    let grouping := Plan.Grouping.resolve pair.2 pair.1 request.epoch
    (request.reportOf pair).bind fun _ =>
      (if grouping.isEmpty then .ok 0 else request.commonFor config position).bind
        (Plan.QueryPlan.aggregatedWith pair.2 pair.1 grouping)
  else .ok (.unaggregated pair.2 pair.1 request.epoch)

theorem planAt_of_overflow {config : FetchConfig} {request : Request} {position : Nat}
    {pair : TimeFrame × TargetGroup} {error : StepError} (haggregated : config.aggregated = true)
    (herror : request.reportOf pair = .error error) :
    request.planAt config position pair = .error error := by
  unfold planAt
  rw [if_pos haggregated, herror]
  rfl

/-- A group whose steps fit plans with the common step, or at once without metrics. -/
theorem planAt_of_report {config : FetchConfig} {request : Request} {position : Nat}
    {pair : TimeFrame × TargetGroup} {step : UInt32} (haggregated : config.aggregated = true)
    (hstep : request.reportOf pair = .ok step) :
    request.planAt config position pair =
      (if (Plan.Grouping.resolve pair.2 pair.1 request.epoch).isEmpty then .ok 0
        else request.commonFor config position).bind
          (Plan.QueryPlan.aggregatedWith pair.2 pair.1
            (Plan.Grouping.resolve pair.2 pair.1 request.epoch)) := by
  unfold planAt
  rw [if_pos haggregated, hstep]
  rfl

/-- Reports up to a position, when no time was left for others. -/
theorem heard_of_take {config : FetchConfig} {request : Request} {position : Nat}
    (h : config.stepResolveTimeout.millisCovering = 0 ∨ request.size ≤ position + 1) :
    (request.pairs.map request.reportOf).take (position + 1) = request.heard config position := by
  unfold heard
  dsimp only
  split
  next => rfl
  next hpatient =>
    apply List.take_of_length_le
    rw [List.length_map]
    exact h.resolve_left hpatient

theorem filterMap_range (request : Request) (reported : Nat) :
    (List.range reported).filterMap (request.pairs[·]?) = request.pairs.take reported := by
  induction reported with
  | zero => rfl
  | succ reported ih =>
      rw [List.range_succ, List.filterMap_append, ih, List.take_add_one]
      cases h : request.pairs[reported]? <;> simp [h]

end Request

namespace GroupRun

variable {orchestrator : Orchestrator} {request : Request} {begins position : Nat}
  {run : GroupRun} {clock : Clock} {barrier : Barrier}

theorem of_answered? {context : RequestContext} {grouping : Plan.Grouping} {expires : Timer}
    {plan : Except StepError Plan.QueryPlan}
    (h : run.answered? context grouping expires barrier clock = some plan) :
    plan = (barrier.answer barrier.released context.config.stepResolveTimeout).bind
        (Plan.QueryPlan.aggregatedWith run.group run.frame grouping) ∧
      (barrier.released = true ∨ expires.due ≤ clock.now) := by
  unfold answered? at h
  dsimp only at h
  split at h
  next hreleased => exact ⟨by rw [hreleased]; exact (Option.some.inj h).symm, .inl hreleased⟩
  next hclosed =>
    split at h
    next hreached =>
      have hclosed : barrier.released = false := by simpa using hclosed
      refine ⟨?_, .inr (Clock.due_le_of_reached hreached)⟩
      rw [hclosed]
      exact (Option.some.inj h).symm
    next => cases h

theorem phase_of_not_hasBegun (h : ¬ run.hasBegun = true) : run.phase = .ready := by
  unfold hasBegun at h
  split at h
  next hready => exact hready
  next => exact absurd rfl h

/-- A group that learns its plan in its first turn has heard those before it. -/
theorem planned_of_ready (hready : run.phase = .ready)
    (hbarrier : orchestrator.config.aggregated = true → barrier =
      .ofReports request.size ((request.pairs.map request.reportOf).take (position + 1)))
    {plan : Except StepError Plan.QueryPlan}
    (h : run.planned? (request.contextAt orchestrator begins) barrier clock = some plan) :
    plan = request.planAt orchestrator.config position (run.frame, run.group) := by
  unfold planned? at h
  split at h
  next hwaiting => simp [hready] at hwaiting
  next hmode _ =>
    have hplain : ¬ orchestrator.config.aggregated = true := fun haggregated => by
      rw [RequestContext.mode_eq_aggregated_iff.mpr haggregated] at hmode
      cases hmode
    rw [Request.planAt, if_neg hplain]
    exact (Option.some.inj h).symm
  next hmode _ =>
    have haggregated : orchestrator.config.aggregated = true :=
      RequestContext.mode_eq_aggregated_iff.mp hmode
    have hbarrier := hbarrier haggregated
    dsimp only [Request.contextAt] at h
    split at h
    next error herror =>
      have herror : request.reportOf (run.frame, run.group) = .error error := herror
      rw [Request.planAt_of_overflow haggregated herror]
      exact (Option.some.inj h).symm
    next step hstep =>
      have hstep : request.reportOf (run.frame, run.group) = .ok step := hstep
      rw [Request.planAt_of_report haggregated hstep]
      split at h
      next hempty =>
        rw [if_pos hempty]
        exact (Option.some.inj h).symm
      next hsome =>
        obtain ⟨rfl, hreleased⟩ := of_answered? h
        have hheard : (request.pairs.map request.reportOf).take (position + 1) =
            request.heard orchestrator.config position := by
          apply Request.heard_of_take
          rcases hreleased with hreleased | hexpired
          · rw [hbarrier] at hreleased
            simp only [Barrier.ofReports, List.length_take, List.length_map,
              decide_eq_true_eq] at hreleased
            exact .inr (Nat.le_trans hreleased (Nat.min_le_left _ _))
          · simp only [Clock.timer] at hexpired
            exact .inl (by omega)
        rw [if_neg hsome, hbarrier, hheard]
        rfl

/-- A group that has waited has heard all groups. -/
theorem planned_of_waiting (haggregated : orchestrator.config.aggregated = true)
    {expires : Timer}
    (hwaiting : run.phase = .waiting (.resolve run.group run.frame request.epoch) expires)
    (hmetrics : run.group.metrics ≠ [])
    (hphase : run.phase.Foretold (request.contextAt orchestrator begins) run.id run.frame
      run.group (request.planAt orchestrator.config position (run.frame, run.group)))
    (hbarrier : barrier = .ofReports request.size (request.pairs.map request.reportOf))
    {plan : Except StepError Plan.QueryPlan}
    (h : run.planned? (request.contextAt orchestrator begins) barrier clock = some plan) :
    plan = request.planAt orchestrator.config position (run.frame, run.group) := by
  rw [hwaiting] at hphase
  obtain ⟨-, hpatience, step, hstep⟩ := hphase
  have hstep : request.reportOf (run.frame, run.group) = .ok step := hstep
  have hsome : ¬ (Plan.Grouping.resolve run.group run.frame request.epoch).isEmpty = true :=
    mt Plan.Grouping.isEmpty_resolve_iff.mp hmetrics
  have hheard : request.heard orchestrator.config position =
      request.pairs.map request.reportOf := if_neg (Nat.ne_of_gt hpatience)
  simp only [planned?, hwaiting] at h
  obtain ⟨rfl, -⟩ := of_answered? h
  rw [Request.planAt_of_report haggregated hstep, if_neg hsome, Request.commonFor, hheard, hbarrier]
  rfl

end GroupRun

/-! ## Requests -/

namespace RequestRun

theorem Gathered.barrier_of_range {asked : Request} {run : RequestRun} {reported : Nat}
    (h : Gathered asked run (List.range reported)) (hsize : run.groups.length = asked.size) :
    run.barrier = .ofReports asked.size ((asked.pairs.map asked.reportOf).take reported) := by
  rw [h.barrier_eq, hsize, Request.filterMap_range, List.map_take]

/-- The first group that has not reported is to begin. -/
theorem Gathered.exists_ready_of_lt {asked : Request} {run : RequestRun} {reported started : Nat}
    (h : Gathered asked run (List.range reported)) (hlt : reported < run.groups.length)
    (hrunning : run.phase = .running started) :
    ∃ group, run.openGroup? reported = some group ∧ group.phase = .ready := by
  have hgroup := List.getElem?_eq_getElem hlt
  refine ⟨_, openGroup?_eq_some_iff.mpr ⟨⟨started, hrunning⟩, hgroup⟩,
    GroupRun.phase_of_not_hasBegun fun hbegun => ?_⟩
  have hin := (h.mem_order reported).mpr ⟨_, hgroup, hbegun⟩
  exact Nat.lt_irrefl _ (List.mem_range.mp hin)

theorem Sound.context_eq {orchestrator : Orchestrator} {asked : Request} {run : RequestRun}
    (hrun : Sound orchestrator asked run) (started : Nat) :
    run.context orchestrator started = asked.contextAt orchestrator started := by
  rw [RequestRun.context, hrun.request_eq]
  rfl

theorem length_groups_actGroup (orchestrator : Orchestrator) (run : RequestRun)
    (group : GroupRun) (floor : Floor) :
    (run.actGroup orchestrator group floor).1.groups.length = run.groups.length := by
  unfold actGroup
  split
  next => exact List.length_set
  next => rfl

/-- The open groups after one of them has had a turn. -/
theorem Sound.openGroup?_actGroup {orchestrator : Orchestrator} {asked : Request}
    {run : RequestRun} (hrun : Sound orchestrator asked run) {position : Nat} {group : GroupRun}
    (hgroup : run.groups[position]? = some group) {started : Nat}
    (hrunning : run.phase = .running started) {floor : Floor} {other : Nat} {found : GroupRun}
    (hother : (run.actGroup orchestrator group floor).1.openGroup? other = some found) :
    other = position ∧ found = (group.act (asked.contextAt orchestrator started) run.barrier
      { floor with woken := [] }).1 ∨ run.openGroup? other = some found := by
  rw [hrun.actGroup_eq hgroup hrunning, hrun.context_eq, openGroup?_eq_some_iff] at hother
  obtain ⟨hstill, hother⟩ := hother
  rcases eq_or_getElem?_of_set hother with ⟨hsame, hacted⟩ | ⟨-, hold⟩
  · exact .inl ⟨hsame.symm, hacted⟩
  · exact .inr (openGroup?_eq_some_iff.mpr ⟨hstill, hold⟩)

/-- The time that a request has come to: now, or when it ended. -/
def standsAt (run : RequestRun) (now : Nat) : Nat :=
  match run.phase with
  | .concluded ended => ended.time
  | _ => now

/-- What is known of a request in a prompt run, up to its deadline: the groups that have had
a turn are the first ones, and had it as the request began; and what the groups end with was
to come of their plans. -/
structure Foretold (orchestrator : Orchestrator) (number begins : Nat) (asked : Request)
    (now : Nat) (run : RequestRun) : Prop where
  pending : ∀ start, run.phase = .pending start → start.due = begins
  running : ∀ started, run.phase = .running started → started = begins
  gathered : orchestrator.config.aggregated = true →
    ∃ reported, Gathered asked run (List.range reported)
  fresh : ∀ position group, run.openGroup? position = some group → group.phase = .ready →
    now = begins
  groups : now < (asked.contextAt orchestrator begins).deadline →
    ∀ position group, run.openGroup? position = some group →
      group.phase.Foretold (asked.contextAt orchestrator begins) ⟨number, position⟩ group.frame
        group.group (asked.planAt orchestrator.config position (group.frame, group.group))
  results : run.standsAt now < (asked.contextAt orchestrator begins).deadline →
    ∀ result ∈ run.results, ∃ group, asked.pairs[result.position]? = some (result.frame, group) ∧
      Foreseen (asked.contextAt orchestrator begins) ⟨number, result.position⟩ group
        (asked.planAt orchestrator.config result.position (result.frame, group)) result.result

variable {orchestrator : Orchestrator} {number begins now : Nat} {asked : Request}
  {run : RequestRun}

theorem openGroup?_ne_some_of_phase (hphase : ∀ started, run.phase ≠ .running started)
    (position : Nat) (group : GroupRun) : run.openGroup? position ≠ some group := by
  intro hgroup
  obtain ⟨⟨started, hrunning⟩, -⟩ := openGroup?_eq_some_iff.mp hgroup
  exact hphase started hrunning

theorem foretold_new (orchestrator : Orchestrator) (number begins : Nat) (asked : Request) :
    (new number begins asked).Foretold orchestrator number begins asked 0 where
  pending := by
    rintro start hpending
    cases hpending
    rfl
  running := nofun
  gathered _ := ⟨0, gathered_new number begins asked⟩
  fresh position group hgroup :=
    absurd hgroup (openGroup?_ne_some_of_phase (by rintro _ ⟨⟩) position group)
  groups _ position group hgroup :=
    absurd hgroup (openGroup?_ne_some_of_phase (by rintro _ ⟨⟩) position group)
  results _ := nofun

namespace Foretold

/-- Time goes on only when all groups of the request have begun. -/
theorem later (h : run.Foretold orchestrator number begins asked now) {later : Nat}
    (hforward : now ≤ later)
    (hready : ∀ position group, run.openGroup? position = some group → group.phase ≠ .ready) :
    run.Foretold orchestrator number begins asked later where
  pending := h.pending
  running := h.running
  gathered := h.gathered
  fresh position group hgroup hfirst := absurd hfirst (hready position group hgroup)
  groups hearly := h.groups (Nat.lt_of_le_of_lt hforward hearly)
  results hearly := by
    refine h.results (Nat.lt_of_le_of_lt ?_ hearly)
    unfold standsAt
    split
    next => exact Nat.le_refl _
    next => exact hforward

/-- A request that ends has come to what was told up to now. -/
theorem conclude (h : run.Foretold orchestrator number begins asked now)
    (hopen : run.standsAt now = now) (answer : Except FetchError Response) :
    Foretold orchestrator number begins asked now
      { run with phase := .concluded ⟨now, answer⟩ } where
  pending := nofun
  running := nofun
  gathered haggregated :=
    (h.gathered haggregated).imp fun _ hgathered => { hgathered with pending := nofun }
  fresh position group hgroup :=
    absurd hgroup (openGroup?_ne_some_of_phase (by rintro _ ⟨⟩) position group)
  groups _ position group hgroup :=
    absurd hgroup (openGroup?_ne_some_of_phase (by rintro _ ⟨⟩) position group)
  results hearly := h.results (by rwa [hopen])

theorem settle {clock : Clock} (h : run.Foretold orchestrator number begins asked clock.now)
    {started : Nat} (hrunning : run.phase = .running started) :
    (run.settle clock).Foretold orchestrator number begins asked clock.now := by
  unfold RequestRun.settle
  split
  next => exact h.conclude (by rw [standsAt, hrunning]) _
  next => exact h

theorem begin (h : run.Foretold orchestrator number begins asked now)
    (hrun : Sound orchestrator asked run) (henrolled : Enrolled orchestrator number asked run)
    {start : Timer} (hpending : run.phase = .pending start)
    (haccepted : orchestrator.refusal? run.request = none) {clock : Clock}
    (hnow : clock.now = begins) :
    (run.begin orchestrator clock).Foretold orchestrator number begins asked clock.now := by
  have hresults := henrolled.results_of_groups (henrolled.groups_of_pending hpending)
  have hgathered := fun haggregated : orchestrator.config.aggregated = true =>
    (h.gathered haggregated).imp fun _ hgathered =>
      hgathered.begin hrun haggregated hpending clock
  simp only [RequestRun.begin, haccepted] at hgathered ⊢
  refine ⟨fun _ hpending => (by cases hpending), ?_, hgathered, fun _ _ _ _ => hnow, ?_, ?_⟩
  · rintro started ⟨⟩
    exact hnow
  · intro _ position group hgroup
    simp only [openGroup?, getElem?_groupsOf, Option.map_eq_some_iff] at hgroup
    obtain ⟨pair, -, rfl⟩ := hgroup
    trivial
  · intro _ result hresult
    dsimp only at hresult
    rw [hresults] at hresult
    cases hresult

/-- A turn of a request whose time has not passed. -/
theorem act {clock : Clock} (h : run.Foretold orchestrator number begins asked clock.now)
    (hrun : Sound orchestrator asked run) (henrolled : Enrolled orchestrator number asked run)
    (hdue : ∀ timer, run.pending? = some timer → clock.now ≤ timer.due) :
    (run.act orchestrator clock).1.Foretold orchestrator number begins asked clock.now := by
  rcases run.act_cases orchestrator clock with
    ⟨hact, -⟩ | ⟨start, error, hpending, -, -, hact⟩ | ⟨start, hpending, hstart, haccepted, hact⟩ |
      ⟨started, hrunning, hact⟩ <;> rw [hact]
  · exact h
  · exact h.conclude (by rw [standsAt, hpending]) _
  · have hnow : clock.now = begins := by
      have hlate := hdue start (by rw [pending?, hpending])
      rw [← h.pending start hpending]
      exact Nat.le_antisymm hlate hstart
    have hrunning : (run.begin orchestrator clock).phase = .running clock.now := by
      simp only [RequestRun.begin, haccepted]
    exact (h.begin hrun henrolled hpending haccepted hnow).settle hrunning
  · exact h.settle hrunning

/-- A group that has not begun when it has its turn is the first of those. -/
theorem gathered_actGroup (h : run.Foretold orchestrator number begins asked now)
    (hrun : Sound orchestrator asked run)
    (haggregated : orchestrator.config.aggregated = true) {position : Nat} {group : GroupRun}
    (hgroup : run.openGroup? position = some group) (hopen : group.isDone = false)
    (hfirst : run.HasTurn position group) (floor : Floor) :
    ∃ reported, Gathered asked run (List.range reported) ∧
      Gathered asked (run.actGroup orchestrator group floor).1
        (List.range (if group.hasBegun then reported else position + 1)) := by
  obtain ⟨⟨started, hrunning⟩, hfound⟩ := openGroup?_eq_some_iff.mp hgroup
  obtain ⟨reported, hgathered⟩ := h.gathered haggregated
  refine ⟨reported, hgathered, ?_⟩
  have hafter := hgathered.actGroup_of_running hrun haggregated hfound hopen hrunning floor
  split
  next hbegun => rwa [if_pos hbegun] at hafter
  next hready =>
    have hout : position ∉ List.range reported := fun hin => by
      obtain ⟨found, hsame, hbegun⟩ := (hgathered.mem_order position).mp hin
      rw [hfound] at hsame
      exact hready (Option.some.inj hsame ▸ hbegun)
    have hle : ¬ reported < position := fun hlt => by
      have hexists := Nat.lt_trans hlt (List.getElem?_eq_some_iff.mp hfound).1
      obtain ⟨other, hother, hothers⟩ := hgathered.exists_ready_of_lt hexists hrunning
      exact hfirst (GroupRun.phase_of_not_hasBegun hready) reported hlt other hother hothers
    obtain rfl : reported = position :=
      Nat.le_antisymm (Nat.not_lt.mp (mt List.mem_range.mpr hout)) (Nat.not_lt.mp hle)
    rw [if_neg hready, ← List.range_succ] at hafter
    exact hafter

/-- A group that waits is answered only when all groups have reported: who has not is to do so
now, and nobody has lost patience yet. -/
theorem all_reported (h : run.Foretold orchestrator number begins asked now)
    (henrolled : Enrolled orchestrator number asked run) {started reported : Nat}
    (hrunning : run.phase = .running started) (hreports : Gathered asked run (List.range reported))
    {group : GroupRun} {grouping : Plan.Grouping} {expires : Timer}
    (hwork : group.phase = .waiting grouping expires)
    (hdue : expires.due = begins + orchestrator.config.stepResolveTimeout.millisCovering)
    (hpatience : 0 < orchestrator.config.stepResolveTimeout.millisCovering)
    {clock : Clock} (hnow : clock.now = now) {plan : Except StepError Plan.QueryPlan}
    (hplan : group.planned? (asked.contextAt orchestrator begins)
      (.ofReports asked.size ((asked.pairs.map asked.reportOf).take reported)) clock =
        some plan) : asked.size ≤ reported := by
  by_contra hmissing
  have hsize := (henrolled.of_running hrunning).2
  obtain ⟨first, hopenFirst, hready⟩ :=
    hreports.exists_ready_of_lt (by rw [hsize]; omega) hrunning
  have hbegins := h.fresh reported first hopenFirst hready
  simp only [GroupRun.planned?, hwork] at hplan
  rcases (GroupRun.of_answered? hplan).2 with hreleased | hexpired
  · simp only [Barrier.ofReports, List.length_take, decide_eq_true_eq] at hreleased
    omega
  · rw [hdue, hnow, hbegins] at hexpired
    omega

/-- A group that learns its plan in a turn learns the one that its request tells. -/
theorem planned (h : run.Foretold orchestrator number begins asked now)
    (hrun : Sound orchestrator asked run) (henrolled : Enrolled orchestrator number asked run)
    {position : Nat} {group : GroupRun} (hgroup : run.openGroup? position = some group)
    (hopen : group.isDone = false) (hfirst : run.HasTurn position group)
    (hearly : now < (asked.contextAt orchestrator begins).deadline)
    {floor : Floor} (hnow : floor.clock.now = now) (hbefore : group.phase.queries = [])
    {plan : Except StepError Plan.QueryPlan}
    (hplan : group.planned? (asked.contextAt orchestrator begins)
      (run.actGroup orchestrator group floor).1.barrier floor.clock = some plan) :
    plan = asked.planAt orchestrator.config position (group.frame, group.group) := by
  obtain ⟨⟨started, hrunning⟩, hfound⟩ := openGroup?_eq_some_iff.mp hgroup
  have hsize := (henrolled.of_running hrunning).2
  have hphase := h.groups hearly position group hgroup
  have hgathered := fun haggregated =>
    h.gathered_actGroup hrun haggregated hgroup hopen hfirst floor
  rcases hrun.phase_of_open hfound hopen with hready | hunderway
  · refine GroupRun.planned_of_ready hready (fun haggregated => ?_) hplan
    obtain ⟨reported, -, hafter⟩ := hgathered haggregated
    rw [if_neg (by simp [GroupRun.hasBegun, hready])] at hafter
    exact hafter.barrier_of_range (by rw [length_groups_actGroup, hsize])
  · cases hwork : group.phase with
    | fetching work =>
        rw [hwork] at hphase hbefore
        exact absurd hbefore (hphase.2.2.queries_ne_nil hphase.2.1)
    | waiting grouping expires =>
        rw [hwork] at hunderway
        obtain ⟨hmode, hmetrics, rfl⟩ := hunderway
        have hmode : (asked.contextAt orchestrator begins).mode = .aggregated := hmode
        have haggregated : orchestrator.config.aggregated = true :=
          RequestContext.mode_eq_aggregated_iff.mp hmode
        obtain ⟨reported, hreports, hafter⟩ := hgathered haggregated
        rw [if_pos (by simp [GroupRun.hasBegun, hwork])] at hafter
        have hbarrier := hafter.barrier_of_range (by rw [length_groups_actGroup, hsize])
        have hall : asked.size ≤ reported := by
          rw [hwork] at hphase
          obtain ⟨hdue, hpatience, -⟩ := hphase
          exact h.all_reported henrolled hrunning hreports hwork hdue hpatience hnow
            (hbarrier ▸ hplan)
        rw [List.take_of_length_le (by rwa [List.length_map])] at hbarrier
        have hid := henrolled.id_eq hfound
        rw [← hid] at hphase
        exact GroupRun.planned_of_waiting haggregated hwork hmetrics hphase hbarrier hplan
    | ready => rw [hwork] at hunderway; cases hunderway
    | done => rw [hwork] at hunderway; cases hunderway

/-- Up to the deadline, a turn brings a group to what is told of its plan. -/
theorem fulfils (h : run.Foretold orchestrator number begins asked now)
    (hrun : Sound orchestrator asked run) (henrolled : Enrolled orchestrator number asked run)
    {position : Nat} {group : GroupRun} (hgroup : run.openGroup? position = some group)
    (hopen : group.isDone = false) (hfirst : run.HasTurn position group)
    (hearly : now < (asked.contextAt orchestrator begins).deadline)
    {floor : Floor} (hnow : floor.clock.now = now)
    (htimers : ∀ timer ∈ group.timers, now ≤ timer.due) :
    let context := asked.contextAt orchestrator begins
    let planned := asked.planAt orchestrator.config position (group.frame, group.group)
    let acted := group.act context run.barrier { floor with woken := [] }
    acted.1.phase.Foretold context ⟨number, position⟩ group.frame group.group planned ∧
      ∀ result, acted.2.1 = some result →
        Foreseen context ⟨number, position⟩ group.group planned result := by
  obtain ⟨⟨started, hrunning⟩, hfound⟩ := openGroup?_eq_some_iff.mp hgroup
  obtain rfl := h.running started hrunning
  have hphase := hrun.onCourse hfound hopen started
  rw [hrun.context_eq] at hphase
  have hforetold := h.groups hearly position group hgroup
  rw [← henrolled.id_eq hfound] at hforetold ⊢
  refine GroupRun.act_fulfils hopen hphase hforetold ?_ ?_ ?_ (by rwa [← hnow] at hearly)
  · intro hbefore plan hplan
    apply h.planned hrun henrolled hgroup hopen hfirst hearly hnow hbefore
    rw [hrun.actGroup_eq hfound hrunning, hrun.context_eq]
    exact hplan
  · exact fun hready => hnow.trans (h.fresh position group hgroup hready)
  · intro timer htimer
    exact hnow ▸ htimers timer (GroupRun.mem_timers_of_phase htimer)

/-- A turn of a group that nobody was to begin before, and of which no timer has run out
unheeded. -/
theorem actGroup (h : run.Foretold orchestrator number begins asked now)
    (hrun : Sound orchestrator asked run) (henrolled : Enrolled orchestrator number asked run)
    {position : Nat} {group : GroupRun} (hgroup : run.openGroup? position = some group)
    (hopen : group.isDone = false) (hfirst : run.HasTurn position group)
    {floor : Floor} (hnow : floor.clock.now = now)
    (htimers : ∀ timer ∈ group.timers, now ≤ timer.due) :
    (run.actGroup orchestrator group floor).1.Foretold orchestrator number begins asked now := by
  obtain ⟨⟨started, hrunning⟩, hfound⟩ := openGroup?_eq_some_iff.mp hgroup
  obtain rfl := h.running started hrunning
  have hafter := hrun.actGroup_eq hfound hrunning floor
  have hphase := hrun.onCourse hfound hopen started
  rw [hrun.context_eq] at hafter hphase
  have hfulfils := fun hearly =>
    h.fulfils hrun henrolled hgroup hopen hfirst hearly hnow htimers
  obtain ⟨-, hsameFrame, hsameGroup, hbegun, -⟩ :=
    GroupRun.act_spec hopen hphase run.barrier { floor with woken := [] }
  refine ⟨?_, ?_, ?_, ?_, ?_, ?_⟩
  · intro start hpending
    rw [hafter, hrunning] at hpending
    cases hpending
  · intro later hlater
    rw [hafter] at hlater
    exact h.running later hlater
  · intro haggregated
    obtain ⟨reported, -, hreports⟩ :=
      h.gathered_actGroup hrun haggregated hgroup hopen hfirst floor
    exact ⟨_, hreports⟩
  · intro other found hother hready
    rcases hrun.openGroup?_actGroup hfound hrunning hother with ⟨-, rfl⟩ | hbefore
    · rw [hready] at hbegun
      rcases hbegun with hunderway | hdone
      · cases hunderway
      · exact hdone.elim
    · exact h.fresh other found hbefore hready
  · intro hearly other found hother
    rcases hrun.openGroup?_actGroup hfound hrunning hother with ⟨rfl, rfl⟩ | hbefore
    · rw [hsameFrame, hsameGroup]
      exact (hfulfils hearly).1
    · exact h.groups hearly other found hbefore
  · have hresults := h.results
    rw [hafter]
    simp only [standsAt, hrunning] at hresults ⊢
    intro hearly result hresult
    rcases List.mem_append.mp hresult with hold | hnew
    · exact hresults hearly result hold
    · obtain ⟨ended, hended, rfl⟩ := List.mem_map.mp hnew
      have hsome := (hfulfils hearly).2 ended (Option.mem_toList.mp hended)
      exact ⟨group.group, (hrun.groups position group hfound).2.1, hsome⟩

end Foretold

end RequestRun

/-! ## Runs -/

namespace Run

variable {orchestrator : Orchestrator} {requests : List (Nat × Request)} {run : Run}
  {number begins : Nat} {asked : Request} {request : RequestRun}

theorem Played.enrolled (h : Played orchestrator requests run)
    (hasked : requests[number]? = some (begins, asked))
    (hrequest : run.requests[number]? = some request) :
    request.Enrolled orchestrator number asked ∧ request.Sound orchestrator asked := by
  obtain ⟨_, _, hsame, henrolled⟩ := h.exists_enrolled hrequest
  rw [hasked] at hsame
  cases hsame
  exact henrolled

/-- What is told of requests is kept by a turn of a request. -/
theorem Prompt.foretold_actRequest (h : Prompt orchestrator requests run)
    (hasked : requests[number]? = some (begins, asked))
    (hforetold : ∀ request, run.requests[number]? = some request →
      request.Foretold orchestrator number begins asked run.floor.clock.now) (agent : Nat)
    (hrequest : (run.actRequest agent).requests[number]? = some request) :
    request.Foretold orchestrator number begins asked (run.actRequest agent).floor.clock.now := by
  have hplayed := h.reachable.played
  rcases hplayed.actRequest_cases agent with ⟨-, hsame⟩ | ⟨before, hbefore, hafter⟩
  · rw [hsame] at hrequest ⊢
    exact hforetold request hrequest
  · rw [hafter] at hrequest ⊢
    rcases eq_or_getElem?_of_set hrequest with ⟨rfl, rfl⟩ | ⟨-, hold⟩
    · obtain ⟨henrolled, hsound⟩ := hplayed.enrolled hasked hbefore
      refine (hforetold before hbefore).act hsound henrolled fun timer htimer => ?_
      exact h.punctual.pending agent timer (by rw [Run.pending?, hbefore]; exact htimer)
    · exact hforetold request hold

/-- What is told of requests is kept by a turn of a group, if it is the turn of the group to
begin. -/
theorem Prompt.foretold_actGroup (h : Prompt orchestrator requests run)
    (hasked : requests[number]? = some (begins, asked))
    (hforetold : ∀ request, run.requests[number]? = some request →
      request.Foretold orchestrator number begins asked run.floor.clock.now) {id : GroupId}
    (hturn : run.Ready id → ∀ position < id.position, ¬ run.Ready ⟨id.request, position⟩)
    (hrequest : (run.actGroup id).requests[number]? = some request) :
    request.Foretold orchestrator number begins asked (run.actGroup id).floor.clock.now := by
  have hplayed := h.reachable.played
  rcases groupTurn_or_idle hplayed id with ⟨before, started, group, agents, hgroup⟩ | hidle
  · rw [hgroup.now_eq hplayed]
    rw [hgroup.requests_eq hplayed] at hrequest
    rcases eq_or_getElem?_of_set hrequest with ⟨rfl, rfl⟩ | ⟨-, hold⟩
    · obtain ⟨henrolled, hsound⟩ := hplayed.enrolled hasked hgroup.request_eq
      have hopen := (hgroup.openGroup?_at id.position).symm.trans hgroup.openGroup?_before
      exact (hforetold before hgroup.request_eq).actGroup hsound henrolled hopen hgroup.open_eq
        (hgroup.hasTurn hturn) rfl (h.punctual.timers id group hgroup.openGroup?_before)
    · exact hforetold request hold
  · obtain ⟨hrequests, hnow, -⟩ := actGroup_of_idle hidle
    rw [hrequests] at hrequest
    rw [hnow]
    exact hforetold request hrequest

/-- What is told of the requests of a prompt run. -/
theorem Prompt.foretold (h : Prompt orchestrator requests run)
    (hasked : requests[number]? = some (begins, asked))
    (hrequest : run.requests[number]? = some request) :
    request.Foretold orchestrator number begins asked run.floor.clock.now := by
  induction h generalizing request with
  | start =>
      simp only [Run.start, List.getElem?_map, List.getElem?_zipIdx, hasked, Option.map_some,
        Option.some.injEq] at hrequest
      rw [← hrequest, Nat.zero_add]
      exact RequestRun.foretold_new orchestrator number begins asked
  | act h agent hturn ih =>
      cases agent with
      | request agent => exact h.foretold_actRequest hasked (fun _ => ih) agent hrequest
      | group id => exact h.foretold_actGroup hasked (fun _ => ih) (hturn id rfl) hrequest
  | @pass run h now hforward hready hdue ih =>
      refine (ih hrequest).later hforward fun position group hgroup hfirst => ?_
      refine hready ⟨number, position⟩ ⟨group, ?_, hfirst⟩
      rw [Run.openGroup?, hrequest]
      exact hgroup
  | lineUp _ _ ih => exact ih hrequest
  | rearrange _ _ ih => exact ih hrequest

end Run

end SeriesGateway.Fetch
