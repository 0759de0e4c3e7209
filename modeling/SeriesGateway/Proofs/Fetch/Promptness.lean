import SeriesGateway.Proofs.Fetch.Reachability
import SeriesGateway.Proofs.Fetch.Timers

/-! # Prompt runs

Runs in which nobody is kept waiting: time does not go on while someone must act, and not
beyond the next timer; and the groups of a request begin in their order. Who else acts when
is left open, as is the order in which a barrier lets groups go. So no timer is ever heeded
late.
-/

namespace SeriesGateway.Fetch

namespace RequestRun

/-- When the request is to begin, if it has not. -/
def pending? (run : RequestRun) : Option Timer :=
  match run.phase with
  | .pending start => some start
  | _ => none

/-- A group of the request while the request runs. -/
def openGroup? (run : RequestRun) (position : Nat) : Option GroupRun :=
  match run.phase with
  | .running _ => run.groups[position]?
  | _ => none

/-- Unless it has begun, the group at a position is the first of its request that has not. -/
def HasTurn (run : RequestRun) (position : Nat) (group : GroupRun) : Prop :=
  group.phase = .ready → ∀ earlier < position, ∀ other,
    run.openGroup? earlier = some other → other.phase ≠ .ready

theorem openGroup?_eq_some_iff {run : RequestRun} {position : Nat} {group : GroupRun} :
    run.openGroup? position = some group ↔
      (∃ started, run.phase = .running started) ∧ run.groups[position]? = some group := by
  unfold openGroup?
  split
  next started hrunning => simp [hrunning]
  next hidle => simpa using fun started hrunning => absurd hrunning (hidle started)

theorem pending?_of_running {run : RequestRun} {started : Nat} (h : run.phase = .running started) :
    run.pending? = none := by
  rw [pending?, h]

end RequestRun

namespace Run

def pending? (run : Run) (number : Nat) : Option Timer :=
  run.requests[number]?.bind (·.pending?)

def openGroup? (run : Run) (id : GroupId) : Option GroupRun :=
  run.requests[id.request]?.bind (·.openGroup? id.position)

/-- The group has not had its first turn, though its request has begun. -/
def Ready (run : Run) (id : GroupId) : Prop :=
  ∃ group, run.openGroup? id = some group ∧ group.phase = .ready

/-- Who must act now: whoever has a timer that has run out, and groups that are to begin. -/
def Pressing (run : Run) : Agent → Prop
  | .request number => ∃ timer, run.pending? number = some timer ∧ timer.due ≤ run.floor.clock.now
  | .group id => run.Ready id ∨
    ∃ group, run.openGroup? id = some group ∧
      ∃ timer ∈ group.timers, timer.due ≤ run.floor.clock.now

/-- The states that a run can come to in which nobody is kept waiting. -/
inductive Prompt (orchestrator : Orchestrator) (requests : List (Nat × Request)) : Run → Prop
  | start : Prompt orchestrator requests (start orchestrator requests)
  | act {run : Run} (h : Prompt orchestrator requests run) (agent : Agent)
      (hturn : ∀ id, agent = .group id → run.Ready id →
        ∀ position < id.position, ¬ run.Ready ⟨id.request, position⟩) :
    Prompt orchestrator requests (run.act agent)
  | pass {run : Run} (h : Prompt orchestrator requests run) {now : Nat}
      (hforward : run.floor.clock.now ≤ now) (hready : ∀ id, ¬ run.Ready id)
      (hdue : ∀ entry ∈ run.timers, now ≤ entry.1.due) :
    Prompt orchestrator requests
      { run with floor := { run.floor with clock := { run.floor.clock with now } } }
  | lineUp {run : Run} (h : Prompt orchestrator requests run) (queue : List Agent) :
    Prompt orchestrator requests { run with queue }
  | rearrange {run : Run} (h : Prompt orchestrator requests run) (release : ReleaseOrder) :
    Prompt orchestrator requests { run with release }

variable {orchestrator : Orchestrator} {requests : List (Nat × Request)} {run : Run}

theorem Prompt.reachable (h : Prompt orchestrator requests run) :
    Reachable orchestrator requests run := by
  induction h with
  | start => exact .start
  | act _ agent _ ih => exact ih.act agent
  | pass _ _ _ _ ih => exact ih.pass _
  | lineUp _ queue ih => exact ih.lineUp queue
  | rearrange _ release ih => exact ih.rearrange release

theorem openGroup?_start (orchestrator : Orchestrator) (requests : List (Nat × Request))
    (id : GroupId) : (start orchestrator requests).openGroup? id = none := by
  rw [openGroup?, Option.bind_eq_none_iff]
  intro request hrequest
  obtain ⟨entry, -, rfl⟩ := List.mem_map.mp (List.mem_of_getElem? hrequest)
  rfl

theorem openGroup?_set {after : Run} {number : Nat} {request following : RequestRun}
    (hrequest : run.requests[number]? = some request)
    (hrequests : after.requests = run.requests.set number following) (id : GroupId) :
    after.openGroup? id =
      if id.request = number then following.openGroup? id.position else run.openGroup? id := by
  rw [openGroup?, getElem?_requests_set hrequest hrequests]
  split <;> rfl

theorem pending?_set {after : Run} {number : Nat} {request following : RequestRun}
    (hrequest : run.requests[number]? = some request)
    (hrequests : after.requests = run.requests.set number following) (other : Nat) :
    after.pending? other = if other = number then following.pending? else run.pending? other := by
  rw [pending?, getElem?_requests_set hrequest hrequests]
  split <;> rfl

end Run

theorem RequestRun.Enrolled.mem_timersOf {orchestrator : Orchestrator} {number : Nat}
    {asked : Request} {request : RequestRun} (h : request.Enrolled orchestrator number asked)
    {entry : Timer × Agent} :
    entry ∈ Run.timersOf request ↔
      request.pending? = some entry.1 ∧ entry.2 = .request number ∨
      ∃ position group, request.openGroup? position = some group ∧ entry.1 ∈ group.timers ∧
        entry.2 = .group ⟨number, position⟩ := by
  unfold Run.timersOf pending? openGroup?
  cases request.phase with
  | pending start => simp [h.number_eq, Prod.ext_iff, eq_comm]
  | concluded ended => simp
  | running started =>
      simp only [List.mem_flatMap, List.mem_map, reduceCtorEq, false_and, false_or]
      constructor
      · rintro ⟨group, hgroup, timer, htimer, rfl⟩
        obtain ⟨position, hposition⟩ := List.mem_iff_getElem?.mp hgroup
        exact ⟨position, group, hposition, htimer, by rw [h.id_eq hposition]⟩
      · rintro ⟨position, group, hposition, htimer, hagent⟩
        refine ⟨group, List.mem_of_getElem? hposition, entry.1, htimer, ?_⟩
        rw [h.id_eq hposition, ← hagent]

namespace Run

variable {orchestrator : Orchestrator} {requests : List (Nat × Request)} {run : Run}

/-- The timers of a run are those of requests that have not begun and of open groups. -/
theorem Played.mem_timers_iff (h : Played orchestrator requests run) {entry : Timer × Agent} :
    entry ∈ run.timers ↔
      (∃ number, run.pending? number = some entry.1 ∧ entry.2 = .request number) ∨
      ∃ id group, run.openGroup? id = some group ∧ entry.1 ∈ group.timers ∧
        entry.2 = .group id := by
  have hrequest : ∀ {number request}, run.requests[number]? = some request →
      (entry ∈ timersOf request ↔
        request.pending? = some entry.1 ∧ entry.2 = .request number ∨
        ∃ position group, request.openGroup? position = some group ∧ entry.1 ∈ group.timers ∧
          entry.2 = .group ⟨number, position⟩) := by
    intro number request hrequest
    obtain ⟨_, _, -, henrolled, -⟩ := h.exists_enrolled hrequest
    exact henrolled.mem_timersOf
  simp only [timers, List.mem_flatMap, pending?, openGroup?, Option.bind_eq_some_iff]
  constructor
  · rintro ⟨request, hmem, hentry⟩
    obtain ⟨number, hnumber⟩ := List.mem_iff_getElem?.mp hmem
    rcases (hrequest hnumber).mp hentry with ⟨hpending, hagent⟩ | ⟨position, group, hgroup, hrest⟩
    · exact .inl ⟨number, ⟨request, hnumber, hpending⟩, hagent⟩
    · exact .inr ⟨⟨number, position⟩, group, ⟨request, hnumber, hgroup⟩, hrest⟩
  · rintro (⟨number, ⟨request, hnumber, hpending⟩, hagent⟩ |
      ⟨id, group, ⟨request, hnumber, hgroup⟩, hrest⟩)
    · exact ⟨request, List.mem_of_getElem? hnumber,
        (hrequest hnumber).mpr (.inl ⟨hpending, hagent⟩)⟩
    · exact ⟨request, List.mem_of_getElem? hnumber,
        (hrequest hnumber).mpr (.inr ⟨id.position, group, hgroup, hrest⟩)⟩

/-! ## Turns -/

end Run

namespace RequestRun

variable {orchestrator : Orchestrator}

theorem act_cases (orchestrator : Orchestrator) (run : RequestRun) (clock : Clock) :
    (run.act orchestrator clock = (run, []) ∧
      ∀ start, run.phase = .pending start → clock.now < start.due) ∨
    (∃ start error, run.phase = .pending start ∧ start.due ≤ clock.now ∧
      orchestrator.refusal? run.request = some error ∧
      run.act orchestrator clock =
        ({ run with phase := .concluded ⟨clock.now, .error error⟩ }, [])) ∨
    (∃ start, run.phase = .pending start ∧ start.due ≤ clock.now ∧
      orchestrator.refusal? run.request = none ∧
      run.act orchestrator clock = ((run.begin orchestrator clock).settle clock,
        (groupsOf run.number run.request).map (·.id))) ∨
    ∃ started, run.phase = .running started ∧
      run.act orchestrator clock = (run.settle clock, []) := by
  unfold act
  split
  next start hpending =>
    split
    next hreached =>
      have hdue : start.due ≤ clock.now := by simpa [Clock.reached] using hreached
      cases hrefusal : orchestrator.refusal? run.request with
      | some error =>
        exact .inr (.inl ⟨start, error, hpending, hdue, rfl, by simp [begin, hrefusal]⟩)
      | none => exact .inr (.inr (.inl ⟨start, hpending, hdue, rfl, by simp [begin, hrefusal]⟩))
    next hunreached =>
      refine .inl ⟨rfl, fun other hother => ?_⟩
      rw [hpending] at hother
      cases hother
      exact Clock.lt_due_of_not_reached hunreached
  next started hrunning => exact .inr (.inr (.inr ⟨started, hrunning, rfl⟩))
  next ended hended =>
    refine .inl ⟨rfl, fun start hpending => ?_⟩
    rw [hended] at hpending
    cases hpending

theorem openGroup?_settle {run : RequestRun} {clock : Clock} {position : Nat} {group : GroupRun}
    (h : (run.settle clock).openGroup? position = some group) :
    run.openGroup? position = some group := by
  unfold settle at h
  split at h
  next => cases h
  next => exact h

theorem pending?_settle {run : RequestRun} (hidle : run.pending? = none) (clock : Clock) :
    (run.settle clock).pending? = none := by
  unfold settle
  split
  next => rfl
  next => exact hidle

theorem map_id_groupsOf (number : Nat) (request : Request) :
    (groupsOf number request).map (·.id) =
      (List.range request.size).map fun position => ⟨number, position⟩ := by
  calc (groupsOf number request).map (·.id)
      = (request.pairs.zipIdx.map (·.2)).map fun position => ⟨number, position⟩ := by
        rw [groupsOf, List.map_map, List.map_map]
        rfl
    _ = (List.range request.size).map fun position => ⟨number, position⟩ := by
        rw [List.zipIdx_map_snd, List.range_eq_range', Request.size]

/-- The groups of a request that has just begun are new. -/
theorem openGroup?_begin {run : RequestRun} (haccepted : orchestrator.refusal? run.request = none)
    {clock : Clock} {position : Nat} {group : GroupRun}
    (h : ((run.begin orchestrator clock).settle clock).openGroup? position = some group) :
    ∃ pair, run.request.pairs[position]? = some pair ∧
      group = .new ⟨run.number, position⟩ pair.1 pair.2 := by
  have hopen := openGroup?_settle h
  simp only [begin, haccepted, openGroup?, getElem?_groupsOf, Option.map_eq_some_iff] at hopen
  obtain ⟨pair, hpair, rfl⟩ := hopen
  exact ⟨pair, hpair, rfl⟩

end RequestRun

namespace Run

variable {orchestrator : Orchestrator} {requests : List (Nat × Request)} {run : Run}

/-- What the turn of an open group does to the run: the group acts, and others are lined
up, of whom all are waiting at the barrier or for slots, or the request itself. -/
structure GroupTurn (orchestrator : Orchestrator) (run : Run) (id : GroupId)
    (request : RequestRun) (started : Nat) (group : GroupRun) (agents : List Agent) : Prop where
  request_eq : run.requests[id.request]? = some request
  running : request.phase = .running started
  group_eq : request.groups[id.position]? = some group
  open_eq : group.isDone = false
  after_eq : run.actGroup id =
    let acted := group.act (request.context orchestrator started) request.barrier
      { run.floor with woken := [] }
    let results : List GroupResult :=
      acted.2.1.toList.map fun result => ⟨id.position, group.frame, result⟩
    { run with
      requests := run.requests.set id.request
        { request with
          barrier := acted.2.2.1
          groups := request.groups.set id.position acted.1
          results := request.results ++ results }
      floor := nextTurn acted.2.2.2
      queue := (run.queue ++ agents).eraseDups }
  lined : ∀ agent ∈ agents, agent = .request id.request ∨ ∃ other, agent = .group other ∧
    (other ∈ request.waitingGroups ∨
      other ∈ (group.act (request.context orchestrator started) request.barrier
        { run.floor with woken := [] }).2.2.2.woken)

theorem Played.exists_groupTurn (h : Played orchestrator requests run) {id : GroupId}
    {group : GroupRun} (hgroup : run.openGroup? id = some group) (hopen : group.isDone = false) :
    ∃ request started agents, run.GroupTurn orchestrator id request started group agents := by
  obtain ⟨request, hrequest, hfound⟩ := Option.bind_eq_some_iff.mp hgroup
  obtain ⟨⟨started, hrunning⟩, hgroup⟩ := RequestRun.openGroup?_eq_some_iff.mp hfound
  obtain ⟨_, asked, -, henrolled, -⟩ := h.exists_enrolled hrequest
  have hposition : group.id.position = id.position := by rw [henrolled.id_eq hgroup]
  let acted := group.act (request.context orchestrator started) request.barrier
    { run.floor with woken := [] }
  let released :=
    if acted.2.2.1.released && !request.barrier.released then request.waitingGroups else []
  let woken := run.release.order run.floor.clock.turn released ++ acted.2.2.2.woken
  let last :=
    if acted.2.1.isSome then [Agent.request id.request]
    else if id ∈ woken then [Agent.group id] else []
  refine ⟨request, started,
    (woken.filter fun other => other ≠ id).map Agent.group ++ last,
    hrequest, hrunning, hgroup, hopen, ?_, ?_⟩
  · simp only [Run.actGroup, hrequest, hgroup, hopen, RequestRun.actGroup, hrunning, lineUp,
      h.orchestrator_eq, hposition]
    rfl
  · have hwoken : ∀ other ∈ woken, other ∈ request.waitingGroups ∨ other ∈ acted.2.2.2.woken := by
      intro other hother
      refine (List.mem_append.mp hother).imp_left fun hreleased => ?_
      rw [ReleaseOrder.mem_order] at hreleased
      dsimp only [released] at hreleased
      split at hreleased
      · exact hreleased
      · cases hreleased
    intro agent hagent
    rcases List.mem_append.mp hagent with hother | hlast
    · obtain ⟨other, hfound, rfl⟩ := List.mem_map.mp hother
      exact .inr ⟨other, rfl, hwoken other (List.mem_filter.mp hfound).1⟩
    · dsimp only [last] at hlast
      split at hlast
      next => exact .inl (List.mem_singleton.mp hlast)
      next =>
        split at hlast
        next hself => exact .inr ⟨id, List.mem_singleton.mp hlast, hwoken id hself⟩
        next => cases hlast

namespace GroupTurn

variable {id : GroupId} {request : RequestRun} {started : Nat} {group : GroupRun}
  {agents : List Agent}

theorem openGroup?_eq (h : run.GroupTurn orchestrator id request started group agents)
    (other : GroupId) :
    (run.actGroup id).openGroup? other =
      if other = id then
        some (group.act (request.context orchestrator started) request.barrier
          { run.floor with woken := [] }).1
      else run.openGroup? other := by
  have hlt := (List.getElem?_eq_some_iff.mp h.group_eq).1
  have hrequests := congrArg Run.requests h.after_eq
  rw [openGroup?_set h.request_eq hrequests]
  rcases other with ⟨number, position⟩
  rcases id with ⟨own, place⟩
  have hrunning := h.running
  have hrequest := h.request_eq
  dsimp only at hlt hrequest ⊢
  by_cases hnumber : number = own
  · subst hnumber
    simp only [if_true, RequestRun.openGroup?, hrunning, List.getElem?_set, openGroup?, hrequest,
      Option.bind_some, GroupId.mk.injEq, true_and]
    by_cases hposition : place = position
    · subst hposition
      simp [hlt]
    · simp [hposition, Ne.symm hposition]
  · simp [hnumber]

theorem pending?_eq (h : run.GroupTurn orchestrator id request started group agents)
    (number : Nat) : (run.actGroup id).pending? number = run.pending? number := by
  have hidle := RequestRun.pending?_of_running h.running
  have hrequests := congrArg Run.requests h.after_eq
  rw [pending?_set h.request_eq hrequests]
  split
  next hsame =>
    rw [hsame, pending?, h.request_eq, Option.bind_some, hidle]
    exact RequestRun.pending?_of_running h.running
  next => rfl

end GroupTurn

/-- A turn of a group that is not open, or has ended, does nothing. -/
theorem actGroup_of_idle {id : GroupId}
    (hidle : ∀ group, run.openGroup? id = some group → group.isDone = true) :
    (run.actGroup id).requests = run.requests ∧
      (run.actGroup id).floor.clock.now = run.floor.clock.now ∧
      (run.actGroup id).floor.ledger = run.floor.ledger ∧
      ((run.actGroup id).queue = run.queue ∨ (run.actGroup id).queue = run.queue.eraseDups) ∧
      (run.actGroup id).floor.calls = run.floor.calls := by
  unfold actGroup
  split
  next => exact ⟨rfl, rfl, rfl, .inl rfl, rfl⟩
  next request hrequest =>
    split
    next => exact ⟨rfl, rfl, rfl, .inl rfl, rfl⟩
    next group hgroup =>
      split
      next => exact ⟨rfl, rfl, rfl, .inl rfl, rfl⟩
      next hopen =>
        have hstill : ∀ started, request.phase ≠ .running started := by
          intro started hrunning
          refine hopen (hidle group ?_)
          rw [openGroup?, hrequest, Option.bind_some]
          exact RequestRun.openGroup?_eq_some_iff.mpr ⟨⟨started, hrunning⟩, hgroup⟩
        rw [RequestRun.actGroup_of_not_running hstill]
        refine ⟨?_, rfl, rfl, .inr ?_, rfl⟩
        · obtain ⟨hlt, rfl⟩ := List.getElem?_eq_some_iff.mp hrequest
          exact List.set_getElem_self hlt
        · simp [lineUp]

end Run

/-! ## Deadlines -/

namespace RequestRun

variable {orchestrator : Orchestrator} {run : RequestRun}

/-- Every deadline that is set is the one of the request. -/
def Dated (orchestrator : Orchestrator) (run : RequestRun) : Prop :=
  ∀ started, run.phase = .running started → ∀ group ∈ run.groups, ∀ timer ∈ group.deadline,
    timer.due = (run.context orchestrator started).deadline

theorem Dated.settle (h : run.Dated orchestrator) (clock : Clock) :
    (run.settle clock).Dated orchestrator := by
  unfold RequestRun.settle
  split
  next => exact nofun
  next => exact h

theorem Dated.act (h : run.Dated orchestrator) (clock : Clock) :
    (run.act orchestrator clock).1.Dated orchestrator := by
  rcases run.act_cases orchestrator clock with
    ⟨hact, -⟩ | ⟨_, _, -, -, -, hact⟩ | ⟨_, -, -, haccepted, hact⟩ | ⟨_, -, hact⟩ <;> rw [hact]
  · exact h
  · exact nofun
  · apply Dated.settle
    intro started _ group hgroup timer htimer
    simp only [RequestRun.begin, haccepted] at hgroup
    obtain ⟨pair, -, rfl⟩ := List.mem_map.mp hgroup
    cases htimer
  · exact h.settle clock

theorem Dated.actGroup (h : run.Dated orchestrator) {request : Request}
    (hrun : Sound orchestrator request run) {position : Nat} {group : GroupRun}
    (hgroup : run.groups[position]? = some group) (hopen : group.isDone = false) (floor : Floor) :
    (run.actGroup orchestrator group floor).1.Dated orchestrator := by
  by_cases hrunning : ∃ started, run.phase = .running started
  · obtain ⟨started, hrunning⟩ := hrunning
    obtain ⟨-, hdue, -⟩ := GroupRun.before_act hopen (hrun.onCourse hgroup hopen started)
      (h started hrunning group (List.mem_of_getElem? hgroup)) run.barrier
      { floor with woken := [] }
    rw [hrun.actGroup_eq hgroup hrunning]
    intro later hlater found hfound
    rw [hrunning] at hlater
    cases hlater
    rcases List.mem_or_eq_of_mem_set hfound with hold | rfl
    · exact h started hrunning found hold
    · exact hdue
  · rw [actGroup_of_not_running (not_exists.mp hrunning)]
    exact h

theorem dated_play (orchestrator : Orchestrator) (number start : Nat) (request : Request)
    (moves : List Move) :
    ((new number start request).play orchestrator moves).Dated orchestrator := by
  induction moves using List.reverseRecOn with
  | nil => exact nofun
  | append_singleton moves next ih =>
      have hrun := (sound_new orchestrator number start request).play moves
      rw [play, List.foldl_append, List.foldl_cons, List.foldl_nil, ← play]
      cases next with
      | request clock => exact ih.act clock
      | group position floor =>
          unfold move
          dsimp only
          split
          next => exact ih
          next group hgroup =>
            split
            next => exact ih
            next hopen => exact ih.actGroup hrun hgroup (by simpa using hopen) floor

end RequestRun

namespace Run

variable {orchestrator : Orchestrator} {requests : List (Nat × Request)} {run : Run}

namespace GroupTurn

variable {id : GroupId} {request : RequestRun} {started : Nat} {group : GroupRun}
  {agents : List Agent}

/-- The group of a turn is at its first turn or under way, and its deadline is the one of
its request. -/
theorem of_played (h : run.GroupTurn orchestrator id request started group agents)
    (hrun : Played orchestrator requests run) :
    group.OnCourse (request.context orchestrator started) ∧
      ∀ timer ∈ group.deadline, timer.due = (request.context orchestrator started).deadline := by
  obtain ⟨begins, asked, moves, -, rfl⟩ := hrun.requests _ _ h.request_eq
  have hsound := (RequestRun.sound_new orchestrator id.request begins asked).play moves
  exact ⟨hsound.onCourse h.group_eq h.open_eq started,
    RequestRun.dated_play orchestrator id.request begins asked moves started h.running group
      (List.mem_of_getElem? h.group_eq)⟩

theorem id_eq (h : run.GroupTurn orchestrator id request started group agents)
    (hrun : Played orchestrator requests run) : group.id = id := by
  obtain ⟨_, _, -, henrolled, -⟩ := hrun.exists_enrolled h.request_eq
  exact henrolled.id_eq h.group_eq

/-- The request has the turn of its group. -/
theorem requests_eq (h : run.GroupTurn orchestrator id request started group agents)
    (hrun : Played orchestrator requests run) :
    (run.actGroup id).requests =
      run.requests.set id.request (request.actGroup orchestrator group run.floor).1 := by
  obtain ⟨_, _, -, -, hsound⟩ := hrun.exists_enrolled h.request_eq
  rw [h.after_eq, hsound.actGroup_eq h.group_eq h.running]

theorem openGroup?_at (h : run.GroupTurn orchestrator id request started group agents)
    (position : Nat) :
    run.openGroup? ⟨id.request, position⟩ = request.openGroup? position := by
  rw [openGroup?, h.request_eq]
  rfl

theorem openGroup?_before (h : run.GroupTurn orchestrator id request started group agents) :
    run.openGroup? id = some group :=
  (h.openGroup?_at id.position).trans
    (RequestRun.openGroup?_eq_some_iff.mpr ⟨⟨started, h.running⟩, h.group_eq⟩)

theorem hasTurn (h : run.GroupTurn orchestrator id request started group agents)
    (hturn : run.Ready id → ∀ position < id.position, ¬ run.Ready ⟨id.request, position⟩) :
    request.HasTurn id.position group :=
  fun hready earlier hlt other hother hfirst =>
    hturn ⟨group, h.openGroup?_before, hready⟩ earlier hlt
      ⟨other, (h.openGroup?_at earlier).trans hother, hfirst⟩

theorem now_eq (h : run.GroupTurn orchestrator id request started group agents)
    (hrun : Played orchestrator requests run) :
    (run.actGroup id).floor.clock.now = run.floor.clock.now := by
  obtain ⟨turn, hcourse, -⟩ := GroupRun.act_course h.open_eq (h.of_played hrun).1 request.barrier
    { run.floor with woken := [] }
  have hclock := hcourse.clock_eq
  rw [h.after_eq]
  simpa [nextTurn] using congrArg Clock.now hclock

/-- After its turn a group has begun, and none of its timers has run out. -/
theorem before_timers (h : run.GroupTurn orchestrator id request started group agents)
    (hrun : Played orchestrator requests run) {after : GroupRun}
    (hafter : (run.actGroup id).openGroup? id = some after) :
    after.phase ≠ .ready ∧ run.floor.clock.Before after.timers := by
  obtain ⟨hphase, hdeadline⟩ := h.of_played hrun
  obtain ⟨hbegun, -, hbefore⟩ := GroupRun.before_act h.open_eq hphase hdeadline request.barrier
    { run.floor with woken := [] }
  rw [h.openGroup?_eq, if_pos rfl] at hafter
  obtain rfl := Option.some.inj hafter
  exact ⟨hbegun, hbefore⟩

end GroupTurn

end Run

/-- After a turn of a request that has not begun its time has not come; and the groups that
it begins with are new and in their order. -/
theorem RequestRun.Enrolled.act_spec {orchestrator : Orchestrator} {number : Nat} {asked : Request}
    {request : RequestRun} (h : request.Enrolled orchestrator number asked) (clock : Clock) :
    let acted := request.act orchestrator clock
    (∀ timer, acted.1.pending? = some timer →
      request.pending? = some timer ∧ clock.now < timer.due) ∧
    (∀ position group, acted.1.openGroup? position = some group →
      request.openGroup? position = some group ∨
        ⟨number, position⟩ ∈ acted.2 ∧ group.phase = .ready) ∧
    (acted.2.Pairwise fun first second => first.position < second.position) ∧
    ∀ id ∈ acted.2, id.request = number ∧ request.groups = [] ∧
      (∃ group, acted.1.groups[id.position]? = some group) ∧
      ∃ timer, request.pending? = some timer ∧ timer.due ≤ clock.now := by
  rcases request.act_cases orchestrator clock with
    ⟨hact, hfuture⟩ | ⟨_, _, -, -, -, hact⟩ | ⟨start, hpending, hdue, haccepted, hact⟩ |
      ⟨started, hrunning, hact⟩ <;> rw [hact]
  · refine ⟨fun timer htimer => ⟨htimer, hfuture timer ?_⟩, fun _ _ => .inl, .nil, by simp⟩
    unfold pending? at htimer
    split at htimer
    next hpending => rw [hpending, Option.some.inj htimer]
    next => cases htimer
  · refine ⟨fun timer htimer => ?_, fun position group hgroup => ?_, .nil, by simp⟩
    · cases htimer
    · cases hgroup
  · have hidle : (request.begin orchestrator clock).pending? = none := by
      simp [RequestRun.begin, haccepted, pending?]
    rw [map_id_groupsOf]
    refine ⟨?_, ?_, ?_, ?_⟩
    · intro timer htimer
      rw [pending?_settle hidle clock] at htimer
      cases htimer
    · intro position group hgroup
      obtain ⟨pair, hpair, rfl⟩ := openGroup?_begin haccepted hgroup
      have hlt := (List.getElem?_eq_some_iff.mp hpair).1
      refine .inr ⟨List.mem_map.mpr ⟨position, List.mem_range.mpr hlt, ?_⟩, rfl⟩
      rw [h.number_eq]
    · exact List.pairwise_map.mpr List.pairwise_lt_range
    · intro id hid
      obtain ⟨position, hlt, rfl⟩ := List.mem_map.mp hid
      refine ⟨h.number_eq, h.groups_of_pending hpending, ?_, start, ?_, hdue⟩
      · rw [groups_settle_begin haccepted, getElem?_groupsOf,
          List.getElem?_eq_getElem (List.mem_range.mp hlt)]
        exact ⟨_, rfl⟩
      · rw [pending?, hpending]
  · refine ⟨?_, fun position group hgroup => .inl (openGroup?_settle hgroup), .nil, by simp⟩
    intro timer htimer
    rw [pending?_settle (pending?_of_running hrunning) clock] at htimer
    cases htimer

namespace Run

variable {orchestrator : Orchestrator} {requests : List (Nat × Request)} {run : Run}

/-- What a turn of a request changes: it has begun or has been refused if its time has come,
and the groups that it begins with are new and lined up in their order. -/
structure RequestTurn (run : Run) (number : Nat) (begun : List GroupId) (after : Run) : Prop where
  now_eq : after.floor.clock.now = run.floor.clock.now
  ledger_eq : after.floor.ledger = run.floor.ledger
  queue_eq : after.queue = run.queue ∧ begun = [] ∨
    after.queue = (run.queue ++ begun.map Agent.group).eraseDups
  pending : ∀ other timer, after.pending? other = some timer →
    run.pending? other = some timer ∧ (other = number → run.floor.clock.now < timer.due)
  openGroup : ∀ id group, after.openGroup? id = some group →
    run.openGroup? id = some group ∨ id ∈ begun ∧ group.phase = .ready
  ascending : begun.Pairwise fun first second => first.position < second.position
  fresh : ∀ id ∈ begun, id.request = number ∧
    (∀ request, run.requests[number]? = some request → request.groups = []) ∧
    (∃ request group, after.requests[number]? = some request ∧
      request.groups[id.position]? = some group) ∧
    ∃ timer, run.pending? number = some timer ∧ timer.due ≤ run.floor.clock.now

theorem Played.requestTurn (h : Played orchestrator requests run) (number : Nat) :
    ∃ begun, run.RequestTurn number begun (run.actRequest number) := by
  rcases h.actRequest_cases number with ⟨hnone, hsame⟩ | ⟨request, hrequest, hafter⟩
  · refine ⟨[], ?_⟩
    rw [hsame]
    refine ⟨rfl, rfl, .inl ⟨rfl, rfl⟩, ?_, fun _ _ => .inl, .nil, by simp⟩
    rintro other timer hpending
    refine ⟨hpending, ?_⟩
    rintro rfl
    simp [pending?, hnone] at hpending
  · obtain ⟨_, asked, -, henrolled, -⟩ := h.exists_enrolled hrequest
    obtain ⟨hpending, hopen, hascending, hfresh⟩ := henrolled.act_spec run.floor.clock
    have hrequests := congrArg Run.requests hafter
    refine ⟨(request.act orchestrator run.floor.clock).2, ?_⟩
    constructor
    · rw [hafter]; rfl
    · rw [hafter]; rfl
    · exact .inr (by rw [hafter])
    · intro other timer htimer
      rw [pending?_set hrequest hrequests] at htimer
      split at htimer
      next hsame =>
        obtain ⟨hbefore, hlt⟩ := hpending timer htimer
        refine ⟨?_, fun _ => hlt⟩
        rw [hsame, pending?, hrequest]
        exact hbefore
      next hother => exact ⟨htimer, fun hsame => absurd hsame hother⟩
    · intro id group hgroup
      rw [openGroup?_set hrequest hrequests] at hgroup
      split at hgroup
      next hsame =>
        rcases id with ⟨own, position⟩
        obtain rfl : own = number := hsame
        refine (hopen position group hgroup).imp_left fun hbefore => ?_
        rw [openGroup?, hrequest]
        exact hbefore
      next => exact .inl hgroup
    · exact hascending
    · intro id hid
      obtain ⟨hsame, hnone, ⟨group, hgroup⟩, timer, htimer, hdue⟩ := hfresh id hid
      have hlt := (List.getElem?_eq_some_iff.mp hrequest).1
      refine ⟨hsame, fun found hfound => ?_, ⟨_, group, ?_, hgroup⟩, timer, ?_, hdue⟩
      · rw [hrequest] at hfound
        rw [← Option.some.inj hfound]
        exact hnone
      · rw [hrequests]
        exact List.getElem?_set_self hlt
      · rw [pending?, hrequest]
        exact htimer

/-! ## Nobody is late -/

theorem timers_of_ready {group : GroupRun} (hready : group.phase = .ready) : group.timers = [] := by
  rw [GroupRun.timers, hready]

/-- No timer has run out before now. -/
structure Punctual (run : Run) : Prop where
  pending : ∀ number timer, run.pending? number = some timer → run.floor.clock.now ≤ timer.due
  timers : ∀ id group, run.openGroup? id = some group → ∀ timer ∈ group.timers,
    run.floor.clock.now ≤ timer.due

theorem openGroup?_congr {after : Run} (hrequests : after.requests = run.requests)
    (id : GroupId) : after.openGroup? id = run.openGroup? id := by
  rw [openGroup?, openGroup?, hrequests]

theorem pending?_congr {after : Run} (hrequests : after.requests = run.requests) (number : Nat) :
    after.pending? number = run.pending? number := by
  rw [pending?, pending?, hrequests]

/-- A group that has a turn is open and has it, or nothing happens. -/
theorem groupTurn_or_idle (h : Played orchestrator requests run) (id : GroupId) :
    (∃ request started group agents,
      run.GroupTurn orchestrator id request started group agents) ∨
    ∀ group, run.openGroup? id = some group → group.isDone = true := by
  by_cases hopen : ∃ group, run.openGroup? id = some group ∧ group.isDone = false
  · obtain ⟨group, hgroup, hopen⟩ := hopen
    obtain ⟨request, started, agents, hturn⟩ := h.exists_groupTurn hgroup hopen
    exact .inl ⟨request, started, group, agents, hturn⟩
  · refine .inr fun group hgroup => ?_
    by_contra hdone
    exact hopen ⟨group, hgroup, by simpa using hdone⟩

theorem Punctual.act (h : run.Punctual) (hrun : Played orchestrator requests run)
    (agent : Agent) : (run.act agent).Punctual := by
  cases agent with
  | request number =>
      obtain ⟨begun, hturn⟩ := hrun.requestTurn number
      have hnow := hturn.now_eq
      constructor
      · intro other timer htimer
        rw [Run.act, hnow]
        exact h.pending other timer (hturn.pending other timer htimer).1
      · intro id group hgroup timer htimer
        rw [Run.act, hnow]
        rcases hturn.openGroup id group hgroup with hbefore | ⟨-, hready⟩
        · exact h.timers id group hbefore timer htimer
        · rw [timers_of_ready hready] at htimer
          cases htimer
  | group id =>
      rcases groupTurn_or_idle hrun id with ⟨request, started, group, agents, hturn⟩ | hidle
      · have hnow := hturn.now_eq hrun
        constructor
        · intro other timer htimer
          rw [Run.act, hturn.pending?_eq] at htimer
          rw [Run.act, hnow]
          exact h.pending other timer htimer
        · intro other found hfound timer htimer
          rw [Run.act, hnow]
          by_cases hsame : other = id
          · subst hsame
            exact Nat.le_of_lt ((hturn.before_timers hrun hfound).2 timer htimer)
          · rw [Run.act, hturn.openGroup?_eq, if_neg hsame] at hfound
            exact h.timers other found hfound timer htimer
      · obtain ⟨hrequests, hnow, -⟩ := actGroup_of_idle hidle
        constructor
        · intro other timer htimer
          rw [Run.act, pending?_congr hrequests] at htimer
          rw [Run.act, hnow]
          exact h.pending other timer htimer
        · intro other found hfound
          rw [Run.act, openGroup?_congr hrequests] at hfound
          rw [Run.act, hnow]
          exact h.timers other found hfound

theorem punctual_start (orchestrator : Orchestrator) (requests : List (Nat × Request)) :
    (start orchestrator requests).Punctual where
  pending _ _ _ := Nat.zero_le _
  timers _ _ _ _ _ := Nat.zero_le _

theorem Prompt.punctual (h : Prompt orchestrator requests run) : run.Punctual := by
  induction h with
  | start => exact punctual_start orchestrator requests
  | act h agent _ ih => exact ih.act h.reachable.played agent
  | pass h _ _ hdue _ =>
      have hmem := @Played.mem_timers_iff _ _ _ h.reachable.played
      constructor
      · intro number timer htimer
        exact hdue (timer, .request number) (hmem.mpr (.inl ⟨number, htimer, rfl⟩))
      · intro id group hgroup timer htimer
        exact hdue (timer, .group id) (hmem.mpr (.inr ⟨id, group, hgroup, htimer, rfl⟩))
  | lineUp _ _ ih => exact ⟨ih.pending, ih.timers⟩
  | rearrange _ _ ih => exact ⟨ih.pending, ih.timers⟩

end Run

end SeriesGateway.Fetch
