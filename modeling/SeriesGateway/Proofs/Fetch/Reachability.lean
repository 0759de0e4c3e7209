import SeriesGateway.Proofs.Fetch.Planning
import SeriesGateway.Proofs.Fetch.Runs

/-! # Reachable runs

The states that a run can be in, whoever acts and however time passes. Each of its
requests is as some schedule leaves it, and each step either leaves the slots and the
record as they are, or is the turn of one group. So every query that was ever sent
belongs to an agreed plan of a target of a request that was not refused.
-/

namespace SeriesGateway.Fetch

/-! ## Queries on their way -/

namespace RequestRun

/-- The queries that a group has on their way. -/
def queriesAt (run : RequestRun) (position : Nat) : List QueryRun :=
  ((run.groups[position]?).map (·.phase.queries)).getD []

variable {orchestrator : Orchestrator} {number : Nat} {request : Request} {run : RequestRun}

theorem queriesAt_settle (run : RequestRun) (clock : Clock) (position : Nat) :
    (run.settle clock).queriesAt position = run.queriesAt position := by
  unfold settle
  split <;> rfl

theorem queriesAt_begin (orchestrator : Orchestrator) (hnone : run.groups = []) (clock : Clock)
    (position : Nat) :
    (run.begin orchestrator clock).queriesAt position = run.queriesAt position := by
  unfold begin
  split
  next => rfl
  next =>
    simp only [queriesAt, getElem?_groupsOf, hnone, Option.map_map]
    cases run.request.pairs[position]? <;> rfl

/-- A turn of a request itself touches no query. -/
theorem queriesAt_act (h : Enrolled orchestrator number request run) (clock : Clock)
    (position : Nat) :
    (run.act orchestrator clock).1.queriesAt position = run.queriesAt position := by
  unfold act
  split
  next hpending =>
    have hbegin := queriesAt_begin orchestrator (h.groups_of_pending hpending) clock position
    split
    next =>
      dsimp only
      split
      · exact (queriesAt_settle _ clock position).trans hbegin
      · exact hbegin
    next => rfl
  next => exact queriesAt_settle run clock position
  next => rfl

/-- After a turn of a group its queries are those that the turn left it with; the other
groups have theirs. -/
theorem Turned.queriesAt_eq {position : Nat} {group acted : GroupRun} {turn : Turn}
    {floor next : Floor} {after : RequestRun} (hgroup : run.groups[position]? = some group)
    (hturned : Turned orchestrator run position group acted turn floor after next)
    (other : Nat) :
    after.queriesAt other =
      if other = position then turn.phase.queries else run.queriesAt other := by
  have hlt := (List.getElem?_eq_some_iff.mp hgroup).1
  rw [queriesAt, hturned.groups_eq, List.getElem?_set]
  by_cases hsame : position = other
  · subst hsame
    simp [← hturned.acted_eq, hlt]
  · simp [hsame, Ne.symm hsame, queriesAt]

end RequestRun

namespace Run

/-- The states that a run of requests can come to: anybody may act at any time, in any
order, a barrier may let groups go in any order, and the clock may show anything. -/
inductive Reachable (orchestrator : Orchestrator) (requests : List (Nat × Request)) : Run → Prop
  | start : Reachable orchestrator requests (start orchestrator requests)
  | act {run : Run} (h : Reachable orchestrator requests run) (agent : Agent) :
    Reachable orchestrator requests (run.act agent)
  | pass {run : Run} (h : Reachable orchestrator requests run) (now : Nat) :
    Reachable orchestrator requests
      { run with floor := { run.floor with clock := { run.floor.clock with now } } }
  | lineUp {run : Run} (h : Reachable orchestrator requests run) (queue : List Agent) :
    Reachable orchestrator requests { run with queue }
  | rearrange {run : Run} (h : Reachable orchestrator requests run) (release : ReleaseOrder) :
    Reachable orchestrator requests { run with release }

/-- The queries that a group of the run has on their way. -/
def queriesAt (run : Run) (id : GroupId) : List QueryRun :=
  match run.requests[id.request]? with
  | none => []
  | some request => request.queriesAt id.position

/-- What a step of a run can do to the slots, the record and the queries: nothing, or
what a turn of one group does. -/
inductive Happens (orchestrator : Orchestrator) (run after : Run) : Prop
  | quiet (hledger : after.floor.ledger = run.floor.ledger)
    (hcalls : after.floor.calls = run.floor.calls)
    (hqueries : ∀ id, after.queriesAt id = run.queriesAt id)
  | turn {id : GroupId} {request following : RequestRun} {group acted : GroupRun} {turn : Turn}
    {next : Floor} (hrequest : run.requests[id.request]? = some request)
    (hgroup : request.groups[id.position]? = some group) (hopen : group.isDone = false)
    (hturned : request.Turned orchestrator id.position group acted turn
      { run.floor with woken := [] } following next)
    (hrequests : after.requests = run.requests.set id.request following)
    (hledger : after.floor.ledger = next.ledger) (hcalls : after.floor.calls = next.calls)

variable {orchestrator : Orchestrator} {requests : List (Nat × Request)} {run : Run}

/-! ## Steps -/

theorem queriesAt_start (orchestrator : Orchestrator) (requests : List (Nat × Request))
    (id : GroupId) : (start orchestrator requests).queriesAt id = [] := by
  unfold queriesAt
  split
  next => rfl
  next request hrequest =>
    obtain ⟨entry, -, rfl⟩ := List.mem_map.mp (List.mem_of_getElem? hrequest)
    rfl

/-- The requests of a run of which one has gone on. -/
theorem getElem?_requests_set {after : Run} {number : Nat} {request following : RequestRun}
    (hrequest : run.requests[number]? = some request)
    (hrequests : after.requests = run.requests.set number following) (other : Nat) :
    after.requests[other]? = if other = number then some following else run.requests[other]? := by
  rw [hrequests]
  split
  next hsame =>
    rw [hsame]
    exact List.getElem?_set_self (List.getElem?_eq_some_iff.mp hrequest).1
  next hother => exact List.getElem?_set_ne (Ne.symm hother)

theorem queriesAt_set {after : Run} {number : Nat} {request following : RequestRun}
    (hrequest : run.requests[number]? = some request)
    (hrequests : after.requests = run.requests.set number following) (id : GroupId) :
    after.queriesAt id =
      if id.request = number then following.queriesAt id.position else run.queriesAt id := by
  rw [queriesAt, getElem?_requests_set hrequest hrequests]
  by_cases hsame : id.request = number
  · rw [if_pos hsame, if_pos hsame]
  · rw [if_neg hsame, if_neg hsame, queriesAt]

namespace Played

/-- What holds of a request after any schedule holds of every request of a run. -/
theorem of_play (h : Played orchestrator requests run) {motive : Nat → Request → RequestRun → Prop}
    (hplay : ∀ number start asked moves,
      motive number asked ((RequestRun.new number start asked).play orchestrator moves))
    {number : Nat} {request : RequestRun} (hrequest : run.requests[number]? = some request) :
    ∃ begins asked, requests[number]? = some (begins, asked) ∧ motive number asked request := by
  obtain ⟨begins, asked, moves, hasked, rfl⟩ := h.requests number request hrequest
  exact ⟨begins, asked, hasked, hplay number begins asked moves⟩

/-- A request of a run is one that was asked, as some schedule leaves it. -/
theorem exists_enrolled (h : Played orchestrator requests run) {number : Nat}
    {request : RequestRun} (hrequest : run.requests[number]? = some request) :
    ∃ begins asked, requests[number]? = some (begins, asked) ∧
      request.Enrolled orchestrator number asked ∧ request.Sound orchestrator asked :=
  h.of_play (motive := fun number asked request =>
      request.Enrolled orchestrator number asked ∧ request.Sound orchestrator asked)
    (fun number start asked moves =>
      ⟨RequestRun.enrolled_play orchestrator number start asked moves,
        (RequestRun.sound_new orchestrator number start asked).play moves⟩) hrequest

theorem act (h : Played orchestrator requests run) (agent : Agent) :
    Played orchestrator requests (run.act agent) := by
  cases agent with
  | request number => exact h.actRequest number
  | group id => exact h.actGroup id

theorem happens_actRequest (h : Played orchestrator requests run) (number : Nat) :
    Happens orchestrator run (run.actRequest number) := by
  rcases h.actRequest_cases number with ⟨-, hsame⟩ | ⟨request, hrequest, hafter⟩
  · rw [hsame]
    exact .quiet rfl rfl fun _ => rfl
  · obtain ⟨_, _, -, henrolled, -⟩ := h.exists_enrolled hrequest
    rw [hafter]
    refine .quiet rfl rfl fun id => (queriesAt_set hrequest rfl id).trans ?_
    split
    next hid => rw [RequestRun.queriesAt_act henrolled, queriesAt, hid, hrequest]
    next => rfl

theorem happens_actGroup (h : Played orchestrator requests run) (id : GroupId) :
    Happens orchestrator run (run.actGroup id) := by
  unfold Run.actGroup
  split
  next => exact .quiet rfl rfl fun _ => rfl
  next request hrequest =>
    split
    next => exact .quiet rfl rfl fun _ => rfl
    next group hgroup =>
      split
      next => exact .quiet rfl rfl fun _ => rfl
      next hopen =>
        obtain ⟨_, _, -, -, hsound⟩ := h.exists_enrolled hrequest
        rw [h.orchestrator_eq]
        by_cases hrunning : ∃ started, request.phase = .running started
        · obtain ⟨started, hrunning⟩ := hrunning
          obtain ⟨acted, turn, hturned⟩ := RequestRun.exists_turned hsound hgroup
            (by simpa using hopen) hrunning run.floor
          exact .turn hrequest hgroup (by simpa using hopen) hturned rfl rfl rfl
        · rw [RequestRun.actGroup_of_not_running (not_exists.mp hrunning)]
          refine .quiet rfl rfl fun other => (queriesAt_set hrequest rfl other).trans ?_
          split
          next hsame => rw [queriesAt, hsame, hrequest]
          next => rfl

theorem happens_act (h : Played orchestrator requests run) (agent : Agent) :
    Happens orchestrator run (run.act agent) := by
  cases agent with
  | request number => exact h.happens_actRequest number
  | group id => exact h.happens_actGroup id

end Played

/-- After the turn of a group its queries are those that the turn left it with; all
other groups of the run have theirs. -/
theorem queriesAt_of_turned {after : Run} {id : GroupId} {request following : RequestRun}
    {group acted : GroupRun} {turn : Turn} {floor next : Floor}
    (hrequest : run.requests[id.request]? = some request)
    (hgroup : request.groups[id.position]? = some group)
    (hturned : request.Turned orchestrator id.position group acted turn floor following next)
    (hrequests : after.requests = run.requests.set id.request following) (other : GroupId) :
    after.queriesAt other = if other = id then turn.phase.queries else run.queriesAt other := by
  rw [queriesAt_set hrequest hrequests, hturned.queriesAt_eq hgroup]
  rcases other with ⟨number, position⟩
  rcases id with ⟨own, place⟩
  dsimp only at hrequest ⊢
  by_cases hsame : number = own
  · subst hsame
    simp [queriesAt, hrequest]
  · simp [hsame]

theorem length_requests_act (run : Run) (agent : Agent) :
    (run.act agent).requests.length = run.requests.length := by
  cases agent with
  | request number =>
      simp only [act, actRequest]
      split
      · rfl
      · simp [lineUp]
  | group id =>
      simp only [act, actGroup]
      split
      · rfl
      · split
        · rfl
        · split
          · rfl
          · simp [lineUp]

namespace Reachable

theorem played (h : Reachable orchestrator requests run) : Played orchestrator requests run := by
  induction h with
  | start => exact played_start orchestrator requests
  | act _ agent ih => exact ih.act agent
  | pass _ _ ih => exact ⟨ih.orchestrator_eq, ih.requests⟩
  | lineUp _ _ ih => exact ⟨ih.orchestrator_eq, ih.requests⟩
  | rearrange _ _ ih => exact ⟨ih.orchestrator_eq, ih.requests⟩

/-- What holds of a run at its start, and is kept by everything that can happen, holds
at any time. -/
theorem rec_happens {motive : Run → Prop} (hstart : motive (Run.start orchestrator requests))
    (hhappens : ∀ {run after : Run}, Played orchestrator requests run →
      Played orchestrator requests after → Happens orchestrator run after → motive run →
        motive after)
    (h : Reachable orchestrator requests run) : motive run := by
  induction h with
  | start => exact hstart
  | act h agent ih => exact hhappens h.played (h.act agent).played (h.played.happens_act agent) ih
  | pass h now ih =>
      exact hhappens h.played (h.pass now).played (.quiet rfl rfl fun _ => rfl) ih
  | lineUp h queue ih =>
      exact hhappens h.played (h.lineUp queue).played (.quiet rfl rfl fun _ => rfl) ih
  | rearrange h release ih =>
      exact hhappens h.played (h.rearrange release).played (.quiet rfl rfl fun _ => rfl) ih

/-- No request is lost. -/
theorem length_requests (h : Reachable orchestrator requests run) :
    run.requests.length = requests.length := by
  induction h with
  | start => simp [Run.start]
  | act _ agent ih => exact (length_requests_act _ agent).trans ih
  | pass _ _ ih => exact ih
  | lineUp _ _ ih => exact ih
  | rearrange _ _ ih => exact ih

theorem actAll (h : Reachable orchestrator requests run) (turns : Nat) :
    Reachable orchestrator requests (Run.actAll turns run) := by
  induction turns generalizing run with
  | zero => exact h
  | succ turns ih =>
      rw [Run.actAll]
      split
      next => exact h
      next agent rest _ => exact ih ((h.lineUp rest).act agent)

theorem drive (h : Reachable orchestrator requests run) (moves : Nat) :
    Reachable orchestrator requests (Run.drive moves run) := by
  induction moves generalizing run with
  | zero => exact h.actAll _
  | succ moves ih =>
      rw [Run.drive]
      have hacted := h.actAll run.turnLimit
      split
      next => exact hacted
      next moved hmoved =>
        rw [advance?, Option.map_eq_some_iff] at hmoved
        obtain ⟨time, -, rfl⟩ := hmoved
        exact ih ((hacted.pass time).lineUp _)

end Reachable

/-- In particular a run can come to its own end. -/
theorem reachable_finish (orchestrator : Orchestrator) (requests : List (Nat × Request)) :
    Reachable orchestrator requests (start orchestrator requests).finish :=
  Reachable.start.drive _

/-! ## What was sent -/

/-- The query is one of an agreed plan of a target, and its request was not refused. -/
def Agreed (orchestrator : Orchestrator) (requests : List (Nat × Request))
    (call : Ticket × Plan.StorageQuery) : Prop :=
  ∃ begins asked frame group plan,
    requests[call.1.group.request]? = some (begins, asked) ∧
    orchestrator.refusal? asked = none ∧
    asked.pairs[call.1.group.position]? = some (frame, group) ∧
    asked.PlanFor orchestrator frame group plan ∧
    plan.queries[call.1.query]? = some call.2

theorem agreed_of_calls (h : Reachable orchestrator requests run) :
    ∀ call ∈ run.floor.calls, Agreed orchestrator requests call := by
  apply h.rec_happens
  · simp [start, Floor.calls]
  · intro run after hrun hafter hhappens ih
    cases hhappens with
    | quiet hledger hcalls hqueries => rwa [hcalls]
    | @turn id request following group acted turn next hrequest hgroup hopen hturned hrequests
        hledger hcalls =>
        have hfollowing : after.requests[id.request]? = some following := by
          rw [hrequests]
          exact List.getElem?_set_self (List.getElem?_eq_some_iff.mp hrequest).1
        obtain ⟨begins, asked, moves, hasked, rfl⟩ := hrun.requests id.request request hrequest
        obtain ⟨later, rfl⟩ := hafter.exists_moves hasked hfollowing
        have hsound := RequestRun.sound_new orchestrator id.request begins asked
        have henrolled := RequestRun.enrolled_play orchestrator id.request begins asked moves
        obtain ⟨-, hpair, -⟩ := (hsound.play moves).groups _ _ hgroup
        obtain ⟨started, hrunning, -⟩ := hturned.course
        have hturn := (RequestRun.planned_play orchestrator id.request begins asked
          moves).calls_of_turned henrolled (hsound.play later)
            (fun haggregated => (RequestRun.gathered_new id.request begins asked).play hsound
              haggregated later) hgroup hturned
        intro call hcall
        rw [hcalls] at hcall
        rcases hturn call hcall with hold | ⟨plan, hplan, hid, hquery⟩
        · exact ih call hold
        · have hown : call.1.group = id := hid
          refine ⟨begins, asked, group.frame, group.group, plan, ?_, ?_, ?_, hplan, hquery⟩
          · rw [hown, hasked]
          · exact (henrolled.of_running hrunning).1
          · rw [hown, hpair]

end Run

end SeriesGateway.Fetch
