import Mathlib.Data.List.Induction
import SeriesGateway.Proofs.Fetch.Turns

/-! # Moves of a request

All that a turn can do to a request, said once: it begins or is refused, it ends when
all of its groups have ended, or one of its groups has a turn. From this follows who
belongs to a request at any time: it has one group for each of its targets once it has
begun, and one result for each of its groups that has ended.
-/

namespace SeriesGateway.Fetch

namespace RequestRun

/-- A turn of the group at a position, from one floor to the next, and what it changes
about the request. -/
structure Turned (orchestrator : Orchestrator) (run : RequestRun) (position : Nat)
    (group acted : GroupRun) (turn : Turn) (floor : Floor) (after : RequestRun) (next : Floor) :
    Prop where
  course : ∃ started, run.phase = .running started ∧
    group.Course (run.context orchestrator started) after.barrier floor turn next
  id_eq : acted.id = group.id
  frame_eq : acted.frame = group.frame
  group_eq : acted.group = group.group
  acted_eq : acted.phase = turn.phase
  number_eq : after.number = run.number
  request_eq : after.request = run.request
  phase_eq : after.phase = run.phase
  groups_eq : after.groups = run.groups.set position acted
  results_eq : after.results =
    run.results ++ turn.result?.toList.map fun result => ⟨position, group.frame, result⟩

/-- What a move can do to a request. -/
inductive Moved (orchestrator : Orchestrator) (run : RequestRun) : RequestRun → Prop
  | still : Moved orchestrator run run
  | refused {start : Timer} {error : FetchError} (hpending : run.phase = .pending start)
      (hrefusal : orchestrator.refusal? run.request = some error) (time : Nat) :
    Moved orchestrator run { run with phase := .concluded ⟨time, .error error⟩ }
  | begun {start : Timer} (hpending : run.phase = .pending start)
      (haccepted : orchestrator.refusal? run.request = none) (clock : Clock) :
    Moved orchestrator run ((run.begin orchestrator clock).settle clock)
  | settled {started : Nat} (hrunning : run.phase = .running started) (clock : Clock) :
    Moved orchestrator run (run.settle clock)
  | turned {position : Nat} {group acted : GroupRun} {turn : Turn} {floor next : Floor}
      {after : RequestRun} (hgroup : run.groups[position]? = some group)
      (hopen : group.isDone = false)
      (hturned : Turned orchestrator run position group acted turn floor after next) :
    Moved orchestrator run after

variable {orchestrator : Orchestrator} {request : Request} {run : RequestRun}

namespace Turned

variable {position : Nat} {group acted : GroupRun} {turn : Turn} {floor next : Floor}
  {after : RequestRun}

theorem length_groups (h : Turned orchestrator run position group acted turn floor after next) :
    after.groups.length = run.groups.length := by
  rw [h.groups_eq, List.length_set]

theorem context_eq (h : Turned orchestrator run position group acted turn floor after next)
    (started : Nat) : run.context orchestrator started = after.context orchestrator started := by
  rw [context, context, h.request_eq]

/-- The group that had the turn is changed by it, and the others are not. -/
theorem eq_or_getElem?_eq
    (h : Turned orchestrator run position group acted turn floor after next) {other : Nat}
    {found : GroupRun} (hfound : after.groups[other]? = some found) :
    position = other ∧ found = acted ∨ run.groups[other]? = some found := by
  rw [h.groups_eq] at hfound
  exact (eq_or_getElem?_of_set hfound).imp_right And.right

theorem map_position_results
    (h : Turned orchestrator run position group acted turn floor after next) :
    after.results.map (·.position) =
      run.results.map (·.position) ++ turn.result?.toList.map fun _ => position := by
  rw [h.results_eq, List.map_append, List.map_map]
  rfl

end Turned

theorem exists_turned (hrun : Sound orchestrator request run) {position : Nat} {group : GroupRun}
    (hgroup : run.groups[position]? = some group) (hopen : group.isDone = false) {started : Nat}
    (hrunning : run.phase = .running started) (floor : Floor) :
    ∃ acted turn, Turned orchestrator run position group acted turn { floor with woken := [] }
      (run.actGroup orchestrator group floor).1 (run.actGroup orchestrator group floor).2.2.2 := by
  obtain ⟨hposition, -, -⟩ := hrun.groups position group hgroup
  have hphase := hrun.onCourse hgroup hopen started
  obtain ⟨turn, hcourse, hafter, hresult⟩ :=
    GroupRun.act_course hopen hphase run.barrier { floor with woken := [] }
  obtain ⟨hid, hframe, htarget, -, -⟩ :=
    GroupRun.act_spec hopen hphase run.barrier { floor with woken := [] }
  simp only [actGroup, hrunning]
  refine ⟨_, turn,
    { course := ⟨started, hrunning, hcourse⟩, id_eq := hid, frame_eq := hframe,
      group_eq := htarget, acted_eq := hafter, number_eq := rfl, request_eq := rfl,
      phase_eq := hrunning.symm, groups_eq := by rw [hposition], results_eq := ?_ }⟩
  rw [hresult, hposition]

/-- Every move is one of these. -/
theorem moved_move (hrun : Sound orchestrator request run) (next : Move) :
    Moved orchestrator run (run.move orchestrator next) := by
  cases next with
  | request clock =>
      simp only [move, act]
      split
      next start hpending =>
        split
        next =>
          cases hrefusal : orchestrator.refusal? run.request with
          | some error =>
              simp only [begin, hrefusal]
              exact .refused hpending hrefusal clock.now
          | none =>
              have hbegun := Moved.begun hpending hrefusal clock
              simp only [begin, hrefusal] at hbegun ⊢
              exact hbegun
        next => exact .still
      next hrunning => exact .settled hrunning clock
      next => exact .still
  | group position floor =>
      simp only [move]
      split
      next => exact .still
      next group hgroup =>
        split
        next => exact .still
        next hopen =>
          by_cases hrunning : ∃ started, run.phase = .running started
          · obtain ⟨started, hrunning⟩ := hrunning
            have hopen : group.isDone = false := by simpa using hopen
            obtain ⟨acted, turn, hturned⟩ := exists_turned hrun hgroup hopen hrunning floor
            exact .turned hgroup hopen hturned
          · rw [actGroup_of_not_running (not_exists.mp hrunning)]
            exact .still

/-- What holds of a new request, and is kept by every move that a schedule can make,
holds after every schedule. -/
theorem play_induction {number start : Nat} {motive : RequestRun → Prop}
    (hnew : motive (new number start request))
    (hmoved : ∀ moves next, motive ((new number start request).play orchestrator moves) →
      Moved orchestrator ((new number start request).play orchestrator moves)
        ((new number start request).play orchestrator (moves ++ [next])) →
      motive ((new number start request).play orchestrator (moves ++ [next])))
    (moves : List Move) : motive ((new number start request).play orchestrator moves) := by
  induction moves using List.reverseRecOn with
  | nil => exact hnew
  | append_singleton moves next ih =>
      apply hmoved moves next ih
      have hrun := (sound_new orchestrator number start request).play moves
      simpa [play] using moved_move hrun next

theorem groups_settle_begin (haccepted : orchestrator.refusal? run.request = none)
    (clock : Clock) :
    ((run.begin orchestrator clock).settle clock).groups = groupsOf run.number run.request := by
  unfold settle
  split <;> simp only [begin, haccepted]

theorem groups_settle (run : RequestRun) (clock : Clock) :
    (run.settle clock).groups = run.groups := by
  unfold settle
  split <;> rfl

/-- What holds of a group before its first turn, and is kept by every turn of a group,
holds of all groups after every schedule. -/
theorem groups_induction {number start : Nat} {motive : GroupRun → Prop}
    (hnew : ∀ id frame group, motive (.new id frame group))
    (hturn : ∀ {run after : RequestRun} {position : Nat} {group acted : GroupRun} {turn : Turn}
      {floor next : Floor}, motive group →
        Turned orchestrator run position group acted turn floor after next → motive acted)
    (moves : List Move) :
    ∀ group ∈ ((new number start request).play orchestrator moves).groups, motive group := by
  apply play_induction (motive := fun run => ∀ group ∈ run.groups, motive group)
  · simp [new]
  · intro moves next ih hmoved
    generalize (new number start request).play orchestrator (moves ++ [next]) = after at *
    generalize (new number start request).play orchestrator moves = run at *
    cases hmoved with
    | still => exact ih
    | refused hpending hrefusal time => exact ih
    | begun hpending haccepted clock =>
        rw [groups_settle_begin haccepted]
        intro group hgroup
        obtain ⟨position, hposition⟩ := List.mem_iff_getElem?.mp hgroup
        rw [getElem?_groupsOf, Option.map_eq_some_iff] at hposition
        obtain ⟨pair, -, rfl⟩ := hposition
        exact hnew _ _ _
    | settled hrunning clock =>
        rw [groups_settle]
        exact ih
    | turned hgroup hopen hturned =>
        intro found hfound
        obtain ⟨other, hother⟩ := List.mem_iff_getElem?.mp hfound
        rcases hturned.eq_or_getElem?_eq hother with ⟨-, rfl⟩ | hold
        · exact hturn (ih _ (List.mem_of_getElem? hgroup)) hturned
        · exact ih found (List.mem_of_getElem? hold)

/-! ## Who belongs to a request -/

/-- What the phase of a request says about its groups and its result. -/
def Stage (orchestrator : Orchestrator) (request : Request) (run : RequestRun) : Prop :=
  match run.phase with
  | .pending _ => run.groups = []
  | .running _ => orchestrator.refusal? request = none ∧ run.groups.length = request.size
  | .concluded ended =>
    match orchestrator.refusal? request with
    | some error => run.groups = [] ∧ ended.result = .error error
    | none => run.groups.length = request.size ∧ (∀ group ∈ run.groups, group.isDone = true) ∧
      ended.result = Response.ofResults run.results

/-- Who the queries of a plan are, what they ask for, and which pools they need. -/
def badgesOf (config : FetchConfig) (id : GroupId) (plan : Plan.QueryPlan) :
    List (Ticket × Plan.StorageQuery × List PoolId) :=
  plan.queries.zipIdx.map fun (query, i) =>
    (⟨id, i⟩, query, poolsFor config id.request (secondsBetween query.start query.stop))

/-- The groups of a request have numbers of their own, and so have their queries; every
group that has ended has left one result. -/
structure Enrolled (orchestrator : Orchestrator) (number : Nat) (request : Request)
    (run : RequestRun) : Prop where
  number_eq : run.number = number
  id_eq : ∀ {position : Nat} {group : GroupRun}, run.groups[position]? = some group →
    group.id = ⟨number, position⟩
  badges : ∀ {position : Nat} {group : GroupRun} {work : Fetching},
    run.groups[position]? = some group → group.phase = .fetching work →
      work.queries.map (·.badge) = badgesOf orchestrator.config ⟨number, position⟩ work.plan
  nodup_results : (run.results.map (·.position)).Nodup
  mem_results : ∀ {position : Nat}, position ∈ run.results.map (·.position) ↔
    ∃ group, run.groups[position]? = some group ∧ group.isDone = true
  stage : Stage orchestrator request run

theorem map_badge_queriesOf (context : RequestContext) (id : GroupId) (plan : Plan.QueryPlan) :
    (Fetching.queriesOf context id plan).map (·.badge) = badgesOf context.config id plan := by
  rw [Fetching.queriesOf, badgesOf, List.map_map]
  rfl

theorem enrolled_new (orchestrator : Orchestrator) (number start : Nat) (request : Request) :
    Enrolled orchestrator number request (new number start request) where
  number_eq := rfl
  id_eq := by simp [new]
  badges := by simp [new]
  nodup_results := List.nodup_nil
  mem_results := by simp [new]
  stage := rfl

namespace Enrolled

variable {number : Nat}

/-- The queries that a group works on are those of the plan it works on. -/
theorem map_badge_of_worksOn (h : Enrolled orchestrator number request run) {position : Nat}
    {group : GroupRun} (hgroup : run.groups[position]? = some group) {other : RequestRun}
    {started : Nat} {barrier : Step.Barrier} {work : Fetching}
    (hwork : group.WorksOn (other.context orchestrator started) barrier work) :
    work.queries.map (·.badge) = badgesOf orchestrator.config ⟨number, position⟩ work.plan := by
  rcases hwork with hbegun | ⟨-, plan, -, rfl⟩
  · exact h.badges hgroup hbegun
  · rw [← h.id_eq hgroup]
    exact map_badge_queriesOf _ _ plan

theorem results_of_groups (h : Enrolled orchestrator number request run)
    (hnone : run.groups = []) : run.results = [] := by
  rw [← List.map_eq_nil_iff (f := (·.position)), List.eq_nil_iff_forall_not_mem]
  intro position hposition
  obtain ⟨group, hgroup, -⟩ := h.mem_results.mp hposition
  simp [hnone] at hgroup

theorem groups_of_pending (h : Enrolled orchestrator number request run) {start : Timer}
    (hpending : run.phase = .pending start) : run.groups = [] := by
  have hstage := h.stage
  rwa [Stage, hpending] at hstage

theorem of_running (h : Enrolled orchestrator number request run) {started : Nat}
    (hrunning : run.phase = .running started) :
    orchestrator.refusal? request = none ∧ run.groups.length = request.size := by
  have hstage := h.stage
  rwa [Stage, hrunning] at hstage

theorem refused (h : Enrolled orchestrator number request run) {start : Timer}
    (hpending : run.phase = .pending start) {error : FetchError}
    (hrefusal : orchestrator.refusal? request = some error) (time : Nat) :
    Enrolled orchestrator number request
      { run with phase := .concluded ⟨time, .error error⟩ } :=
  { h with
    stage := by
      simp only [Stage, hrefusal]
      exact ⟨h.groups_of_pending hpending, trivial⟩ }

theorem begin (h : Enrolled orchestrator number request run)
    (hrun : Sound orchestrator request run) {start : Timer} (hpending : run.phase = .pending start)
    (haccepted : orchestrator.refusal? request = none) (clock : Clock) :
    Enrolled orchestrator number request (run.begin orchestrator clock) := by
  have hgroups : ∀ {position : Nat} {group : GroupRun},
      (groupsOf run.number run.request)[position]? = some group →
        group.id = ⟨number, position⟩ ∧ group.phase = .ready := by
    intro position group hgroup
    rw [getElem?_groupsOf, Option.map_eq_some_iff, h.number_eq] at hgroup
    obtain ⟨pair, -, rfl⟩ := hgroup
    exact ⟨rfl, rfl⟩
  simp only [RequestRun.begin, hrun.request_eq, haccepted]
  rw [hrun.request_eq] at hgroups
  refine
    { number_eq := h.number_eq, id_eq := fun hgroup => (hgroups hgroup).1, badges := ?_,
      nodup_results := h.nodup_results, mem_results := ?_, stage := ?_ }
  · intro position group work hgroup hfetching
    rw [(hgroups hgroup).2] at hfetching
    cases hfetching
  · intro position
    rw [h.results_of_groups (h.groups_of_pending hpending)]
    constructor
    · intro hin
      cases hin
    · rintro ⟨group, hgroup, hdone⟩
      rw [GroupRun.isDone, (hgroups hgroup).2] at hdone
      cases hdone
  · simp [Stage, haccepted, groupsOf, Request.size]

theorem settle (h : Enrolled orchestrator number request run) {started : Nat}
    (hrunning : run.phase = .running started) (clock : Clock) :
    Enrolled orchestrator number request (run.settle clock) := by
  obtain ⟨haccepted, hlength⟩ := h.of_running hrunning
  unfold RequestRun.settle
  split
  next hall =>
    refine { h with stage := ?_ }
    simp only [Stage, haccepted]
    exact ⟨hlength, List.all_eq_true.mp hall, trivial⟩
  next => exact h

theorem badges_of_turned (h : Enrolled orchestrator number request run) {position : Nat}
    {group acted : GroupRun} {turn : Turn} {floor next : Floor} {after : RequestRun}
    (hgroup : run.groups[position]? = some group)
    (hturned : Turned orchestrator run position group acted turn floor after next)
    {work : Fetching} (hfetching : acted.phase = .fetching work) :
    work.queries.map (·.badge) = badgesOf orchestrator.config ⟨number, position⟩ work.plan := by
  obtain ⟨started, -, hcourse⟩ := hturned.course
  rw [hturned.acted_eq] at hfetching
  cases hcourse with
  | works hwork hledger hcalls hclock recent =>
      cases hfetching
      exact (Fetching.map_badge_actAll _ _ _ _ _).trans (h.map_badge_of_worksOn hgroup hwork)
  | _ => cases hfetching

/-- After a turn of a group there is still one result for each group that has ended. -/
theorem results_of_turned (h : Enrolled orchestrator number request run) {position : Nat}
    {group acted : GroupRun} {turn : Turn} {floor next : Floor} {after : RequestRun}
    (hgroup : run.groups[position]? = some group) (hopen : group.isDone = false)
    (hturned : Turned orchestrator run position group acted turn floor after next) :
    (after.results.map (·.position)).Nodup ∧
      ∀ {other : Nat}, other ∈ after.results.map (·.position) ↔
        ∃ found, after.groups[other]? = some found ∧ found.isDone = true := by
  obtain ⟨started, -, hcourse⟩ := hturned.course
  obtain ⟨hlt, hfound⟩ := List.getElem?_eq_some_iff.mp hgroup
  have hdone := hcourse.isDone_iff hturned.acted_eq
  -- the group has not ended before, so it has left no result yet
  have hfresh : position ∉ run.results.map (·.position) := by
    rw [h.mem_results]
    rintro ⟨found, hfound, hended⟩
    rw [hgroup] at hfound
    rw [← Option.some.inj hfound, hopen] at hended
    cases hended
  rw [hturned.map_position_results]
  constructor
  · cases turn.result? with
    | none => simpa using h.nodup_results
    | some result =>
        refine (List.perm_append_singleton position _).nodup_iff.mpr ?_
        exact List.nodup_cons.mpr ⟨hfresh, h.nodup_results⟩
  · intro other
    rw [List.mem_append, h.mem_results, hturned.groups_eq, List.getElem?_set]
    by_cases hsame : position = other
    · subst hsame
      cases hresult : turn.result? with
      | none => simp [hlt, hdone, hresult, hfound, hopen]
      | some result => simp [hlt, hdone, hresult]
    · cases turn.result? <;> simp [hsame, Ne.symm hsame]

theorem turned (h : Enrolled orchestrator number request run) {position : Nat}
    {group acted : GroupRun} {turn : Turn} {floor next : Floor} {after : RequestRun}
    (hgroup : run.groups[position]? = some group) (hopen : group.isDone = false)
    (hturned : Turned orchestrator run position group acted turn floor after next) :
    Enrolled orchestrator number request after := by
  obtain ⟨started, hrunning, -⟩ := hturned.course
  obtain ⟨hnodup, hresults⟩ := h.results_of_turned hgroup hopen hturned
  refine
    { number_eq := hturned.number_eq.trans h.number_eq, id_eq := ?_, badges := ?_,
      nodup_results := hnodup, mem_results := hresults, stage := ?_ }
  · intro other found hfound
    rcases hturned.eq_or_getElem?_eq hfound with ⟨rfl, rfl⟩ | hold
    · rw [hturned.id_eq, h.id_eq hgroup]
    · exact h.id_eq hold
  · intro other found work hfound hfetching
    rcases hturned.eq_or_getElem?_eq hfound with ⟨rfl, rfl⟩ | hold
    · exact h.badges_of_turned hgroup hturned hfetching
    · exact h.badges hold hfetching
  · rw [Stage, hturned.phase_eq, hrunning]
    dsimp only
    rw [hturned.length_groups]
    exact h.of_running hrunning

theorem moved (h : Enrolled orchestrator number request run)
    (hrun : Sound orchestrator request run) {after : RequestRun}
    (hmoved : Moved orchestrator run after) : Enrolled orchestrator number request after := by
  cases hmoved with
  | still => exact h
  | refused hpending hrefusal time => exact h.refused hpending (hrun.request_eq ▸ hrefusal) time
  | begun hpending haccepted clock =>
      rw [hrun.request_eq] at haccepted
      have hbegun := h.begin hrun hpending haccepted clock
      have hrunning : (run.begin orchestrator clock).phase = .running clock.now := by
        simp [RequestRun.begin, hrun.request_eq, haccepted]
      exact hbegun.settle hrunning clock
  | settled hrunning clock => exact h.settle hrunning clock
  | turned hgroup hopen hturned => exact h.turned hgroup hopen hturned

end Enrolled

theorem enrolled_play (orchestrator : Orchestrator) (number start : Nat) (request : Request)
    (moves : List Move) :
    Enrolled orchestrator number request
      ((new number start request).play orchestrator moves) := by
  apply play_induction (enrolled_new orchestrator number start request)
  intro moves next h hmoved
  exact h.moved ((sound_new orchestrator number start request).play moves) hmoved

end RequestRun

end SeriesGateway.Fetch
