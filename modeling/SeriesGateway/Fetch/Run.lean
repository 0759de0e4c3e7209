import SeriesGateway.Fetch.RequestRun

/-! # Runs

All requests of a run on one orchestrator, on a clock that moves, to the next
timer, only when nobody can act. Requests and groups act one at a time, in the
order in which something happened that concerns them.
-/

namespace SeriesGateway.Fetch

/-- Who acts. -/
inductive Agent where
  | request (number : Nat)
  | group (id : GroupId)
deriving DecidableEq, Repr

/-- In which order a barrier lets those go who wait at it, by the turn in which it opens.
Nobody is promised any: who waits is spread over several queues by chance. -/
structure ReleaseOrder where
  order : (turn : Nat) → List GroupId → List GroupId
  perm : ∀ turn waiting, (order turn waiting).Perm waiting

namespace ReleaseOrder

/-- The longest wait first. -/
def firstCome : ReleaseOrder := ⟨fun _ waiting => waiting, fun _ _ => .refl _⟩

@[simp] theorem mem_order (release : ReleaseOrder) {turn : Nat} {waiting : List GroupId}
    {id : GroupId} : id ∈ release.order turn waiting ↔ id ∈ waiting :=
  (release.perm turn waiting).mem_iff

@[simp] theorem order_nil (release : ReleaseOrder) (turn : Nat) : release.order turn [] = [] :=
  (release.perm turn []).eq_nil

end ReleaseOrder

structure Run where
  orchestrator : Orchestrator
  requests : List RequestRun
  floor : Floor
  /-- Who is to act, in order. -/
  queue : List Agent
  release : ReleaseOrder

namespace Run

/-- A run of requests, each of which is to begin at a time. -/
def start (orchestrator : Orchestrator) (requests : List (Nat × Request)) : Run :=
  { orchestrator
    requests := requests.zipIdx.map fun ((time, request), number) => .new number time request
    floor := ⟨⟨0, 0⟩, .ofConfig orchestrator.config requests.length, [], []⟩
    queue := (List.range requests.length).map .request
    release := .firstCome }

/-- Lines up agents who are not lined up yet. -/
def lineUp (run : Run) (agents : List Agent) : Run :=
  { run with queue := (run.queue ++ agents).eraseDups }

/-- Counts a turn. -/
def nextTurn (floor : Floor) : Floor :=
  { floor with clock := { floor.clock with turn := floor.clock.turn + 1 } }

/-- A request acts. -/
def actRequest (run : Run) (number : Nat) : Run :=
  match run.requests[number]? with
  | none => run
  | some request =>
    let (request, begun) := request.act run.orchestrator run.floor.clock
    { run with
      requests := run.requests.set number request
      floor := nextTurn run.floor }.lineUp (begun.map .group)

/-- A group acts. Others it lets go on are lined up as it acts; its request, if the
group has ended, or else the group itself, if it gave a slot to a query of its
own, only afterwards. -/
def actGroup (run : Run) (id : GroupId) : Run :=
  match run.requests[id.request]? with
  | none => run
  | some request =>
    match request.groups[id.position]? with
    | none => run
    | some group =>
      if group.isDone then run
      else
        let (request, released, ended, floor) :=
          request.actGroup run.orchestrator group run.floor
        let woken := run.release.order run.floor.clock.turn released ++ floor.woken
        let after : Run :=
          { run with
            requests := run.requests.set id.request request
            floor := nextTurn floor }
        let others := (woken.filter fun other => other ≠ id).map Agent.group
        let last :=
          if ended then [Agent.request id.request]
          else if id ∈ woken then [Agent.group id]
          else []
        after.lineUp (others ++ last)

def act (run : Run) : Agent → Run
  | .request number => run.actRequest number
  | .group id => run.actGroup id

/-- Lets agents act until nobody can; `turns` bounds their number. -/
def actAll : (turns : Nat) → Run → Run
  | 0, run => run
  | turns + 1, run =>
    match run.queue with
    | [] => run
    | agent :: rest => actAll turns ({ run with queue := rest }.act agent)

/-- The timers of a request and of its groups. -/
def timersOf (request : RequestRun) : List (Timer × Agent) :=
  match request.phase with
  | .pending start => [(start, .request request.number)]
  | .running _ =>
    request.groups.flatMap fun group => group.timers.map fun timer => (timer, .group group.id)
  | .concluded _ => []

def timers (run : Run) : List (Timer × Agent) := run.requests.flatMap timersOf

/-- Those whose timers run out at a time, in the order the timers were set. -/
def due (timers : List (Timer × Agent)) (time : Nat) : List Agent :=
  (Timer.inOrder (timers.filter fun entry => entry.1.due = time)).map (·.2)

/-- Moves the clock to the next timer and lines up those whose timers run out. -/
def advance? (run : Run) : Option Run :=
  (run.timers.map (·.1.due)).min?.map fun time =>
    let clock : Clock := { run.floor.clock with now := time }
    let moved : Run := { run with floor := { run.floor with clock } }
    moved.lineUp (due run.timers time)

/-- How often a group can be lined up at one time: to begin, by a timer, by the
barrier, and once for every slot of its queries; its end lines up the request. -/
def turnsPerGroup : Nat := 4 + 3 * Aggregation.all.length

/-- More turns than agents can take at one time. -/
def turnLimit (run : Run) : Nat :=
  (run.requests.map fun request => 2 + turnsPerGroup * request.request.size).foldr (· + ·) 1

/-- The time by which every request has ended. -/
def horizon (run : Run) : Nat :=
  ((timers run).map (·.1.due)).foldl max 0 +
    run.orchestrator.config.requestTimeout.millisCovering

/-- Lets agents act and time pass; `moves` bounds how often the clock moves. -/
def drive : (moves : Nat) → Run → Run
  | 0, run => run.actAll run.turnLimit
  | moves + 1, run =>
    let acted := run.actAll run.turnLimit
    match acted.advance? with
    | none => acted
    | some moved => drive moves moved

/-- Runs requests to their ends. The clock moves by a millisecond at least, and no
request goes on beyond its deadline. -/
def finish (run : Run) : Run := run.drive run.horizon

/-- How the requests ended. -/
def ends (run : Run) : List (Option RequestEnd) :=
  run.requests.map fun request =>
    match request.phase with
    | .concluded ended => some ended
    | _ => none

end Run

end SeriesGateway.Fetch
