import SeriesGateway.Fetch.GroupRun

/-! # The life of a request

A request that asks for too many metrics is refused before anything is sent.
Otherwise all of its groups run side by side and all are awaited; then there is
a reply for every group, or the error of the group that failed first.
-/

namespace SeriesGateway.Fetch

/-- The targets of one request. Their number is a machine word. -/
structure Request where
  pairs : List (TimeFrame × TargetGroup)
  /-- The epoch second that ages are counted from. -/
  epoch : UInt32
  fits : pairs.length < UInt64.size

namespace Request

/-- A request for one target. -/
def single (frame : TimeFrame) (group : TargetGroup) (epoch : UInt32) : Request :=
  ⟨[(frame, group)], epoch, by rw [List.length_singleton]; decide⟩

@[simp] theorem pairs_single (frame : TimeFrame) (group : TargetGroup) (epoch : UInt32) :
    (single frame group epoch).pairs = [(frame, group)] := rfl

@[simp] theorem epoch_single (frame : TimeFrame) (group : TargetGroup) (epoch : UInt32) :
    (single frame group epoch).epoch = epoch := rfl

/-- Distinct metrics of each group, summed over the groups. -/
def metricCount (request : Request) : Nat :=
  (request.pairs.map fun pair => pair.2.size).foldr (· + ·) 0

def size (request : Request) : Nat := request.pairs.length

def isEmpty (request : Request) : Bool := request.pairs.isEmpty

end Request

/-- The settings of an orchestrator and what it talks to. -/
structure Orchestrator where
  config : FetchConfig
  storage : Storage
  secondary : Secondary

/-- Whether a request asks for more metrics than allowed. -/
def Orchestrator.refusal? (orchestrator : Orchestrator) (request : Request) : Option FetchError :=
  let limit := orchestrator.config.maxMetricsPerRequest
  if limit ≠ 0 ∧ limit < request.metricCount then
    some (.metricsLimitExceeded request.metricCount limit)
  else none

/-- How a request ended, and when. -/
structure RequestEnd where
  time : Nat
  result : Except FetchError Response

inductive RequestPhase where
  /-- Not begun yet. -/
  | pending (start : Timer)
  | running (started : Nat)
  | concluded (ended : RequestEnd)

structure RequestRun where
  number : Nat
  request : Request
  phase : RequestPhase
  barrier : Step.Barrier
  groups : List GroupRun
  /-- The groups that have ended, in the order they did. -/
  results : List GroupResult

namespace RequestRun

/-- A request that is to begin at a time. -/
def new (number start : Nat) (request : Request) : RequestRun :=
  { number
    request
    phase := .pending ⟨start, number⟩
    barrier := .initial
    groups := []
    results := [] }

def context (orchestrator : Orchestrator) (run : RequestRun) (started : Nat) : RequestContext :=
  ⟨orchestrator.config, orchestrator.storage, orchestrator.secondary, run.request.epoch, started⟩

def isOver (run : RequestRun) : Bool :=
  match run.phase with
  | .concluded _ => true
  | _ => false

/-- Ends the request if all of its groups have ended. -/
def settle (run : RequestRun) (clock : Clock) : RequestRun :=
  if run.groups.all (·.isDone) then
    { run with phase := .concluded ⟨clock.now, Response.ofResults run.results⟩ }
  else run

/-- The groups of a request before they begin. -/
def groupsOf (number : Nat) (request : Request) : List GroupRun :=
  request.pairs.zipIdx.map fun ((frame, group), i) => .new ⟨number, i⟩ frame group

/-- Refuses the request, or creates its groups and registers them at the barrier. -/
def begin (orchestrator : Orchestrator) (run : RequestRun) (clock : Clock) : RequestRun :=
  match orchestrator.refusal? run.request with
  | some error => { run with phase := .concluded ⟨clock.now, .error error⟩ }
  | none =>
    let barrier :=
      if orchestrator.config.aggregated then run.barrier.addParticipants (.ofNat run.request.size)
      else run.barrier
    { run with
      phase := .running clock.now
      barrier
      groups := groupsOf run.number run.request }

/-- One turn of the request itself, with the groups that begin in it. -/
def act (orchestrator : Orchestrator) (run : RequestRun) (clock : Clock) :
    RequestRun × List GroupId :=
  match run.phase with
  | .pending start =>
    if clock.reached start then
      let begun := run.begin orchestrator clock
      match begun.phase with
      | .running _ => (begun.settle clock, begun.groups.map (·.id))
      | _ => (begun, [])
    else (run, [])
  | .running _ => (run.settle clock, [])
  | .concluded _ => (run, [])

/-- The groups that wait at the barrier, the longest wait first. -/
def waitingGroups (run : RequestRun) : List GroupId :=
  let waiting := run.groups.filterMap fun group =>
    group.barrierTimer?.map fun timer => (timer, group.id)
  (Timer.inOrder waiting).map (·.2)

/-- One turn of a group, with the groups that the barrier lets go by it and whether
the group has ended. -/
def actGroup (orchestrator : Orchestrator) (run : RequestRun) (group : GroupRun) (floor : Floor) :
    RequestRun × List GroupId × Bool × Floor :=
  match run.phase with
  | .running started =>
    let (after, result, barrier, floor) :=
      group.act (run.context orchestrator started) run.barrier { floor with woken := [] }
    let released := if barrier.released && !run.barrier.released then run.waitingGroups else []
    let results := result.toList.map fun result => ⟨group.id.position, group.frame, result⟩
    ({ run with
        barrier
        groups := run.groups.set group.id.position after
        results := run.results ++ results },
      released, result.isSome, floor)
  | _ => (run, [], false, { floor with woken := [] })

end RequestRun

end SeriesGateway.Fetch
