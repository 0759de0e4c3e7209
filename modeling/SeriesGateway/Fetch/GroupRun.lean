import SeriesGateway.Fetch.QueryRun
import SeriesGateway.Fetch.Reply
import SeriesGateway.Step.Barrier

/-! # The life of a target group

A group plans its queries, for which groups that let storage aggregate first
agree on a step. Its queries and the secondary source are then awaited together,
whatever becomes of any of them, and the points are consolidated. Rows are added
to the points of the group only once their query has ended well. A call that
crashes ends its group at once.
-/

namespace SeriesGateway.Fetch

/-- What the groups of one request share and do not change. -/
structure RequestContext where
  config : FetchConfig
  storage : Storage
  secondary : Secondary
  /-- The epoch second that ages are counted from. -/
  epoch : UInt32
  /-- When the request began. -/
  started : Nat

namespace RequestContext

/-- When the request must have ended. -/
def deadline (context : RequestContext) : Nat :=
  context.started + context.config.requestTimeout.millisCovering

/-- The seconds that a clock counts, in 63 bits. -/
def clockSeconds : Nat := UInt64.size / 2

/-- Whether the deadline can be told by a clock that showed `origin` milliseconds as the run
began. If it cannot, the request crashes whoever waits for it, before anything is sent. -/
def OnClock (context : RequestContext) (origin : Nat) : Prop :=
  (origin + context.started) * 1000000 + context.config.requestTimeout.nanos <
    clockSeconds * Duration.nanosPerSecond

def mode (context : RequestContext) : Plan.Mode :=
  if context.config.aggregated then .aggregated else .unaggregated

end RequestContext

/-- The question to the secondary source. -/
inductive RecentRun where
  | unasked
  | asking (answer : RecentAnswer) (arrives expires : Timer)
  | answered (points : List RecentPoint)
  /-- The call took the whole target group down. -/
  | crashed (reason : String)

namespace RecentRun

/-- Waits for the answer as long as there is time for it. A failure and an answer
that comes too late are no points. -/
def await (answer : RecentAnswer) (arrives expires : Timer) (clock : Clock) : RecentRun :=
  if clock.reached arrives then
    match answer.points with
    | .ok points => .answered points
    | .error (.failed _) => .answered []
    | .error (.crashed reason) => .crashed reason
  else if clock.reached expires then .answered []
  else .asking answer arrives expires

/-- Asks once, and does what can be done now. -/
def act (context : RequestContext) (group : GroupId) (metrics : List String)
    (start stop : UInt32) (floor : Floor) : RecentRun → RecentRun × Floor
  | unasked =>
    match context.secondary with
    | .absent => (answered [], floor)
    | .present source =>
      let answer := source group metrics start stop
      (await answer (floor.clock.timer answer.delay)
          (floor.clock.timer context.config.secondaryTimeout.millisCovering) floor.clock,
        floor.record (.asked group metrics start stop))
  | asking answer arrives expires => (await answer arrives expires floor.clock, floor)
  | answered points => (answered points, floor)
  | crashed reason => (crashed reason, floor)

/-- Why the call has crashed, if it has. -/
def crash? : RecentRun → Option String
  | crashed reason => some reason
  | _ => none

def points? : RecentRun → Option (List RecentPoint)
  | answered points => some points
  | _ => none

def timers : RecentRun → List Timer
  | asking _ arrives expires => [arrives, expires]
  | _ => []

end RecentRun

/-- A group whose queries are on their way. -/
structure Fetching where
  plan : Plan.QueryPlan
  store : PointStore
  queries : List QueryRun
  recent : RecentRun
  /-- In its next turn the group hears the secondary source before its queries act. -/
  recentFirst : Bool

namespace Fetching

/-- The queries of a plan before any of them was sent. -/
def queriesOf (context : RequestContext) (id : GroupId) (plan : Plan.QueryPlan) : List QueryRun :=
  plan.queries.zipIdx.map fun (query, i) =>
    let range := secondsBetween query.start query.stop
    { ticket := ⟨id, i⟩
      query
      pools := poolsFor context.config id.request range
      timeout := context.config.queryTimeout range
      started := context.started
      deadline := context.deadline
      phase := .admission }

/-- A store that knows the step and function of every metric of a plan. -/
def describedStore (plan : Plan.QueryPlan) : PointStore :=
  plan.grouping.rules.foldl
    (fun store (metric, rule) => (store.describe metric rule.precision rule.function).2) .empty

/-- Adds the rows of a body to the store. -/
def addRows (reversed : Bool) (store : PointStore) (rows : List Wire.Row) : PointStore :=
  rows.foldl (fun store row => (store.appendRow row reversed).2) store

/-- Adds the rows of a query to the store if it has just ended well. -/
def collect (reversed : Bool) (store : PointStore) (before after : QueryRun) : PointStore :=
  match before.result?, after.result? with
  | none, some (.ok rows) => addRows reversed store rows
  | _, _ => store

/-- Lets the queries act in order. One that crashes lets none act after it. -/
def actAll (storage : Storage) (reversed : Bool) :
    PointStore → Floor → List QueryRun → List QueryRun × PointStore × Floor
  | store, floor, [] => ([], store, floor)
  | store, floor, run :: rest =>
    let (after, floor) := run.act storage floor
    let store := collect reversed store run after
    if after.crash?.isSome then (after :: rest, store, floor)
    else
      let (others, store, floor) := actAll storage reversed store floor rest
      (after :: others, store, floor)

/-- The first error of the queries in order, if all have ended. -/
def verdict? (queries : List QueryRun) : Option (Except FetchError Unit) :=
  (queries.mapM QueryRun.result?).map fun results => (results.mapM id).map fun _ => ()

/-- The store with the recent points, consolidated for the plan. -/
def conclude (plan : Plan.QueryPlan) (store : PointStore) (recent : List RecentPoint) :
    PointStore :=
  (store.appendRecent recent).consolidate plan.start plan.rollupStep

/-- Gives up all queries that are not over. -/
def cancel (floor : Floor) (queries : List QueryRun) : Floor :=
  queries.foldl QueryRun.cancel floor

def timers (work : Fetching) : List Timer :=
  work.queries.flatMap (·.timers) ++ work.recent.timers

end Fetching

inductive GroupPhase where
  | ready
  /-- At the barrier. -/
  | waiting (grouping : Plan.Grouping) (expires : Timer)
  | fetching (work : Fetching)
  | done

structure GroupRun where
  id : GroupId
  frame : TimeFrame
  group : TargetGroup
  /-- Set in the first turn that does not end the group. -/
  deadline : Option Timer
  phase : GroupPhase

/-- What a turn of a group comes to. -/
inductive Turn where
  | goesOn (phase : GroupPhase)
  | ends (result : Except FetchError GroupReply)

namespace GroupRun

def new (id : GroupId) (frame : TimeFrame) (group : TargetGroup) : GroupRun :=
  ⟨id, frame, group, none, .ready⟩

/-- Ends a group that one of its calls took down. -/
def crash (reason : String) (queries : List QueryRun) (floor : Floor) : Turn × Floor :=
  (.ends (.error (.taskFailed reason)), Fetching.cancel floor queries)

/-- Hears the secondary source. -/
def hear (context : RequestContext) (run : GroupRun) (work : Fetching) (floor : Floor) :
    RecentRun × Floor :=
  work.recent.act context run.id run.group.metrics work.plan.start work.plan.stop floor

/-- Lets the queries act and then hears the secondary source. -/
def fetchThenHear (context : RequestContext) (run : GroupRun) (work : Fetching) (floor : Floor) :
    Turn × Floor :=
  let (queries, store, floor) :=
    Fetching.actAll context.storage run.group.isReversed work.store floor work.queries
  match queries.findSome? (·.crash?) with
  | some reason => crash reason queries floor
  | none =>
    let (recent, floor) := run.hear context work floor
    match recent.crash? with
    | some reason => crash reason queries floor
    | none =>
      match Fetching.verdict? queries, recent.points? with
      | some (.error error), some _ => (.ends (.error error), floor)
      | some (.ok _), some points =>
        (.ends (.ok (.ofPlan run.group work.plan (Fetching.conclude work.plan store points))),
          floor)
      | _, _ =>
        (.goesOn (.fetching ⟨work.plan, store, queries, recent, !work.recentFirst⟩), floor)

/-- Lets the queries and the secondary source act. They take turns in being first, which
matters only if the secondary source crashes: its call takes up nothing that queries share. -/
def fetchOn (context : RequestContext) (run : GroupRun) (work : Fetching) (floor : Floor) :
    Turn × Floor :=
  match if work.recentFirst then (run.hear context work floor).1.crash? else none with
  | some reason => crash reason work.queries floor
  | none => run.fetchThenHear context work floor

/-- Begins to fetch what a plan asks for. -/
def fetch (context : RequestContext) (run : GroupRun) (plan : Plan.QueryPlan) (floor : Floor) :
    Turn × Floor :=
  let store := Fetching.describedStore plan
  if plan.queries.isEmpty then (.ends (.ok (.ofPlan run.group plan store)), floor)
  else
    run.fetchOn context
      ⟨plan, store, Fetching.queriesOf context run.id plan, .unasked, false⟩ floor

/-- Plans with the common step and begins to fetch. -/
def fetchAggregated (context : RequestContext) (run : GroupRun) (grouping : Plan.Grouping)
    (common : Except StepError UInt32) (floor : Floor) : Turn × Floor :=
  let plan := common.bind (Plan.QueryPlan.aggregatedWith run.group run.frame grouping)
  match plan with
  | .ok plan => run.fetch context plan floor
  | .error error => (.ends (.error (.step error)), floor)

/-- Waits at the barrier. -/
def awaitStep (context : RequestContext) (run : GroupRun) (grouping : Plan.Grouping)
    (expires : Timer) (barrier : Step.Barrier) (floor : Floor) : Turn × Floor :=
  let patience := context.config.stepResolveTimeout
  if barrier.released then
    run.fetchAggregated context grouping (barrier.answer true patience) floor
  else if floor.clock.reached expires then
    run.fetchAggregated context grouping (barrier.answer false patience) floor
  else (.goesOn (.waiting grouping expires), floor)

/-- Begins: a group reports its step before it waits for anything. -/
def begin (context : RequestContext) (run : GroupRun) (barrier : Step.Barrier) (floor : Floor) :
    Turn × Step.Barrier × Floor :=
  match context.mode with
  | .unaggregated =>
    let (turn, floor) :=
      run.fetch context (.unaggregated run.group run.frame context.epoch) floor
    (turn, barrier, floor)
  | .aggregated =>
    let grouping := Plan.Grouping.resolve run.group run.frame context.epoch
    match grouping.contribution with
    | .error error => (.ends (.error (.step error)), barrier.abandon error, floor)
    | .ok step =>
      let barrier := barrier.contribute step
      let (turn, floor) :=
        if grouping.isEmpty then run.fetchAggregated context grouping (.ok 0) floor
        else
          run.awaitStep context grouping
            (floor.clock.timer context.config.stepResolveTimeout.millisCovering) barrier floor
      (turn, barrier, floor)

/-- Does what can be done now. -/
def advance (context : RequestContext) (run : GroupRun) (barrier : Step.Barrier) (floor : Floor) :
    Turn × Step.Barrier × Floor :=
  match run.phase with
  | .ready => run.begin context barrier floor
  | .waiting grouping expires =>
    let (turn, floor) := run.awaitStep context grouping expires barrier floor
    (turn, barrier, floor)
  | .fetching work =>
    let (turn, floor) := run.fetchOn context work floor
    (turn, barrier, floor)
  | .done => (.goesOn .done, barrier, floor)

/-- Gives up whatever the group has begun. -/
def abandonPhase (floor : Floor) : GroupPhase → Floor
  | .fetching work => Fetching.cancel floor work.queries
  | _ => floor

/-- One turn of a group, with its result if it ends the group. A group that has
not ended by the deadline of its request is given up. -/
def act (context : RequestContext) (run : GroupRun) (barrier : Step.Barrier) (floor : Floor) :
    GroupRun × Option (Except FetchError GroupReply) × Step.Barrier × Floor :=
  match run.advance context barrier floor with
  | (.ends result, barrier, floor) => ({ run with phase := .done }, some result, barrier, floor)
  | (.goesOn phase, barrier, floor) =>
    if context.deadline ≤ floor.clock.now then
      ({ run with phase := .done }, some (.error .deadline), barrier, abandonPhase floor phase)
    else
      let timer : Timer := run.deadline.getD ⟨context.deadline, floor.clock.turn⟩
      ({ run with phase, deadline := some timer }, none, barrier, floor)

def isDone (run : GroupRun) : Bool :=
  match run.phase with
  | .done => true
  | _ => false

/-- The timer at the barrier, if the group waits there. -/
def barrierTimer? (run : GroupRun) : Option Timer :=
  match run.phase with
  | .waiting _ expires => some expires
  | _ => none

/-- The timers that are set. -/
def timers (run : GroupRun) : List Timer :=
  match run.phase with
  | .ready => []
  | .waiting _ expires => expires :: run.deadline.toList
  | .fetching work => work.timers ++ run.deadline.toList
  | .done => []

end GroupRun

end SeriesGateway.Fetch
