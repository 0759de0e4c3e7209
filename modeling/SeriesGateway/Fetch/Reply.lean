import SeriesGateway.Plan.QueryPlan
import SeriesGateway.Point.Consolidation

/-! # Replies

The answer to one target group, with its points and what clients are told about
each metric, and the answer to a whole request.
-/

namespace SeriesGateway.Fetch

/-- The answer to one target group. -/
structure GroupReply where
  group : TargetGroup
  /-- Who aggregated. -/
  mode : Plan.Mode
  /-- The common step, or the largest step of a metric. -/
  step : UInt32
  /-- Aligned bounds, both inclusive. -/
  start : UInt32
  stop : UInt32
  store : PointStore

/-- The points of one metric, with what a client is told about them. -/
structure Series where
  metric : String
  aliases : List Alias
  /-- Width of the buckets. -/
  step : UInt32
  function : Aggregation
  points : List Point
deriving DecidableEq, Repr

namespace GroupReply

def ofPlan (group : TargetGroup) (plan : Plan.QueryPlan) (store : PointStore) : GroupReply :=
  ⟨group, plan.mode, plan.step, plan.start, plan.stop, store⟩

/-- The step of a metric: the one of the reply if storage aggregated, else its own. -/
def stepOf (reply : GroupReply) (id : Option UInt32) : UInt32 :=
  match reply.mode with
  | .aggregated => reply.step
  | .unaggregated => (id.bind reply.store.step?).getD reply.step

def seriesOf (reply : GroupReply) (metric : String) : Series :=
  let id := reply.store.metricId? metric
  { metric
    aliases := reply.group.aliasesOf metric
    step := reply.stepOf id
    function := (id.bind reply.store.aggregation?).getD default
    points := (id.map reply.store.metricPoints).getD [] }

/-- The series of every metric asked for, in the order asked. -/
def series (reply : GroupReply) : List Series := reply.group.metrics.map reply.seriesOf

/-- Points of all series, also of metrics that were not asked for. -/
def pointCount (reply : GroupReply) : Nat := reply.store.points.length

end GroupReply

/-- The answer to a request: the replies by time frame, in ascending order of the
frames, those of one frame in the order they were asked for. -/
abbrev Response := List (TimeFrame × List GroupReply)

/-- Files replies, given in the order they were asked for, under their frames. -/
def Response.ofReplies (replies : List (TimeFrame × GroupReply)) : Response :=
  ((replies.map (·.1)).eraseDups.mergeSort TimeFrame.le).map fun frame =>
    (frame, (replies.filter fun reply => reply.1 = frame).map (·.2))

/-- How a target group ended, with its position in the request. -/
structure GroupResult where
  position : Nat
  frame : TimeFrame
  result : Except FetchError GroupReply

/-- The first error among results in the order they came, or the replies. -/
def repliesOf : List GroupResult → Except FetchError (List (Nat × TimeFrame × GroupReply))
  | [] => .ok []
  | ended :: rest =>
    match ended.result with
    | .error error => .error error
    | .ok reply => (repliesOf rest).map ((ended.position, ended.frame, reply) :: ·)

/-- The answer to a request whose groups ended in this order: the first error, or
else all replies. -/
def Response.ofResults (results : List GroupResult) : Except FetchError Response :=
  (repliesOf results).map fun replies =>
    .ofReplies ((replies.mergeSort fun a b => a.1 ≤ b.1).map (·.2))

end SeriesGateway.Fetch
