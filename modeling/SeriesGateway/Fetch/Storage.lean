import SeriesGateway.Plan.Query
import SeriesGateway.Point.Store
import SeriesGateway.Wire.Body

/-! # What a fetch talks to

The storage engine and the optional source of recent points, as they look from a
fetch: every call has an answer that takes some time to come. Times are in whole
milliseconds. An answer may depend on who asks, so equal questions need not be
answered alike. How calls are carried to an engine, over a network or otherwise, is
left open: each transport is one such storage.
-/

namespace SeriesGateway.Fetch

/-- A target group of a run: the position of its request, and its own within the
request. -/
structure GroupId where
  request : Nat
  position : Nat
deriving DecidableEq, Repr

/-- A query of a run: its group, and its position within the plan of the group. -/
structure Ticket where
  group : GroupId
  query : Nat
deriving DecidableEq, Repr

/-- A chunk of a body, and how long it lets wait for itself. -/
structure Delivery where
  delay : Nat
  chunk : List UInt8
deriving DecidableEq, Repr

/-- A body in time: its chunks, how long its end lets wait for itself, and the
failure it ends with, if any. -/
structure Stream where
  deliveries : List Delivery
  endDelay : Nat
  failure : Option TransportError
deriving DecidableEq, Repr

namespace Stream

/-- The body without its times. -/
def body (stream : Stream) : Wire.Body := ⟨stream.deliveries.map (·.chunk), stream.failure⟩

/-- A body whose chunks and end all let wait for themselves equally long. -/
def paced (delay : Nat) (body : Wire.Body) : Stream :=
  ⟨body.chunks.map fun chunk => ⟨delay, chunk⟩, delay, body.failure⟩

end Stream

/-- What a call to the storage engine comes to. -/
inductive Outcome where
  | body (stream : Stream)
  | failed (error : TransportError)
  /-- The call never returns, and takes its target group down. -/
  | crashed (reason : String)
deriving DecidableEq, Repr

structure Answer where
  delay : Nat
  outcome : Outcome
deriving DecidableEq, Repr

/-- The storage engine. -/
abbrev Storage := Ticket → Plan.StorageQuery → Answer

/-- Why a call for recent points comes to none. -/
inductive RecentFailure where
  | failed (error : TransportError)
  /-- The call never returns, and takes its target group down. -/
  | crashed (reason : String)
deriving DecidableEq, Repr

structure RecentAnswer where
  delay : Nat
  points : Except RecentFailure (List RecentPoint)

/-- Where recent points come from, asked for by metrics and bounds. -/
abbrev RecentSource := GroupId → List String → UInt32 → UInt32 → RecentAnswer

/-- The optional source of points that storage does not have yet. -/
inductive Secondary where
  | absent
  | present (source : RecentSource)

/-- How a secondary source is shown. -/
def Secondary.text : Secondary → String
  | absent => "Absent"
  | present _ => "Present(..)"

end SeriesGateway.Fetch
