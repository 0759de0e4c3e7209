import SeriesGateway.Fetch.Admission

/-! # The floor

What the target groups of a run share: the time, the slots, and the record of
what happened. Groups act in turns, one at a time. A timer remembers the turn it
was set in, because timers that run out together are heeded in the order they
were set.
-/

namespace SeriesGateway.Fetch

structure Timer where
  due : Nat
  /-- The turn in which it was set. -/
  turn : Nat
deriving DecidableEq, Repr

namespace Timer

/-- Puts an entry in front of those whose timers were not set before its own. -/
def insert {α : Type} (entry : Timer × α) : List (Timer × α) → List (Timer × α)
  | [] => [entry]
  | other :: rest =>
    if entry.1.turn ≤ other.1.turn then entry :: other :: rest else other :: insert entry rest

/-- Entries in the order in which their timers were set. Those of one turn stay in the order
they come in. -/
def inOrder {α : Type} (entries : List (Timer × α)) : List (Timer × α) := entries.foldr insert []

end Timer

structure Clock where
  /-- Milliseconds since the run began. -/
  now : Nat
  turn : Nat
deriving DecidableEq, Repr

namespace Clock

/-- Sets a timer. -/
def timer (clock : Clock) (delay : Nat) : Timer := ⟨clock.now + delay, clock.turn⟩

/-- Whether a timer has run out. -/
def reached (clock : Clock) (timer : Timer) : Bool := timer.due ≤ clock.now

end Clock

/-- What is recorded of a run. -/
inductive Event where
  /-- A query was sent to storage. -/
  | called (ticket : Ticket) (time : Nat) (query : Plan.StorageQuery)
  /-- The call was answered or given up. -/
  | returned (ticket : Ticket)
  /-- Recent points were asked for. -/
  | asked (group : GroupId) (metrics : List String) (start stop : UInt32)
deriving DecidableEq, Repr

structure Floor where
  clock : Clock
  ledger : Ledger
  /-- The groups that were given a slot in this turn. -/
  woken : List GroupId
  /-- What happened so far, in order. -/
  events : List Event
deriving DecidableEq, Repr

namespace Floor

def record (floor : Floor) (event : Event) : Floor :=
  { floor with events := floor.events ++ [event] }

/-- Asks for the slots of a query. -/
def enter (floor : Floor) (ticket : Ticket) (pools : List PoolId) : Bool × Floor :=
  let (admitted, ledger) := floor.ledger.enter ticket pools
  (admitted, { floor with ledger })

/-- Gives the slots of a query back; whoever has them now is woken. -/
def leave (floor : Floor) (ticket : Ticket) (pools : List PoolId) : Floor :=
  let (tickets, ledger) := floor.ledger.leave ticket pools
  { floor with ledger, woken := floor.woken ++ tickets.map (·.group) }

/-- The largest number of calls that were in progress at once. -/
def maxInFlight (floor : Floor) : Nat :=
  (floor.events.foldl (fun (current, most) event =>
    match event with
    | .called .. => (current + 1, max most (current + 1))
    | .returned _ => (current - 1, most)
    | .asked .. => (current, most)) (0, 0)).2

end Floor

end SeriesGateway.Fetch
