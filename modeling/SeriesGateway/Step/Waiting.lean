import SeriesGateway.Step.Barrier

/-! # Waiting at the barrier

A barrier on a clock of whole milliseconds, with callers that wait for its
answer. A caller is answered when the barrier is released, or when its patience
ends.
-/

namespace SeriesGateway.Step

/-- A caller, and its answer once it has one. -/
structure Waiter where
  dueAt : Nat
  outcome : Option (Except StepError UInt32)

/-- A barrier, how long callers wait, the time, and the callers in the order
they came. -/
structure Resolver where
  barrier : Barrier
  patience : Duration
  now : Nat
  waiters : List Waiter

namespace Resolver

/-- How long callers wait unless told otherwise. -/
def standardPatience : Duration := .ofSeconds 2

def new (patience : Duration) : Resolver := ⟨.initial, patience, 0, []⟩

/-- Answers a caller that can be answered now. -/
def settleWaiter (resolver : Resolver) (waiter : Waiter) : Waiter :=
  if waiter.outcome.isSome then waiter
  else if resolver.barrier.released then
    { waiter with outcome := some (resolver.barrier.answer true resolver.patience) }
  else if waiter.dueAt ≤ resolver.now then
    { waiter with outcome := some (resolver.barrier.answer false resolver.patience) }
  else waiter

/-- Answers every caller that can be answered now. -/
def settle (resolver : Resolver) : Resolver :=
  { resolver with waiters := resolver.waiters.map resolver.settleWaiter }

/-- Lets something happen to the barrier. -/
def act (resolver : Resolver) (change : Barrier → Barrier) : Resolver :=
  { resolver with barrier := change resolver.barrier }.settle

/-- Lets time pass. -/
def advance (resolver : Resolver) (millis : Nat) : Resolver :=
  { resolver with now := resolver.now + millis }.settle

/-- The time at which a caller that comes now gives up. -/
def dueFromNow (resolver : Resolver) : Nat := resolver.now + resolver.patience.millisCovering

/-- A caller comes. -/
def wait (resolver : Resolver) : Resolver :=
  let caller : Waiter := ⟨resolver.dueFromNow, none⟩
  { resolver with waiters := resolver.waiters ++ [caller] }.settle

/-- A caller comes, and time passes until it is answered. -/
def result (resolver : Resolver) : Except StepError UInt32 × Resolver :=
  if resolver.barrier.released then
    (resolver.barrier.answer true resolver.patience, resolver.settle)
  else
    (resolver.barrier.answer false resolver.patience,
      { resolver with now := resolver.dueFromNow }.settle)

/-- Time passes until every caller is answered; they leave with their answers. -/
def dismiss (resolver : Resolver) : List (Except StepError UInt32) × Resolver :=
  let pending := resolver.waiters.filter (·.outcome.isNone)
  let last := (pending.map (·.dueAt)).foldl max resolver.now
  let settled := { resolver with now := last }.settle
  (settled.waiters.filterMap (·.outcome), { settled with waiters := [] })

/-- Callers that are answered and have not left. -/
def finished (resolver : Resolver) : Nat := (resolver.waiters.filter (·.outcome.isSome)).length

end Resolver

end SeriesGateway.Step
