import SeriesGateway.Arithmetic
import SeriesGateway.Error

/-! # The common-step barrier

Participants of a request report the steps they need, and all wait for the least
common multiple of the reports. Every registered participant reports once, with
a step or with the failure to compute one; reports beyond their number are
dropped. A step of zero is a report without an opinion.

Participants are counted in machine words. A registration too many wraps around, as
in builds without checks; builds that check for overflow stop there instead.
-/

namespace SeriesGateway.Step

structure Barrier where
  expected : UInt64
  received : UInt64
  /-- Common multiple of the accepted steps. -/
  step : UInt32
  /-- The first failure. -/
  failed : Option StepError
  /-- The signal that waiters are watching. -/
  released : Bool
deriving DecidableEq, Repr

namespace Barrier

/-- Without participants nobody has to wait. -/
def initial : Barrier := ⟨0, 0, 0, none, true⟩

/-- Whether all registered participants have reported. -/
def isComplete (barrier : Barrier) : Bool := barrier.expected ≤ barrier.received

/-- Registers more participants, which closes the barrier again. -/
def addParticipants (barrier : Barrier) (count : UInt64) : Barrier :=
  let barrier := { barrier with expected := barrier.expected + count }
  if barrier.isComplete then barrier else { barrier with released := false }

/-- Keeps the first failure. -/
def fail (barrier : Barrier) (error : StepError) : Barrier :=
  { barrier with failed := barrier.failed.or (some error) }

/-- Folds the step of a participant in. -/
def fold (barrier : Barrier) (step : UInt32) : Barrier :=
  match lcm? barrier.step step with
  | some folded => { barrier with step := folded }
  | none => barrier.fail (.overflow barrier.step step)

/-- Takes the report of a participant: its step, or why it has none. -/
def report (barrier : Barrier) (step : Except StepError UInt32) : Barrier :=
  if barrier.isComplete then barrier
  else
    let counted := { barrier with received := barrier.received + 1 }
    let folded :=
      match step with
      | .ok step => counted.fold step
      | .error error => counted.fail error
    if folded.isComplete then { folded with released := true } else folded

def contribute (barrier : Barrier) (step : UInt32) : Barrier := barrier.report (.ok step)

def abandon (barrier : Barrier) (error : StepError) : Barrier := barrier.report (.error error)

/-- What a waiter is told that was released, or gave up after `waited`. -/
def answer (barrier : Barrier) (released : Bool) (waited : Duration) : Except StepError UInt32 :=
  match barrier.failed with
  | some error => .error error
  | none =>
    if released && barrier.isComplete then .ok barrier.step
    else .error (.timeout waited (barrier.expected.toNat - barrier.received.toNat))

end Barrier

end SeriesGateway.Step
