/-! # Reading from a growing buffer

Bytes of a response arrive in pieces, so a reader gives one of three verdicts on
the bytes seen so far: a value and the unread bytes, "the bytes end within the
value", or "no continuation can be valid". The last two never come together:
more bytes may turn the second into anything, but the third is final.
-/

namespace SeriesGateway.Wire

/-- The fields of a row. -/
inductive Field where
  | name
  | times
  | values
  | timestamps
deriving DecidableEq, Repr

def Field.text : Field → String
  | name => "name"
  | times => "times"
  | values => "values"
  | timestamps => "timestamps"

/-- Why no continuation of the bytes seen is a row. -/
inductive RowFault where
  | varintOverflow
  | varintTooLong
  | countOverflow (field : Field) (count : Nat)
  | lengthMismatch (field : Field) (times count : Nat)
deriving DecidableEq, Repr

def RowFault.reason : RowFault → String
  | varintOverflow => "varint overflows u64"
  | varintTooLong => "varint longer than 10 bytes"
  | countOverflow field count => s!"{field.text} count {count} overflows"
  | lengthMismatch field times count =>
    s!"times/{field.text} length mismatch: {times} != {count}"

/-- What the bytes seen so far say about a value at their front. A fault comes
with the bytes behind the last complete part in front of it. -/
inductive Verdict (α : Type) where
  | ready (value : α) (rest : List UInt8)
  | short
  | invalid (fault : RowFault) (rest : List UInt8)
deriving Repr

/-- Reads a value from the front of a buffer. -/
def Reader (α : Type) : Type := List UInt8 → Verdict α

namespace Reader

variable {α β : Type}

def pure (value : α) : Reader α := fun bytes => .ready value bytes

def bind (reader : Reader α) (next : α → Reader β) : Reader β := fun bytes =>
  match reader bytes with
  | .ready value rest => next value rest
  | .short => .short
  | .invalid fault rest => .invalid fault rest

instance : Monad Reader where
  pure := pure
  bind := bind

/-- Gives a fault at the current position. -/
def fail (fault : RowFault) : Reader α := fun bytes => .invalid fault bytes

/-- Splits a list after `count` elements, if it has as many. -/
def splitExact {γ : Type} : Nat → List γ → Option (List γ × List γ)
  | 0, rest => some ([], rest)
  | _ + 1, [] => none
  | count + 1, x :: rest => (splitExact count rest).map fun (taken, rest) => (x :: taken, rest)

/-- The next `count` bytes. -/
def take (count : Nat) : Reader (List UInt8) := fun bytes =>
  match splitExact count bytes with
  | some (taken, rest) => .ready taken rest
  | none => .short

/-- The value of a reader repeated `count` times. -/
def replicate (reader : Reader α) : Nat → Reader (List α)
  | 0 => pure []
  | count + 1 => reader.bind fun value => (replicate reader count).bind fun values =>
      pure (value :: values)

/-- A reader that leaves no more bytes than it was given. -/
def NeverGrows (reader : Reader α) : Prop :=
  ∀ bytes value rest, reader bytes = .ready value rest → rest.length ≤ bytes.length

theorem neverGrows_pure (value : α) : NeverGrows (pure value) := by
  intro bytes v rest h
  cases h
  exact Nat.le_refl _

theorem bind_eq_ready {reader : Reader α} {next : α → Reader β} {bytes rest : List UInt8}
    {value : β} (h : (reader.bind next) bytes = .ready value rest) :
    ∃ first middle, reader bytes = .ready first middle ∧ next first middle = .ready value rest := by
  unfold bind at h
  cases hr : reader bytes with
  | ready first middle => exact ⟨first, middle, rfl, by simpa [hr] using h⟩
  | short => simp [hr] at h
  | invalid fault middle => simp [hr] at h

theorem NeverGrows.bind {reader : Reader α} {next : α → Reader β} (hreader : NeverGrows reader)
    (hnext : ∀ value, NeverGrows (next value)) : NeverGrows (reader.bind next) := by
  intro bytes value rest h
  obtain ⟨first, middle, hfirst, hsecond⟩ := bind_eq_ready h
  exact Nat.le_trans (hnext first _ _ _ hsecond) (hreader _ _ _ hfirst)

theorem neverGrows_fail (fault : RowFault) : NeverGrows (fail fault : Reader α) := by
  intro bytes value rest h
  cases h

theorem splitExact_eq_some {γ : Type} {count : Nat} {list taken rest : List γ}
    (h : splitExact count list = some (taken, rest)) :
    list = taken ++ rest ∧ taken.length = count := by
  induction count generalizing list taken with
  | zero =>
    simp only [splitExact, Option.some.injEq, Prod.mk.injEq] at h
    obtain ⟨rfl, rfl⟩ := h
    exact ⟨rfl, rfl⟩
  | succ count ih =>
    cases list with
    | nil => simp [splitExact] at h
    | cons x list =>
      simp only [splitExact, Option.map_eq_some_iff, Prod.exists, Prod.mk.injEq] at h
      obtain ⟨taken', rest', hsplit, rfl, rfl⟩ := h
      obtain ⟨rfl, hlength⟩ := ih hsplit
      exact ⟨rfl, by simp [hlength]⟩

theorem neverGrows_take (count : Nat) : NeverGrows (take count) := by
  intro bytes value rest h
  unfold take at h
  split at h
  · rename_i taken remaining hsplit
    cases h
    rw [(splitExact_eq_some hsplit).1]
    simp
  · cases h

theorem NeverGrows.replicate {reader : Reader α} (hreader : NeverGrows reader) (count : Nat) :
    NeverGrows (reader.replicate count) := by
  induction count with
  | zero => exact neverGrows_pure []
  | succ count ih =>
    exact hreader.bind fun value => ih.bind fun values => neverGrows_pure _

end Reader

end SeriesGateway.Wire
