import SeriesGateway.Proofs.Wire.Grammar

/-! # Calls of a decoder

A call takes a whole row off the buffer or leaves the decoder as it is. Since a
written row has at least one byte, calls that give rows come to an end. An error
that does not come from the end of the input is the answer of all later calls,
whatever arrives.
-/

namespace SeriesGateway.Wire

namespace Decoder

variable {decoder middle after : Decoder} {atEnd : Bool} {row : Row} {rest : List UInt8}

/-- An error shows the beginning of what is buffered, and some of it. -/
def Shows (decoder : Decoder) (error : DecodeError) : Prop :=
  error.row ≠ [] ∧ error.row <+: decoder.buffer ∧ error.row.length ≤ 4096

/-- A row is taken off the front of the buffer, and nothing else has been in the way
of another row there. -/
structure Takes (decoder : Decoder) (written : WrittenRow decoder.shape) (after : Decoder) :
    Prop where
  buffer_eq : decoder.buffer = written.bytes ++ after.buffer
  bytes_ne_nil : written.bytes ≠ []
  unique : ∀ (other : WrittenRow decoder.shape) (rest : List UInt8),
    decoder.buffer = other.bytes ++ rest → other = written ∧ rest = after.buffer
  shape_eq : after.shape = decoder.shape
  rows_eq : after.rows = decoder.rows + 1

/-- Calls that gave a row each, told anything about the end of the input. -/
inductive Yields : Decoder → List Row → Decoder → Prop
  | nil (decoder : Decoder) : Yields decoder [] decoder
  | cons {decoder middle after : Decoder} {atEnd : Bool} {row : Row} {rows : List Row}
      (hnext : decoder.next atEnd = (.ok (some row), middle)) (hrest : Yields middle rows after) :
      Yields decoder (row :: rows) after

/-! ## One call -/

theorem next_of_nil (hbuffer : decoder.buffer = []) (atEnd : Bool) :
    decoder.next atEnd = (.ok none, decoder) := by
  rw [next, hbuffer]
  rfl

theorem buffer_ne_nil_of_invalid {fault : RowFault}
    (hread : Row.read decoder.shape decoder.buffer = .invalid fault rest) :
    decoder.buffer ≠ [] := by
  intro hempty
  rw [hempty, Row.read_nil] at hread
  cases hread

theorem shows_malformed (hbuffer : decoder.buffer ≠ []) (reason : String) {length : Nat}
    (hlength : 0 < length) : decoder.Shows (decoder.malformed reason length) := by
  have hpos := List.length_pos_iff.mpr hbuffer
  have hmax : maxErrorBytes = 4096 := rfl
  refine ⟨?_, List.take_prefix _ _, ?_⟩
  · rw [← List.length_pos_iff, malformed, List.length_take]
    omega
  · rw [malformed, List.length_take]
    omega

/-- A call gives nothing, an error, or the row in front. At the end of the input it gives
nothing only if nothing is left. -/
theorem next_cases (decoder : Decoder) (atEnd : Bool) :
    (decoder.next atEnd = (.ok none, decoder) ∧ (atEnd = true → decoder.buffer = [])) ∨
      (∃ error, decoder.next atEnd = (.error error, decoder) ∧ decoder.Shows error) ∨
      ∃ written after, decoder.next atEnd = (.ok (some written.row), after) ∧
        decoder.Takes written after := by
  cases hread : Row.read decoder.shape decoder.buffer with
  | ready row rest =>
      obtain ⟨written, hbytes, rfl⟩ := WrittenRow.exists_of_read hread
      refine .inr (.inr ⟨written, _, next_of_ready hread, hbytes, written.bytes_ne_nil, ?_, rfl,
        rfl⟩)
      intro other behind hother
      exact WrittenRow.append_inj (hother.symm.trans hbytes)
  | short =>
      cases atEnd with
      | false => exact .inl ⟨next_of_short hread, nofun⟩
      | true =>
          by_cases hbuffer : decoder.buffer = []
          · exact .inl ⟨next_of_nil hbuffer true, fun _ => hbuffer⟩
          · exact .inr (.inl ⟨_, next_of_short_atEnd hbuffer hread,
              shows_malformed hbuffer _ (List.length_pos_iff.mpr hbuffer)⟩)
  | invalid fault rest =>
      exact .inr (.inl ⟨_, next_of_invalid hread,
        shows_malformed (buffer_ne_nil_of_invalid hread) _ (by omega)⟩)

/-- A row that is written at the front of a buffer is given, whatever follows it. -/
theorem next_of_written (hmemory : decoder.buffer.length < memoryLimit)
    {written : WrittenRow decoder.shape} (hbuffer : decoder.buffer = written.bytes ++ rest)
    (atEnd : Bool) :
    decoder.next atEnd =
      (.ok (some written.row), { decoder with buffer := rest, rows := decoder.rows + 1 }) := by
  have hsize := written.length_times_le
  rw [hbuffer, List.length_append] at hmemory
  have hread := written.reads_bytes (by omega) rest
  rw [← hbuffer] at hread
  exact next_of_ready hread

/-- At the end of the input nothing but an empty buffer is clean. -/
theorem next_true_eq_none_iff : (decoder.next true).1 = .ok none ↔ decoder.buffer = [] := by
  constructor
  · intro hnone
    obtain ⟨-, hempty⟩ | ⟨error, herror, -⟩ | ⟨written, after, hrow, -⟩ :=
      decoder.next_cases true
    · exact hempty rfl
    · rw [herror] at hnone
      cases hnone
    · rw [hrow] at hnone
      cases hnone
  · intro hbuffer
    rw [next_of_nil hbuffer]

/-- An error in front of the end of the input is a fault of the row, not a lack of
bytes. -/
theorem exists_invalid_of_error {error : DecodeError}
    (herror : (decoder.next false).1 = .error error) :
    ∃ fault rest, Row.read decoder.shape decoder.buffer = .invalid fault rest := by
  cases hread : Row.read decoder.shape decoder.buffer with
  | ready row rest =>
      rw [next_of_ready hread] at herror
      cases herror
  | short =>
      rw [next_of_short hread] at herror
      cases herror
  | invalid fault rest => exact ⟨fault, rest, rfl⟩

theorem foldl_feed (decoder : Decoder) (chunks : List (List UInt8)) :
    chunks.foldl feed decoder = decoder.feed chunks.flatten := by
  induction chunks generalizing decoder with
  | nil => exact decoder.feed_nil.symm
  | cons chunk chunks ih =>
      rw [List.foldl_cons, ih, List.flatten_cons]
      simp only [feed, List.append_assoc]

theorem next_foldl_feed_of_error {error : DecodeError}
    (herror : (decoder.next false).1 = .error error) (chunks : List (List UInt8)) (atEnd : Bool) :
    (chunks.foldl feed decoder).next atEnd = (.error error, chunks.foldl feed decoder) := by
  obtain ⟨fault, rest, hread⟩ := exists_invalid_of_error herror
  rw [next_of_invalid hread] at herror
  rw [foldl_feed, next_feed_of_invalid _ hread, next_of_invalid hread]
  exact Prod.ext herror rfl

/-! ## A loop of calls -/

/-- Rows that are given are written one behind the other in front of what is left. -/
theorem Yields.exists_written {rows : List Row} (hyields : Yields decoder rows after) :
    ∃ all : List (WrittenRow decoder.shape),
      decoder.buffer = all.flatMap WrittenRow.bytes ++ after.buffer ∧
      rows = all.map WrittenRow.row ∧ after.shape = decoder.shape ∧
      after.rows = decoder.rows + rows.length := by
  induction hyields with
  | nil decoder => exact ⟨[], rfl, rfl, rfl, rfl⟩
  | @cons decoder middle after atEnd row rows hnext hrest ih =>
      obtain ⟨hnone, -⟩ | ⟨error, herror, -⟩ | ⟨written, next, hrow, htakes⟩ :=
        decoder.next_cases atEnd
      · cases hnext.symm.trans hnone
      · cases hnext.symm.trans herror
      · cases hnext.symm.trans hrow
        obtain ⟨shape, left, count⟩ := middle
        obtain ⟨hbuffer, -, -, rfl, rfl⟩ := htakes
        obtain ⟨all, hleft, rfl, hshape, hcount⟩ := ih
        refine ⟨written :: all, ?_, rfl, hshape, ?_⟩
        · rw [hbuffer, hleft, List.flatMap_cons, List.append_assoc]
        · rw [hcount, List.length_cons, Nat.add_assoc, Nat.add_comm 1]

theorem length_le_flatMap_bytes {shape : RowShape} (all : List (WrittenRow shape)) :
    all.length ≤ (all.flatMap WrittenRow.bytes).length := by
  induction all with
  | nil => exact Nat.le_refl 0
  | cons written all ih =>
      have hpos := List.length_pos_iff.mpr written.bytes_ne_nil
      rw [List.flatMap_cons, List.length_append, List.length_cons]
      omega

/-- A loop has at most as many rounds as there are bytes, since each takes one. -/
theorem Yields.length_add_le {rows : List Row} (hyields : Yields decoder rows after) :
    rows.length + after.buffered ≤ decoder.buffered := by
  obtain ⟨all, hbuffer, rfl, -, -⟩ := hyields.exists_written
  have hlength := length_le_flatMap_bytes all
  rw [buffered, buffered, hbuffer, List.length_append, List.length_map]
  omega

/-- A drain is such a loop, and ends at a call that gives no row. -/
theorem yields_drain (decoder : Decoder) (atEnd : Bool) :
    Yields decoder (decoder.drain atEnd).1 (decoder.drain atEnd).2.2 ∧
      (decoder.drain atEnd).2.2.next atEnd =
        (match (decoder.drain atEnd).2.1 with
          | none => .ok none
          | some error => .error error,
        (decoder.drain atEnd).2.2) := by
  -- by induction on what is buffered
  obtain ⟨hnone, -⟩ | ⟨error, herror, -⟩ | ⟨written, next, hrow, htakes⟩ := decoder.next_cases atEnd
  · rw [drain_of_none hnone]
    exact ⟨.nil decoder, hnone⟩
  · rw [drain_of_error herror]
    exact ⟨.nil decoder, herror⟩
  · have hshorter := next_buffered_lt hrow
    obtain ⟨hyields, hlast⟩ := yields_drain next atEnd
    rw [drain_of_row hrow]
    exact ⟨.cons hrow hyields, hlast⟩
termination_by decoder.buffered

/-- A call that gives no row or an error leaves the decoder as it is, and an error
shows the beginning of the buffer. A call that gives a row takes exactly the bytes
off the buffer that the row is written in, and counts it; if there is such a row it is
given, and at the end of the input there is a row or an error unless all is taken. So
calls give at most as many rows as there are bytes, and a drain ends at a call that
gives none. An error that is found while more input may come is found again whatever
comes, at the end of the input and before. -/
theorem next_atomic (decoder : Decoder) :
    (∀ atEnd, match decoder.next atEnd with
      | (.ok none, after) => after = decoder
      | (.error error, after) => after = decoder ∧ decoder.Shows error
      | (.ok (some row), after) =>
        ∃ written, row = written.row ∧ decoder.Takes written after) ∧
    (decoder.buffer.length < memoryLimit → ∀ (written : WrittenRow decoder.shape) rest,
      decoder.buffer = written.bytes ++ rest → ∀ atEnd, ∃ after,
        decoder.next atEnd = (.ok (some written.row), after)) ∧
    ((decoder.next true).1 = .ok none ↔ decoder.buffer = []) ∧
    (∀ rows after, Yields decoder rows after →
      after.rows = decoder.rows + rows.length ∧
        rows.length + after.buffered ≤ decoder.buffered) ∧
    (∀ atEnd, ∃ rows result after, decoder.drain atEnd = (rows, result, after) ∧
      Yields decoder rows after ∧
      after.next atEnd = (match result with
        | none => .ok none
        | some error => .error error, after)) ∧
    ∀ error, (decoder.next false).1 = .error error →
      ∀ (chunks : List (List UInt8)) (atEnd : Bool),
        (chunks.foldl feed decoder).next atEnd = (.error error, chunks.foldl feed decoder) := by
  refine ⟨?_, ?_, next_true_eq_none_iff, ?_, ?_, ?_⟩
  · intro atEnd
    obtain ⟨hnone, -⟩ | ⟨error, herror, hshows⟩ | ⟨written, next, hrow, htakes⟩ :=
      decoder.next_cases atEnd
    · rw [hnone]
    · rw [herror]
      exact ⟨rfl, hshows⟩
    · rw [hrow]
      exact ⟨written, rfl, htakes⟩
  · intro hmemory written rest hbuffer atEnd
    exact ⟨_, next_of_written hmemory hbuffer atEnd⟩
  · intro rows after hyields
    obtain ⟨-, -, -, -, hcount⟩ := hyields.exists_written
    exact ⟨hcount, hyields.length_add_le⟩
  · intro atEnd
    obtain ⟨hyields, hlast⟩ := decoder.yields_drain atEnd
    exact ⟨_, _, _, rfl, hyields, hlast⟩
  · intro error herror chunks atEnd
    exact next_foldl_feed_of_error herror chunks atEnd

/-- Two values for one time, none of which has arrived yet: the row is refused, and
remains so. -/
theorem next_atomic_length_mismatch :
    let decoder : Decoder := ⟨.aggregated, [1, 0x61, 1, 60, 0, 0, 0, 2], 7⟩
    let error : DecodeError :=
      ⟨"row 7: times/values length mismatch: 1 != 2", [1, 0x61, 1, 60, 0, 0, 0, 2]⟩
    (decoder.next false).1 = .error error ∧
      ∀ (chunks : List (List UInt8)) (atEnd : Bool),
        (chunks.foldl feed decoder).next atEnd = (.error error, chunks.foldl feed decoder) := by
  intro decoder error
  have herror : (decoder.next false).1 = .error error := by decide +kernel
  obtain ⟨-, -, -, -, -, hfinal⟩ := next_atomic decoder
  exact ⟨herror, hfinal error herror⟩

end Decoder

end SeriesGateway.Wire
