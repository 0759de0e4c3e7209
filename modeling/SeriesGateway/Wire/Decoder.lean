import SeriesGateway.Error
import SeriesGateway.Wire.Row

/-! # Incremental decoding

A decoder holds the bytes that arrived and were not yet decoded. It gives the
next row, asks for more bytes, or reports that the row at its front can never be
decoded. Only a decoded row changes its state.
-/

namespace SeriesGateway.Wire

structure Decoder where
  shape : RowShape
  buffer : List UInt8
  /-- Rows decoded so far. -/
  rows : Nat
deriving DecidableEq, Repr

namespace Decoder

def new (shape : RowShape) : Decoder := ⟨shape, [], 0⟩

/-- Appends bytes that arrived. -/
def feed (decoder : Decoder) (chunk : List UInt8) : Decoder :=
  { decoder with buffer := decoder.buffer ++ chunk }

/-- Number of bytes that are waiting to be decoded. -/
def buffered (decoder : Decoder) : Nat := decoder.buffer.length

/-- An error shows at most this many bytes of its row. -/
def maxErrorBytes : Nat := 4096

/-- An error that shows the first bytes of the buffer. -/
def malformed (decoder : Decoder) (reason : String) (length : Nat) : DecodeError :=
  ⟨reason, decoder.buffer.take (min length maxErrorBytes)⟩

/-- Decodes the next row. There is none when the buffer is empty, and none yet
when it ends within a row and more bytes may come. -/
def next (decoder : Decoder) (atEnd : Bool) : Except DecodeError (Option Row) × Decoder :=
  if decoder.buffer.isEmpty then (.ok none, decoder)
  else
    match Row.read decoder.shape decoder.buffer with
    | .ready row rest => (.ok (some row), { decoder with buffer := rest, rows := decoder.rows + 1 })
    | .short =>
      if atEnd then
        (.error (decoder.malformed
          s!"row {decoder.rows} truncated: input ended with {decoder.buffered} byte(s) buffered"
          decoder.buffered), decoder)
      else (.ok none, decoder)
    | .invalid fault rest =>
      (.error (decoder.malformed s!"row {decoder.rows}: {fault.reason}"
        (max (decoder.buffered - rest.length) 1)), decoder)

theorem next_buffered_lt {decoder after : Decoder} {atEnd : Bool} {row : Row}
    (h : decoder.next atEnd = (.ok (some row), after)) : after.buffered < decoder.buffered := by
  unfold next at h
  split at h
  · simp at h
  · split at h
    · rename_i hread
      simp only [Prod.mk.injEq] at h
      obtain ⟨-, rfl⟩ := h
      exact Row.read_length_lt hread
    · split at h <;> simp at h
    · simp at h

/-- Decodes rows until there is none or an error, which comes last. -/
def drain (decoder : Decoder) (atEnd : Bool) : List Row × Option DecodeError × Decoder :=
  match _h : decoder.next atEnd with
  | (.ok (some row), after) =>
    let (rows, error, last) := after.drain atEnd
    (row :: rows, error, last)
  | (.ok none, after) => ([], none, after)
  | (.error error, after) => ([], some error, after)
termination_by decoder.buffered
decreasing_by exact next_buffered_lt _h

end Decoder

end SeriesGateway.Wire
