import SeriesGateway.Proofs.Wire.Extension
import SeriesGateway.Wire.Body

/-! # Decoding does not see the chunks

A decoder that cannot go on leaves the buffer in front of the row it waits for,
so draining it, feeding it and draining it again comes to the same as feeding it
first. By induction over the chunks a body is decoded as if all its bytes had
arrived in one, up to what is left behind an error.
-/

namespace SeriesGateway.Wire

theorem Row.read_nil (shape : RowShape) : Row.read shape [] = .short := rfl

namespace Decoder

variable {decoder after : Decoder} {atEnd : Bool} {row : Row} {rest : List UInt8}

/-! ## One row -/

theorem next_of_ready (h : Row.read decoder.shape decoder.buffer = .ready row rest) :
    decoder.next atEnd =
      (.ok (some row), { decoder with buffer := rest, rows := decoder.rows + 1 }) := by
  unfold next
  split
  next hempty =>
    rw [List.isEmpty_iff.mp hempty, Row.read_nil] at h
    cases h
  next => rw [h]

theorem next_of_invalid {fault : RowFault}
    (h : Row.read decoder.shape decoder.buffer = .invalid fault rest) :
    decoder.next atEnd =
      (.error (decoder.malformed s!"row {decoder.rows}: {fault.reason}"
        (max (decoder.buffered - rest.length) 1)), decoder) := by
  unfold next
  split
  next hempty =>
    rw [List.isEmpty_iff.mp hempty, Row.read_nil] at h
    cases h
  next => rw [h]

theorem next_of_short (h : Row.read decoder.shape decoder.buffer = .short) :
    decoder.next false = (.ok none, decoder) := by
  unfold next
  split
  · rfl
  · simp [h]

/-- A row that the end of the input cuts off is an error. -/
theorem next_of_short_atEnd (hbuffer : decoder.buffer ≠ [])
    (h : Row.read decoder.shape decoder.buffer = .short) :
    decoder.next true = (.error (decoder.malformed
      s!"row {decoder.rows} truncated: input ended with {decoder.buffered} byte(s) buffered"
      decoder.buffered), decoder) := by
  have hsome : ¬ decoder.buffer.isEmpty = true := by simpa using hbuffer
  rw [next, if_neg hsome, h]
  rfl

/-- The bytes that an error shows are there before more arrive. -/
theorem malformed_feed (more : List UInt8) (reason : String) {length : Nat}
    (hlength : length ≤ decoder.buffered) :
    (decoder.feed more).malformed reason length = decoder.malformed reason length := by
  unfold malformed feed
  have hshown : min length maxErrorBytes ≤ decoder.buffer.length := by
    unfold buffered at hlength
    omega
  rw [List.take_append_of_le_length hshown]

/-- Nothing that arrives behind a fault changes the report. -/
theorem next_feed_of_invalid {fault : RowFault} (more : List UInt8)
    (h : Row.read decoder.shape decoder.buffer = .invalid fault rest) :
    (decoder.feed more).next atEnd = ((decoder.next atEnd).1, decoder.feed more) := by
  have hpos : 0 < decoder.buffered := by
    unfold buffered
    apply List.length_pos_iff.mpr
    intro hempty
    rw [hempty, Row.read_nil] at h
    cases h
  have hread : Row.read (decoder.feed more).shape (decoder.feed more).buffer =
      .invalid fault (rest ++ more) := by
    have hsteady := Row.steady_read decoder.shape decoder.buffer more (by simp [h])
    rwa [h] at hsteady
  rw [next_of_invalid h, next_of_invalid hread]
  have hreached : (decoder.feed more).buffered - (rest ++ more).length =
      decoder.buffered - rest.length := by
    simp only [buffered, feed, List.length_append]
    omega
  rw [hreached, malformed_feed more _ (by omega)]
  rfl

/-! ## All rows -/

theorem drain_of_row (h : decoder.next atEnd = (.ok (some row), after)) :
    decoder.drain atEnd = (row :: (after.drain atEnd).1, (after.drain atEnd).2) := by
  rw [drain]
  split
  next hrow =>
    cases h.symm.trans hrow
    rfl
  next hnone => cases h.symm.trans hnone
  next herror => cases h.symm.trans herror

theorem drain_of_none (h : decoder.next atEnd = (.ok none, after)) :
    decoder.drain atEnd = ([], none, after) := by
  rw [drain]
  split
  next hrow => cases h.symm.trans hrow
  next hnone =>
    cases h.symm.trans hnone
    rfl
  next herror => cases h.symm.trans herror

theorem drain_of_error {error : DecodeError} (h : decoder.next atEnd = (.error error, after)) :
    decoder.drain atEnd = ([], some error, after) := by
  rw [drain]
  split
  next hrow => cases h.symm.trans hrow
  next hnone => cases h.symm.trans hnone
  next herror =>
    cases h.symm.trans herror
    rfl

/-- What a drain finds when it is resumed after more bytes arrived. -/
def resume (drained : List Row × Option DecodeError × Decoder) (more : List UInt8)
    (atEnd : Bool) : List Row × Option DecodeError × Decoder :=
  match drained with
  | (rows, some error, after) => (rows, some error, after.feed more)
  | (rows, none, after) =>
    let later := (after.feed more).drain atEnd
    (rows ++ later.1, later.2)

/-- Draining in between changes nothing: the rows found so far come first, an
error stops both, and otherwise the rest of the buffer waits for the new bytes. -/
theorem drain_feed (decoder : Decoder) (more : List UInt8) (atEnd : Bool) :
    (decoder.feed more).drain atEnd = resume (decoder.drain false) more atEnd := by
  -- by induction on what is buffered, which each row makes shorter
  cases hread : Row.read decoder.shape decoder.buffer with
  | ready row rest =>
      have hfed : Row.read (decoder.feed more).shape (decoder.feed more).buffer =
          .ready row (rest ++ more) := by
        have hsteady := Row.steady_read decoder.shape decoder.buffer more (by simp [hread])
        rwa [hread] at hsteady
      have hshorter : rest.length < decoder.buffer.length := Row.read_length_lt hread
      rw [drain_of_row (next_of_ready hread), drain_of_row (next_of_ready hfed)]
      have ih := drain_feed { decoder with buffer := rest, rows := decoder.rows + 1 } more atEnd
      simp only [feed] at ih ⊢
      rw [ih]
      rcases drain { decoder with buffer := rest, rows := decoder.rows + 1 } false with
        ⟨rows, error, after⟩
      cases error <;> rfl
  | short =>
      rw [drain_of_none (next_of_short hread)]
      rfl
  | invalid fault rest =>
      have hfed : (decoder.feed more).next atEnd = _ := next_feed_of_invalid more hread
      rw [next_of_invalid hread] at hfed
      rw [drain_of_error (next_of_invalid hread), drain_of_error hfed]
      rfl
termination_by decoder.buffered

theorem feed_nil (decoder : Decoder) : decoder.feed [] = decoder := by
  simp [feed]

/-- A drain that met no error leaves nothing to decode. -/
theorem drain_drained {rows : List Row} (h : decoder.drain false = (rows, none, after)) :
    after.drain false = ([], none, after) := by
  have hresume := drain_feed decoder [] false
  rw [feed_nil, h] at hresume
  simp only [resume, feed_nil, Prod.mk.injEq, List.self_eq_append_right] at hresume
  exact Prod.ext hresume.1 hresume.2.symm

end Decoder

/-! ## All chunks -/

namespace Reception

/-- Everything that can be decoded has been decoded. -/
def Settled (reception : Reception) : Prop :=
  reception.decoder.drain false = ([], none, reception.decoder)

theorem settled_start (shape : RowShape) : (start shape).Settled :=
  Decoder.drain_of_none (Decoder.next_of_short (Row.read_nil shape))

/-- Chunk by chunk a reception delivers the rows, and meets the error, that all
bytes at once give. Without an error it also ends with the same bytes waiting. -/
theorem acceptAll_eq_drain {reception : Reception} (hsettled : reception.Settled)
    {chunks : List (List UInt8)} {rows : List Row} {error : Option DecodeError} {after : Decoder}
    (hdrain : (reception.decoder.feed chunks.flatten).drain false = (rows, error, after)) :
    ∃ last, reception.acceptAll chunks = (last, error) ∧
      last.delivered = reception.delivered ++ rows ∧
      (error = none → last.decoder = after ∧
        last.bytes = reception.bytes + chunks.flatten.length) := by
  induction chunks generalizing reception rows with
  | nil =>
      rw [List.flatten_nil, Decoder.feed_nil, hsettled] at hdrain
      cases hdrain
      exact ⟨reception, rfl, by simp, fun _ => ⟨rfl, rfl⟩⟩
  | cons chunk rest ih =>
      have hfeed : reception.decoder.feed (chunk :: rest).flatten =
          (reception.decoder.feed chunk).feed rest.flatten := by
        simp [Decoder.feed]
      rw [hfeed, Decoder.drain_feed] at hdrain
      rcases hchunk : (reception.decoder.feed chunk).drain false with ⟨first, failed, middle⟩
      rw [hchunk] at hdrain
      have haccept : reception.accept chunk = (⟨middle, reception.delivered ++ first,
          reception.bytes + chunk.length⟩, failed) := by
        simp only [accept, drain, hchunk]
      cases failed with
      | some failed =>
          simp only [Decoder.resume, Prod.mk.injEq] at hdrain
          obtain ⟨rfl, rfl, -⟩ := hdrain
          refine ⟨⟨middle, reception.delivered ++ first, reception.bytes + chunk.length⟩,
            ?_, rfl, fun hnone => nomatch hnone⟩
          simp only [acceptAll, haccept]
      | none =>
          simp only [Decoder.resume, Prod.mk.injEq] at hdrain
          obtain ⟨rfl, hlater⟩ := hdrain
          -- what a chunk leaves behind is drained again before the next one
          have hmiddle : Settled ⟨middle, reception.delivered ++ first,
              reception.bytes + chunk.length⟩ := Decoder.drain_drained hchunk
          obtain ⟨last, hlast, hdelivered, hwaiting⟩ := ih hmiddle (Prod.ext rfl hlater)
          refine ⟨last, ?_, ?_, ?_⟩
          · simp only [acceptAll, haccept, hlast]
          · rw [hdelivered, List.append_assoc]
          · intro hnone
            obtain ⟨hdecoder, hbytes⟩ := hwaiting hnone
            refine ⟨hdecoder, ?_⟩
            rw [hbytes, List.flatten_cons, List.length_append, Nat.add_assoc]

/-- Chunks that were taken without an error are behind a reception. -/
theorem acceptAll_append {reception middle : Reception} {first : List (List UInt8)}
    (hfirst : reception.acceptAll first = (middle, none)) (second : List (List UInt8)) :
    reception.acceptAll (first ++ second) = middle.acceptAll second := by
  induction first generalizing reception with
  | nil =>
      cases hfirst
      rfl
  | cons chunk rest ih =>
      rw [acceptAll] at hfirst
      rw [List.cons_append, acceptAll]
      split at hfirst
      next => exact ih hfirst
      next => cases hfirst

end Reception

namespace Body

/-- What is decoded when all bytes are there from the start and the input has
ended: the rows, and the counters or the first error. -/
def decodeAtOnce (shape : RowShape) (bytes : List UInt8) : List Row × Except FetchError Stats :=
  match ((Decoder.new shape).feed bytes).drain true with
  | (rows, some error, _) => (rows, .error (.decode error))
  | (rows, none, _) =>
    (rows, .ok ⟨rows.length, (rows.map Row.size).foldr (· + ·) 0, bytes.length⟩)

/-- The answer of a body from its bytes alone: an error among them stops the
decoding before the end of the body is seen, a failure of the transport leaves
what was decoded, and a clean end is like an end that was there all the time. -/
def answer (shape : RowShape) (bytes : List UInt8) (failure : Option TransportError) :
    List Row × Except FetchError Stats :=
  match ((Decoder.new shape).feed bytes).drain false, failure with
  | (rows, some error, _), _ => (rows, .error (.decode error))
  | (rows, none, _), some failure => (rows, .error (.transport failure))
  | (_, none, _), none => decodeAtOnce shape bytes

theorem decode_eq_answer (shape : RowShape) (chunks : List (List UInt8))
    (failure : Option TransportError) :
    decode shape ⟨chunks, failure⟩ = answer shape chunks.flatten failure := by
  rcases hdrain : ((Decoder.new shape).feed chunks.flatten).drain false with ⟨rows, error, after⟩
  obtain ⟨last, hlast, hdelivered, hwaiting⟩ :=
    Reception.acceptAll_eq_drain (Reception.settled_start shape) hdrain
  have hrows : last.delivered = rows := by simpa [Reception.start] using hdelivered
  unfold decode answer
  rw [hlast, hdrain]
  cases error with
  | some error => simp only [hrows]
  | none =>
      cases failure with
      | some failure => simp only [hrows]
      | none =>
          obtain ⟨rfl, hbytes⟩ := hwaiting rfl
          have hcount : last.bytes = chunks.flatten.length := by
            simpa [Reception.start] using hbytes
          -- the drain at the end of the body goes on where the last chunk stopped
          have hend := Decoder.drain_feed ((Decoder.new shape).feed chunks.flatten) [] true
          rw [Decoder.feed_nil, hdrain] at hend
          simp only [decodeAtOnce, hend, Decoder.resume, Decoder.feed_nil, Reception.finish,
            Reception.drain, hrows]
          rcases last.decoder.drain true with ⟨later, error, final⟩
          cases error with
          | some error => rfl
          | none => simp only [Reception.stats, hcount]

theorem answer_none (shape : RowShape) (bytes : List UInt8) :
    answer shape bytes none = decodeAtOnce shape bytes := by
  have hend := Decoder.drain_feed ((Decoder.new shape).feed bytes) [] true
  rw [Decoder.feed_nil] at hend
  unfold answer decodeAtOnce
  rw [hend]
  rcases ((Decoder.new shape).feed bytes).drain false with ⟨rows, error, after⟩
  cases error <;> rfl

/-- Only the bytes of a body and its end matter, not where it is cut: two bodies
of the same bytes deliver the same rows and the same counters or error, and a
body that ends cleanly is decoded as all its bytes at once are. -/
theorem decode_eq_of_flatten_eq (shape : RowShape) {first second : List (List UInt8)}
    (hbytes : first.flatten = second.flatten) :
    (∀ failure, decode shape ⟨first, failure⟩ = decode shape ⟨second, failure⟩) ∧
      decode shape ⟨first, none⟩ = decodeAtOnce shape first.flatten := by
  refine ⟨?_, ?_⟩
  · intro failure
    rw [decode_eq_answer, decode_eq_answer, hbytes]
  · rw [decode_eq_answer, answer_none]

/-- A cut within the length of a name, and an empty chunk behind it. -/
theorem decode_eq_of_flatten_eq_cut_in_length :
    [[0x82], [], [0x00, 0x61]].flatten = [[0x82, 0x00], [0x61]].flatten ∧
      (∀ failure, decode .aggregated ⟨[[0x82], [], [0x00, 0x61]], failure⟩ =
        decode .aggregated ⟨[[0x82, 0x00], [0x61]], failure⟩) ∧
      decode .aggregated ⟨[[0x82], [], [0x00, 0x61]], none⟩ =
        decodeAtOnce .aggregated [0x82, 0x00, 0x61] :=
  ⟨rfl, decode_eq_of_flatten_eq .aggregated rfl⟩

end Body

end SeriesGateway.Wire
