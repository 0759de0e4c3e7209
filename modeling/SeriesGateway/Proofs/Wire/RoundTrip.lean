import SeriesGateway.Proofs.Wire.Chunking
import SeriesGateway.Proofs.Wire.Exact

/-! # Encoded rows are decoded

The parts of a row have no separators, but each is read exactly, since its
length stands in front of it. A body of encoded rows gives back the rows with
all their bits, however it is cut, and leaves no byte behind.
-/

namespace SeriesGateway.Wire

namespace Row

/-- A row that a response of the shape can carry: its arrays are parallel and its
parts fit in memory. -/
structure Fits (shape : RowShape) (row : Row) : Prop where
  name_length : row.name.length < memoryLimit
  times_length : row.times.length * 8 < memoryLimit
  values_length : row.values.length = row.times.length
  timestamps_length : shape = .unaggregated → row.timestamps.length = row.times.length

/-- What a response of the shape carries of a row: all of it, or all but the
timestamps. -/
def carried : RowShape → Row → Row
  | .aggregated, row => { row with timestamps := [] }
  | .unaggregated, row => row

theorem size_carried (shape : RowShape) (row : Row) : (row.carried shape).size = row.size := by
  cases shape <;> rfl

variable {shape : RowShape} {row : Row}

/-! ## One row -/

theorem map_ofNat_toNat (times : List UInt32) : (times.map (·.toNat)).map UInt32.ofNat = times := by
  rw [List.map_map]
  exact List.map_id'' (fun time => UInt32.ofNat_toNat) times

theorem map_bits_toNat (values : List Sample) :
    (values.map (·.bits.toNat)).map (fun bits => (⟨UInt64.ofNat bits⟩ : Sample)) = values := by
  rw [List.map_map]
  apply List.map_id''
  intro value
  simp

theorem uint32_bound (times : List UInt32) : ∀ value ∈ times.map (·.toNat), value < 256 ^ 4 := by
  intro value hvalue
  obtain ⟨time, -, rfl⟩ := List.mem_map.mp hvalue
  exact time.toNat_lt

theorem sample_bound (values : List Sample) :
    ∀ value ∈ values.map (·.bits.toNat), value < 256 ^ 8 := by
  intro value hvalue
  obtain ⟨sample, -, rfl⟩ := List.mem_map.mp hvalue
  exact sample.bits.toNat_lt

theorem reads_times (hfits : row.Fits shape) :
    Reader.Reads (Reader.words .times 4 row.times.length)
      ((row.times.map (·.toNat)).flatMap (littleEndian 4)) (row.times.map (·.toNat)) := by
  have hsize := hfits.times_length
  have hreads := Reader.reads_words .times (by simp only [List.length_map]; omega)
    (uint32_bound row.times)
  rwa [List.length_map] at hreads

theorem reads_values (hfits : row.Fits shape) :
    Reader.Reads (Reader.parallelWords .values 8 row.times.length)
      (encodeArray 8 (row.values.map (·.bits.toNat))) (row.values.map (·.bits.toNat)) := by
  have hsize := hfits.times_length
  have hlength := hfits.values_length
  have hreads := Reader.reads_parallelWords .values (by simp only [List.length_map]; omega)
    (by simp only [List.length_map]; omega) (sample_bound row.values)
  rwa [List.length_map, hlength] at hreads

theorem reads_timestamps (hfits : row.Fits .unaggregated) :
    Reader.Reads (Reader.parallelWords .timestamps 4 row.times.length)
      (encodeArray 4 (row.timestamps.map (·.toNat))) (row.timestamps.map (·.toNat)) := by
  have hsize := hfits.times_length
  have hlength := hfits.timestamps_length rfl
  have hreads := Reader.reads_parallelWords .timestamps (by simp only [List.length_map]; omega)
    (by simp only [List.length_map]; omega) (uint32_bound row.timestamps)
  rwa [List.length_map, hlength] at hreads

/-- The last part of an encoded row, which only one shape has. -/
def encodeTimestamps : RowShape → Row → List UInt8
  | .aggregated, _ => []
  | .unaggregated, row => encodeArray 4 (row.timestamps.map (·.toNat))

theorem encode_eq_append (shape : RowShape) (row : Row) :
    encode shape row = Varint.encode row.name.length ++ (row.name ++
      (encodeArray 4 (row.times.map (·.toNat)) ++
        (encodeArray 8 (row.values.map (·.bits.toNat)) ++ encodeTimestamps shape row))) := by
  cases shape <;> simp only [encode, encodeParts, encodeTimestamps, List.append_assoc]

theorem reads_arrays (hfits : row.Fits shape) :
    Reader.Reads (readArrays shape row.name)
      (encodeArray 4 (row.times.map (·.toNat)) ++
        (encodeArray 8 (row.values.map (·.bits.toNat)) ++ encodeTimestamps shape row))
      (row.carried shape) := by
  have hcount : row.times.length < memoryLimit := by
    have hsize := hfits.times_length
    omega
  rw [encodeArray, List.append_assoc, List.length_map]
  apply (Varint.reads_read hcount).bind
  apply (reads_times hfits).bind
  apply (reads_values hfits).bind
  simp only [map_ofNat_toNat, map_bits_toNat]
  cases shape with
  | aggregated => exact Reader.reads_pure _
  | unaggregated =>
      have hresult := (reads_timestamps hfits).result fun timestamps =>
        (⟨row.name, row.times, row.values, timestamps.map UInt32.ofNat⟩ : Row)
      rwa [map_ofNat_toNat] at hresult

/-- A row that fits is read exactly from its encoding. -/
theorem reads_encode (hfits : row.Fits shape) :
    Reader.Reads (read shape) (encode shape row) (row.carried shape) := by
  rw [encode_eq_append]
  apply (Varint.reads_read hfits.name_length).bind
  apply (Reader.reads_take row.name).bind
  exact reads_arrays hfits

end Row

/-! ## All rows -/

/-- Bytes that are read as rows one by one drain to the rows and leave the buffer
empty. -/
theorem Decoder.drain_of_reads {α : Type} {shape : RowShape} {items : List α}
    {encode : α → List UInt8} {row : α → Row}
    (hreads : ∀ item ∈ items, Reader.Reads (Row.read shape) (encode item) (row item))
    (atEnd : Bool) (count : Nat) :
    (Decoder.mk shape (items.flatMap encode) count).drain atEnd =
      (items.map row, none, ⟨shape, [], count + items.length⟩) := by
  induction items generalizing count with
  | nil => exact drain_of_none rfl
  | cons item items ih =>
      have hread := hreads item List.mem_cons_self (items.flatMap encode)
      have hnext : (Decoder.mk shape ((item :: items).flatMap encode) count).next atEnd =
          (.ok (some (row item)), ⟨shape, items.flatMap encode, count + 1⟩) := by
        rw [List.flatMap_cons]
        exact next_of_ready hread
      rw [drain_of_row hnext, ih fun other hother => hreads other (List.mem_cons_of_mem _ hother)]
      simp [Nat.add_assoc, Nat.add_comm 1]

/-- Draining encoded rows gives the rows one by one and empties the buffer. -/
theorem Decoder.drain_encode {shape : RowShape} {rows : List Row}
    (hfits : ∀ row ∈ rows, row.Fits shape) (atEnd : Bool) (count : Nat) :
    (Decoder.mk shape (rows.flatMap (Row.encode shape)) count).drain atEnd =
      (rows.map (Row.carried shape), none, ⟨shape, [], count + rows.length⟩) :=
  drain_of_reads (fun row hrow => Row.reads_encode (hfits row hrow)) atEnd count

/-- Whatever rows are encoded and however the body is cut, decoding gives back
the rows with every bit that the shape carries, counts them, their points and
their bytes, and ends cleanly with an empty buffer. -/
theorem Body.decode_flatMap_encode (shape : RowShape) {rows : List Row}
    {chunks : List (List UInt8)} (hfits : ∀ row ∈ rows, row.Fits shape)
    (hbody : chunks.flatten = rows.flatMap (Row.encode shape)) :
    Body.decode shape ⟨chunks, none⟩ =
        (rows.map (Row.carried shape), .ok ⟨rows.length, (rows.map Row.size).sum,
          (rows.flatMap (Row.encode shape)).length⟩) ∧
      ∃ reception, (Reception.start shape).acceptAll chunks = (reception, none) ∧
        reception.finish = (reception, none) ∧ reception.decoder.buffered = 0 := by
  have hfeed : (Decoder.new shape).feed chunks.flatten =
      ⟨shape, rows.flatMap (Row.encode shape), 0⟩ := by
    rw [hbody]
    rfl
  refine ⟨?_, ?_⟩
  · rw [Body.decode_eq_answer, Body.answer_none, Body.decodeAtOnce, hfeed,
      Decoder.drain_encode hfits, hbody]
    simp only [List.length_map, List.map_map, List.sum_eq_foldr]
    have hsizes : Row.size ∘ Row.carried shape = Row.size := by
      funext row
      exact Row.size_carried shape row
    rw [hsizes]
  · have hdrain := Decoder.drain_encode hfits false 0
    rw [← hfeed] at hdrain
    obtain ⟨last, hlast, -, hwaiting⟩ :=
      Reception.acceptAll_eq_drain (Reception.settled_start shape) hdrain
    obtain ⟨hdecoder, -⟩ := hwaiting rfl
    refine ⟨last, hlast, ?_, ?_⟩
    · have hempty : last.decoder.drain true = ([], none, last.decoder) := by
        rw [hdecoder]
        exact Decoder.drain_of_none rfl
      simp only [Reception.finish, Reception.drain, hempty, List.append_nil]
    · rw [hdecoder]
      rfl

/-- A name that is no text, a NaN with a payload and a negative zero, in front of
a row without points; the body is cut within a time. -/
theorem Body.decode_flatMap_encode_nan_payload :
    let rows : List Row := [⟨[0xff], [60, 4294967295],
      [⟨0x7ff8000000000001⟩, ⟨0x8000000000000000⟩], [61, 0]⟩, ⟨[], [], [], []⟩]
    let chunks : List (List UInt8) := [[1, 255, 2, 60], [], [0, 0, 0, 255, 255, 255, 255, 2,
      1, 0, 0, 0, 0, 0, 248, 127, 0, 0, 0, 0, 0, 0, 0, 128, 2, 61, 0, 0, 0, 0, 0, 0, 0],
      [0, 0, 0, 0]]
    (∀ row ∈ rows, row.Fits .unaggregated) ∧
      chunks.flatten = rows.flatMap (Row.encode .unaggregated) ∧
      Body.decode .unaggregated ⟨chunks, none⟩ =
        (rows.map (Row.carried .unaggregated), .ok ⟨rows.length, (rows.map Row.size).sum,
          (rows.flatMap (Row.encode .unaggregated)).length⟩) ∧
      ∃ reception, (Reception.start .unaggregated).acceptAll chunks = (reception, none) ∧
        reception.finish = (reception, none) ∧ reception.decoder.buffered = 0 := by
  intro rows chunks
  have hfits : ∀ row ∈ rows, row.Fits .unaggregated := by
    intro row hrow
    simp only [rows, List.mem_cons, List.not_mem_nil, or_false] at hrow
    rcases hrow with rfl | rfl
    · exact ⟨by decide, by decide, rfl, fun _ => rfl⟩
    · exact ⟨by decide, by decide, rfl, fun _ => rfl⟩
  have hbody : chunks.flatten = rows.flatMap (Row.encode .unaggregated) := by decide +kernel
  exact ⟨hfits, hbody, Body.decode_flatMap_encode .unaggregated hfits hbody⟩

end SeriesGateway.Wire
