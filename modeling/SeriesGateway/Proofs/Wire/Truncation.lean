import SeriesGateway.Proofs.Wire.RoundTrip

/-! # Bodies that are cut off

No beginning of an encoded row is a row or can be told to be none: the decoder
waits for the rest of it. So a cut body delivers the rows in front of the cut, and
its end is clean only between two rows; anywhere else it is an error that shows
the bytes of the row it is in.
-/

namespace SeriesGateway.Wire

variable {α : Type}

/-- What is read exactly from all of some bytes is not read from fewer. -/
theorem Reader.Reads.short_of_steady {reader : Reader α} {value : α} {part behind : List UInt8}
    (hreads : Reads reader (part ++ behind) value) (hsteady : Steady reader)
    (hbehind : behind ≠ []) : reader part = .short := by
  have hwhole : reader (part ++ behind) = .ready value [] := by
    have hread := hreads []
    rwa [List.append_nil] at hread
  by_contra hfinal
  -- a verdict on the part would be the verdict on the whole, with the rest unread
  rw [hsteady part behind hfinal] at hwhole
  cases hpart : reader part with
  | ready found rest =>
      rw [hpart, Verdict.extend, Verdict.ready.injEq, List.append_eq_nil_iff] at hwhole
      exact hbehind hwhole.2.2
  | short => exact hfinal hpart
  | invalid fault rest =>
      rw [hpart] at hwhole
      cases hwhole

namespace Row

variable {shape : RowShape}

/-- Where a row begins in the body of all rows, or the body ends. -/
def offset (shape : RowShape) (rows : List Row) (position : Nat) : Nat :=
  ((rows.take position).flatMap (encode shape)).length

theorem offset_cons_succ (row : Row) (rows : List Row) (position : Nat) :
    offset shape (row :: rows) (position + 1) =
      (encode shape row).length + offset shape rows position := by
  rw [offset, List.take_succ_cons, List.flatMap_cons, List.length_append, offset]

theorem offset_succ {rows : List Row} {position : Nat} {row : Row}
    (hrow : rows[position]? = some row) :
    offset shape rows (position + 1) =
      offset shape rows position + (encode shape row).length := by
  rw [offset, List.take_add_one, hrow, Option.toList_some, List.flatMap_append,
    List.flatMap_singleton, List.length_append, offset]

theorem offset_mono (shape : RowShape) (rows : List Row) {first second : Nat}
    (hle : first ≤ second) :
    offset shape rows first ≤ offset shape rows second := by
  have hsplit := List.take_append_drop first (rows.take second)
  rw [List.take_take, Nat.min_eq_left hle] at hsplit
  rw [offset, offset, ← hsplit, List.flatMap_append, List.length_append]
  exact Nat.le_add_right _ _

/-- The first `cut` bytes of a body are `whole` of its rows and the bytes `part` of
the next one, to which some are missing. -/
structure CutIn (shape : RowShape) (rows : List Row) (cut whole : Nat) (part : List UInt8) :
    Prop where
  whole_le : whole ≤ rows.length
  take_cut : (rows.flatMap (encode shape)).take cut =
    (rows.take whole).flatMap (encode shape) ++ part
  drop_cut : part ++ (rows.flatMap (encode shape)).drop cut =
    (rows.drop whole).flatMap (encode shape)
  offset_add : offset shape rows whole + part.length = cut
  part_eq_nil : whole = rows.length → part = []
  incomplete : ∀ row, rows[whole]? = some row →
    ∃ behind, behind ≠ [] ∧ encode shape row = part ++ behind

/-- Every cut of a body is in one of its rows, or behind the last one. -/
theorem exists_cutIn (shape : RowShape) {rows : List Row} {cut : Nat}
    (hcut : cut ≤ (rows.flatMap (encode shape)).length) :
    ∃ whole part, CutIn shape rows cut whole part := by
  induction rows generalizing cut with
  | nil =>
      obtain rfl : cut = 0 := Nat.le_zero.mp hcut
      exact ⟨0, [], Nat.le_refl 0, rfl, rfl, rfl, fun _ => rfl, nofun⟩
  | cons row rows ih =>
      rw [List.flatMap_cons, List.length_append] at hcut
      rcases Nat.lt_or_ge cut (encode shape row).length with hinside | hbehind
      · have hle := Nat.le_of_lt hinside
        refine ⟨0, (encode shape row).take cut, Nat.zero_le _, ?_, ?_, ?_, nofun, ?_⟩
        · rw [List.flatMap_cons, List.take_append_of_le_length hle]
          rfl
        · rw [List.flatMap_cons, List.drop_append_of_le_length hle, ← List.append_assoc,
            List.take_append_drop]
          rfl
        · rw [List.length_take, Nat.min_eq_left hle]
          exact Nat.zero_add cut
        · intro first hfirst
          cases hfirst
          refine ⟨(encode shape row).drop cut, ?_, (List.take_append_drop _ _).symm⟩
          rw [Ne, List.drop_eq_nil_iff]
          exact Nat.not_le.mpr hinside
      · obtain ⟨later, rfl⟩ := Nat.exists_eq_add_of_le hbehind
        obtain ⟨whole, part, hin⟩ := ih (Nat.le_of_add_le_add_left hcut)
        refine ⟨whole + 1, part, Nat.succ_le_succ hin.whole_le, ?_, ?_, ?_, ?_, ?_⟩
        · rw [List.flatMap_cons, List.take_length_add_append, hin.take_cut, List.take_succ_cons,
            List.flatMap_cons, List.append_assoc]
        · rw [List.flatMap_cons, List.drop_length_add_append, hin.drop_cut]
          rfl
        · rw [offset_cons_succ, Nat.add_assoc, hin.offset_add]
        · intro hlast
          exact hin.part_eq_nil (Nat.succ.inj hlast)
        · exact hin.incomplete

namespace CutIn

variable {rows : List Row} {cut whole : Nat} {part : List UInt8}

/-- The row behind the cut ends behind it. -/
theorem cut_lt (hin : CutIn shape rows cut whole part) (hmore : whole < rows.length) :
    cut < offset shape rows (whole + 1) := by
  have hrow := List.getElem?_eq_getElem hmore
  obtain ⟨behind, hbehind, hencode⟩ := hin.incomplete _ hrow
  have hpos := List.length_pos_iff.mpr hbehind
  have hoffset := hin.offset_add
  rw [offset_succ hrow, hencode, List.length_append]
  omega

/-- The rows in front of the cut are those that end in front of it. -/
theorem offset_le_iff (hin : CutIn shape rows cut whole part) {position : Nat}
    (hposition : position < rows.length) :
    offset shape rows (position + 1) ≤ cut ↔ position < whole := by
  have hoffset := hin.offset_add
  constructor
  · intro hends
    by_contra hbehind
    have hcut := hin.cut_lt (by omega)
    have hmono := offset_mono shape rows (show whole + 1 ≤ position + 1 by omega)
    omega
  · intro hfront
    have hmono := offset_mono shape rows (show position + 1 ≤ whole from hfront)
    omega

/-- The cut is between two rows, or at an end of the body, exactly if there is no
part of a row in front of it. -/
theorem exists_offset_iff (hin : CutIn shape rows cut whole part) :
    (∃ position ≤ rows.length, offset shape rows position = cut) ↔ part = [] := by
  have hoffset := hin.offset_add
  constructor
  · rintro ⟨position, hposition, heq⟩
    rcases Nat.lt_or_ge whole position with hbehind | hfront
    · have hcut := hin.cut_lt (by omega)
      have hmono := offset_mono shape rows (show whole + 1 ≤ position from hbehind)
      omega
    · have hmono := offset_mono shape rows hfront
      exact List.length_eq_zero_iff.mp (by omega)
  · rintro rfl
    exact ⟨whole, hin.whole_le, hoffset⟩

/-- The bytes of a row that end early are no row, and no fault is found in them. -/
theorem read_part (hin : CutIn shape rows cut whole part)
    (hfits : ∀ row ∈ rows, row.Fits shape) : read shape part = .short := by
  rcases Nat.lt_or_eq_of_le hin.whole_le with hmore | hlast
  · have hrow := List.getElem?_eq_getElem hmore
    obtain ⟨behind, hbehind, hencode⟩ := hin.incomplete _ hrow
    have hreads := reads_encode (hfits _ (List.getElem_mem hmore))
    rw [hencode] at hreads
    exact hreads.short_of_steady (steady_read shape) hbehind
  · rw [hin.part_eq_nil hlast]
    exact read_nil shape

theorem drop_offset (hin : CutIn shape rows cut whole part) :
    ((rows.flatMap (encode shape)).take cut).drop (offset shape rows whole) = part := by
  rw [hin.take_cut, offset, List.drop_left]

end CutIn

end Row

/-- Bytes behind some that are read as rows wait until the rows are drained. -/
theorem Decoder.drain_append_of_reads {shape : RowShape} {items : List α}
    {encode : α → List UInt8} {row : α → Row}
    (hreads : ∀ item ∈ items, Reader.Reads (Row.read shape) (encode item) (row item))
    (behind : List UInt8) (atEnd : Bool) (count : Nat) :
    (Decoder.mk shape (items.flatMap encode ++ behind) count).drain atEnd =
      (items.map row ++ ((Decoder.mk shape behind (count + items.length)).drain atEnd).1,
        ((Decoder.mk shape behind (count + items.length)).drain atEnd).2) := by
  have hfeed := drain_feed ⟨shape, items.flatMap encode, count⟩ behind atEnd
  rw [drain_of_reads hreads] at hfeed
  exact hfeed

namespace Row.CutIn

variable {shape : RowShape} {rows : List Row} {cut whole : Nat} {part : List UInt8}

theorem drain (hin : CutIn shape rows cut whole part) (hfits : ∀ row ∈ rows, row.Fits shape)
    (atEnd : Bool) :
    ((Decoder.new shape).feed ((rows.flatMap (encode shape)).take cut)).drain atEnd =
      ((rows.take whole).map (carried shape) ++ ((Decoder.mk shape part whole).drain atEnd).1,
        ((Decoder.mk shape part whole).drain atEnd).2) := by
  have hreads (row : Row) (hrow : row ∈ rows.take whole) :=
    reads_encode (hfits row (List.mem_of_mem_take hrow))
  have hdrain := Decoder.drain_append_of_reads hreads part atEnd 0
  rw [Nat.zero_add, List.length_take, Nat.min_eq_left hin.whole_le, ← hin.take_cut] at hdrain
  exact hdrain

/-- While more input may come, the part of a row waits for its end. -/
theorem drain_false (hin : CutIn shape rows cut whole part)
    (hfits : ∀ row ∈ rows, row.Fits shape) :
    ((Decoder.new shape).feed ((rows.flatMap (encode shape)).take cut)).drain false =
      ((rows.take whole).map (carried shape), none, ⟨shape, part, whole⟩) := by
  rw [hin.drain hfits, Decoder.drain_of_none (Decoder.next_of_short (hin.read_part hfits)),
    List.append_nil]

theorem decodeAtOnce_of_nil (hin : CutIn shape rows cut whole [])
    (hfits : ∀ row ∈ rows, row.Fits shape) :
    ∃ stats, Body.decodeAtOnce shape ((rows.flatMap (encode shape)).take cut) =
      ((rows.take whole).map (carried shape), .ok stats) := by
  have hempty : (Decoder.mk shape [] whole).drain true = ([], none, ⟨shape, [], whole⟩) :=
    Decoder.drain_of_none rfl
  rw [Body.decodeAtOnce, hin.drain hfits, hempty]
  simp only [List.append_nil]
  exact ⟨_, rfl⟩

/-- The end of a body within a row is an error that shows the part that is there. -/
theorem decodeAtOnce_of_part (hin : CutIn shape rows cut whole part)
    (hfits : ∀ row ∈ rows, row.Fits shape) (hpart : part ≠ []) :
    Body.decodeAtOnce shape ((rows.flatMap (encode shape)).take cut) =
      ((rows.take whole).map (carried shape), .error (.decode
        ⟨s!"row {whole} truncated: input ended with {part.length} byte(s) buffered",
          part.take 4096⟩)) := by
  let waiting : Decoder := ⟨shape, part, whole⟩
  have hnext := @Decoder.next_of_short_atEnd waiting hpart (hin.read_part hfits)
  have hshown : part.take (min part.length Decoder.maxErrorBytes) = part.take 4096 := by
    rw [Nat.min_comm, ← List.take_take, List.take_length]
    rfl
  rw [Body.decodeAtOnce, hin.drain hfits, Decoder.drain_of_error hnext]
  simp only [waiting, Decoder.malformed, Decoder.buffered, hshown, List.append_nil]

end Row.CutIn

theorem Reception.finish_of_empty {reception : Reception}
    (hempty : reception.decoder.buffer = []) : reception.finish = (reception, none) := by
  have hnext : reception.decoder.next true = (.ok none, reception.decoder) := by
    rw [Decoder.next, hempty]
    rfl
  simp only [finish, drain, Decoder.drain_of_none hnext, List.append_nil]

namespace Body

/-- However a body of encoded rows is cut off and wherever it is cut into chunks, it
delivers the rows that end in front of the cut. It is accepted exactly if the cut is
between two rows or at an end of the body; otherwise the error names the row that
the cut is in and the number of its bytes in front of the cut, and shows the first
of them. While the input has not ended, the decoder waits for the rest, and delivers
the other rows when it comes. -/
theorem decode_cut (shape : RowShape) {rows : List Row} {cut : Nat} {chunks : List (List UInt8)}
    (hfits : ∀ row ∈ rows, row.Fits shape)
    (hcut : cut ≤ (rows.flatMap (Row.encode shape)).length)
    (hchunks : chunks.flatten = (rows.flatMap (Row.encode shape)).take cut) :
    ∃ whole ≤ rows.length,
      (∀ position < rows.length,
        Row.offset shape rows (position + 1) ≤ cut ↔ position < whole) ∧
      (decode shape ⟨chunks, none⟩).1 = (rows.take whole).map (Row.carried shape) ∧
      ((∃ stats, (decode shape ⟨chunks, none⟩).2 = .ok stats) ↔
        ∃ position ≤ rows.length, Row.offset shape rows position = cut) ∧
      ((¬ ∃ position ≤ rows.length, Row.offset shape rows position = cut) →
        let left := chunks.flatten.drop (Row.offset shape rows whole)
        (decode shape ⟨chunks, none⟩).2 = .error (.decode
          ⟨s!"row {whole} truncated: input ended with {left.length} byte(s) buffered",
            left.take 4096⟩)) ∧
      ∃ waiting, (Reception.start shape).acceptAll chunks = (waiting, none) ∧
        waiting.delivered = (rows.take whole).map (Row.carried shape) ∧
        waiting.decoder.next false = (.ok none, waiting.decoder) ∧
        ∀ more : List (List UInt8),
          more.flatten = (rows.flatMap (Row.encode shape)).drop cut →
          ∃ last, waiting.acceptAll more = (last, none) ∧
            last.delivered = waiting.delivered ++ (rows.drop whole).map (Row.carried shape) ∧
            last.finish = (last, none) ∧ last.decoder.buffered = 0 := by
  obtain ⟨whole, part, hin⟩ := Row.exists_cutIn shape hcut
  rw [decode_eq_answer, answer_none, hchunks]
  refine ⟨whole, hin.whole_le, fun position => hin.offset_le_iff, ?_, ?_, ?_, ?_⟩
  · by_cases hpart : part = []
    · subst hpart
      obtain ⟨stats, hstats⟩ := hin.decodeAtOnce_of_nil hfits
      rw [hstats]
    · rw [hin.decodeAtOnce_of_part hfits hpart]
  · rw [hin.exists_offset_iff]
    constructor
    · rintro ⟨stats, hstats⟩
      by_contra hpart
      rw [hin.decodeAtOnce_of_part hfits hpart] at hstats
      cases hstats
    · rintro rfl
      obtain ⟨stats, hstats⟩ := hin.decodeAtOnce_of_nil hfits
      exact ⟨stats, congrArg Prod.snd hstats⟩
  · rw [hin.exists_offset_iff, hin.drop_offset]
    intro hpart
    rw [hin.decodeAtOnce_of_part hfits hpart]
  · have hdrain := hin.drain_false hfits
    rw [← hchunks] at hdrain
    obtain ⟨waiting, hwaiting, hdelivered, hstate⟩ :=
      Reception.acceptAll_eq_drain (Reception.settled_start shape) hdrain
    obtain ⟨hdecoder, -⟩ := hstate rfl
    have hnext : waiting.decoder.next false = (.ok none, waiting.decoder) := by
      rw [hdecoder]
      exact Decoder.next_of_short (hin.read_part hfits)
    refine ⟨waiting, hwaiting, hdelivered, hnext, ?_⟩
    intro more hmore
    have hfeed : waiting.decoder.feed more.flatten =
        ⟨shape, (rows.drop whole).flatMap (Row.encode shape), whole⟩ := by
      rw [hdecoder, hmore, Decoder.feed, hin.drop_cut]
    have hfitsRest : ∀ row ∈ rows.drop whole, row.Fits shape :=
      fun row hrow => hfits row (List.mem_of_mem_drop hrow)
    have hrest := Decoder.drain_encode hfitsRest false whole
    rw [← hfeed] at hrest
    obtain ⟨last, hlast, hall, hempty⟩ :=
      Reception.acceptAll_eq_drain (Decoder.drain_of_none hnext) hrest
    obtain ⟨hdecoder, -⟩ := hempty rfl
    refine ⟨last, hlast, hall, Reception.finish_of_empty ?_, ?_⟩
    · rw [hdecoder]
    · rw [hdecoder]
      rfl

/-- A body that ends within the length of a name: the byte that is there is not
taken for a shorter length. -/
theorem decode_cut_in_length :
    let first : Row := ⟨[0x61], [60], [⟨0x3ff0000000000000⟩], []⟩
    let rows : List Row := [first, ⟨List.replicate 128 0x62, [], [], []⟩]
    let chunks : List (List UInt8) :=
      [[1], [0x61, 1, 60, 0, 0, 0, 1, 0, 0, 0, 0, 0, 0, 0xf0, 0x3f, 0x80]]
    (∀ row ∈ rows, row.Fits .aggregated) ∧
      17 ≤ (rows.flatMap (Row.encode .aggregated)).length ∧
      chunks.flatten = (rows.flatMap (Row.encode .aggregated)).take 17 ∧
      decode .aggregated ⟨chunks, none⟩ = ([first], .error (.decode
        ⟨"row 1 truncated: input ended with 1 byte(s) buffered", [0x80]⟩)) := by
  intro first rows chunks
  have hfits : ∀ row ∈ rows, row.Fits .aggregated := by
    intro row hrow
    simp only [rows, List.mem_cons, List.not_mem_nil, or_false] at hrow
    rcases hrow with rfl | rfl
    · exact ⟨by decide, by decide, rfl, nofun⟩
    · exact ⟨by decide +kernel, by decide, rfl, nofun⟩
  have hcut : 17 ≤ (rows.flatMap (Row.encode .aggregated)).length := by decide +kernel
  have hchunks : chunks.flatten = (rows.flatMap (Row.encode .aggregated)).take 17 := by
    decide +kernel
  refine ⟨hfits, hcut, hchunks, ?_⟩
  obtain ⟨whole, -, hends, hrows, -, herror, -⟩ :=
    decode_cut .aggregated hfits hcut hchunks
  have hfirst : 0 < whole := (hends 0 (by decide)).mp (by decide +kernel)
  have hsecond : ¬ 1 < whole := fun hwhole =>
    absurd ((hends 1 (by decide)).mpr hwhole) (by decide +kernel)
  obtain rfl : whole = 1 := by omega
  have hinside : ¬ ∃ position ≤ rows.length, Row.offset .aggregated rows position = 17 := by
    decide +kernel
  have hleft : chunks.flatten.drop (Row.offset .aggregated rows 1) = [0x80] := by decide +kernel
  have hcause := herror hinside
  rw [hleft] at hcause
  exact Prod.ext hrows hcause

end Body

end SeriesGateway.Wire
