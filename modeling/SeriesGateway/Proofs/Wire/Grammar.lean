import Mathlib.Data.List.Basic
import SeriesGateway.Proofs.Wire.Numeral
import SeriesGateway.Proofs.Wire.RoundTrip

/-! # Decoding accepts the row grammar

The grammar of bodies is unambiguous, and a body is decoded exactly when it
follows the grammar; the rows are those that are written in it. Encoding them
again gives the shortest body with these rows.
-/

namespace SeriesGateway.Wire

variable {α β : Type} {shape : RowShape}

/-! ## What readers find -/

namespace Reader

/-- The reader only takes bytes that spell the value it finds. -/
def Finds (reader : Reader α) (Spells : List UInt8 → α → Prop) : Prop :=
  ∀ bytes value rest, reader bytes = .ready value rest →
    ∃ taken, bytes = taken ++ rest ∧ Spells taken value

theorem finds_take (count : Nat) :
    Finds (take count) fun taken value => taken = value ∧ value.length = count := by
  intro bytes value rest hread
  unfold take at hread
  split at hread
  next hsplit =>
    cases hread
    obtain ⟨hbytes, hlength⟩ := splitExact_eq_some hsplit
    exact ⟨_, hbytes, rfl, hlength⟩
  next => cases hread

theorem littleEndian_ofLittleEndian (bytes : List UInt8) :
    littleEndian bytes.length (ofLittleEndian bytes) = bytes := by
  induction bytes with
  | nil => rfl
  | cons b bytes ih =>
      have hlt := b.toNat_lt
      have hlow : (b.toNat + 256 * ofLittleEndian bytes) % 256 = b.toNat := by omega
      have hhigh : (b.toNat + 256 * ofLittleEndian bytes) / 256 = ofLittleEndian bytes := by omega
      rw [List.length_cons, ofLittleEndian, littleEndian, hlow, hhigh, ih, UInt8.ofNat_toNat]

theorem ofLittleEndian_lt (bytes : List UInt8) : ofLittleEndian bytes < 256 ^ bytes.length := by
  induction bytes with
  | nil => simp [ofLittleEndian]
  | cons b bytes ih =>
      have hlt := b.toNat_lt
      rw [ofLittleEndian, List.length_cons, Nat.pow_succ]
      omega

theorem finds_word (width : Nat) :
    Finds (word width) fun taken value =>
      taken = littleEndian width value ∧ value < 256 ^ width := by
  intro bytes value rest hread
  obtain ⟨taken, middle, htake, hpure⟩ := bind_eq_ready hread
  cases hpure
  obtain ⟨taken, hbytes, rfl, rfl⟩ := finds_take width _ _ _ htake
  exact ⟨taken, hbytes, (littleEndian_ofLittleEndian taken).symm, ofLittleEndian_lt taken⟩

theorem Finds.replicate {reader : Reader α} {encode : α → List UInt8} {Fits : α → Prop}
    (hreader : Finds reader fun taken value => taken = encode value ∧ Fits value) (count : Nat) :
    Finds (reader.replicate count) fun taken values =>
      taken = values.flatMap encode ∧ values.length = count ∧ ∀ value ∈ values, Fits value := by
  induction count with
  | zero =>
      intro bytes values rest hread
      cases hread
      exact ⟨[], rfl, rfl, rfl, by simp⟩
  | succ count ih =>
      intro bytes values rest hread
      obtain ⟨value, middle, hvalue, hread⟩ := bind_eq_ready hread
      obtain ⟨others, behind, hothers, hpure⟩ := bind_eq_ready hread
      cases hpure
      obtain ⟨taken, rfl, rfl, hfits⟩ := hreader _ _ _ hvalue
      obtain ⟨more, rfl, rfl, hlength, hall⟩ := ih _ _ _ hothers
      refine ⟨encode value ++ others.flatMap encode, (List.append_assoc _ _ _).symm, rfl, ?_, ?_⟩
      · rw [List.length_cons, hlength]
      · exact List.forall_mem_cons.mpr ⟨hfits, hall⟩

theorem finds_words (field : Field) (width count : Nat) :
    Finds (words field width count) fun taken values =>
      taken = values.flatMap (littleEndian width) ∧ values.length = count ∧
        ∀ value ∈ values, value < 256 ^ width := by
  intro bytes values rest hread
  unfold words at hread
  split at hread
  next => exact (finds_word width).replicate count _ _ _ hread
  next => cases hread

end Reader

/-! ## Arrays -/

namespace WordCoding

variable (coding : WordCoding α)

theorem map_ofNat_toNat (values : List α) :
    (values.map coding.toNat).map coding.ofNat = values := by
  rw [List.map_map]
  exact List.map_id'' coding.ofNat_toNat values

theorem flatMap_bytes_ofNat {numbers : List Nat}
    (hnumbers : ∀ number ∈ numbers, number < 256 ^ coding.width) :
    (numbers.map coding.ofNat).flatMap coding.bytes =
      numbers.flatMap (littleEndian coding.width) := by
  rw [List.flatMap_map]
  apply List.flatMap_congr
  intro number hnumber
  rw [bytes, coding.toNat_ofNat number (hnumbers number hnumber)]

theorem flatMap_bytes_eq (values : List α) :
    values.flatMap coding.bytes =
      (values.map coding.toNat).flatMap (littleEndian coding.width) := by
  rw [List.flatMap_map]
  rfl

/-- A value ends where its width ends, whatever follows. -/
theorem append_inj {first second : α} {rest others : List UInt8}
    (h : coding.bytes first ++ rest = coding.bytes second ++ others) :
    first = second ∧ rest = others := by
  have hlength : (coding.bytes first).length = (coding.bytes second).length := by
    simp only [bytes, littleEndian_length]
  obtain ⟨hbytes, hrest⟩ := List.append_inj h hlength
  have hnumbers := congrArg ofLittleEndian hbytes
  rw [bytes, bytes, ofLittleEndian_littleEndian (coding.toNat_lt first),
    ofLittleEndian_littleEndian (coding.toNat_lt second)] at hnumbers
  refine ⟨?_, hrest⟩
  rw [← coding.ofNat_toNat first, hnumbers, coding.ofNat_toNat]

theorem length_flatMap_bytes (values : List α) :
    (values.flatMap coding.bytes).length = values.length * coding.width := by
  simp [List.length_flatMap, bytes, littleEndian_length]

theorem reads_words (field : Field) {values : List α}
    (hsize : values.length * coding.width < memoryLimit) :
    Reader.Reads (Reader.words field coding.width values.length) (values.flatMap coding.bytes)
      (values.map coding.toNat) := by
  have hnumbers : ∀ number ∈ values.map coding.toNat, number < 256 ^ coding.width := by
    intro number hnumber
    obtain ⟨value, -, rfl⟩ := List.mem_map.mp hnumber
    exact coding.toNat_lt value
  have hreads := Reader.reads_words field (by rwa [List.length_map]) hnumbers
  rwa [List.length_map, ← flatMap_bytes_eq] at hreads

/-- An array is read from any spelling of its count. -/
theorem reads_part (field : Field) {counted : Counted α} {times : Nat}
    (htimes : counted.elements.length = times) (hsize : times * coding.width < memoryLimit) :
    Reader.Reads (Reader.parallelWords field coding.width times)
      (counted.part coding.bytes).bytes (counted.elements.map coding.toNat) := by
  subst htimes
  apply counted.count.reads_bytes.bind
  rw [counted.value_count, if_pos rfl]
  exact coding.reads_words field hsize

/-- Words behind a numeral make an array with the numeral as its count. -/
theorem exists_counted_of_words {field : Field} {count : Numeral} {bytes rest : List UInt8}
    {numbers : List Nat}
    (hread : Reader.words field coding.width count.value bytes = .ready numbers rest) :
    ∃ counted : Counted α, count.bytes ++ bytes = (counted.part coding.bytes).bytes ++ rest ∧
      counted.elements = numbers.map coding.ofNat ∧ counted.elements.length = count.value := by
  obtain ⟨taken, rfl, rfl, hlength, hbound⟩ := Reader.finds_words _ _ _ _ _ _ hread
  have hcount : count.value = (numbers.map coding.ofNat).length := by
    rw [List.length_map, hlength]
  refine ⟨⟨count, numbers.map coding.ofNat, hcount⟩, ?_, rfl, hcount.symm⟩
  rw [Part.bytes, Counted.part, coding.flatMap_bytes_ofNat hbound, List.append_assoc]

/-- What is read as an array of a length is one. -/
theorem exists_counted_of_parallelWords {field : Field} {times : Nat} {bytes rest : List UInt8}
    {numbers : List Nat}
    (hread : Reader.parallelWords field coding.width times bytes = .ready numbers rest) :
    ∃ counted : Counted α, bytes = (counted.part coding.bytes).bytes ++ rest ∧
      counted.elements = numbers.map coding.ofNat ∧ counted.elements.length = times := by
  obtain ⟨count, middle, hcount, hread⟩ := Reader.bind_eq_ready hread
  obtain ⟨numeral, rfl, rfl⟩ := Numeral.exists_of_read hcount
  split at hread
  next hparallel =>
    obtain ⟨counted, hbytes, helements, hlength⟩ := coding.exists_counted_of_words hread
    exact ⟨counted, hbytes, helements, hlength.trans hparallel⟩
  next => cases hread

end WordCoding

/-! ## One row -/

namespace WrittenRow

theorem timestamps_aggregated (written : WrittenRow .aggregated) : written.timestamps = none := by
  rw [← Option.not_isSome_iff_eq_none, written.isSome_timestamps]
  exact nofun

theorem exists_timestamps (written : WrittenRow .unaggregated) :
    ∃ stamps, written.timestamps = some stamps :=
  Option.isSome_iff_exists.mp (written.isSome_timestamps.mpr rfl)

theorem bytes_eq_append (written : WrittenRow shape) :
    written.bytes = written.name.count.bytes ++ (written.name.elements ++
      (written.times.count.bytes ++ (written.times.elements.flatMap WordCoding.time.bytes ++
        ((written.values.part WordCoding.sample.bytes).bytes ++
          written.timestamps.toList.flatMap fun stamps =>
            (stamps.part WordCoding.time.bytes).bytes)))) := by
  simp [bytes, parts, Part.bytes, Counted.part, List.flatMap_map]

/-- A written row is read as the row that is written, if its arrays fit in memory. -/
theorem reads_bytes (written : WrittenRow shape)
    (hsize : written.times.elements.length * 8 < memoryLimit) :
    Reader.Reads (Row.read shape) written.bytes written.row := by
  rw [bytes_eq_append]
  apply written.name.count.reads_bytes.bind
  rw [written.name.value_count]
  apply (Reader.reads_take written.name.elements).bind
  apply written.times.count.reads_bytes.bind
  rw [written.times.value_count]
  have htimes : written.times.elements.length * 4 < memoryLimit := by omega
  apply (WordCoding.time.reads_words .times htimes).bind
  apply (WordCoding.sample.reads_part .values written.length_values hsize).bind
  -- times and values come back from the numbers that were read
  have hrow (stamps : List UInt32) : (⟨written.name.elements,
      (written.times.elements.map WordCoding.time.toNat).map WordCoding.time.ofNat,
      (written.values.elements.map WordCoding.sample.toNat).map WordCoding.sample.ofNat,
      stamps⟩ : Row) =
      ⟨written.name.elements, written.times.elements, written.values.elements, stamps⟩ := by
    rw [WordCoding.map_ofNat_toNat, WordCoding.map_ofNat_toNat]
  cases shape with
  | aggregated =>
      rw [row, written.timestamps_aggregated]
      exact (hrow []) ▸ Reader.reads_pure _
  | unaggregated =>
      obtain ⟨stamps, hstamps⟩ := written.exists_timestamps
      have hresult := (WordCoding.time.reads_part .timestamps
        (written.length_timestamps stamps hstamps) htimes).result fun numbers =>
          (⟨written.name.elements,
            (written.times.elements.map WordCoding.time.toNat).map WordCoding.time.ofNat,
            (written.values.elements.map WordCoding.sample.toNat).map WordCoding.sample.ofNat,
            numbers.map WordCoding.time.ofNat⟩ : Row)
      rw [hrow, WordCoding.time.map_ofNat_toNat stamps.elements] at hresult
      rw [row, hstamps, Option.toList_some, List.flatMap_singleton]
      exact hresult

/-- Behind a name, what is read as arrays completes a written row. -/
theorem exists_of_readArrays (name : Counted UInt8) {bytes rest : List UInt8} {row : Row}
    (hread : Row.readArrays shape name.elements bytes = .ready row rest) :
    ∃ written : WrittenRow shape, name.count.bytes ++ (name.elements ++ bytes) =
      written.bytes ++ rest ∧ written.row = row := by
  obtain ⟨count, afterCount, hcount, hcounted⟩ := Reader.bind_eq_ready hread
  obtain ⟨numeral, rfl, rfl⟩ := Numeral.exists_of_read hcount
  obtain ⟨timeNumbers, afterTimes, htimes, hbehindTimes⟩ := Reader.bind_eq_ready hcounted
  obtain ⟨times, hbytes, helements, hlength⟩ := WordCoding.time.exists_counted_of_words htimes
  obtain ⟨valueNumbers, afterValues, hvalues, hbehindValues⟩ := Reader.bind_eq_ready hbehindTimes
  obtain ⟨values, rfl, hsamples, hparallel⟩ :=
    WordCoding.sample.exists_counted_of_parallelWords hvalues
  rw [hbytes]
  cases shape with
  | aggregated =>
      cases hbehindValues
      refine ⟨⟨name, times, values, none, hparallel.trans hlength.symm, by simp, by simp⟩, ?_, ?_⟩
      · simp [WrittenRow.bytes, parts, Part.bytes, Counted.part]
      · simp [WrittenRow.row, helements, hsamples, WordCoding.time, WordCoding.sample]
  | unaggregated =>
      obtain ⟨stampNumbers, afterStamps, hstamps, hpure⟩ := Reader.bind_eq_ready hbehindValues
      cases hpure
      obtain ⟨stamps, rfl, hversions, hstamped⟩ :=
        WordCoding.time.exists_counted_of_parallelWords hstamps
      refine ⟨⟨name, times, values, some stamps, hparallel.trans hlength.symm, by simp, ?_⟩, ?_, ?_⟩
      · rintro other hother
        cases hother
        exact hstamped.trans hlength.symm
      · simp [WrittenRow.bytes, parts, Part.bytes, Counted.part]
      · simp [WrittenRow.row, helements, hsamples, hversions, WordCoding.time, WordCoding.sample]

/-- What is read as a row is a written row. -/
theorem exists_of_read {bytes rest : List UInt8} {row : Row}
    (hread : Row.read shape bytes = .ready row rest) :
    ∃ written : WrittenRow shape, bytes = written.bytes ++ rest ∧ written.row = row := by
  obtain ⟨length, afterLength, hlength, hnamed⟩ := Reader.bind_eq_ready hread
  obtain ⟨numeral, rfl, rfl⟩ := Numeral.exists_of_read hlength
  obtain ⟨name, afterName, hname, harrays⟩ := Reader.bind_eq_ready hnamed
  obtain ⟨taken, rfl, rfl, hcount⟩ := Reader.finds_take _ _ _ _ hname
  exact exists_of_readArrays ⟨numeral, taken, hcount.symm⟩ harrays

end WrittenRow

/-! ## Unambiguity -/

/-- Elements whose encodings end where they end can be told apart in sequence. -/
theorem flatMap_append_inj {encode : α → List UInt8}
    (hencode : ∀ {x y : α} {rest others}, encode x ++ rest = encode y ++ others →
      x = y ∧ rest = others)
    {first second : List α} (hlength : first.length = second.length) {rest others : List UInt8}
    (h : first.flatMap encode ++ rest = second.flatMap encode ++ others) :
    first = second ∧ rest = others := by
  induction first generalizing second with
  | nil =>
      obtain rfl := List.length_eq_zero_iff.mp hlength.symm
      exact ⟨rfl, h⟩
  | cons x first ih =>
      cases second with
      | nil => cases hlength
      | cons y second =>
          simp only [List.flatMap_cons, List.append_assoc] at h
          obtain ⟨rfl, hbehind⟩ := hencode h
          obtain ⟨rfl, hrest⟩ := ih (Nat.succ.inj hlength) hbehind
          exact ⟨rfl, hrest⟩

theorem Counted.append_inj {encode : α → List UInt8}
    (hencode : ∀ {x y : α} {rest others}, encode x ++ rest = encode y ++ others →
      x = y ∧ rest = others)
    {first second : Counted α} {rest others : List UInt8}
    (h : (first.part encode).bytes ++ rest = (second.part encode).bytes ++ others) :
    first = second ∧ rest = others := by
  simp only [part, Part.bytes, List.append_assoc] at h
  obtain ⟨hcount, hbehind⟩ := Numeral.append_inj h
  have hlength : first.elements.length = second.elements.length := by
    rw [← first.value_count, ← second.value_count, hcount]
  obtain ⟨helements, hrest⟩ := flatMap_append_inj hencode hlength hbehind
  refine ⟨?_, hrest⟩
  cases first
  cases second
  cases hcount
  cases helements
  rfl

namespace WrittenRow

/-- A row ends where it ends, whatever follows. -/
theorem append_inj {first second : WrittenRow shape} {rest others : List UInt8}
    (h : first.bytes ++ rest = second.bytes ++ others) : first = second ∧ rest = others := by
  have hbyte {x y : UInt8} {rest others : List UInt8} (h : [x] ++ rest = [y] ++ others) :
      x = y ∧ rest = others := List.cons.inj h
  simp only [bytes, parts, List.flatMap_append, List.flatMap_cons, List.flatMap_nil,
    List.append_nil, List.append_assoc] at h
  obtain ⟨hname, h⟩ := Counted.append_inj hbyte h
  obtain ⟨htimes, h⟩ := Counted.append_inj WordCoding.time.append_inj h
  obtain ⟨hvalues, h⟩ := Counted.append_inj WordCoding.sample.append_inj h
  have hstamps : first.timestamps = second.timestamps ∧ rest = others := by
    cases shape with
    | aggregated =>
        rw [first.timestamps_aggregated, second.timestamps_aggregated] at h ⊢
        exact ⟨rfl, h⟩
    | unaggregated =>
        obtain ⟨stamps, hfirst⟩ := first.exists_timestamps
        obtain ⟨otherStamps, hsecond⟩ := second.exists_timestamps
        rw [hfirst, hsecond] at h ⊢
        simp only [Option.toList_some, List.map_cons, List.map_nil, List.flatMap_cons,
          List.flatMap_nil, List.append_nil] at h
        obtain ⟨rfl, hrest⟩ := Counted.append_inj WordCoding.time.append_inj h
        exact ⟨rfl, hrest⟩
  refine ⟨?_, hstamps.2⟩
  cases first
  cases second
  cases hname
  cases htimes
  cases hvalues
  cases hstamps.1
  rfl

theorem bytes_ne_nil (written : WrittenRow shape) : written.bytes ≠ [] := by
  rw [bytes_eq_append]
  simp [Numeral.bytes]

/-- A body is a concatenation of rows in at most one way. -/
theorem flatMap_bytes_inj {first second : List (WrittenRow shape)}
    (h : first.flatMap bytes = second.flatMap bytes) : first = second := by
  induction first generalizing second with
  | nil =>
      cases second with
      | nil => rfl
      | cons written second =>
          rw [List.flatMap_cons, List.flatMap_nil, eq_comm, List.append_eq_nil_iff] at h
          exact absurd h.1 written.bytes_ne_nil
  | cons written first ih =>
      cases second with
      | nil =>
          rw [List.flatMap_cons, List.flatMap_nil, List.append_eq_nil_iff] at h
          exact absurd h.1 written.bytes_ne_nil
      | cons other second =>
          rw [List.flatMap_cons, List.flatMap_cons] at h
          obtain ⟨rfl, hrest⟩ := append_inj h
          rw [ih hrest]

end WrittenRow

/-! ## Writing again -/

/-- The part with its count spelled as short as possible. -/
def Part.shortest (part : Part) : List UInt8 := Varint.encode part.count.value ++ part.contents

namespace Part

/-- Shortest spellings make parts no longer, and leave them as they are only if
their counts are as short as possible already. -/
theorem flatMap_shortest (parts : List Part) :
    (parts.flatMap shortest).length ≤ (parts.flatMap bytes).length ∧
      (parts.flatMap shortest = parts.flatMap bytes ↔ ∀ part ∈ parts, part.count.IsMinimal) := by
  induction parts with
  | nil => simp
  | cons part parts ih =>
      obtain ⟨hrest, hiff⟩ := ih
      have hcount := part.count.length_encode_le
      rw [List.flatMap_cons, List.flatMap_cons, List.length_append, List.length_append]
      refine ⟨?_, ?_⟩
      · simp only [shortest, bytes, List.length_append]
        omega
      · rw [List.forall_mem_cons, ← hiff]
        constructor
        · intro heq
          have hlengths := congrArg List.length heq
          simp only [shortest, bytes, List.length_append] at hlengths
          have hminimal := part.count.isMinimal_of_length_le (by omega)
          have hsame : part.shortest = part.bytes := by
            rw [shortest, bytes, part.count.encode_value_of_isMinimal hminimal]
          rw [hsame] at heq
          exact ⟨hminimal, List.append_cancel_left heq⟩
        · rintro ⟨hminimal, hparts⟩
          rw [hparts, shortest, bytes, part.count.encode_value_of_isMinimal hminimal]

end Part

namespace WrittenRow

/-- Encoding what is written spells every count as short as possible. -/
theorem encode_row (written : WrittenRow shape) :
    Row.encode shape written.row = written.parts.flatMap Part.shortest := by
  have hname := written.name.value_count
  have htimes := written.times.value_count
  have hvalues := written.values.value_count
  cases shape with
  | aggregated =>
      simp [Row.encode, Row.encodeParts, Row.encodeArray, row, parts, Part.shortest, Counted.part,
        written.timestamps_aggregated, hname, htimes, hvalues, WordCoding.flatMap_bytes_eq,
        WordCoding.time, WordCoding.sample]
  | unaggregated =>
      obtain ⟨stamps, hstamps⟩ := written.exists_timestamps
      simp [Row.encode, Row.encodeParts, Row.encodeArray, row, parts, Part.shortest, Counted.part,
        hstamps, hname, htimes, hvalues, stamps.value_count, WordCoding.flatMap_bytes_eq,
        WordCoding.time, WordCoding.sample]

theorem length_times_le (written : WrittenRow shape) :
    written.times.elements.length * 8 ≤ written.bytes.length := by
  have hvalues : (written.values.elements.flatMap WordCoding.sample.bytes).length =
      written.times.elements.length * 8 := by
    rw [WordCoding.length_flatMap_bytes, written.length_values]
    rfl
  rw [bytes_eq_append]
  simp only [Part.bytes, Counted.part, List.length_append, hvalues]
  omega

/-- A row that is written in a body fits in memory if the body does. -/
theorem length_times_lt {all : List (WrittenRow shape)} {written : WrittenRow shape}
    (hwritten : written ∈ all) (hmemory : (all.flatMap bytes).length < memoryLimit) :
    written.times.elements.length * 8 < memoryLimit := by
  obtain ⟨before, behind, rfl⟩ := List.append_of_mem hwritten
  have hle := written.length_times_le
  simp only [List.flatMap_append, List.flatMap_cons, List.length_append] at hmemory
  omega

theorem fits_row (written : WrittenRow shape)
    (hsize : written.times.elements.length * 8 < memoryLimit) : written.row.Fits shape := by
  refine ⟨?_, hsize, written.length_values, ?_⟩
  · rw [row, ← written.name.value_count]
    exact written.name.count.value_lt
  · rintro rfl
    obtain ⟨stamps, hstamps⟩ := written.exists_timestamps
    rw [row, hstamps]
    exact written.length_timestamps stamps hstamps

theorem carried_row (written : WrittenRow shape) : written.row.carried shape = written.row := by
  cases shape with
  | aggregated =>
      rw [row, written.timestamps_aggregated]
      rfl
  | unaggregated => rfl

end WrittenRow

/-! ## Bodies -/

/-- What drains without an error at the end of the input is a sequence of rows. -/
theorem Decoder.exists_of_drain {bytes : List UInt8} {count : Nat} {rows : List Row}
    {after : Decoder} (hdrain : (Decoder.mk shape bytes count).drain true = (rows, none, after)) :
    ∃ all : List (WrittenRow shape),
      bytes = all.flatMap WrittenRow.bytes ∧ rows = all.map WrittenRow.row := by
  -- by induction on the bytes, which each row makes fewer
  cases hread : Row.read shape bytes with
  | ready row rest =>
      have hshorter := Row.read_length_lt hread
      rw [drain_of_row (next_of_ready hread), Prod.mk.injEq] at hdrain
      obtain ⟨rfl, hothers⟩ := hdrain
      obtain ⟨written, rfl, rfl⟩ := WrittenRow.exists_of_read hread
      obtain ⟨all, hbytes, hrows⟩ := exists_of_drain (Prod.ext rfl hothers)
      refine ⟨written :: all, ?_, ?_⟩
      · rw [hbytes, List.flatMap_cons]
      · exact congrArg (List.cons written.row) hrows
  | short =>
      by_cases hempty : bytes = []
      · subst hempty
        rw [drain_of_none rfl] at hdrain
        cases hdrain
        exact ⟨[], rfl, rfl⟩
      · rw [drain_of_error (next_of_short_atEnd hempty hread)] at hdrain
        cases hdrain
  | invalid fault rest =>
      rw [drain_of_error (next_of_invalid hread)] at hdrain
      cases hdrain
termination_by bytes.length

namespace Body

theorem decodeAtOnce_eq_ok_iff {bytes : List UInt8} {rows : List Row} :
    (∃ stats, decodeAtOnce shape bytes = (rows, .ok stats)) ↔
      ∃ after, (Decoder.mk shape bytes 0).drain true = (rows, none, after) := by
  have hfeed : (Decoder.new shape).feed bytes = ⟨shape, bytes, 0⟩ := rfl
  rw [decodeAtOnce, hfeed]
  rcases (Decoder.mk shape bytes 0).drain true with ⟨found, error, after⟩
  cases error with
  | some error => simp
  | none => simp

/-- What a body is decoded to is written in it. -/
theorem exists_written_of_ok {body : Body} {rows : List Row} {stats : Stats}
    (hdecode : decode shape body = (rows, .ok stats)) :
    ∃ all : List (WrittenRow shape), rows = all.map WrittenRow.row := by
  obtain ⟨chunks, failure⟩ := body
  rw [decode_eq_answer] at hdecode
  cases failure with
  | none =>
      rw [answer_none] at hdecode
      obtain ⟨after, hdrain⟩ := decodeAtOnce_eq_ok_iff.mp ⟨stats, hdecode⟩
      obtain ⟨all, -, hrows⟩ := Decoder.exists_of_drain hdrain
      exact ⟨all, hrows⟩
  | some failure =>
      unfold answer at hdecode
      split at hdecode
      next => cases hdecode
      next => cases hdecode
      next hnone => cases hnone

/-- A body that fits in memory is decoded exactly if it is a concatenation of rows
of the grammar, and to the rows that are written in it; there is no second way to
see it as such a concatenation. Encoding the rows again gives a body with the same
rows that is no longer, and that is the same exactly if no count of the body could
be spelled shorter. -/
theorem decode_ok_iff_written (shape : RowShape) {chunks : List (List UInt8)}
    (hmemory : chunks.flatten.length < memoryLimit) :
    (∀ rows, (∃ stats, decode shape ⟨chunks, none⟩ = (rows, .ok stats)) ↔
      ∃ all : List (WrittenRow shape),
        chunks.flatten = all.flatMap WrittenRow.bytes ∧ rows = all.map WrittenRow.row) ∧
    (∀ first second : List (WrittenRow shape), chunks.flatten = first.flatMap WrittenRow.bytes →
      chunks.flatten = second.flatMap WrittenRow.bytes → first = second) ∧
    ∀ all : List (WrittenRow shape), chunks.flatten = all.flatMap WrittenRow.bytes →
      let rows := all.map WrittenRow.row
      let body := rows.flatMap (Row.encode shape)
      (∀ again : List (List UInt8), again.flatten = body →
        ∃ stats, decode shape ⟨again, none⟩ = (rows, .ok stats)) ∧
      body.length ≤ chunks.flatten.length ∧
      (body = chunks.flatten ↔ ∀ written ∈ all, written.IsMinimal) := by
  have hdecode (pieces : List (List UInt8)) (rows : List Row) :
      (∃ stats, decode shape ⟨pieces, none⟩ = (rows, .ok stats)) ↔
        ∃ after, (Decoder.mk shape pieces.flatten 0).drain true = (rows, none, after) := by
    rw [decode_eq_answer, answer_none, decodeAtOnce_eq_ok_iff]
  refine ⟨?_, ?_, ?_⟩
  · intro rows
    rw [hdecode]
    constructor
    · rintro ⟨after, hdrain⟩
      exact Decoder.exists_of_drain hdrain
    · rintro ⟨all, hbytes, rfl⟩
      rw [hbytes] at hmemory ⊢
      exact ⟨_, Decoder.drain_of_reads (fun written hwritten =>
        written.reads_bytes (WrittenRow.length_times_lt hwritten hmemory)) true 0⟩
  · intro first second hfirst hsecond
    exact WrittenRow.flatMap_bytes_inj (hfirst.symm.trans hsecond)
  · intro all hbytes rows body
    rw [hbytes] at hmemory
    obtain ⟨hlength, hiff⟩ := Part.flatMap_shortest (all.flatMap WrittenRow.parts)
    have hbody : body = (all.flatMap WrittenRow.parts).flatMap Part.shortest := by
      simp only [body, rows, List.flatMap_map, WrittenRow.encode_row, List.flatMap_assoc]
    have hparts : chunks.flatten = (all.flatMap WrittenRow.parts).flatMap Part.bytes := by
      rw [hbytes, List.flatMap_assoc]
      rfl
    refine ⟨?_, ?_, ?_⟩
    · intro again hagain
      rw [hdecode, hagain]
      have hfits : ∀ row ∈ rows, row.Fits shape := by
        intro row hrow
        obtain ⟨written, hwritten, rfl⟩ := List.mem_map.mp hrow
        exact written.fits_row (WrittenRow.length_times_lt hwritten hmemory)
      have hcarried : rows.map (Row.carried shape) = rows := by
        simp only [rows, List.map_map]
        exact List.map_congr_left fun written _ => written.carried_row
      have hdrain := Decoder.drain_encode hfits true 0
      rw [hcarried] at hdrain
      exact ⟨_, hdrain⟩
    · rw [hbody, hparts]
      exact hlength
    · rw [hbody, hparts, hiff, List.forall_mem_flatMap]
      rfl

/-- The length of a name with a group of zeros behind it, cut in between: the row is
decoded, and the body that is written for it is another one. -/
theorem decode_ok_iff_written_overlong_count :
    let chunks : List (List UInt8) :=
      [[0x81], [0x00, 0x61, 1, 60, 0, 0, 0, 1, 0, 0, 0, 0, 0, 0, 0xf0, 0x3f]]
    let row : Row := ⟨[0x61], [60], [⟨0x3ff0000000000000⟩], []⟩
    chunks.flatten.length < memoryLimit ∧
      (∃ stats, decode .aggregated ⟨chunks, none⟩ = ([row], .ok stats)) ∧
      (Row.encode .aggregated row).length ≤ chunks.flatten.length ∧
      Row.encode .aggregated row ≠ chunks.flatten := by
  intro chunks row
  let one : Numeral := ⟨[], 1, by simp, by decide, by decide, by decide⟩
  let overlong : Numeral := ⟨[0x81], 0, by simp, by decide, by decide, by decide⟩
  let written : WrittenRow .aggregated :=
    ⟨⟨overlong, [0x61], rfl⟩, ⟨one, [60], rfl⟩, ⟨one, [⟨0x3ff0000000000000⟩], rfl⟩, none,
      rfl, by simp, by simp⟩
  have hmemory : chunks.flatten.length < memoryLimit := by decide
  have hbytes : chunks.flatten = [written].flatMap WrittenRow.bytes := by decide +kernel
  obtain ⟨hdecode, -, hagain⟩ := decode_ok_iff_written .aggregated hmemory
  obtain ⟨-, hlength, hsame⟩ := hagain [written] hbytes
  have hrows : ([written].map WrittenRow.row).flatMap (Row.encode .aggregated) =
      Row.encode .aggregated row := List.flatMap_singleton _ row
  rw [hrows] at hlength hsame
  refine ⟨hmemory, (hdecode [row]).mpr ⟨[written], hbytes, rfl⟩, hlength, ?_⟩
  intro heq
  have hminimal : overlong.IsMinimal :=
    hsame.mp heq written List.mem_cons_self _ List.mem_cons_self
  rw [Numeral.isMinimal_iff] at hminimal
  exact absurd hminimal (by decide)

end Body

end SeriesGateway.Wire
