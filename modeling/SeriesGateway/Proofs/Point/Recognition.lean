import SeriesGateway.Proofs.Path
import SeriesGateway.Proofs.Point.Entry
import SeriesGateway.Proofs.Point.Operation
import SeriesGateway.Proofs.Text.Utf8

/-! # Rows and the metrics they belong to

A row belongs to the metric whose name its stored path is displayed under. The path
of a metric leads back to the metric. Bytes that are not text are displayed with the
replacement character in them, so they lead to no metric without one in its name; to
a metric with one, some of them do.
-/

namespace SeriesGateway.PointStore

open Text

variable {store : PointStore} {name metric : String} {id : UInt32} {path : List UInt8}

/-! ## Interned names -/

theorem intern_of_metricId? (hid : store.metricId? metric = some id) :
    store.intern metric = (id, store) := by
  rw [intern, hid]

/-- A name is interned under the number of a metric only if it is its name. -/
theorem intern_fst_eq_iff (hid : store.metricId? metric = some id)
    (hfits : store.metrics.length < UInt32.size) : (store.intern name).1 = id ↔ name = metric := by
  constructor
  · intro hsame
    unfold intern at hsame
    split at hsame
    next known hknown => exact metricId?_inj (hsame ▸ hknown) hid hfits
    next hnew =>
      obtain ⟨position, hposition, rfl⟩ := Option.map_eq_some_iff.mp hid
      obtain ⟨hlt, -⟩ := List.idxOf?_eq_some_iff.mp hposition
      have hlength : store.names.length = store.metrics.length := List.length_map _
      -- the number of the new name is one above all others, or zero behind the last one
      have hsize : UInt32.size = 2 ^ 32 := rfl
      have hnext := congrArg UInt32.toNat hsame
      have hknown : (idAt position).toNat = position + 1 := toNat_idAt (by omega)
      rw [hknown, idAt, UInt32.toNat_ofNat'] at hnext
      omega
  · rintro rfl
    rw [intern_of_metricId? hid]

/-- The number that a description gives a metric is still its number after any other
operations. -/
theorem metricId?_after_describe (earlier later : List Operation) (metric : String)
    (step : UInt32) (function : Aggregation) :
    (after (earlier ++ .describe metric step function :: later)).metricId? metric =
      some ((after earlier).describe metric step function).1 := by
  have hnames := names_describe (after earlier) metric step function
  have hinterned : ((after earlier).intern metric).2.names <+:
      ((after earlier).perform (.describe metric step function)).names := by
    simp only [perform, hnames, List.prefix_refl]
  have hlater := names_prefix_perform earlier (.describe metric step function) later
  exact metricId?_of_names_prefix (hinterned.trans hlater) (metricId?_intern (after earlier) metric)

/-! ## Paths of metrics -/

/-- A stored path is read as the text it is the encoding of. -/
theorem displayName_of_text {text : String} (hpath : path.toByteArray = text.toByteArray)
    (reversed : Bool) :
    displayName path reversed = if reversed then Path.reverse text else text := by
  rw [displayName, Utf8.toByteArray_eq_iff.mp hpath, Utf8.decodeLossy_encode, String.ofList_toList]

theorem displayName_storagePath {group : TargetGroup}
    (hpath : path.toByteArray = (group.storagePath metric).toByteArray) :
    displayName path group.isReversed = metric := by
  rw [displayName_of_text hpath, TargetGroup.storagePath]
  split
  next => exact Path.reverse_reverse metric
  next => rfl

/-- The points of a row are appended under the number of its metric, and nothing else
about the store changes. -/
theorem appendRow_of_metricId? (hid : store.metricId? metric = some id) {row : Wire.Row}
    {reversed : Bool} (hname : displayName row.name reversed = metric) :
    store.appendRow row reversed =
      (id, { store with points := store.points ++ rowPoints id row }) := by
  rw [appendRow, hname, intern_of_metricId? hid]

/-- Reversing a path reverses its nodes, keeps the tags and undoes itself, so distinct
metrics have distinct storage paths. A row under the storage path of a metric that was
described at some time is appended to this metric, whatever else happened to the store. -/
theorem row_returns_to_metric :
    (∀ path, Path.reverse (Path.reverse path) = path ∧
      (∃ nodes tags, Path.Consists nodes tags path) ∧
      ∀ nodes tags, Path.Consists nodes tags path →
        Path.Consists nodes.reverse tags (Path.reverse path)) ∧
    ∀ group : TargetGroup, Function.Injective group.storagePath ∧
      ∀ (earlier later : List Operation) (metric : String) (step : UInt32) (function : Aggregation)
        (row : Wire.Row), row.name.toByteArray = (group.storagePath metric).toByteArray →
        let id := ((after earlier).describe metric step function).1
        let store := after (earlier ++ .describe metric step function :: later)
        store.appendRow row group.isReversed =
          (id, { store with points := store.points ++ rowPoints id row }) := by
  refine ⟨fun path => ⟨Path.reverse_reverse path, Path.exists_consists path,
    fun nodes tags => Path.Consists.reverse⟩, fun group => ⟨fun _ _ => group.storagePath_inj, ?_⟩⟩
  intro earlier later metric step function row hname id store
  have hid : store.metricId? metric = some id :=
    metricId?_after_describe earlier later metric step function
  exact appendRow_of_metricId? hid (displayName_storagePath hname)

/-- A path with an empty node, a character of two bytes and dots among its tags, in a
table of reversed paths. -/
theorem row_returns_to_metric_of_empty_node :
    let group := (TargetGroup.new "points" .standard).reversed false
    let row : Wire.Row :=
      ⟨[0xc3, 0xa9, 0x2e, 0x2e, 0x61, 0x3f, 0x62, 0x3d, 0x31, 0x2e, 0x32], [60],
        [⟨0x3ff0000000000000⟩], []⟩
    let store := after [.ingest (.metric "other"), .describe "a..é?b=1.2" 60 .average, .sort]
    row.name.toByteArray = (group.storagePath "a..é?b=1.2").toByteArray ∧
      store.appendRow row true = (2, { store with points := store.points ++ rowPoints 2 row }) := by
  intro group row store
  have hname : row.name.toByteArray = (group.storagePath "a..é?b=1.2").toByteArray :=
    Utf8.toByteArray_eq_iff.mpr (by decide +kernel)
  have hrow := (row_returns_to_metric.2 group).2 [.ingest (.metric "other")] [.sort] "a..é?b=1.2" 60
    .average row hname
  have hid : ((after [.ingest (.metric "other")]).describe "a..é?b=1.2" 60 .average).1 = 2 := by
    decide +kernel
  exact ⟨hname, hid ▸ hrow⟩

/-! ## Foreign paths -/

/-- Bytes that are not text are displayed with the replacement character. -/
theorem replacement_mem_displayName (hforeign : ¬ path.toByteArray.IsValidUTF8) (reversed : Bool) :
    Utf8.replacement ∈ (displayName path reversed).toList := by
  have hreplaced := Utf8.replacement_mem_decodeLossy hforeign
  unfold displayName
  cases reversed with
  | false => exact hreplaced
  | true => exact (Path.mem_reverse_iff (by decide) _).mpr hreplaced

/-- A name with the replacement character is what some bytes that are not text are
displayed as. -/
theorem exists_displayName (hreplaced : Utf8.replacement ∈ metric.toList) (reversed : Bool) :
    ∃ path : List UInt8, ¬ path.toByteArray.IsValidUTF8 ∧ displayName path reversed = metric := by
  cases reversed with
  | false =>
      obtain ⟨path, hforeign, hdecode⟩ := Utf8.exists_foreign hreplaced
      exact ⟨path, hforeign, hdecode.trans (String.ofList_toList)⟩
  | true =>
      have hstored := (Path.mem_reverse_iff (by decide) metric).mpr hreplaced
      obtain ⟨path, hforeign, hdecode⟩ := Utf8.exists_foreign hstored
      refine ⟨path, hforeign, ?_⟩
      rw [displayName, hdecode, String.ofList_toList]
      exact Path.reverse_reverse metric

theorem appendRow_fst_eq_iff (hid : store.metricId? metric = some id)
    (hfits : store.metrics.length < UInt32.size) (row : Wire.Row) (reversed : Bool) :
    (store.appendRow row reversed).1 = id ↔ displayName row.name reversed = metric :=
  intern_fst_eq_iff hid hfits

/-- A row of another metric brings no points to a metric. -/
theorem filter_points_appendRow {row : Wire.Row} {reversed : Bool}
    (hother : (store.appendRow row reversed).1 ≠ id) :
    (store.appendRow row reversed).2.points.filter (·.metricId == id) =
      store.points.filter (·.metricId == id) := by
  have hpoints : (store.appendRow row reversed).2.points =
      store.points ++ rowPoints (store.appendRow row reversed).1 row := by
    simp only [appendRow, points_intern]
  rw [hpoints, List.filter_append, List.append_right_eq_self, List.filter_eq_nil_iff]
  intro point hpoint hsame
  exact hother ((Entry.metricId_of_mem_rowPoints hpoint).symm.trans (eq_of_beq hsame))

/-- In a store with fewer metrics than there are numbers, a row under bytes that are not
text joins a metric exactly if the bytes are displayed as its name. Such bytes exist
exactly if there is a replacement character in the name; the other metrics get neither
the number of any such row nor a point of it. -/
theorem foreign_row_joins_iff (hid : store.metricId? metric = some id)
    (hfits : store.metrics.length < UInt32.size) (reversed : Bool) :
    (∀ row : Wire.Row, ¬ row.name.toByteArray.IsValidUTF8 →
      ((store.appendRow row reversed).1 = id ↔ displayName row.name reversed = metric)) ∧
    ((∃ row : Wire.Row, ¬ row.name.toByteArray.IsValidUTF8 ∧
      (store.appendRow row reversed).1 = id) ↔ Utf8.replacement ∈ metric.toList) ∧
    (Utf8.replacement ∉ metric.toList →
      ∀ row : Wire.Row, ¬ row.name.toByteArray.IsValidUTF8 →
        (store.appendRow row reversed).1 ≠ id ∧
        (store.appendRow row reversed).2.points.filter (·.metricId == id) =
          store.points.filter (·.metricId == id)) := by
  have hjoins : (∃ row : Wire.Row, ¬ row.name.toByteArray.IsValidUTF8 ∧
      (store.appendRow row reversed).1 = id) ↔ Utf8.replacement ∈ metric.toList := by
    constructor
    · rintro ⟨row, hforeign, hsame⟩
      rw [← (appendRow_fst_eq_iff hid hfits row reversed).mp hsame]
      exact replacement_mem_displayName hforeign reversed
    · intro hreplaced
      obtain ⟨path, hforeign, hname⟩ := exists_displayName hreplaced reversed
      refine ⟨⟨path, [], [], []⟩, hforeign, ?_⟩
      rw [appendRow_fst_eq_iff hid hfits, hname]
  refine ⟨fun row _ => appendRow_fst_eq_iff hid hfits row reversed, hjoins, ?_⟩
  intro hclean row hforeign
  have hother : (store.appendRow row reversed).1 ≠ id :=
    fun hsame => hclean (hjoins.mp ⟨row, hforeign, hsame⟩)
  exact ⟨hother, filter_points_appendRow hother⟩

/-- A byte that no text has, in the middle of a name. -/
def strayName : List UInt8 := [0x63, 0x70, 0x75, 0x2e, 0xff, 0x77, 0x65, 0x62]

theorem not_isValidUTF8_strayName : ¬ strayName.toByteArray.IsValidUTF8 := by
  have hdecode : Utf8.decode strayName =
      [some 'c', some 'p', some 'u', some '.', none, some 'w', some 'e', some 'b'] := by
    decide +kernel
  rw [← Utf8.none_mem_decode_iff, hdecode]
  decide

theorem foreign_row_joins_iff_of_strayName :
    let store := (empty.describe "cpu.web" 60 .average).2
    let row : Wire.Row := ⟨strayName, [60], [⟨0x3ff0000000000000⟩], []⟩
    store.metricId? "cpu.web" = some 1 ∧ store.metrics.length < UInt32.size ∧
      ¬ row.name.toByteArray.IsValidUTF8 ∧ (store.appendRow row true).1 ≠ 1 := by
  intro store row
  have hid : store.metricId? "cpu.web" = some 1 := by decide +kernel
  have hfits : store.metrics.length < UInt32.size := by decide
  have hclean : Utf8.replacement ∉ "cpu.web".toList := by decide
  obtain ⟨-, -, hstays⟩ := foreign_row_joins_iff hid hfits true
  exact ⟨hid, hfits, not_isValidUTF8_strayName,
    (hstays hclean row not_isValidUTF8_strayName).1⟩

/-- A metric with the replacement character in its name gets the points of a row that
lost a byte there. -/
theorem foreign_row_joins_replaced_name :
    let described := empty.describe "cpu.\ufffdweb" 60 .average
    let row : Wire.Row := ⟨strayName, [60], [⟨0x3ff0000000000000⟩], []⟩
    ¬ row.name.toByteArray.IsValidUTF8 ∧ (described.2.appendRow row false).1 = described.1 ∧
      (described.2.appendRow row false).2.points =
        [⟨described.1, ⟨0x3ff0000000000000⟩, 60, 60⟩] := by
  intro described row
  exact ⟨not_isValidUTF8_strayName, by decide +kernel, by decide +kernel⟩

end SeriesGateway.PointStore
