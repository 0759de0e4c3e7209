import SeriesGateway.Sample
import SeriesGateway.Wire.Varint

/-! # Rows

A response is a sequence of rows without separators. A row is a name, an array
of times, an array of values and, if raw points were asked for, an array of
timestamps; each part is preceded by its length. Numbers in arrays have a fixed
width and come lowest byte first.
-/

namespace SeriesGateway.Wire

/-- Which arrays a row carries: rows of points that storage aggregated have no
timestamps. -/
inductive RowShape where
  | aggregated
  | unaggregated
deriving DecidableEq, Repr

/-- One decoded row. -/
structure Row where
  /-- The metric path as stored, which need not be text. -/
  name : List UInt8
  times : List UInt32
  values : List Sample
  timestamps : List UInt32
deriving DecidableEq, Repr

/-- The `width` lowest bytes of a number, lowest first. -/
def littleEndian : (width value : Nat) → List UInt8
  | 0, _ => []
  | width + 1, value => UInt8.ofNat (value % 256) :: littleEndian width (value / 256)

/-- The number that bytes denote, lowest first. -/
def ofLittleEndian : List UInt8 → Nat
  | [] => 0
  | b :: rest => b.toNat + 256 * ofLittleEndian rest

/-- Lengths and array sizes in bytes stay below this bound. -/
def memoryLimit : Nat := UInt64.size

namespace Reader

/-- One number of `width` bytes. -/
def word (width : Nat) : Reader Nat :=
  (take width).bind fun bytes => pure (ofLittleEndian bytes)

/-- The `count` numbers of an array; its size in bytes must stay below the limit. -/
def words (field : Field) (width count : Nat) : Reader (List Nat) :=
  if count * width < memoryLimit then (word width).replicate count
  else fail (.countOverflow field count)

/-- An array preceded by its length, which must be that of the times. -/
def parallelWords (field : Field) (width times : Nat) : Reader (List Nat) :=
  Varint.read.bind fun count =>
    if count = times then words field width count
    else fail (.lengthMismatch field times count)

theorem neverGrows_word (width : Nat) : NeverGrows (word width) :=
  (neverGrows_take width).bind fun _ => neverGrows_pure _

theorem neverGrows_words (field : Field) (width count : Nat) :
    NeverGrows (words field width count) := by
  unfold words
  split
  · exact (neverGrows_word width).replicate count
  · exact neverGrows_fail _

theorem neverGrows_parallelWords (field : Field) (width times : Nat) :
    NeverGrows (parallelWords field width times) := by
  refine Varint.neverGrows_read.bind fun count => ?_
  split
  · exact neverGrows_words field width count
  · exact neverGrows_fail _

end Reader

namespace Row

/-- Number of points. -/
def size (row : Row) : Nat := row.times.length

/-- The version of each point: its timestamp, or its time where there is none. -/
def versions (row : Row) : List UInt32 :=
  row.times.zipIdx.map fun (time, i) => row.timestamps[i]?.getD time

/-- The arrays of a row behind its name. -/
def readArrays (shape : RowShape) (name : List UInt8) : Reader Row :=
  Varint.read.bind fun count =>
    (Reader.words .times 4 count).bind fun times =>
      (Reader.parallelWords .values 8 count).bind fun values =>
        let row (timestamps : List Nat) : Row :=
          ⟨name, times.map UInt32.ofNat, values.map fun bits => ⟨UInt64.ofNat bits⟩,
            timestamps.map UInt32.ofNat⟩
        match shape with
        | .aggregated => Reader.pure (row [])
        | .unaggregated =>
          (Reader.parallelWords .timestamps 4 count).bind fun timestamps =>
            Reader.pure (row timestamps)

/-- One row of the given shape. -/
def read (shape : RowShape) : Reader Row :=
  Varint.read.bind fun length => (Reader.take length).bind (readArrays shape)

theorem neverGrows_readArrays (shape : RowShape) (name : List UInt8) :
    (readArrays shape name).NeverGrows := by
  refine Varint.neverGrows_read.bind fun count => ?_
  refine (Reader.neverGrows_words _ _ _).bind fun times => ?_
  refine (Reader.neverGrows_parallelWords _ _ _).bind fun values => ?_
  cases shape with
  | aggregated => exact Reader.neverGrows_pure _
  | unaggregated =>
    exact (Reader.neverGrows_parallelWords _ _ _).bind fun _ => Reader.neverGrows_pure _

/-- A row takes at least one byte. -/
theorem read_length_lt {shape : RowShape} {bytes rest : List UInt8} {row : Row}
    (h : read shape bytes = .ready row rest) : rest.length < bytes.length := by
  obtain ⟨length, middle, hlength, hrest⟩ := Reader.bind_eq_ready h
  have hgrow : ((Reader.take length).bind (readArrays shape)).NeverGrows :=
    (Reader.neverGrows_take length).bind (neverGrows_readArrays shape)
  exact Nat.lt_of_le_of_lt (hgrow _ _ _ hrest) (Varint.read_length_lt hlength)

/-- An array preceded by its length. -/
def encodeArray (width : Nat) (numbers : List Nat) : List UInt8 :=
  Varint.encode numbers.length ++ numbers.flatMap (littleEndian width)

/-- Writes the parts of a row, with timestamps if there are any. Lengths are
written as they are, so arrays of unequal length give bytes that are no row. -/
def encodeParts (name : List UInt8) (times : List UInt32) (values : List Sample)
    (timestamps : Option (List UInt32)) : List UInt8 :=
  Varint.encode name.length ++ name ++ encodeArray 4 (times.map (·.toNat)) ++
    encodeArray 8 (values.map (·.bits.toNat)) ++
    match timestamps with
    | none => []
    | some timestamps => encodeArray 4 (timestamps.map (·.toNat))

/-- Writes a row in a shape. -/
def encode (shape : RowShape) (row : Row) : List UInt8 :=
  encodeParts row.name row.times row.values
    (match shape with
      | .aggregated => none
      | .unaggregated => some row.timestamps)

end Row

end SeriesGateway.Wire
