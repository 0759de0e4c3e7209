import SeriesGateway.Sample

/-! # Aggregation functions

The six reductions of a bucket of samples to one, with the names they go by in
configuration, in replies and in the storage dialect. NaN samples take no part
in a reduction, and a bucket without numbers reduces to NaN.
-/

namespace SeriesGateway

/-- How the samples of one bucket become one sample. -/
inductive Aggregation where
  | sum
  | average
  | min
  | max
  | first
  | last
deriving DecidableEq, Repr

namespace Aggregation

instance : Inhabited Aggregation := ⟨average⟩

/-- Every function, in the order replies enumerate them. -/
def all : List Aggregation := [sum, average, min, max, first, last]

/-- The canonical name, reported to clients. -/
def name : Aggregation → String
  | sum => "sum"
  | average => "average"
  | min => "min"
  | max => "max"
  | first => "first"
  | last => "last"

/-- The name of the equivalent aggregate in the storage dialect. -/
def storageName : Aggregation → String
  | sum => "sum"
  | average => "avg"
  | min => "min"
  | max => "max"
  | first => "any"
  | last => "anyLast"

/-- Resolves a canonical or a storage name; both are case-sensitive. -/
def ofName? (text : String) : Option Aggregation :=
  all.find? fun f => f.name == text || f.storageName == text

/-- Resolves a canonical name only. -/
def ofCanonicalName? (text : String) : Option Aggregation :=
  all.find? fun f => f.name == text

/-- Position in `all`. -/
def index (f : Aggregation) : Nat := all.idxOf f

/-- Reduces the samples of a bucket, given in time order. -/
def reduce (f : Aggregation) (samples : List Sample) : Sample :=
  match samples.filter fun s => !s.isNaN with
  | [] => Sample.nan
  | s :: rest =>
    match f with
    | sum => rest.foldl Sample.add s
    | average => (rest.foldl Sample.add s).divCount (rest.length + 1)
    | min => rest.foldl Sample.least s
    | max => rest.foldl Sample.greatest s
    | first => s
    | last => rest.getLastD s

end Aggregation

end SeriesGateway
