import SeriesGateway.Arithmetic
import SeriesGateway.Fetch.Storage

/-! # Scripted answers

Storage and recent points that answer by script, to try out an orchestrator. The
first response whose conditions a query meets answers it; a query that meets
none is answered with two points for each of its paths.
-/

namespace SeriesGateway.Fetch

/-- A row as scripted: its arrays need not agree in length. -/
structure ScriptedRow where
  name : List UInt8
  times : List UInt32
  values : List Sample
  timestamps : List UInt32
deriving DecidableEq, Repr

/-- What the body of a scripted response holds. -/
inductive ScriptedBody where
  | chunks (chunks : List (List UInt8))
  | rows (rows : List ScriptedRow)
  /-- Two points for each path of the query. -/
  | echo
deriving DecidableEq, Repr

inductive ScriptedFailure where
  | error (error : TransportError)
  | crash (reason : String)
deriving DecidableEq, Repr

structure ScriptedResponse where
  /-- The conditions; absent ones are met. -/
  table : Option String
  function : Option String
  path : Option String
  /-- Milliseconds until the call is answered. -/
  delay : Nat
  failure : Option ScriptedFailure
  body : ScriptedBody
  /-- Bytes that are missing at the end of an encoded body. -/
  truncate : Nat
  chunkSize : Nat
  /-- Milliseconds before each chunk and before the end. -/
  chunkDelay : Nat
  /-- Why the body breaks off after its last chunk, if it does. -/
  breaksOff : Option String
deriving DecidableEq, Repr

namespace ScriptedResponse

/-- The size of chunks unless scripted. -/
def standardChunkSize : Nat := 16

/-- Two points for each path, at once and in one piece. -/
def standard : ScriptedResponse :=
  { table := none
    function := none
    path := none
    delay := 0
    failure := none
    body := .echo
    truncate := 0
    chunkSize := standardChunkSize
    chunkDelay := 0
    breaksOff := none }

/-- The name of the function of a query in conditions. -/
def functionName (query : Plan.StorageQuery) : String :=
  match query.function with
  | some function => function.name
  | none => "raw"

/-- The paths of a query as written in its metric list. -/
def pathsOf (query : Plan.StorageQuery) : List String :=
  (Plan.lines query.external.body.toList).map String.ofList

def applies (response : ScriptedResponse) (query : Plan.StorageQuery) : Bool :=
  response.table.all (· == query.table) && response.function.all (· == functionName query) &&
    response.path.all (pathsOf query).contains

/-- A row in the shape of a query. -/
def encodeRow (shape : Wire.RowShape) (row : ScriptedRow) : List UInt8 :=
  Wire.Row.encodeParts row.name row.times row.values
    (match shape with
      | .aggregated => none
      | .unaggregated => some row.timestamps)

/-- The sum, or the largest time if it does not fit. -/
def addTime (time step : UInt32) : UInt32 :=
  if time.toNat + step.toNat < UInt32.size then time + step else Step.maxTime

/-- Two points for a path: at the start of the query and one step later. -/
def echoRow (query : Plan.StorageQuery) (path : String) : ScriptedRow :=
  let times := [query.start, addTime query.start query.step]
  ⟨Text.Utf8.encode path.toList, times, [.ofFloat 1, .ofFloat 2], times⟩

/-- The chunks of a body. -/
def chunksFor (response : ScriptedResponse) (query : Plan.StorageQuery) : List (List UInt8) :=
  let encoded (rows : List ScriptedRow) : List (List UInt8) :=
    let bytes := rows.flatMap (encodeRow query.shape)
    Wire.chunked response.chunkSize (bytes.take (bytes.length - response.truncate))
  match response.body with
  | .chunks chunks => chunks
  | .rows rows => encoded rows
  | .echo => encoded ((pathsOf query).map (echoRow query))

def answer (response : ScriptedResponse) (query : Plan.StorageQuery) : Answer :=
  { delay := response.delay
    outcome :=
      match response.failure with
      | some (.error error) => .failed error
      | some (.crash reason) => .crashed reason
      | none =>
        .body (.paced response.chunkDelay
          ⟨response.chunksFor query, response.breaksOff.map .body⟩) }

end ScriptedResponse

/-- Storage that answers by script. -/
def scriptedStorage (responses : List ScriptedResponse) : Storage := fun _ query =>
  ((responses.find? (·.applies query)).getD .standard).answer query

/-- Recent points by script. -/
structure ScriptedRecent where
  points : List RecentPoint
  delay : Nat
  fails : Bool
  /-- Give only the points asked for. -/
  filtered : Bool
deriving DecidableEq, Repr

/-- A secondary source that answers by script. -/
def ScriptedRecent.source (recent : ScriptedRecent) : RecentSource := fun _ metrics start stop =>
  { delay := recent.delay
    points :=
      if recent.fails then .error (.failed (.request "no recent points"))
      else if recent.filtered then
        .ok (recent.points.filter fun point =>
          metrics.contains point.metric && start ≤ point.time && point.time ≤ stop)
      else .ok recent.points }

end SeriesGateway.Fetch
