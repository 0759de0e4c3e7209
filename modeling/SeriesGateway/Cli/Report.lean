import SeriesGateway.Decimal.Style
import SeriesGateway.Json.Pretty
import SeriesGateway.Plan.QueryPlan
import SeriesGateway.Point.Store
import SeriesGateway.Wire.Row

/-! # Reports

The texts that the diagnostics print.
-/

namespace SeriesGateway.Cli.Report

/-- Lines, each with its end. -/
def ofLines (lines : List String) : String := String.join (lines.map (· ++ "\n"))

/-- What the rules say about a metric. -/
def lookup (rules : RuleSet) (metric : String) (age : UInt32) : String :=
  let hit := rules.lookup metric age
  let matched := rules.matching metric
  let patterns :=
    if matched.isEmpty then "none (defaults)"
    else String.intercalate ", " (matched.map toString)
  ofLines
    [s!"metric:    {metric}",
      s!"age:       {age}s",
      s!"precision: {hit.precision}s",
      s!"function:  {hit.function.name}",
      s!"patterns:  {patterns}"]

def modeName : Plan.Mode → String
  | .aggregated => "Aggregated"
  | .unaggregated => "Unaggregated"

def planMetric (metric : String) (rule : RuleMatch) : String :=
  s!"  {metric}: precision={rule.precision}s function={rule.function.name}"

def planQuery (number : Nat) (query : Plan.StorageQuery) : List String :=
  let function := (query.function.map Aggregation.name).getD "raw"
  [s!"query {number}: table={query.table} function={function} metrics={query.external.rows}",
    s!"  {query.text}"]

/-- The queries of a plan and the rules behind it. -/
def plan (plan : Plan.QueryPlan) : String :=
  ofLines
    ([s!"mode:  {modeName plan.mode}",
        s!"step:  {plan.step}s",
        s!"range: {plan.start}..={plan.stop}",
        "",
        "metrics:"] ++
      plan.grouping.rules.map (fun (metric, rule) => planMetric metric rule) ++ [""] ++
      plan.queries.zipIdx.flatMap fun (query, i) => planQuery i query)

/-- One line per point, with its version. -/
def csvRow (reversed : Bool) (row : Wire.Row) : List String :=
  let name := PointStore.displayName row.name reversed
  ((row.times.zip row.values).zip row.versions).map fun ((time, value), version) =>
    s!"{name},{time},{Decimal.tableText value},{version}"

/-- Rows as a table of points. -/
def csv (reversed : Bool) (rows : List Wire.Row) : String :=
  ofLines
    ([s!"# rows={rows.length}", "name,time,value,timestamp"] ++ rows.flatMap (csvRow reversed))

def jsonRow (reversed : Bool) (row : Wire.Row) : Json.Tree :=
  let words (ns : List UInt32) : Json.Tree := .list (ns.map fun n => .natural n.toNat)
  .record
    [("name", .text (PointStore.displayName row.name reversed)),
      ("times", words row.times),
      ("timestamps", words row.timestamps),
      ("values", .list (row.values.map .real))]

/-- Rows as one JSON document. -/
def json (reversed : Bool) (rows : List Wire.Row) : String :=
  let document : Json.Tree :=
    .record [("count", .natural rows.length), ("rows", .list (rows.map (jsonRow reversed)))]
  ofLines [document.pretty 0]

/-- What was written where. -/
def written (rows bytes : Nat) (path : String) : String :=
  ofLines [s!"wrote {rows} row(s), {bytes} bytes to {path}"]

end SeriesGateway.Cli.Report
