import SeriesGateway.Cli.Arguments
import SeriesGateway.Target
import SeriesGateway.Wire.Row

/-! # Commands

The four diagnostics, what they take and what they are asked to do.
-/

namespace SeriesGateway.Cli

structure PlanArguments where
  config : String
  frame : TimeFrame
  /-- The reference time for ages, the end of the frame unless given. -/
  now : UInt32
  aggregated : Bool
  table : String
  reversed : Bool
  metrics : List String
deriving DecidableEq, Repr

inductive Command where
  /-- What the rules of a configuration say about a metric. -/
  | lookup (config metric age : String)
  /-- The storage queries for metrics. -/
  | plan (arguments : PlanArguments)
  /-- The rows of a captured response. -/
  | decode (file : String) (shape : Wire.RowShape) (reversed : Bool) (format : Format)
  /-- Writes a response with the given rows. -/
  | fixture (out : String) (shape : Wire.RowShape) (rows : List String)
deriving DecidableEq, Repr

namespace Command

/-- The configuration file that a command needs. -/
def configOption : OptionSpec :=
  .valued ⟨"config", "CONFIG", .path, true, none, "Gateway configuration file (JSON)"⟩

def lookupGrammar : Grammar :=
  ⟨"lookup", "Show the precision and aggregation a metric resolves to",
    [⟨"METRIC", .text, false, "Metric name"⟩],
    [configOption,
      .valued ⟨"age", "AGE", .text, false, some "0",
        "Query age (e.g., \"0\", \"90m\", \"7d\")"⟩]⟩

def planGrammar : Grammar :=
  ⟨"plan", "Print the storage queries for a metric list",
    [⟨"METRICS", .text, true, "Metric names"⟩],
    [configOption,
      .valued ⟨"from", "FROM", .number, true, none, "Start of the range, epoch seconds"⟩,
      .valued ⟨"until", "UNTIL", .number, true, none, "End of the range, epoch seconds"⟩,
      .valued ⟨"max-points", "MAX_POINTS", .number, false, some "0",
        "Maximum points per series (0 = unlimited)"⟩,
      .flag ⟨"aggregated", "Plan storage-side aggregation instead of raw points"⟩,
      .valued ⟨"table", "TABLE", .text, false, some "graphite", "Storage table"⟩,
      .flag ⟨"reversed", "The table stores reversed paths"⟩,
      .valued ⟨"now", "NOW", .number, false, none,
        "Reference time for retention ages (defaults to --until)"⟩]⟩

def decodeGrammar : Grammar :=
  ⟨"decode", "Decode a captured storage response",
    [⟨"FILE", .path, false, "Response body file"⟩],
    [.flag ⟨"unaggregated", "Rows carry a timestamps array"⟩,
      .flag ⟨"reversed", "Stored paths are reversed; print display names"⟩,
      .valued ⟨"format", "FORMAT", .format, false, some "csv", "Output format"⟩]⟩

def fixtureGrammar : Grammar :=
  ⟨"fixture", "Write an encoded response body for tests",
    [⟨"OUT", .path, false, "Output file"⟩,
      ⟨"ROWS", .text, true, "Rows as \x60name=time:value,time:value,...\x60"⟩],
    [.flag ⟨"unaggregated", "Emit timestamps arrays (equal to the times)"⟩]⟩

def shapeOf (arguments : Arguments) : Wire.RowShape :=
  if arguments.hasFlag "unaggregated" then .unaggregated else .aggregated

def ofLookup (arguments : Arguments) : Option Command := do
  let config ← arguments.value? "config"
  match arguments.positional with
  | [metric] => some (.lookup config metric ((arguments.value? "age").getD "0"))
  | _ => none

def ofPlan (arguments : Arguments) : Option Command := do
  let config ← arguments.value? "config"
  let start ← word? (← arguments.value? "from")
  let stop ← word? (← arguments.value? "until")
  let maxPoints ← word? ((arguments.value? "max-points").getD "0")
  let now ← ((arguments.value? "now").map word?).getD (some stop)
  if arguments.positional.isEmpty then none
  else
    some (.plan
      { config
        frame := ⟨start, stop, maxPoints⟩
        now
        aggregated := arguments.hasFlag "aggregated"
        table := (arguments.value? "table").getD "graphite"
        reversed := arguments.hasFlag "reversed"
        metrics := arguments.positional })

def ofDecode (arguments : Arguments) : Option Command := do
  let format ← Format.ofText? ((arguments.value? "format").getD "csv")
  match arguments.positional with
  | [file] => return .decode file (shapeOf arguments) (arguments.hasFlag "reversed") format
  | _ => none

def ofFixture (arguments : Arguments) : Option Command :=
  match arguments.positional with
  | [] => none
  | [_] => none
  | out :: rows => some (.fixture out (shapeOf arguments) rows)

/-- Every command with its grammar and the way its words are understood. -/
def all : List (Grammar × (Arguments → Option Command)) :=
  [(lookupGrammar, ofLookup), (planGrammar, ofPlan), (decodeGrammar, ofDecode),
    (fixtureGrammar, ofFixture)]

def grammar? (name : String) : Option Grammar :=
  (all.map (·.1)).find? fun grammar => grammar.name = name

end Command

end SeriesGateway.Cli
