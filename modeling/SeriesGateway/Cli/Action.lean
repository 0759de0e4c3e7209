import SeriesGateway.Cli.Fixture
import SeriesGateway.Cli.Report
import SeriesGateway.Cli.Request
import SeriesGateway.Config
import SeriesGateway.Wire.Decoder

/-! # What a command does

A command reads at most one file and then prints, saves a file and prints, or
fails with a message.
-/

namespace SeriesGateway.Cli

inductive Action where
  | print (text : String)
  /-- Saves a file, and prints if that went well. -/
  | save (path : String) (content : List UInt8) (text : String)
  | fail (message : String)
deriving DecidableEq, Repr

/-- What reading a file gave. -/
abbrev Content := Except FileFault (List UInt8)

namespace Command

/-- The file that a command reads. -/
def input? : Command → Option String
  | lookup config _ _ => some config
  | plan arguments => some arguments.config
  | decode file _ _ _ => some file
  | fixture .. => none

/-- The rules of a configuration file. -/
def rulesOf (engine : RegexEngine) (path : String) (content : Content) :
    Except GatewayError RuleSet := do
  let config ← GatewayConfig.ofFile engine path content
  (RuleSet.compile engine config.rules).mapError .rule

def lookupAction (engine : RegexEngine) (config metric age : String) (content : Content) :
    Action :=
  let report : Except GatewayError String := do
    let rules ← rulesOf engine config content
    let age ← (Retention.parseSeconds age.toList).mapError .rule
    return Report.lookup rules metric age
  match report with
  | .ok text => .print text
  | .error error => .fail error.message

/-- The target group that a plan is made for. -/
def planGroup (arguments : PlanArguments) (rules : RuleSet) : TargetGroup :=
  let group := TargetGroup.ofTriples arguments.table rules
    (arguments.metrics.map fun metric => (metric, metric, metric))
  if arguments.reversed then group.reversed false else group

/-- The plan for a lone target group, which is its own common step. -/
def planOf (arguments : PlanArguments) (group : TargetGroup) : Except StepError Plan.QueryPlan :=
  if arguments.aggregated then do
    let grouping := Plan.Grouping.resolve group arguments.frame arguments.now
    let common ← grouping.contribution
    Plan.QueryPlan.aggregatedWith group arguments.frame grouping common
  else .ok (.unaggregated group arguments.frame arguments.now)

def planAction (engine : RegexEngine) (arguments : PlanArguments) (content : Content) : Action :=
  if arguments.frame.stop < arguments.frame.start then
    .fail "--until must not be before --from"
  else
    match rulesOf engine arguments.config content with
    | .error error => .fail error.message
    | .ok rules =>
      match planOf arguments (planGroup arguments rules) with
      | .error error => .fail error.message
      | .ok found => .print (Report.plan found)

def decodeAction (shape : Wire.RowShape) (reversed : Bool) (format : Format)
    (content : Content) : Action :=
  match content with
  | .error fault => .fail fault.message
  | .ok bytes =>
    match ((Wire.Decoder.new shape).feed bytes).drain true with
    | (_, some error, _) => .fail error.message
    | (rows, none, _) =>
      match format with
      | .csv => .print (Report.csv reversed rows)
      | .json => .print (Report.json reversed rows)

def fixtureAction (out : String) (shape : Wire.RowShape) (rows : List String) : Action :=
  match Fixture.response shape rows with
  | .error fault => .fail fault.message
  | .ok bytes => .save out bytes (Report.written rows.length bytes.length out)

/-- What a command does, given what reading its file gave. -/
def action (engine : RegexEngine) (content : Content) : Command → Action
  | lookup config metric age => lookupAction engine config metric age content
  | plan arguments => planAction engine arguments content
  | decode _ shape reversed format => decodeAction shape reversed format content
  | fixture out shape rows => fixtureAction out shape rows

end Command

/-- What a program run leaves behind besides files. -/
structure Transcript where
  code : Nat
  output : String
  errors : String
deriving DecidableEq, Repr

namespace Transcript

/-- The code for unusable arguments. -/
def usageCode : Nat := 2

def unusable (program : String) : Transcript := ⟨usageCode, "", Help.overview program⟩

def success (text : String) : Transcript := ⟨0, text, ""⟩

def failure (message : String) : Transcript := ⟨1, "", s!"Error: {message}\n"⟩

end Transcript

end SeriesGateway.Cli
