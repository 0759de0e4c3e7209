import SeriesGateway.Config.Decode
import SeriesGateway.Text.Utf8

/-! # Gateway configuration

A configuration is a JSON document with rules and fetch settings. One that is
accepted compiles and can be run with.
-/

namespace SeriesGateway

/-- A configuration as written. -/
structure GatewayConfig where
  rules : RulesConfig
  fetch : FetchConfig
deriving DecidableEq, Repr, Inhabited

namespace GatewayConfig

/-- The configuration that an empty document stands for. -/
def standard : GatewayConfig := ⟨.standard, .standard⟩

def record : Json.Record GatewayConfig GatewayConfig :=
  { start := .standard
    fields :=
      [Json.field "rules" Config.rules.decode fun rules draft => { draft with rules },
        Json.field "fetch" Config.fetch.decode fun fetch draft => { draft with fetch }]
    finish := some }

/-- The first reason not to run with a configuration: rules that do not compile
go before settings out of range. -/
def fault? (engine : RegexEngine) (config : GatewayConfig) : Option GatewayError :=
  match RuleSet.compile engine config.rules with
  | .error error => some (.rule error)
  | .ok _ => config.fetch.fault?.map fun fault => .config (.invalid fault)

/-- Reads and checks a configuration; `origin` is where the text comes from. -/
def ofText (engine : RegexEngine) (origin text : String) : Except GatewayError GatewayConfig :=
  match Json.decodeText record.decode text with
  | .error fault => .error (.config (.malformed origin fault))
  | .ok config =>
    match config.fault? engine with
    | some error => .error error
    | none => .ok config

/-- What texts without a file are said to come from. -/
def inlineOrigin : String := "<inline>"

/-- Reads and checks a configuration file, given what reading the file gave. -/
def ofFile (engine : RegexEngine) (path : String) (content : Except FileFault (List UInt8)) :
    Except GatewayError GatewayConfig :=
  match content with
  | .error fault => .error (.config (.unreadable path fault))
  | .ok bytes =>
    match Text.Utf8.decode? bytes with
    | none => .error (.config (.unreadable path .notUtf8))
    | some text => ofText engine path (String.ofList text)

end GatewayConfig

end SeriesGateway
