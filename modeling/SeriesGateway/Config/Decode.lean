import SeriesGateway.Config.Fetch
import SeriesGateway.Json.Decode
import SeriesGateway.Rules.RuleSet

/-! # Configuration documents

How the parts of a configuration are read. Every field but those of a range
bucket and of a retention step has a default.
-/

namespace SeriesGateway.Config

open Json

/-- The draft of a retention step. -/
abbrev StepDraft := Option UInt32 × Option UInt32

def retentionStep : Record StepDraft Retention :=
  { start := (none, none)
    fields :=
      [field "age" Decoder.uint32 fun age draft => (some age, draft.2),
        field "precision" Decoder.uint32 fun precision draft => (draft.1, some precision)]
    finish := fun (age, precision) => do return ⟨← age, ← precision⟩ }

/-- Levels of arrays and objects that a document may have. -/
def maxNesting : Nat := 127

/-- Levels that enclose a retention ladder. -/
def retentionNesting : Nat := 4

/-- The steps of a ladder in an array whose items are written in either form; an
array must have all fields. -/
def ladderItems : List Document → Option (List Retention) := fun items =>
  items.mapM fun item =>
    match item with
    | .array [_, _] _ => (retentionStep.decode item).toOption
    | .object .. => (retentionStep.decode item).toOption
    | _ => none

/-- A retention ladder is kept as a whole before its form is looked at, so that
faults of the text go first and what has neither form is a mismatch. -/
def retention : Decoder Retention.Spec := fun document =>
  match document.keepFault? (maxNesting - retentionNesting) with
  | some fault => .error fault
  | none =>
    match document with
    | .array items _ =>
      match ladderItems items with
      | some steps => .ok (.list steps)
      | none => .error .mismatch
    | .string (.ok text) => .ok (.compact text)
    | _ => .error .mismatch

def pattern : Record PatternConfig PatternConfig :=
  { start := default
    fields :=
      [field "regexp" (.optional .text) fun regexp draft => { draft with regexp },
        field "function" (.optional .text) fun function draft => { draft with function },
        field "retention" retention fun retention draft => { draft with retention }]
    finish := some }

def rules : Record RulesConfig RulesConfig :=
  { start := .standard
    fields :=
      [field "default_precision" .uint32 fun defaultPrecision draft =>
          { draft with defaultPrecision },
        field "default_function" .text fun defaultFunction draft =>
          { draft with defaultFunction },
        field "patterns" (.list pattern.decode) fun patterns draft => { draft with patterns }]
    finish := some }

/-- A range bucket while its required fields may be missing. -/
structure RangeLimitDraft where
  maxRange : Option Duration
  maxConcurrent : Nat
  queryTimeout : Option Duration

def rangeLimit : Record RangeLimitDraft RangeLimit :=
  { start := ⟨none, 0, none⟩
    fields :=
      [field "max_range" .duration fun range draft => { draft with maxRange := some range },
        field "max_concurrent" .count fun maxConcurrent draft => { draft with maxConcurrent },
        field "query_timeout" .duration fun timeout draft =>
          { draft with queryTimeout := some timeout }]
    finish := fun draft => do
      return ⟨← draft.maxRange, draft.maxConcurrent, ← draft.queryTimeout⟩ }

def fetch : Record FetchConfig FetchConfig :=
  { start := .standard
    fields :=
      [field "aggregated" .bool fun aggregated draft => { draft with aggregated },
        field "max_metrics_per_request" .count fun maxMetricsPerRequest draft =>
          { draft with maxMetricsPerRequest },
        field "max_concurrent_queries" .count fun maxConcurrentQueries draft =>
          { draft with maxConcurrentQueries },
        field "max_queries_per_request" .count fun maxQueriesPerRequest draft =>
          { draft with maxQueriesPerRequest },
        field "range_limits" (.list rangeLimit.decode) fun rangeLimits draft =>
          { draft with rangeLimits },
        field "default_query_timeout" .duration fun defaultQueryTimeout draft =>
          { draft with defaultQueryTimeout },
        field "secondary_timeout" .duration fun secondaryTimeout draft =>
          { draft with secondaryTimeout },
        field "step_resolve_timeout" .duration fun stepResolveTimeout draft =>
          { draft with stepResolveTimeout },
        field "request_timeout" .duration fun requestTimeout draft =>
          { draft with requestTimeout }]
    finish := some }

end SeriesGateway.Config
