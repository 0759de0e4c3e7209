/-! # Metric lists

The table of paths that goes along with a query, in a text with one escaped path
per line.
-/

namespace SeriesGateway.Plan

/-- The two characters that stand for a character within a line. -/
def escapeChar (c : Char) : List Char :=
  if c = '\\' then ['\\', '\\']
  else if c = '\t' then ['\\', 't']
  else if c = '\n' then ['\\', 'n']
  else if c = '\r' then ['\\', 'r']
  else [c]

/-- A path without tabs, line ends and carriage returns. -/
def escape (path : List Char) : List Char := path.flatMap escapeChar

/-- Lines of a text; a line end at the end of the text opens no line. -/
def lines : List Char → List (List Char)
  | [] => []
  | c :: rest =>
    if c = '\n' then [] :: lines rest
    else
      match lines rest with
      | [] => [[c]]
      | line :: more => (c :: line) :: more

/-- A table sent along with a query. -/
structure ExternalTable where
  name : String
  /-- The declaration of its columns. -/
  columns : String
  /-- One line per row. -/
  body : String
deriving DecidableEq, Repr

/-- The name by which queries refer to the list of metrics. -/
def metricsTable : String := "metrics_list"

/-- A table with the paths as its only column. -/
def ExternalTable.ofPaths (paths : List String) : ExternalTable :=
  ⟨metricsTable, "Path String",
    String.ofList (paths.flatMap fun path => escape path.toList ++ ['\n'])⟩

/-- Number of rows. -/
def ExternalTable.rows (table : ExternalTable) : Nat := (lines table.body.toList).length

end SeriesGateway.Plan
