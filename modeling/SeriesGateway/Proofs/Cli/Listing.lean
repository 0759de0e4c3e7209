import SeriesGateway.Cli.Report
import SeriesGateway.Proofs.Calendar
import SeriesGateway.Proofs.Plan.Asking

/-! # What a printed plan lists

The text of a plan has an entry of two lines for each query, in order: one that counts the
query and tells its table, its function and the number of its metrics, and one with its text.
No other line looks like the first line of an entry. So a reader who knows nothing of the plan
finds its queries in the text, unless a name breaks a line.
-/

namespace SeriesGateway

/-! ## Names without line ends -/

theorem newline_not_mem_toDigits (n : Nat) : '\n' ∉ Nat.toDigits 10 n :=
  fun hmem => absurd (Nat.isDigit_of_mem_toDigits (by decide) (by decide) hmem) (by decide)

theorem Aggregation.newline_not_mem_name (function : Aggregation) :
    '\n' ∉ function.name.toList := by
  cases function <;> decide

namespace Plan

theorem newline_not_mem_source {table : String} (h : '\n' ∉ table.toList) (start stop : UInt32) :
    '\n' ∉ (source table start stop).toList := by
  have hdate : ∀ date : Calendar.Date, '\n' ∉ date.text.toList := by
    intro date
    simp [Calendar.Date.toList_text, Calendar.padded, newline_not_mem_toDigits]
  unfold source dateCondition rowCondition metricsTable
  simp [toString, newline_not_mem_toDigits, hdate, h]

theorem newline_not_mem_rawText {table : String} (h : '\n' ∉ table.toList) (start stop : UInt32) :
    '\n' ∉ (rawText table start stop).toList := by
  unfold rawText
  simp [newline_not_mem_source h]

set_option maxRecDepth 2000 in
theorem newline_not_mem_aggregatedText {table : String} (h : '\n' ∉ table.toList)
    (function : Aggregation) (step start stop : UInt32) :
    '\n' ∉ (aggregatedText table function step start stop).toList := by
  have hname : '\n' ∉ function.storageName.toList := by cases function <;> decide
  unfold aggregatedText
  simp [toString, newline_not_mem_toDigits, newline_not_mem_source h, hname]

end Plan

/-- No line is broken by the name of a metric or by a query. -/
def Plan.QueryPlan.Unbroken (plan : Plan.QueryPlan) : Prop :=
  (∀ ruled ∈ plan.grouping.rules, '\n' ∉ ruled.1.toList) ∧
    ∀ query ∈ plan.queries, '\n' ∉ query.table.toList ∧ '\n' ∉ query.text.toList

/-- Names that hold no line end break no line. -/
theorem Plan.PlanOf.unbroken {mode : Plan.Mode} {epoch : UInt32} {frame : TimeFrame}
    {group : TargetGroup} {plan : Plan.QueryPlan} (h : Plan.PlanOf mode epoch frame group plan)
    (htable : '\n' ∉ group.table.toList)
    (hmetrics : ∀ metric ∈ group.metrics, '\n' ∉ metric.toList) :
    plan.Unbroken := by
  refine ⟨fun ruled hruled => ?_, fun query hquery => ?_⟩
  · rw [(Plan.planOf_spec h).2.2] at hruled
    obtain ⟨metric, hmetric, rfl⟩ := List.mem_map.mp hruled
    exact hmetrics metric hmetric
  · cases mode with
    | unaggregated =>
        by_cases hempty : group.metrics = []
        · rw [Plan.queries_of_empty h hempty] at hquery
          cases hquery
        · obtain rfl : plan = .unaggregated group frame epoch := h
          rw [Plan.QueryPlan.unaggregated, if_neg (mt Plan.Grouping.isEmpty_resolve_iff.mp hempty),
            List.mem_singleton] at hquery
          subst hquery
          exact ⟨htable, Plan.newline_not_mem_rawText htable _ _⟩
    | aggregated =>
        obtain ⟨common, hplan⟩ := h
        rw [Plan.QueryPlan.queries_aggregated hplan] at hquery
        obtain ⟨part, -, rfl⟩ := List.mem_map.mp hquery
        exact ⟨htable, Plan.newline_not_mem_aggregatedText htable _ _ _ _⟩

namespace Cli.Report

/-! ## Entries -/

/-- Whether an entry begins with the line. -/
def opensEntry (line : String) : Bool := decide ("query ".toList <+: line.toList)

/-- The entries among lines: each line that begins one, with the line after it. -/
def entriesOf : List String → List (String × String)
  | head :: text :: rest =>
    if opensEntry head then (head, text) :: entriesOf rest else entriesOf (text :: rest)
  | _ => []

/-- The entry of a query. -/
def entry (number : Nat) (query : Plan.StorageQuery) : String × String :=
  let function := (query.function.map Aggregation.name).getD "raw"
  (s!"query {number}: table={query.table} function={function} metrics={query.external.rows}",
    s!"  {query.text}")

/-- The entries of queries, in order. -/
def entries (queries : List Plan.StorageQuery) : List (String × String) :=
  queries.zipIdx.map fun (query, number) => entry number query

/-- The lines of a text. -/
def linesOf (text : String) : List String := (Plan.lines text.toList).map String.ofList

/-- A text that is printed line by line has the entries of the queries of a plan, in order and
no others; and where no line is broken they are what a reader finds. -/
structure Lists (text : String) (plan : Plan.QueryPlan) : Prop where
  printed : ∃ lines, text = ofLines lines ∧ entriesOf lines = entries plan.queries
  read : plan.Unbroken → entriesOf (linesOf text) = entries plan.queries

theorem entriesOf_cons_of_not {line : String} (h : opensEntry line = false)
    (rest : List String) : entriesOf (line :: rest) = entriesOf rest := by
  cases rest with
  | nil => rfl
  | cons text rest => rw [entriesOf, if_neg (by simp [h])]

theorem entriesOf_append_of_not {heading : List String}
    (h : ∀ line ∈ heading, opensEntry line = false) (rest : List String) :
    entriesOf (heading ++ rest) = entriesOf rest := by
  induction heading with
  | nil => rfl
  | cons line heading ih =>
      obtain ⟨hline, hheading⟩ := List.forall_mem_cons.mp h
      rw [List.cons_append, entriesOf_cons_of_not hline, ih hheading]

theorem opensEntry_entry (number : Nat) (query : Plan.StorageQuery) :
    opensEntry (entry number query).1 = true := by
  simp [opensEntry, entry, String.toList_append, toString]

/-- The lines of entries have these entries. -/
theorem entriesOf_planQuery (queries : List (Plan.StorageQuery × Nat)) :
    entriesOf (queries.flatMap fun (query, number) => planQuery number query) =
      queries.map fun (query, number) => entry number query := by
  induction queries with
  | nil => rfl
  | cons counted queries ih =>
      rw [List.flatMap_cons, List.map_cons, ← ih]
      exact if_pos (opensEntry_entry _ _)

/-! ## The text of a plan -/

/-- What stands above the entries. -/
def heading (plan : Plan.QueryPlan) : List String :=
  [s!"mode:  {modeName plan.mode}", s!"step:  {plan.step}s",
      s!"range: {plan.start}..={plan.stop}", "", "metrics:"] ++
    plan.grouping.rules.map (fun (metric, rule) => planMetric metric rule) ++ [""]

theorem plan_eq (plan : Plan.QueryPlan) :
    Report.plan plan = ofLines (heading plan ++
      plan.queries.zipIdx.flatMap fun (query, number) => planQuery number query) :=
  rfl

theorem forall_mem_heading {plan : Plan.QueryPlan} {holds : String → Prop}
    (hmode : holds s!"mode:  {modeName plan.mode}") (hstep : holds s!"step:  {plan.step}s")
    (hrange : holds s!"range: {plan.start}..={plan.stop}") (hblank : holds "")
    (htitle : holds "metrics:")
    (hmetrics : ∀ ruled ∈ plan.grouping.rules, holds (planMetric ruled.1 ruled.2)) :
    ∀ line ∈ heading plan, holds line := by
  intro line hline
  simp only [heading, List.mem_append, List.mem_cons, List.mem_map, List.not_mem_nil,
    or_false] at hline
  rcases hline with ((rfl | rfl | rfl | rfl | rfl) | ⟨ruled, hruled, rfl⟩) | rfl
  exacts [hmode, hstep, hrange, hblank, htitle, hmetrics ruled hruled, hblank]

theorem opensEntry_heading (plan : Plan.QueryPlan) :
    ∀ line ∈ heading plan, opensEntry line = false := by
  refine forall_mem_heading ?_ ?_ ?_ ?_ ?_ fun ruled _ => ?_ <;>
    simp [opensEntry, planMetric, String.toList_append, toString]

theorem entriesOf_plan (plan : Plan.QueryPlan) :
    entriesOf (heading plan ++
      plan.queries.zipIdx.flatMap fun (query, number) => planQuery number query) =
        entries plan.queries := by
  rw [entriesOf_append_of_not (opensEntry_heading plan)]
  exact entriesOf_planQuery _

/-! ## Reading lines back -/

theorem toList_ofLines (lines : List String) :
    (ofLines lines).toList = (lines.map String.toList).flatMap (· ++ ['\n']) := by
  simp [ofLines, String.toList_join, List.flatMap_map]

/-- Lines that hold no line end are read back. -/
theorem linesOf_ofLines {lines : List String} (h : ∀ line ∈ lines, '\n' ∉ line.toList) :
    linesOf (ofLines lines) = lines := by
  have hlines : Plan.ConsistsOfLines (ofLines lines).toList (lines.map String.toList) :=
    ⟨List.forall_mem_map.mpr h, toList_ofLines lines⟩
  rw [linesOf, hlines.lines_eq, List.map_map]
  exact List.map_id'' (fun line => String.ofList_toList) lines

/-- The lines of a plan are lines if no name breaks one. -/
theorem newline_not_mem_plan {plan : Plan.QueryPlan} (h : plan.Unbroken) :
    ∀ line ∈ heading plan ++
      plan.queries.zipIdx.flatMap (fun (query, number) => planQuery number query),
        '\n' ∉ line.toList := by
  refine List.forall_mem_append.mpr ⟨?_, fun line hline => ?_⟩
  · refine forall_mem_heading ?_ ?_ ?_ ?_ ?_ fun ruled hruled => ?_
    · cases hmode : plan.mode <;> simp [modeName, toString]
    · simp [String.toList_append, toString, newline_not_mem_toDigits]
    · simp [String.toList_append, toString, newline_not_mem_toDigits]
    · decide
    · decide
    · simp [planMetric, String.toList_append, toString, newline_not_mem_toDigits,
        Aggregation.newline_not_mem_name, h.1 _ hruled]
  · obtain ⟨⟨query, number⟩, hcounted, hline⟩ := List.mem_flatMap.mp hline
    obtain ⟨htable, htext⟩ := h.2 query (List.fst_mem_of_mem_zipIdx hcounted)
    have hfunction : '\n' ∉ ((query.function.map Aggregation.name).getD "raw").toList := by
      cases query.function with
      | none => decide
      | some function => exact function.newline_not_mem_name
    simp only [planQuery, List.mem_cons, List.not_mem_nil, or_false] at hline
    rcases hline with rfl | rfl
    · simp [String.toList_append, toString, newline_not_mem_toDigits, htable, hfunction]
    · simp [String.toList_append, toString, htext]

/-- The text of a plan lists its queries. -/
theorem lists_plan (plan : Plan.QueryPlan) : Lists (Report.plan plan) plan where
  printed := ⟨_, plan_eq plan, entriesOf_plan plan⟩
  read hunbroken := by
    rw [plan_eq, linesOf_ofLines (newline_not_mem_plan hunbroken), entriesOf_plan]

end Cli.Report

end SeriesGateway
