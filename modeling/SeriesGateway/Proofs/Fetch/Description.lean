import SeriesGateway.Proofs.Fetch.Gathering
import SeriesGateway.Proofs.Plan.Resolution
import SeriesGateway.Proofs.Point.Entry

/-! # Described stores

Before any row comes in, a group names all metrics it asked for and says how they
are rolled up. Whatever rows and recent points enter afterwards, these metrics
keep their numbers, their steps and their functions.
-/

namespace SeriesGateway.Fetch.Fetching

open PointStore (Entry enterAll)

/-! ## Descriptions -/

/-- A store with the descriptions of metrics, one after the other. -/
def describeAll (store : PointStore) (rules : List (String × RuleMatch)) : PointStore :=
  rules.foldl (fun store (metric, rule) => (store.describe metric rule.precision rule.function).2)
    store

theorem points_describeAll (store : PointStore) (rules : List (String × RuleMatch)) :
    (describeAll store rules).points = store.points := by
  induction rules generalizing store with
  | nil => rfl
  | cons entry rest ih =>
      rw [describeAll, List.foldl_cons, ← describeAll, ih, PointStore.points_describe]

theorem mem_names_describeAll {store : PointStore} {rules : List (String × RuleMatch)}
    {name : String} : name ∈ (describeAll store rules).names ↔
      name ∈ store.names ∨ name ∈ rules.map (·.1) := by
  induction rules generalizing store with
  | nil => simp [describeAll]
  | cons entry rest ih =>
      rw [describeAll, List.foldl_cons, ← describeAll, ih, PointStore.names_describe,
        PointStore.mem_names_intern, List.map_cons, List.mem_cons, or_assoc]

theorem nodup_names_describeAll {store : PointStore} (hnodup : store.names.Nodup)
    (rules : List (String × RuleMatch)) : (describeAll store rules).names.Nodup := by
  induction rules generalizing store with
  | nil => exact hnodup
  | cons entry rest ih =>
      rw [describeAll, List.foldl_cons, ← describeAll]
      apply ih
      rw [PointStore.names_describe]
      exact PointStore.nodup_names_intern hnodup entry.1

/-- Distinct new metrics are numbered in the order in which they are described. -/
theorem metrics_describeAll {store : PointStore} {rules : List (String × RuleMatch)}
    (hnew : ∀ name ∈ rules.map (·.1), name ∉ store.names) (hnodup : (rules.map (·.1)).Nodup)
    (hfits : store.metrics.length + rules.length < UInt32.size) :
    (describeAll store rules).metrics =
      store.metrics ++
        rules.map fun entry => ⟨entry.1, entry.2.precision, some entry.2.function⟩ := by
  induction rules generalizing store with
  | nil => simp [describeAll]
  | cons entry rest ih =>
      rw [List.length_cons] at hfits
      rw [List.map_cons, List.nodup_cons] at hnodup
      rw [List.map_cons, List.forall_mem_cons] at hnew
      have hfirst := PointStore.metrics_describe_of_new hnew.1 (by omega) entry.2.precision
        entry.2.function
      -- the others are still new behind the first
      rw [describeAll, List.foldl_cons, ← describeAll, ih, hfirst, List.append_assoc,
        List.singleton_append, List.map_cons]
      · intro name hname
        rw [PointStore.names_describe, PointStore.mem_names_intern, not_or]
        refine ⟨hnew.2 name hname, ?_⟩
        rintro rfl
        exact hnodup.1 hname
      · exact hnodup.2
      · rw [hfirst, List.length_append, List.length_singleton]
        omega

variable {plan : Plan.QueryPlan} {mode : Plan.Mode} {epoch : UInt32} {frame : TimeFrame}
  {group : TargetGroup}

theorem points_describedStore (plan : Plan.QueryPlan) : (describedStore plan).points = [] :=
  points_describeAll .empty plan.grouping.rules

theorem mem_names_describedStore (hplan : Plan.PlanOf mode epoch frame group plan)
    {name : String} : name ∈ (describedStore plan).names ↔ name ∈ group.metrics := by
  have hrules := (Plan.planOf_spec hplan).2.2
  rw [describedStore, ← describeAll, mem_names_describeAll, hrules, List.map_map]
  simp [PointStore.names, PointStore.empty]

theorem nodup_names_describedStore (plan : Plan.QueryPlan) : (describedStore plan).names.Nodup :=
  @nodup_names_describeAll .empty List.nodup_nil plan.grouping.rules

/-- The metrics that a group asks for are the first ones of its store. -/
theorem metrics_describedStore (hplan : Plan.PlanOf mode epoch frame group plan)
    (hnodup : group.metrics.Nodup) (hfits : group.size < UInt32.size) :
    (describedStore plan).metrics = group.metrics.map fun metric =>
      let rule := Plan.Grouping.ruleOf group frame epoch metric
      ⟨metric, rule.precision, some rule.function⟩ := by
  obtain ⟨-, -, hrules⟩ := Plan.planOf_spec hplan
  have hnames : plan.grouping.rules.map (·.1) = group.metrics := by
    rw [hrules, List.map_map]
    exact List.map_id group.metrics
  have hlength : PointStore.empty.metrics.length + plan.grouping.rules.length < UInt32.size := by
    rw [hrules, List.length_map, PointStore.empty, List.length_nil, Nat.zero_add]
    exact hfits
  have hmetrics := metrics_describeAll (fun _ _ => List.not_mem_nil) (hnames ▸ hnodup) hlength
  rw [describedStore, ← describeAll, hmetrics, hrules, List.map_map]
  rfl

theorem exists_metricId (hplan : Plan.PlanOf mode epoch frame group plan) {metric : String}
    (hmetric : metric ∈ group.metrics) :
    ∃ id, (describedStore plan).metricId? metric = some id := by
  rw [← Option.isSome_iff_exists, PointStore.metricId?_isSome, mem_names_describedStore hplan]
  exact hmetric

/-- A metric asked for has a number, under which the store knows what the rules say
about it. -/
theorem exists_described (hplan : Plan.PlanOf mode epoch frame group plan)
    (hnodup : group.metrics.Nodup) (hfits : group.size < UInt32.size) {metric : String}
    (hmetric : metric ∈ group.metrics) :
    ∃ id, (describedStore plan).metricId? metric = some id ∧
      (describedStore plan).metric? id =
        let rule := Plan.Grouping.ruleOf group frame epoch metric
        some ⟨metric, rule.precision, some rule.function⟩ := by
  have hmetrics := metrics_describedStore hplan hnodup hfits
  have hlength : (describedStore plan).metrics.length = group.size := by
    rw [hmetrics, List.length_map, TargetGroup.size]
  obtain ⟨id, hid⟩ := exists_metricId hplan hmetric
  obtain ⟨known, hmem, hknown, hname⟩ := PointStore.exists_metric hid (hlength ▸ hfits)
  rw [hmetrics] at hmem
  obtain ⟨other, -, rfl⟩ := List.mem_map.mp hmem
  obtain rfl : other = metric := hname
  exact ⟨id, hid, hknown⟩

/-! ## Entries -/

/-- Everything that enters the store of a group, in order: the rows of the responses,
and then the recent points. -/
def entriesOf (reversed : Bool) (responses : List (List Wire.Row)) (recent : List RecentPoint) :
    List Entry :=
  responses.flatMap (·.map (.ofRow reversed)) ++ recent.map .ofRecent

theorem addRows_eq_enterAll (reversed : Bool) (store : PointStore) (rows : List Wire.Row) :
    addRows reversed store rows = store.enterAll (rows.map (.ofRow reversed)) := by
  rw [addRows, enterAll, List.foldl_map]
  rfl

theorem storeOf_eq_enterAll (reversed : Bool) (plan : Plan.QueryPlan)
    (responses : List (List Wire.Row)) :
    storeOf reversed plan responses =
      (describedStore plan).enterAll (responses.flatMap (·.map (.ofRow reversed))) := by
  rw [storeOf]
  generalize describedStore plan = store
  induction responses generalizing store with
  | nil => rfl
  | cons rows rest ih =>
      rw [List.foldl_cons, ih, addRows_eq_enterAll, List.flatMap_cons, PointStore.enterAll_append]

/-- Everything that arrived for a group, before it is consolidated. -/
def arrived (group : TargetGroup) (plan : Plan.QueryPlan) (responses : List (List Wire.Row))
    (recent : List RecentPoint) : PointStore :=
  (describedStore plan).enterAll (entriesOf group.isReversed responses recent)

theorem conclude_storeOf (group : TargetGroup) (plan : Plan.QueryPlan)
    (responses : List (List Wire.Row)) (recent : List RecentPoint) :
    conclude plan (storeOf group.isReversed plan responses) recent =
      (arrived group plan responses recent).consolidate plan.start plan.rollupStep := by
  rw [conclude, storeOf_eq_enterAll, PointStore.appendRecent_eq_enterAll, arrived, entriesOf,
    PointStore.enterAll_append]

end SeriesGateway.Fetch.Fetching
