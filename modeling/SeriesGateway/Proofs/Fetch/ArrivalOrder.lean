import Mathlib.Data.List.Perm.Subperm
import SeriesGateway.Proofs.Fetch.Description
import SeriesGateway.Proofs.Point.Reduction

/-! # The order of arrival

The queries of a group end in any order, and each adds its rows when it ends. The
metrics that the group asked for have their numbers before that, so the order
can only move the numbers of other metrics and the points of one query against
those of another. Unless points of two queries tie, the series are the same.
-/

namespace SeriesGateway.Fetch

open PointStore (Entry pointsUnder enterAll)

/-- What decides between the points of a metric: the display name, time and timestamp
of every point of some rows. -/
def stampsOf (reversed : Bool) (rows : List Wire.Row) : List (String × UInt32 × UInt32) :=
  rows.flatMap fun row => (PointStore.rowPoints 0 row).map fun point =>
    (PointStore.displayName row.name reversed, point.time, point.timestamp)

/-- The names that come up in a group: of the metrics asked for, of rows and of recent
points. -/
def namesOf (group : TargetGroup) (responses : List (List Wire.Row)) (recent : List RecentPoint) :
    List String :=
  group.metrics ++ responses.flatMap (·.map fun row =>
    PointStore.displayName row.name group.isReversed) ++ recent.map (·.metric)

/-! ## Points that arrive under a name -/

section Arrival

variable {reversed : Bool} {name : String} {id : UInt32} {point : Point}

theorem exists_mem_rowPoints {row : Wire.Row} (hpoint : point ∈ PointStore.rowPoints id row) :
    ∃ other ∈ PointStore.rowPoints 0 row,
      other.time = point.time ∧ other.timestamp = point.timestamp := by
  obtain ⟨⟨⟨time, value⟩, timestamp⟩, hmem, rfl⟩ := List.mem_map.mp hpoint
  exact ⟨⟨0, value, time, timestamp⟩, List.mem_map.mpr ⟨_, hmem, rfl⟩, rfl, rfl⟩

theorem mem_stampsOf {rows : List Wire.Row}
    (hpoint : point ∈ pointsUnder name id (rows.map (.ofRow reversed))) :
    (name, point.time, point.timestamp) ∈ stampsOf reversed rows := by
  obtain ⟨entry, hentry, hpoint⟩ := List.mem_flatMap.mp hpoint
  obtain ⟨hentry, hname⟩ := List.mem_filter.mp hentry
  obtain ⟨row, hrow, rfl⟩ := List.mem_map.mp hentry
  obtain ⟨other, hother, htime, htimestamp⟩ := exists_mem_rowPoints hpoint
  refine List.mem_flatMap.mpr ⟨row, hrow, List.mem_map.mpr ⟨other, hother, ?_⟩⟩
  rw [htime, htimestamp, ← beq_iff_eq.mp hname]
  rfl

/-- Responses without a common stamp never tie. -/
theorem apart_of_disjoint {first second : List Wire.Row}
    (hdisjoint : ∀ stamp ∈ stampsOf reversed first, stamp ∉ stampsOf reversed second) :
    Point.Apart (pointsUnder name id (first.map (.ofRow reversed)))
      (pointsUnder name id (second.map (.ofRow reversed))) := by
  intro a ha b hb hkey htie
  have hfirst := mem_stampsOf ha
  have hsecond := mem_stampsOf hb
  rw [(Point.key_eq_iff.mp hkey).2, htie] at hfirst
  exact hdisjoint _ hfirst hsecond

theorem pointsUnder_append (first second : List Entry) :
    pointsUnder name id (first ++ second) =
      pointsUnder name id first ++ pointsUnder name id second := by
  rw [pointsUnder, List.filter_append, List.flatMap_append]
  rfl

theorem pointsUnder_entriesOf (responses : List (List Wire.Row)) (recent : List RecentPoint) :
    pointsUnder name id (Fetching.entriesOf reversed responses recent) =
      (responses.map fun rows => pointsUnder name id (rows.map (.ofRow reversed))).flatten ++
        pointsUnder name id (recent.map .ofRecent) := by
  rw [Fetching.entriesOf, pointsUnder_append, List.append_cancel_right_eq]
  induction responses with
  | nil => rfl
  | cons rows rest ih =>
      rw [List.flatMap_cons, pointsUnder_append, ih, List.map_cons, List.flatten_cons]

/-- Which points arrive under a name, and which of them win, is the same for every order
of responses that never tie. -/
theorem interchangeable_entriesOf {responses order : List (List Wire.Row)}
    (hperm : order.Perm responses)
    (hstamps : responses.Pairwise fun first second =>
      ∀ stamp ∈ stampsOf reversed first, stamp ∉ stampsOf reversed second)
    (recent : List RecentPoint) :
    Point.Interchangeable (pointsUnder name id (Fetching.entriesOf reversed order recent))
      (pointsUnder name id (Fetching.entriesOf reversed responses recent)) := by
  rw [pointsUnder_entriesOf, pointsUnder_entriesOf]
  refine Point.Interchangeable.append ?_ (.refl _)
  apply Point.interchangeable_of_perm (hperm.map _)
  rw [List.pairwise_map]
  have hordered := (hperm.pairwise_iff fun h stamp hfirst hsecond =>
    h stamp hsecond hfirst).mpr hstamps
  exact hordered.imp fun hdisjoint => apart_of_disjoint hdisjoint

end Arrival

/-! ## Stores of different orders -/

namespace Fetching

variable {mode : Plan.Mode} {epoch : UInt32} {frame : TimeFrame} {group : TargetGroup}
  {plan : Plan.QueryPlan} {responses order : List (List Wire.Row)} {recent : List RecentPoint}

/-- Every name that comes up is numbered once, in whatever order. -/
theorem length_metrics_arrived_le (hplan : Plan.PlanOf mode epoch frame group plan)
    (hperm : order.Perm responses) (recent : List RecentPoint) :
    (arrived group plan order recent).metrics.length ≤
      (namesOf group responses recent).eraseDups.length := by
  have hnodup : (arrived group plan order recent).names.Nodup :=
    PointStore.nodup_names_enterAll (nodup_names_describedStore plan) _
  have hsub : (arrived group plan order recent).names ⊆
      (namesOf group responses recent).eraseDups := by
    intro name hname
    rw [arrived, PointStore.mem_names_enterAll, mem_names_describedStore hplan] at hname
    rw [List.mem_eraseDups, namesOf, List.append_assoc, List.mem_append]
    refine hname.imp_right fun hentry => ?_
    rw [entriesOf, List.map_append, List.map_flatMap, List.mem_append] at hentry
    rw [List.mem_append]
    refine hentry.imp ?_ ?_
    · intro hrow
      simpa [Function.comp_def, Entry.ofRow, hperm.mem_iff] using hrow
    · intro hrecent
      simpa [Function.comp_def, Entry.ofRecent] using hrecent
  -- distinct names, all of which come up
  have hle := (hnodup.subperm hsub).length_le
  simpa [PointStore.names] using hle

/-- A metric asked for has the same number for every order, and the store knows the same
of it. -/
theorem exists_pinned (hplan : Plan.PlanOf mode epoch frame group plan)
    (hfits : (describedStore plan).metrics.length < UInt32.size) {metric : String}
    (hmetric : metric ∈ group.metrics) :
    ∃ id known, (describedStore plan).metricId? metric = some id ∧
      ∀ responses recent, (arrived group plan responses recent).metricId? metric = some id ∧
        (arrived group plan responses recent).metric? id = some known := by
  obtain ⟨id, hid⟩ := exists_metricId hplan hmetric
  obtain ⟨known, -, hknown, -⟩ := PointStore.exists_metric hid hfits
  refine ⟨id, known, hid, fun responses recent => ?_⟩
  have hmore := PointStore.metrics_prefix_enterAll (describedStore plan)
    (entriesOf group.isReversed responses recent)
  exact ⟨PointStore.metricId?_of_prefix hmore hid, PointStore.metric?_of_prefix hmore hknown⟩

/-- The points under the number of a metric asked for are those that arrived under its
name. -/
theorem filter_points_arrived {metric : String} {id : UInt32}
    (hid : (describedStore plan).metricId? metric = some id)
    (hfits : (arrived group plan responses recent).metrics.length < UInt32.size) :
    (arrived group plan responses recent).points.filter (·.metricId == id) =
      pointsUnder metric id (entriesOf group.isReversed responses recent) := by
  have hpoints := PointStore.filter_points_enterAll hid _ hfits
  rw [points_describedStore, List.filter_nil, List.nil_append] at hpoints
  exact hpoints

end Fetching

/-- The series of a metric depends on its number, on what the store knows of it, and on the
points under its number, as far as they decide who wins. -/
theorem GroupReply.seriesOf_consolidate_congr (group : TargetGroup) (plan : Plan.QueryPlan)
    {first second : PointStore} {metric : String} {id : UInt32}
    (hfirst : first.metricId? metric = some id) (hsecond : second.metricId? metric = some id)
    (hknown : first.metric? id = second.metric? id)
    (hpoints : Point.Interchangeable
      (first.points.filter (·.metricId == id)) (second.points.filter (·.metricId == id))) :
    (GroupReply.ofPlan group plan (first.consolidate plan.start plan.rollupStep)).seriesOf metric =
      (GroupReply.ofPlan group plan (second.consolidate plan.start plan.rollupStep)).seriesOf
        metric := by
  have hstep : first.step? id = second.step? id := by
    rw [PointStore.step?, PointStore.step?, hknown]
  have hfunction : first.aggregation? id = second.aggregation? id := by
    rw [PointStore.aggregation?, PointStore.aggregation?, hknown]
  have hseries := PointStore.metricPoints_consolidate_congr hpoints hstep hfunction plan.start
    plan.rollupStep
  simp only [GroupReply.seriesOf, GroupReply.stepOf, GroupReply.ofPlan,
    PointStore.metricId?_consolidate, PointStore.step?_consolidate,
    PointStore.aggregation?_consolidate, hfirst, hsecond, Option.bind_some, Option.map_some, hstep,
    hfunction, hseries]

/-- The series of a group are the same for every order in which the responses of its
queries are added, unless points of two responses have the display name, the time and
the timestamp in common. Names that were not asked for may get other numbers, as long as
there are enough numbers for all names. -/
theorem GroupReply.series_of_perm {mode : Plan.Mode} {epoch : UInt32} {frame : TimeFrame}
    {group : TargetGroup} {plan : Plan.QueryPlan} (hplan : Plan.PlanOf mode epoch frame group plan)
    {responses order : List (List Wire.Row)} (hperm : order.Perm responses)
    (hstamps : responses.Pairwise fun first second =>
      ∀ stamp ∈ stampsOf group.isReversed first, stamp ∉ stampsOf group.isReversed second)
    (recent : List RecentPoint)
    (hfits : (namesOf group responses recent).eraseDups.length < UInt32.size) :
    (GroupReply.ofPlan group plan
        (Fetching.conclude plan (Fetching.storeOf group.isReversed plan order) recent)).series =
      (GroupReply.ofPlan group plan (Fetching.conclude plan
        (Fetching.storeOf group.isReversed plan responses) recent)).series := by
  have horder := Nat.lt_of_le_of_lt
    (Fetching.length_metrics_arrived_le hplan hperm recent) hfits
  have hresponses := Nat.lt_of_le_of_lt
    (Fetching.length_metrics_arrived_le hplan (List.Perm.refl responses) recent) hfits
  have hdescribed := Nat.lt_of_le_of_lt (PointStore.metrics_prefix_enterAll
    (Fetching.describedStore plan) (Fetching.entriesOf group.isReversed order recent)).length_le
      horder
  apply List.map_congr_left
  intro metric hmetric
  -- the metric got its number before anything arrived
  obtain ⟨id, known, hid, hpinned⟩ := Fetching.exists_pinned hplan hdescribed hmetric
  obtain ⟨hidFirst, hknownFirst⟩ := hpinned order recent
  obtain ⟨hidSecond, hknownSecond⟩ := hpinned responses recent
  have hpoints := @interchangeable_entriesOf group.isReversed metric id _ _ hperm hstamps recent
  rw [← Fetching.filter_points_arrived hid horder, ← Fetching.filter_points_arrived hid hresponses]
    at hpoints
  rw [Fetching.conclude_storeOf, Fetching.conclude_storeOf]
  exact GroupReply.seriesOf_consolidate_congr group plan hidFirst hidSecond
    (hknownFirst.trans hknownSecond.symm) hpoints

/-- Two queries for the metrics of two functions, each of which also sends a metric that
nobody asked for, and one of which sends a point for a metric of the other. -/
theorem GroupReply.series_of_perm_of_two_functions :
    let one : Sample := ⟨0x3ff0000000000000⟩
    let first : List Wire.Row := [⟨[97], [60, 120], [one, one], []⟩, ⟨[120], [60], [one], []⟩]
    let second : List Wire.Row :=
      [⟨[121], [60], [one], []⟩, ⟨[98], [60], [one], []⟩, ⟨[97], [180], [one], []⟩]
    let recent : List RecentPoint := [⟨"b", 150, one, 200⟩]
    let pattern : RetentionPattern :=
      ⟨some fun name => name.toList.contains 'b', some .max, [], by simp, List.Pairwise.nil⟩
    let rules : RuleSet := ⟨[pattern], 60, .last, by decide⟩
    let group := ((TargetGroup.new "points" rules).push "a" "A" "x").push "b" "B" "x"
    let frame : TimeFrame := ⟨60, 180, 0⟩
    let parts : List Plan.FunctionGroup := [⟨.last, ["a"], 60⟩, ⟨.max, ["b"], 60⟩]
    let plan : Plan.QueryPlan :=
      ⟨.aggregated, .resolve group frame 1000, 60, 60, 180,
        parts.map (Plan.QueryPlan.functionQuery group 60 60 180)⟩
    Plan.PlanOf .aggregated 1000 frame group plan ∧
      [second, first].Perm [first, second] ∧
      [first, second].Pairwise (fun first second =>
        ∀ stamp ∈ stampsOf group.isReversed first, stamp ∉ stampsOf group.isReversed second) ∧
      (namesOf group [first, second] recent).eraseDups.length < UInt32.size ∧
      (Fetching.storeOf group.isReversed plan [second, first]).metricId? "x" ≠
        (Fetching.storeOf group.isReversed plan [first, second]).metricId? "x" ∧
      (GroupReply.ofPlan group plan (Fetching.conclude plan
        (Fetching.storeOf group.isReversed plan [second, first]) recent)).series =
          (GroupReply.ofPlan group plan (Fetching.conclude plan
            (Fetching.storeOf group.isReversed plan [first, second]) recent)).series := by
  intro one first second recent pattern rules group frame parts plan
  have hplan : Plan.PlanOf .aggregated 1000 frame group plan := ⟨60, by decide +kernel⟩
  have hperm : [second, first].Perm [first, second] := List.Perm.swap _ _ _
  have hstamps : [first, second].Pairwise fun first second =>
      ∀ stamp ∈ stampsOf group.isReversed first, stamp ∉ stampsOf group.isReversed second := by
    decide +kernel
  have hfits : (namesOf group [first, second] recent).eraseDups.length < UInt32.size := by
    decide +kernel
  refine ⟨hplan, hperm, hstamps, hfits, ?_, series_of_perm hplan hperm hstamps recent hfits⟩
  decide +kernel

end SeriesGateway.Fetch
