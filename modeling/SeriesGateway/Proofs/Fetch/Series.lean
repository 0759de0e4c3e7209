import SeriesGateway.Proofs.Fetch.Description
import SeriesGateway.Proofs.Fetch.Schedule
import SeriesGateway.Proofs.Point.Reduction
import SeriesGateway.Proofs.Rules.Lookup
import SeriesGateway.Proofs.Target.Pushing

/-! # The series of a reply

A client gets one series for each metric that it asked for, under the aliases it
gave, rolled up as the rules say. This holds whatever storage and the secondary
source send: the metrics asked for are described before anything comes in, and
consolidation leaves no point that is out of place.
-/

namespace SeriesGateway.Fetch

/-! ## Filed replies -/

theorem mem_repliesOf {results : List GroupResult} {replies : List (Nat × TimeFrame × GroupReply)}
    (hreplies : repliesOf results = .ok replies) {position : Nat} {frame : TimeFrame}
    {reply : GroupReply} (hmem : (position, frame, reply) ∈ replies) :
    ∃ ended ∈ results, ended.position = position ∧ ended.frame = frame ∧
      ended.result = .ok reply := by
  induction results generalizing replies with
  | nil =>
      cases hreplies
      cases hmem
  | cons ended rest ih =>
      rw [repliesOf] at hreplies
      split at hreplies
      next => cases hreplies
      next first hfirst =>
        cases hrest : repliesOf rest with
        | error error =>
            rw [hrest] at hreplies
            cases hreplies
        | ok others =>
            rw [hrest] at hreplies
            cases hreplies
            rcases List.mem_cons.mp hmem with hsame | hmem
            · cases hsame
              exact ⟨ended, List.mem_cons_self, rfl, rfl, hfirst⟩
            · obtain ⟨other, hother, hspec⟩ := ih hrest hmem
              exact ⟨other, List.mem_cons_of_mem ended hother, hspec⟩

/-- The replies of a response are results of groups, each filed under its frame. -/
theorem mem_ofResults {results : List GroupResult} {response : Response}
    (hresponse : Response.ofResults results = .ok response)
    {filed : TimeFrame × List GroupReply} (hfiled : filed ∈ response) {reply : GroupReply}
    (hreply : reply ∈ filed.2) :
    ∃ ended ∈ results, ended.frame = filed.1 ∧ ended.result = .ok reply := by
  rw [Response.ofResults] at hresponse
  cases hreplies : repliesOf results with
  | error error =>
      rw [hreplies] at hresponse
      cases hresponse
  | ok replies =>
      rw [hreplies] at hresponse
      cases hresponse
      obtain ⟨frame, -, rfl⟩ := List.mem_map.mp hfiled
      obtain ⟨⟨other, found⟩, hfound, rfl⟩ := List.mem_map.mp hreply
      obtain ⟨hfound, hframe⟩ := List.mem_filter.mp hfound
      obtain ⟨⟨position, entry⟩, hentry, rfl⟩ := List.mem_map.mp hfound
      rw [List.mem_mergeSort] at hentry
      obtain ⟨ended, hended, -, hsame, hresult⟩ := mem_repliesOf hreplies hentry
      exact ⟨ended, hended, hsame.trans (by simpa using hframe), hresult⟩

/-! ## The series of a reply -/

/-- The step that clients are told for a metric: the one of the reply if storage
aggregated, else the one that the rules give the metric. -/
def GroupReply.announcedStep (reply : GroupReply) (rule : RuleMatch) : UInt32 :=
  match reply.mode with
  | .aggregated => reply.step
  | .unaggregated => rule.precision

/-- What a client can rely on in a series, given what the rules say about its metric
and the aliases the metric was asked for under. -/
structure Series.WellFormed (reply : GroupReply) (rule : RuleMatch) (aliases : List Alias)
    (series : Series) : Prop where
  aliases_eq : series.aliases = aliases
  function_eq : series.function = rule.function
  step_eq : series.step = reply.announcedStep rule
  belongs : ∀ point ∈ series.points, reply.store.name? point.metricId = some series.metric
  ascending : series.points.Pairwise fun a b => a.time < b.time
  aligned : ∀ point ∈ series.points, series.step.toNat ∣ point.time.toNat
  isNumber : ∀ point ∈ series.points, point.value.isNaN = false
  reaches : ∀ point ∈ series.points, reply.start.toNat < point.time.toNat + series.step.toNat

/-- What a reply is made of: a plan of its group, and a store that knows the metrics
of the group first, and holds no points or consolidated ones. -/
structure MadeBy (plan : Plan.QueryPlan) (group : TargetGroup) (reply : GroupReply) : Prop where
  group_eq : reply.group = group
  mode_eq : reply.mode = plan.mode
  step_eq : reply.step = plan.step
  start_eq : reply.start = plan.start
  metrics : (Fetching.describedStore plan).metrics <+: reply.store.metrics
  points : reply.store.points = [] ∨
    ∃ store : PointStore, reply.store = store.consolidate plan.start plan.rollupStep

variable {mode : Plan.Mode} {epoch : UInt32} {frame : TimeFrame} {group : TargetGroup}
  {reply : GroupReply}

theorem ReplyOf.exists_madeBy (h : ReplyOf mode epoch frame group reply) :
    ∃ plan, Plan.PlanOf mode epoch frame group plan ∧ MadeBy plan group reply := by
  obtain ⟨plan, hplan, ⟨-, rfl⟩ | ⟨responses, recent, rfl⟩⟩ := h
  · exact ⟨plan, hplan, rfl, rfl, rfl, rfl, List.prefix_refl _,
      .inl (Fetching.points_describedStore plan)⟩
  · refine ⟨plan, hplan, rfl, rfl, rfl, rfl, ?_, .inr ⟨_, rfl⟩⟩
    rw [GroupReply.ofPlan, Fetching.conclude_storeOf]
    exact PointStore.metrics_prefix_enterAll _ _

namespace MadeBy

variable {plan : Plan.QueryPlan} {id : UInt32}

theorem pairwise_metricPoints (h : MadeBy plan group reply) (id : UInt32) :
    (reply.store.metricPoints id).Pairwise fun a b => a.time < b.time := by
  rcases h.points with hnone | ⟨store, hstore⟩
  · simp [PointStore.metricPoints, hnone]
  · rw [hstore]
    exact PointStore.pairwise_metricPoints_consolidate store plan.start plan.rollupStep id

theorem of_mem_metricPoints (h : MadeBy plan group reply) {point : Point}
    (hpoint : point ∈ reply.store.metricPoints id) :
    point.metricId = id ∧
      (reply.store.bucketStep plan.rollupStep id).toNat ∣ point.time.toNat ∧
      point.value.isNaN = false ∧
      reply.start.toNat < point.time.toNat + (reply.store.bucketStep plan.rollupStep id).toNat := by
  rcases h.points with hnone | ⟨store, hstore⟩
  · simp [PointStore.metricPoints, hnone] at hpoint
  · rw [h.start_eq]
    rw [hstore] at hpoint ⊢
    have hkept := @PointStore.of_mem_metricPoints_consolidate store _ _ _ _ hpoint
    exact ⟨PointStore.metricId_of_mem_metricPoints_consolidate hpoint, hkept⟩

/-- The store knows a metric asked for by a number, and the series is told the width of
the buckets that the points under this number come from. -/
theorem exists_number (h : MadeBy plan group reply)
    (hplan : Plan.PlanOf mode epoch frame group plan) (hnodup : group.metrics.Nodup)
    (hfits : group.size < UInt32.size) {metric : String} (hmetric : metric ∈ group.metrics) :
    let rule := Plan.Grouping.ruleOf group frame epoch metric
    ∃ id, reply.store.name? id = some metric ∧
      (reply.seriesOf metric).points = reply.store.metricPoints id ∧
      (reply.seriesOf metric).step = reply.store.bucketStep plan.rollupStep id ∧
      (reply.seriesOf metric).step = reply.announcedStep rule ∧
      (reply.seriesOf metric).function = rule.function := by
  intro rule
  obtain ⟨hmode, hstep, -⟩ := Plan.planOf_spec hplan
  obtain ⟨id, hid, hknown⟩ := Fetching.exists_described hplan hnodup hfits hmetric
  replace hid := PointStore.metricId?_of_prefix h.metrics hid
  replace hknown := PointStore.metric?_of_prefix h.metrics hknown
  have hpositive : rule.precision ≠ 0 := RuleSet.precision_lookup_ne_zero _ _ _
  have hown : reply.store.step? id = some rule.precision := by
    simp [PointStore.step?, hknown, hpositive, rule]
  refine ⟨id, ?_, ?_, ?_, ?_, ?_⟩
  · simp [PointStore.name?, hknown]
  · simp [GroupReply.seriesOf, hid]
  · simp only [GroupReply.seriesOf, hid, GroupReply.stepOf, PointStore.bucketStep,
      Plan.QueryPlan.rollupStep, h.mode_eq, h.step_eq, hmode]
    cases mode with
    | aggregated => simp [hstep rfl]
    | unaggregated => simp [hown]
  · simp only [GroupReply.seriesOf, hid, GroupReply.stepOf, GroupReply.announcedStep, h.mode_eq,
      hmode]
    cases mode with
    | aggregated => rfl
    | unaggregated => simp [hown]
  · simp [GroupReply.seriesOf, hid, PointStore.aggregation?, hknown, rule]

theorem wellFormed_seriesOf (h : MadeBy plan group reply)
    (hplan : Plan.PlanOf mode epoch frame group plan) (hnodup : group.metrics.Nodup)
    (hfits : group.size < UInt32.size) {metric : String} (hmetric : metric ∈ group.metrics) :
    (reply.seriesOf metric).WellFormed reply (Plan.Grouping.ruleOf group frame epoch metric)
      (group.aliasesOf metric) := by
  obtain ⟨id, hname, hpoints, hstep, hannounced, hfunction⟩ :=
    h.exists_number hplan hnodup hfits hmetric
  refine
    { aliases_eq := ?_, function_eq := hfunction, step_eq := hannounced, belongs := ?_,
      ascending := ?_, aligned := ?_, isNumber := ?_, reaches := ?_ }
  · rw [← h.group_eq]
    rfl
  · intro point hpoint
    rw [hpoints] at hpoint
    rw [(h.of_mem_metricPoints hpoint).1]
    exact hname
  · rw [hpoints]
    exact h.pairwise_metricPoints id
  · intro point hpoint
    rw [hpoints] at hpoint
    rw [hstep]
    exact (h.of_mem_metricPoints hpoint).2.1
  · intro point hpoint
    rw [hpoints] at hpoint
    exact (h.of_mem_metricPoints hpoint).2.2.1
  · intro point hpoint
    rw [hpoints] at hpoint
    rw [hstep]
    exact (h.of_mem_metricPoints hpoint).2.2.2

end MadeBy

/-- The response of a request that has ended well. -/
def RequestRun.response? (run : RequestRun) : Option Response :=
  match run.phase with
  | .concluded ⟨_, .ok response⟩ => some response
  | _ => none

theorem RequestRun.Sound.ofResults_of_response {orchestrator : Orchestrator} {request : Request}
    {run : RequestRun} {response : Response} (hrun : Sound orchestrator request run)
    (hresponse : run.response? = some response) :
    Response.ofResults run.results = .ok response := by
  unfold response? at hresponse
  split at hresponse
  next hended =>
    cases hresponse
    exact hrun.concluded _ _ hended rfl
  next => cases hresponse

/-- Whatever storage and the secondary source answer, and in whatever order the groups
act, every reply of a response belongs to a target of the request and has one series for
each distinct metric that was pushed, in the order of the first pushes: under the aliases
it was pushed with, with the function and the step that the rules give it, or the step of
the reply if storage aggregated, and with points of this metric that are strictly
ascending, aligned to the step, numbers, and in a bucket that ends behind the start of
the reply. A group of more metrics than there are numbers is out of scope: it would give
two of them the same number. -/
theorem RequestRun.series_wellFormed (orchestrator : Orchestrator) (number start : Nat)
    (request : Request) (moves : List Move) {response : Response}
    (hresponse : ((new number start request).play orchestrator moves).response? = some response) :
    ∀ filed ∈ response, ∀ reply ∈ filed.2,
      (filed.1, reply.group) ∈ request.pairs ∧ reply.mode = orchestrator.mode ∧
      ∀ pushed, reply.group.BuiltFrom pushed → reply.group.size < UInt32.size →
        reply.series.map (·.metric) = (pushed.map (·.1)).eraseDups ∧
        ∀ series ∈ reply.series,
          series.WellFormed reply
            (reply.group.rules.lookup (reply.group.ruleName series.metric)
              (filed.1.age request.epoch))
            ((pushed.filter (·.1 == series.metric)).map (·.2)) := by
  intro filed hfiled reply hreply
  have hrun := (sound_new orchestrator number start request).play moves
  have hresults := hrun.ofResults_of_response hresponse
  -- the reply is the result of a group, which built it by one of its plans
  obtain ⟨result, hresult, hframe, hok⟩ := mem_ofResults hresults hfiled hreply
  obtain ⟨group, hpair, hreplyOf⟩ := hrun.results result hresult
  rw [hok, hframe] at hreplyOf
  obtain ⟨plan, hplan, hmade⟩ := hreplyOf.exists_madeBy
  obtain rfl := hmade.group_eq
  rw [hframe] at hpair
  refine ⟨List.mem_of_getElem? hpair, ?_, ?_⟩
  · rw [hmade.mode_eq, (Plan.planOf_spec hplan).1]
  · intro pushed hbuilt hfits
    refine ⟨?_, ?_⟩
    · rw [GroupReply.series, List.map_map, ← hbuilt.metrics_eq]
      exact List.map_id reply.group.metrics
    · intro series hseries
      obtain ⟨metric, hmetric, rfl⟩ := List.mem_map.mp hseries
      have hwellFormed := hmade.wellFormed_seriesOf hplan hbuilt.nodup hfits hmetric
      rwa [hbuilt.aliasesOf_eq] at hwellFormed

/-- Storage sends points out of order, a NaN that beats a number, and a metric that nobody
asked for; the secondary source sends a point that storage does not have. -/
theorem RequestRun.series_wellFormed_of_stray_points :
    let one : Sample := ⟨0x3ff0000000000000⟩
    let rows : List Wire.Row :=
      [⟨[98], [130, 70, 70], [one, one, .nan], [1, 2, 3]⟩, ⟨[99], [61], [one], [1]⟩]
    let orchestrator : Orchestrator :=
      ⟨.standard,
        fun _ _ => ⟨0, .body ⟨[⟨0, rows.flatMap (Wire.Row.encode .unaggregated)⟩], 0, none⟩⟩,
        .present fun _ _ _ _ => ⟨0, .ok [⟨"a", 100, one, 5⟩]⟩⟩
    let rules : RuleSet := ⟨[], 60, .last, by decide⟩
    let group := (((TargetGroup.new "points" rules).push "b" "B" "x").push "a" "A" "y").push
      "b" "C" "z"
    let pushed : List (String × Alias) := [("b", ⟨"B", "x"⟩), ("a", ⟨"A", "y"⟩), ("b", ⟨"C", "z"⟩)]
    let frame : TimeFrame := ⟨60, 180, 0⟩
    let moves : List Move := [.request ⟨0, 0⟩, .group 0 ⟨⟨0, 1⟩, ⟨[]⟩, [], []⟩, .request ⟨0, 2⟩]
    ∃ response,
      ((new 0 0 ⟨[(frame, group)], 1000, by decide⟩).play orchestrator moves).response? =
        some response ∧
      response.map (fun filed => (filed.1, filed.2.map (·.group))) = [(frame, [group])] ∧
      group.BuiltFrom pushed ∧ group.size < UInt32.size ∧
      ∀ filed ∈ response, ∀ reply ∈ filed.2,
        reply.series.map (·.metric) = ["b", "a"] ∧
        ∀ series ∈ reply.series, series.WellFormed reply ⟨60, .last⟩
          ((pushed.filter (·.1 == series.metric)).map (·.2)) := by
  intro one rows orchestrator rules group pushed frame moves
  have hrun : ((new 0 0 ⟨[(frame, group)], 1000, by decide⟩).play orchestrator moves).response?.map
      (·.map fun filed => (filed.1, filed.2.length)) = some [(frame, 1)] := by
    decide +kernel
  obtain ⟨response, hresponse, hshape⟩ := Option.map_eq_some_iff.mp hrun
  have hseries :=
    series_wellFormed orchestrator 0 0 ⟨[(frame, group)], 1000, by decide⟩ moves hresponse
  have hgroup : ∀ filed ∈ response, ∀ reply ∈ filed.2, reply.group = group := by
    intro filed hfiled reply hreply
    obtain ⟨hpair, -⟩ := hseries filed hfiled reply hreply
    exact (Prod.mk.inj (List.mem_singleton.mp hpair)).2
  have hbuilt : group.BuiltFrom pushed :=
    (((TargetGroup.BuiltFrom.new "points" rules).push "b" "B" "x").push "a" "A" "y").push
      "b" "C" "z"
  have hfits : group.size < UInt32.size := by decide
  refine ⟨response, hresponse, ?_, hbuilt, hfits, fun filed hfiled reply hreply => ?_⟩
  · obtain ⟨filed, rfl, hfiled⟩ := List.map_eq_singleton_iff.mp hshape
    obtain ⟨hframe, hlength⟩ := Prod.mk.inj hfiled
    obtain ⟨reply, hreplies⟩ := List.length_eq_one_iff.mp hlength
    have hsame := hgroup filed (by simp) reply (by simp [hreplies])
    simp [hframe, hreplies, hsame]
  · obtain ⟨-, -, hwellFormed⟩ := hseries filed hfiled reply hreply
    rw [hgroup filed hfiled reply hreply] at hwellFormed
    exact hwellFormed pushed hbuilt hfits

end SeriesGateway.Fetch
