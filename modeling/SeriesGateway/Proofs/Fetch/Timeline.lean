import SeriesGateway.Proofs.Fetch.Reachability
import SeriesGateway.Proofs.Fetch.Series
import SeriesGateway.Proofs.Plan.FunctionSteps

/-! # One timeline

Where storage aggregates, all series of a request line up: there is one common step,
which every function of every target divides, and each frame has one step, a multiple
of the common one, by which everything that is asked and answered for it is aligned.
-/

namespace SeriesGateway.Fetch

open Step (commonMultiple)

namespace Request

/-- The steps that the functions of a target need: for each function the largest
precision that the rules give a metric of this function. -/
def functionSteps (request : Request) (pair : TimeFrame × TargetGroup) : List UInt32 :=
  let rule := Plan.Grouping.ruleOf pair.2 pair.1 request.epoch
  (Plan.Grouping.functionsOf rule pair.2.metrics).map fun function =>
    ((pair.2.metrics.filter fun metric => (rule metric).function = function).map fun metric =>
      (rule metric).precision).foldl max 0

/-- The least common multiple of what all functions of all targets need. -/
def commonStep (request : Request) : Nat :=
  commonMultiple (request.pairs.flatMap request.functionSteps)

theorem stepsOf_eq_functionSteps (request : Request) (pair : TimeFrame × TargetGroup) :
    request.stepsOf pair = request.functionSteps pair := by
  rw [stepsOf, Plan.Grouping.groups_resolve, List.map_map]
  rfl

theorem commonMultiple_stepsOf (request : Request) :
    commonMultiple (request.pairs.flatMap request.stepsOf) = request.commonStep := by
  rw [commonStep, funext request.stepsOf_eq_functionSteps]

theorem ne_zero_of_mem_functionSteps {request : Request} {pair : TimeFrame × TargetGroup}
    {step : UInt32} (hstep : step ∈ request.functionSteps pair) : step ≠ 0 := by
  rw [← stepsOf_eq_functionSteps, stepsOf] at hstep
  obtain ⟨part, hpart, rfl⟩ := List.mem_map.mp hstep
  exact Plan.Grouping.step_ne_zero_of_mem_groups hpart

theorem dvd_commonStep {request : Request} {pair : TimeFrame × TargetGroup}
    (hpair : pair ∈ request.pairs) {step : UInt32} (hstep : step ∈ request.functionSteps pair) :
    step.toNat ∣ request.commonStep :=
  Step.dvd_commonMultiple (List.mem_flatMap.mpr ⟨pair, hpair, hstep⟩)
    (ne_zero_of_mem_functionSteps hstep)

/-- A target with metrics needs some step, so the common one is positive. -/
theorem commonStep_ne_zero {request : Request} {frame : TimeFrame} {group : TargetGroup}
    (hpair : (frame, group) ∈ request.pairs) (hmetrics : group.metrics ≠ []) :
    request.commonStep ≠ 0 := by
  obtain ⟨part, hpart⟩ := List.exists_mem_of_ne_nil _
    (Plan.Grouping.groups_resolve_ne_nil frame request.epoch hmetrics)
  have hstep : part.step ∈ request.functionSteps (frame, group) := by
    rw [← stepsOf_eq_functionSteps, stepsOf]
    exact List.mem_map_of_mem hpart
  exact Nat.ne_of_gt (Step.commonMultiple_pos (List.mem_flatMap.mpr ⟨_, hpair, hstep⟩)
    (ne_zero_of_mem_functionSteps hstep))

/-- A step and bounds that are on the timeline of a request for a frame. -/
structure Aligned (request : Request) (frame : TimeFrame) (step start stop : UInt32) : Prop where
  /-- The common step fits, and the step is what it gives the frame. -/
  fits : request.commonStep < UInt32.size
  step_eq : step = Plan.QueryPlan.finalStep frame (.ofNat request.commonStep)
  step_ne_zero : step ≠ 0
  common_dvd : request.commonStep ∣ step.toNat
  steps_dvd : ∀ pair ∈ request.pairs, ∀ need ∈ request.functionSteps pair,
    need ≠ 0 ∧ need.toNat ∣ step.toNat
  start_eq : start = Step.floor frame.start step
  stop_eq : stop = Step.ceil frame.stop step
  start_dvd : step.toNat ∣ start.toNat
  stop_dvd : step.toNat ∣ stop.toNat

/-- An agreed plan is on the timeline, and so are all of its queries. -/
theorem aligned_of_planFor {orchestrator : Orchestrator}
    (haggregated : orchestrator.config.aggregated = true) {request : Request} {frame : TimeFrame}
    {group : TargetGroup} (hpair : (frame, group) ∈ request.pairs)
    (hmetrics : group.metrics ≠ []) {plan : Plan.QueryPlan}
    (hplan : request.PlanFor orchestrator frame group plan) :
    request.Aligned frame plan.step plan.start plan.stop ∧
      ∀ query ∈ plan.queries, request.Aligned frame query.step query.start query.stop := by
  have hshared : orchestrator.mode = .aggregated := by simp [Orchestrator.mode, haggregated]
  rw [PlanFor, hshared] at hplan
  obtain ⟨common, hcommon, hagreed⟩ := hplan
  replace hagreed := (hagreed hmetrics).trans request.commonMultiple_stepsOf
  have hsame : common = .ofNat request.commonStep := by rw [← hagreed, UInt32.ofNat_toNat]
  have hpositive : common ≠ 0 := by
    rintro rfl
    exact commonStep_ne_zero hpair hmetrics hagreed.symm
  obtain ⟨hstep, hstart, hstop, hqueries⟩ :=
    Plan.QueryPlan.aggregated_spec hcommon hmetrics hpositive
  have hnonzero : plan.step ≠ 0 := hstep ▸ Plan.QueryPlan.finalStep_ne_zero frame common
  have hdvd : request.commonStep ∣ plan.step.toNat := by
    have hmultiple := Plan.QueryPlan.dvd_finalStep frame common
    rwa [Step.positive_of_ne_zero hpositive, hagreed, ← hstep] at hmultiple
  have haligned : request.Aligned frame plan.step plan.start plan.stop :=
    { fits := hagreed ▸ common.toNat_lt_size
      step_eq := hsame ▸ hstep
      step_ne_zero := hnonzero
      common_dvd := hdvd
      steps_dvd := fun pair hmem need hneed =>
        ⟨ne_zero_of_mem_functionSteps hneed, Nat.dvd_trans (dvd_commonStep hmem hneed) hdvd⟩
      start_eq := hstart
      stop_eq := hstop
      start_dvd := by
        have hfloor := Step.dvd_floor frame.start plan.step
        rwa [Step.positive_of_ne_zero hnonzero, ← hstart] at hfloor
      stop_dvd := by
        have hceil := Step.dvd_ceil frame.stop plan.step
        rwa [Step.positive_of_ne_zero hnonzero, ← hstop] at hceil }
  refine ⟨haligned, fun query hquery => ?_⟩
  obtain ⟨hsameStep, hsameStart, hsameStop⟩ := hqueries query hquery
  rwa [hsameStep, hsameStart, hsameStop]

end Request

namespace RequestRun

variable {orchestrator : Orchestrator} {request : Request} {run : RequestRun}

/-- Every reply of a response comes from an agreed plan of a target of the request. -/
theorem Planned.of_response (h : Planned orchestrator request run)
    (hrun : Sound orchestrator request run) {response : Response}
    (hresponse : run.response? = some response) {filed : TimeFrame × List GroupReply}
    (hfiled : filed ∈ response) {reply : GroupReply} (hreply : reply ∈ filed.2) :
    (filed.1, reply.group) ∈ request.pairs ∧
      ∃ plan, request.PlanFor orchestrator filed.1 reply.group plan ∧ reply.step = plan.step ∧
        reply.start = plan.start ∧ reply.stop = plan.stop := by
  obtain ⟨result, hresult, hframe, hok⟩ :=
    mem_ofResults (hrun.ofResults_of_response hresponse) hfiled hreply
  obtain ⟨group, plan, store, hpair, hplan, rfl⟩ := h.replied hresult hok
  rw [hframe] at hpair hplan
  exact ⟨List.mem_of_getElem? hpair, plan, hplan, rfl, rfl, rfl⟩

end RequestRun

/-- The queries of an aggregated plan are for a target that has metrics. -/
theorem Request.PlanFor.metrics_ne_nil {orchestrator : Orchestrator}
    (haggregated : orchestrator.config.aggregated = true) {request : Request} {frame : TimeFrame}
    {group : TargetGroup} {plan : Plan.QueryPlan}
    (hplan : request.PlanFor orchestrator frame group plan) (hqueries : plan.queries ≠ []) :
    group.metrics ≠ [] := by
  have hshared : orchestrator.mode = .aggregated := by simp [Orchestrator.mode, haggregated]
  rw [PlanFor, hshared] at hplan
  obtain ⟨common, hcommon, -⟩ := hplan
  have hshape : Plan.PlanOf .aggregated request.epoch frame group plan := ⟨common, hcommon⟩
  exact fun hempty => hqueries (Plan.queries_of_empty hshape hempty)

/-- Where storage aggregates, everything that a request which ends well is told, and
everything that storage was asked for on the way, is on one timeline: the reply of each
target that has metrics, and each query that was sent, has the step that the common
multiple of what all functions of all targets need gives the frame, which is a positive
multiple of each of them, and bounds that are multiples of this step. So two such replies
for one frame have the same step and bounds. -/
theorem Run.aligned_of_response {orchestrator : Orchestrator} {requests : List (Nat × Request)}
    {run : Run} (hrun : Reachable orchestrator requests run)
    (haggregated : orchestrator.config.aggregated = true) {number begins : Nat} {asked : Request}
    (hasked : requests[number]? = some (begins, asked)) {request : RequestRun}
    (hrequest : run.requests[number]? = some request) {response : Response}
    (hresponse : request.response? = some response) :
    (∀ filed ∈ response, ∀ reply ∈ filed.2, reply.group.metrics ≠ [] →
      (filed.1, reply.group) ∈ asked.pairs ∧
        asked.Aligned filed.1 reply.step reply.start reply.stop) ∧
    (∀ ticket time query, .called ticket time query ∈ run.floor.events →
      ticket.group.request = number →
        ∃ frame group, asked.pairs[ticket.group.position]? = some (frame, group) ∧
          group.metrics ≠ [] ∧ asked.Aligned frame query.step query.start query.stop) ∧
    (∀ filed ∈ response, ∀ other ∈ response, filed.1 = other.1 →
      ∀ first ∈ filed.2, ∀ second ∈ other.2,
        first.group.metrics ≠ [] → second.group.metrics ≠ [] →
          first.step = second.step ∧ first.start = second.start ∧ first.stop = second.stop) := by
  obtain ⟨moves, rfl⟩ := hrun.played.exists_moves hasked hrequest
  have hsound := (RequestRun.sound_new orchestrator number begins asked).play moves
  have hplanned := RequestRun.planned_play orchestrator number begins asked moves
  have hreplies : ∀ filed ∈ response, ∀ reply ∈ filed.2, reply.group.metrics ≠ [] →
      (filed.1, reply.group) ∈ asked.pairs ∧
        asked.Aligned filed.1 reply.step reply.start reply.stop := by
    intro filed hfiled reply hreply hmetrics
    obtain ⟨hpair, plan, hplan, hstep, hstart, hstop⟩ :=
      hplanned.of_response hsound hresponse hfiled hreply
    rw [hstep, hstart, hstop]
    exact ⟨hpair, (Request.aligned_of_planFor haggregated hpair hmetrics hplan).1⟩
  refine ⟨hreplies, ?_, ?_⟩
  · rintro ticket time query hcalled rfl
    obtain ⟨_, other, frame, group, plan, hother, -, hpair, hplan, hquery⟩ :=
      agreed_of_calls hrun _ (Floor.mem_calls hcalled)
    rw [hasked] at hother
    obtain ⟨rfl, rfl⟩ := Prod.mk.inj (Option.some.inj hother)
    have hmem := List.mem_of_getElem? hquery
    have hmetrics := hplan.metrics_ne_nil haggregated (List.ne_nil_of_mem hmem)
    exact ⟨frame, group, hpair, hmetrics,
      (Request.aligned_of_planFor haggregated (List.mem_of_getElem? hpair) hmetrics hplan).2 query
        hmem⟩
  · intro filed hfiled other hother hframe first hfirst second hsecond hfirstMetrics hsecondMetrics
    obtain ⟨-, hone⟩ := hreplies filed hfiled first hfirst hfirstMetrics
    obtain ⟨-, htwo⟩ := hreplies other hother second hsecond hsecondMetrics
    have hstep : first.step = second.step := by rw [hone.step_eq, htwo.step_eq, hframe]
    refine ⟨hstep, ?_, ?_⟩
    · rw [hone.start_eq, htwo.start_eq, hframe, hstep]
    · rw [hone.stop_eq, htwo.stop_eq, hframe, hstep]

/-- Two targets of one frame have different tables and rules; one of them needs a step of
90 seconds, the other one of 60, and the frame is to have ten points at most. -/
theorem Run.aligned_of_response_of_two_rule_sets :
    let slow : RuleSet := ⟨[], 90, .last, by decide⟩
    let quick : RuleSet := ⟨[], 60, .last, by decide⟩
    let first := (TargetGroup.new "points" slow).push "a" "A" "x"
    let second := (TargetGroup.new "others" quick).push "b" "B" "y"
    let storage : Storage := fun ticket _ =>
      ⟨if ticket.group.position = 0 then 20 else 5, .body ⟨[], 0, none⟩⟩
    let orchestrator : Orchestrator :=
      ⟨{ FetchConfig.standard with aggregated := true }, storage, .absent⟩
    let frame : TimeFrame := ⟨60, 1000, 10⟩
    let asked : Request := ⟨[(frame, first), (frame, second)], 1000, by decide⟩
    let run := (start orchestrator [(0, asked)]).finish
    ∃ request response, run.requests[0]? = some request ∧ request.response? = some response ∧
      request.results.map (·.result.toOption.map (·.step)) = [some 180, some 180] ∧
      ∀ filed ∈ response, ∀ reply ∈ filed.2, reply.group.metrics ≠ [] →
        asked.Aligned filed.1 reply.step reply.start reply.stop := by
  intro slow quick first second storage orchestrator frame asked run
  have hends : (run.requests[0]?).map (fun request => (request.response?.isSome,
      request.results.map (·.result.toOption.map (·.step)))) =
        some (true, [some 180, some 180]) := by
    decide +kernel
  obtain ⟨request, hrequest, hends⟩ := Option.map_eq_some_iff.mp hends
  obtain ⟨hsome, hsteps⟩ := Prod.mk.inj hends
  obtain ⟨response, hresponse⟩ := Option.isSome_iff_exists.mp hsome
  have hasked : [(0, asked)][0]? = some (0, asked) := rfl
  obtain ⟨haligned, -, -⟩ := aligned_of_response (reachable_finish orchestrator [(0, asked)]) rfl
    hasked hrequest hresponse
  exact ⟨request, response, hrequest, hresponse, hsteps,
    fun filed hfiled reply hreply hmetrics => (haligned filed hfiled reply hreply hmetrics).2⟩

end SeriesGateway.Fetch
