import SeriesGateway.Cli.Action
import SeriesGateway.Proofs.Cli.Listing
import SeriesGateway.Proofs.Fetch.Lineup
import SeriesGateway.Proofs.Fetch.Outcome
import SeriesGateway.Proofs.Fetch.Record
import SeriesGateway.Proofs.Plan.Budget
import SeriesGateway.Proofs.Plan.Contribution
import SeriesGateway.Regex.Reader

/-! # The diagnostic plan

The plan that the command line prints for a target is the plan that a request for this target
alone is fetched by. What is sent for such a request are queries of this plan and nothing else,
each at most once, and all of them if the request has a response; and where the steps of the
target do not fit, nothing is sent, and the command and the request fail alike.
-/

namespace SeriesGateway

open Step (Barrier IsCommonStep commonMultiple)

/-! ## Plans of a lone target -/

namespace Plan.QueryPlan

variable {group : TargetGroup} {frame : TimeFrame} {epoch : UInt32}

/-- The plan of a target whose steps are the only ones. -/
def alone (shared : Bool) (group : TargetGroup) (frame : TimeFrame) (epoch : UInt32) :
    Except StepError QueryPlan :=
  if shared then aggregated group frame epoch 0 else .ok (.unaggregated group frame epoch)

/-- Without metrics there is nothing to report. -/
theorem contribution_of_empty (hempty : group.metrics = []) :
    (Grouping.resolve group frame epoch).contribution = .ok 0 := by
  rw [Grouping.resolve_of_empty _ _ hempty]
  rfl

/-- The plan of a target alone is the one for its own steps, if they fit. -/
theorem aggregated_zero (group : TargetGroup) (frame : TimeFrame) (epoch : UInt32) :
    aggregated group frame epoch 0 =
      (Grouping.resolve group frame epoch).contribution.bind
        (aggregated group frame epoch) := by
  by_cases hempty : group.metrics = []
  · rw [contribution_of_empty hempty, Except.bind]
  · have hsome : ¬ (Grouping.resolve group frame epoch).isEmpty = true :=
      mt Grouping.isEmpty_resolve_iff.mp hempty
    cases hstep : (Grouping.resolve group frame epoch).contribution with
    | error error =>
        rw [aggregated, aggregatedWith, if_neg hsome, hstep]
        rfl
    | ok step =>
        rw [Except.bind]
        by_cases hzero : step = 0
        · rw [hzero]
        · rw [aggregated, aggregatedWith, if_neg hsome, hstep, aggregated, aggregatedWith,
            if_neg hsome, if_pos hzero]
          rfl

/-- A target has no plan alone only because its steps do not fit. -/
theorem error_of_alone {shared : Bool} {error : StepError}
    (h : alone shared group frame epoch = .error error) :
    shared = true ∧ (Grouping.resolve group frame epoch).contribution = .error error ∧
      ∃ a b, error = .overflow a b := by
  unfold alone at h
  split at h
  next hshared =>
    rw [aggregated_zero] at h
    have hcommon := Step.isCommonStep_contribution (Grouping.resolve group frame epoch)
    cases hstep : (Grouping.resolve group frame epoch).contribution with
    | error own =>
        rw [hstep] at h hcommon
        cases h
        exact ⟨hshared, rfl, hcommon.2⟩
    | ok step =>
        rw [← aggregated_zero] at h
        by_cases hempty : group.metrics = []
        · rw [aggregated_of_empty hempty] at h
          cases h
        · have hcommon : commonFor group frame epoch 0 = .ok step := hstep
          obtain ⟨plan, hplan, -⟩ := exists_aggregated hempty hcommon
          rw [hplan] at h
          cases h
  next => cases h

end Plan.QueryPlan

/-! ## Requests for one target -/

namespace Fetch

open Plan (QueryPlan)

namespace Request

variable {group : TargetGroup} {frame : TimeFrame} {epoch : UInt32}

/-- The only target of a request is planned as it is alone. -/
theorem PlanFor.eq_alone {orchestrator : Orchestrator} {plan : QueryPlan}
    (h : (Request.single frame group epoch).PlanFor orchestrator frame group plan) :
    QueryPlan.alone orchestrator.config.aggregated group frame epoch = .ok plan := by
  unfold PlanFor at h
  unfold QueryPlan.alone
  cases haggregated : orchestrator.config.aggregated with
  | false =>
      have hplain : orchestrator.mode = .unaggregated := by simp [Orchestrator.mode, haggregated]
      rw [hplain] at h
      rw [if_neg Bool.false_ne_true, h, epoch_single]
  | true =>
      have hmode : orchestrator.mode = .aggregated := by simp [Orchestrator.mode, haggregated]
      rw [hmode] at h
      obtain ⟨common, hplan, hcommon⟩ := h
      rw [if_pos rfl, QueryPlan.aggregated_zero]
      by_cases hempty : group.metrics = []
      · rw [QueryPlan.contribution_of_empty hempty, Except.bind, ← hplan,
          QueryPlan.aggregated_of_empty hempty]
        exact (QueryPlan.aggregated_of_empty hempty common).symm
      · have hstep := hcommon hempty
        rw [pairs_single, List.flatMap_cons, List.flatMap_nil, List.append_nil] at hstep
        have hreport := isCommonStep_reportOf (.single frame group epoch) (frame, group)
        rw [← hreport.eq_ok_iff, reportOf, epoch_single] at hstep
        rw [hstep]
        exact hplan

/-- A target that is asked for alone is given its own step. -/
theorem commonFor_alone {config : FetchConfig} {step : UInt32}
    (hreport : reportOf (.single frame group epoch) (frame, group) = .ok step) :
    commonFor config (.single frame group epoch) 0 = .ok step := by
  let request : Request := .single frame group epoch
  have hheard : request.heard config 0 = [request.reportOf (frame, group)] :=
    (heard_of_take (.inr (Nat.le_refl 1))).symm
  have hown := request.isCommonStep_reportOf (frame, group)
  obtain ⟨common, hcommon, hanswer⟩ := Barrier.answer_of_isCommonStep (.cons hown .nil)
    (show 1 < UInt64.size by decide)
  rw [List.flatten_cons, List.flatten_nil, List.append_nil] at hcommon
  rw [hreport] at hown
  rw [commonFor, hheard]
  exact (hanswer _).trans (hcommon.eq_ok_iff.mpr hown)

/-- A prompt run tells the same plan. -/
theorem planAt_eq_alone (config : FetchConfig) :
    (Request.single frame group epoch).planAt config 0 (frame, group) =
      QueryPlan.alone config.aggregated group frame epoch := by
  unfold QueryPlan.alone
  split
  next haggregated =>
    rw [QueryPlan.aggregated_zero]
    cases hstep : (Plan.Grouping.resolve group frame epoch).contribution with
    | error error => exact planAt_of_overflow haggregated hstep
    | ok step =>
        have hreport : reportOf (.single frame group epoch) (frame, group) = .ok step := hstep
        rw [planAt_of_report haggregated hreport, Except.bind]
        by_cases hempty : group.metrics = []
        · rw [if_pos (Plan.Grouping.isEmpty_resolve_iff.mpr hempty),
            QueryPlan.aggregated_of_empty hempty]
          exact QueryPlan.aggregated_of_empty hempty 0
        · rw [if_neg (mt Plan.Grouping.isEmpty_resolve_iff.mp hempty), commonFor_alone hreport]
          rfl
  next hplain => rw [planAt, if_neg hplain, epoch_single]

end Request

/-- The answer to a request for one target is its result. -/
theorem Response.ofResults_singleton (result : GroupResult) :
    Response.ofResults [result] =
      result.result.map fun reply => .ofReplies [(result.frame, reply)] := by
  unfold Response.ofResults repliesOf
  cases result.result with
  | error error => rfl
  | ok reply => simp [repliesOf, Except.map]

namespace Run

variable {orchestrator : Orchestrator} {requests : List (Nat × Request)} {run : Run}
  {number begins : Nat} {frame : TimeFrame} {group : TargetGroup} {epoch : UInt32}

/-- What was sent for a request. -/
def callsFor (run : Run) (number : Nat) : List Call :=
  run.floor.calls.filter fun call => call.1.group.request = number

/-- What is to be sent for a request with one target, given the plan of this target. -/
def callsAlone (number : Nat) : Except StepError QueryPlan → List Call
  | .ok plan => Fetching.callsOf ⟨number, 0⟩ plan
  | .error _ => []

theorem of_mem_callsAlone {planned : Except StepError QueryPlan} {call : Call}
    (h : call ∈ callsAlone number planned) : call.1.group = ⟨number, 0⟩ := by
  cases planned with
  | ok plan => exact (Fetching.mem_callsOf.mp h).1
  | error error => cases h

theorem nodup_callsAlone (number : Nat) (planned : Except StepError QueryPlan) :
    (callsAlone number planned).Nodup := by
  cases planned with
  | ok plan => exact Fetching.nodup_callsOf _ plan
  | error error => exact List.nodup_nil

/-- A request with one target that was not refused ends with the result of this target. -/
theorem Played.result_alone (h : Played orchestrator requests run)
    (hasked : requests[number]? = some (begins, .single frame group epoch))
    {request : RequestRun} (hrequest : run.requests[number]? = some request)
    {ended : RequestEnd} (hended : request.phase = .concluded ended)
    (haccepted : orchestrator.refusal? (.single frame group epoch) = none) :
    ∃ result ∈ request.results, result.position = 0 ∧ result.frame = frame ∧
      ended.result = result.result.map fun reply => .ofReplies [(frame, reply)] := by
  obtain ⟨henrolled, hsound⟩ := h.enrolled hasked hrequest
  have hstage := henrolled.stage
  simp only [RequestRun.Stage, hended, haccepted] at hstage
  obtain ⟨hlength, hdone, hresult⟩ := hstage
  have hpositions := henrolled.positions_perm hlength hdone
  obtain ⟨result, hresults, hposition⟩ := List.map_eq_singleton_iff.mp
    (List.perm_singleton.mp hpositions)
  have hin : result ∈ request.results := by rw [hresults]; exact List.mem_cons_self
  obtain ⟨target, hpair, -⟩ := hsound.results result hin
  rw [hposition] at hpair
  obtain ⟨hframe, -⟩ := Prod.mk.inj (Option.some.inj hpair)
  refine ⟨result, hin, hposition, hframe.symm, ?_⟩
  rw [hresult, hresults, Response.ofResults_singleton, ← hframe]

section Alone

variable (hasked : requests[number]? = some (begins, .single frame group epoch))
include hasked

/-- For a request with one target only queries of its plan are ever sent, and each at most
once. -/
theorem Reachable.subperm_callsAlone (h : Reachable orchestrator requests run) :
    (run.callsFor number).Subperm (callsAlone number
      (QueryPlan.alone orchestrator.config.aggregated group frame epoch)) := by
  have hnodup : (run.callsFor number).Nodup := h.recorded.nodup.of_map.filter _
  refine hnodup.subperm fun call hcall => ?_
  obtain ⟨hsent, hnumber⟩ := List.mem_filter.mp hcall
  have hnumber : call.1.group.request = number := by simpa using hnumber
  obtain ⟨_, asked, own, target, plan, hsame, -, hpair, hplan, hquery⟩ :=
    agreed_of_calls h call hsent
  rw [hnumber, hasked] at hsame
  obtain ⟨rfl, rfl⟩ := Prod.mk.inj (Option.some.inj hsame)
  have hposition : call.1.group.position = 0 := by
    simpa using (List.getElem?_eq_some_iff.mp hpair).1
  rw [hposition] at hpair
  obtain ⟨rfl, rfl⟩ := Prod.mk.inj (Option.some.inj hpair)
  rw [hplan.eq_alone]
  exact Fetching.mem_callsOf.mpr ⟨by rw [← hnumber, ← hposition], hquery⟩

/-- When all that is to be sent is on record, it is what was sent. -/
theorem Reachable.perm_callsAlone (h : Reachable orchestrator requests run)
    (hsent : callsAlone number
        (QueryPlan.alone orchestrator.config.aggregated group frame epoch) ⊆ run.floor.calls) :
    (run.callsFor number).Perm (callsAlone number
      (QueryPlan.alone orchestrator.config.aggregated group frame epoch)) := by
  refine (h.subperm_callsAlone hasked).antisymm
    ((nodup_callsAlone _ _).subperm fun call hcall => ?_)
  exact List.mem_filter.mpr ⟨hsent hcall, by simp [of_mem_callsAlone hcall]⟩

variable {request : RequestRun} (hrequest : run.requests[number]? = some request)
  {ended : RequestEnd} (hended : request.phase = .concluded ended)
  (haccepted : orchestrator.refusal? (.single frame group epoch) = none)
include hrequest hended haccepted

theorem Reachable.error_of_overflow (h : Reachable orchestrator requests run) {error : StepError}
    (herror : QueryPlan.alone orchestrator.config.aggregated group frame epoch = .error error) :
    ended.result = .error (.step error) := by
  obtain ⟨result, hresult, hposition, hframe, hanswer⟩ :=
    h.played.result_alone hasked hrequest hended haccepted
  obtain ⟨haggregated, hreport, -⟩ := QueryPlan.error_of_alone herror
  have hends := h.result_of_overflow hasked haggregated hrequest hresult
    (by rw [hposition, hframe]; rfl) (by rw [hframe]; exact hreport)
  rw [hanswer, hends]
  rfl

/-- A response has all queries of the plan behind it. -/
theorem Reachable.perm_of_response (h : Reachable orchestrator requests run) {response : Response}
    (hresponse : ended.result = .ok response) :
    (run.callsFor number).Perm (callsAlone number
      (QueryPlan.alone orchestrator.config.aggregated group frame epoch)) := by
  obtain ⟨result, hresult, hposition, hframe, hanswer⟩ :=
    h.played.result_alone hasked hrequest hended haccepted
  cases hreply : result.result with
  | error error =>
      rw [hanswer, hreply] at hresponse
      cases hresponse
  | ok reply =>
      obtain ⟨target, plan, hpair, hplan, hsent⟩ :=
        h.sent_of_reply hasked hrequest hresult hreply
      rw [hposition] at hpair hsent
      obtain ⟨-, rfl⟩ := Prod.mk.inj (Option.some.inj hpair)
      rw [hframe] at hplan
      refine h.perm_callsAlone hasked ?_
      rw [hplan.eq_alone]
      exact hsent

/-- So has any other end before the deadline, unless something took the target down. -/
theorem Prompt.perm_in_time (h : Prompt orchestrator requests run)
    (hearly : ended.time <
      (Request.contextAt orchestrator (.single frame group epoch) begins).deadline)
    (hserved : ∀ reason, ended.result ≠ .error (.taskFailed reason)) :
    (run.callsFor number).Perm (callsAlone number
      (QueryPlan.alone orchestrator.config.aggregated group frame epoch)) := by
  obtain ⟨result, hresult, hposition, hframe, hanswer⟩ :=
    h.reachable.played.result_alone hasked hrequest hended haccepted
  refine h.reachable.perm_callsAlone hasked ?_
  cases hplan : QueryPlan.alone orchestrator.config.aggregated group frame epoch with
  | error error => exact List.nil_subset _
  | ok plan =>
      have hsent := h.sent_in_time hasked hrequest
        (by rw [RequestRun.standsAt, hended]; exact hearly) hresult
        (fun reason hcrashed => hserved reason (by rw [hanswer, hcrashed]; rfl))
        (by rw [hposition, hframe]; rfl)
        (by rw [hposition, hframe, Request.planAt_eq_alone]; exact hplan)
      rw [hposition] at hsent
      exact hsent

end Alone

/-! ## The command -/

open Cli (PlanArguments)
open Cli.Command (planGroup planOf planAction rulesOf)

/-- What the command plans for its target is the plan of this target alone. -/
theorem planOf_eq_alone (arguments : PlanArguments) (group : TargetGroup) :
    planOf arguments group =
      QueryPlan.alone arguments.aggregated group arguments.frame arguments.now := by
  unfold planOf QueryPlan.alone
  rw [QueryPlan.aggregated_zero]
  rfl

/-- The command prints the plan of its target alone, with its queries, or why there is none. -/
theorem planAction_alone {arguments : PlanArguments} {rules : RuleSet} {content : Cli.Content}
    (hframe : ¬ arguments.frame.stop < arguments.frame.start)
    {engine : RegexEngine} (hrules : rulesOf engine arguments.config content = .ok rules)
    {planned : Except StepError QueryPlan}
    (hplanned : QueryPlan.alone arguments.aggregated (planGroup arguments rules) arguments.frame
      arguments.now = planned) :
    (∀ plan, planned = .ok plan →
      planAction engine arguments content = .print (Cli.Report.plan plan) ∧
        Cli.Report.Lists (Cli.Report.plan plan) plan) ∧
    ∀ error, planned = .error error →
      planAction engine arguments content = .fail error.message := by
  rw [planAction, if_neg hframe, hrules]
  dsimp only
  rw [planOf_eq_alone, hplanned]
  refine ⟨?_, ?_⟩
  · rintro plan rfl
    exact ⟨rfl, Cli.Report.lists_plan plan⟩
  · rintro error rfl
    rfl

/-- The plan that is printed for a target is what is sent for it. The text lists the queries of
the plan, in order and no others. Whatever else goes on in a run, for a request that asks for
this target alone only queries of this plan are sent, and each at most once. All of them are, if
the request has a response, or if it has ended before its deadline and nothing took it down. And
if the steps of the target overflow, the command fails with this overflow, nothing is sent, and
the request fails with the same overflow. -/
theorem plan_prints_what_is_sent (arguments : PlanArguments) (rules : RuleSet) :
    let group := planGroup arguments rules
    let planned := QueryPlan.alone arguments.aggregated group arguments.frame arguments.now
    let asked : Request := .single arguments.frame group arguments.now
    (∀ engine content, ¬ arguments.frame.stop < arguments.frame.start →
      rulesOf engine arguments.config content = .ok rules →
        (∀ plan, planned = .ok plan →
          planAction engine arguments content = .print (Cli.Report.plan plan) ∧
            Cli.Report.Lists (Cli.Report.plan plan) plan) ∧
        ∀ error, planned = .error error →
          planAction engine arguments content = .fail error.message) ∧
    (∀ error, planned = .error error → ∃ a b, error = .overflow a b) ∧
    ∀ (orchestrator : Orchestrator) (requests : List (Nat × Request)) (number begins : Nat),
      orchestrator.config.aggregated = arguments.aggregated →
      requests[number]? = some (begins, asked) →
      ∀ run, Reachable orchestrator requests run →
        (run.callsFor number).Subperm (callsAlone number planned) ∧
        ∀ request ended, run.requests[number]? = some request →
          request.phase = .concluded ended → orchestrator.refusal? asked = none →
            (∀ error, planned = .error error → ended.result = .error (.step error)) ∧
            ((∃ response, ended.result = .ok response) →
              (run.callsFor number).Perm (callsAlone number planned)) ∧
            (Prompt orchestrator requests run →
              ended.time < (asked.contextAt orchestrator begins).deadline →
              (∀ reason, ended.result ≠ .error (.taskFailed reason)) →
                (run.callsFor number).Perm (callsAlone number planned)) := by
  intro group planned asked
  refine ⟨fun engine content hframe hrules => planAction_alone hframe hrules rfl,
    fun error herror => (QueryPlan.error_of_alone herror).2.2, ?_⟩
  intro orchestrator requests number begins haggregated hasked run hrun
  have hplanned : planned = QueryPlan.alone orchestrator.config.aggregated group
      arguments.frame arguments.now := by rw [haggregated]
  rw [hplanned]
  refine ⟨hrun.subperm_callsAlone hasked, fun request ended hrequest hended haccepted =>
    ⟨fun error herror => ?_, fun hreplied => ?_, fun hprompt hearly hserved => ?_⟩⟩
  · exact hrun.error_of_overflow hasked hrequest hended haccepted herror
  · obtain ⟨response, hresponse⟩ := hreplied
    exact hrun.perm_of_response hasked hrequest hended haccepted hresponse
  · exact hprompt.perm_in_time hasked hrequest hended haccepted hearly hserved

end Run

/-! ## Two functions, and one slot

A target whose metrics have different functions has two queries, but the slots let only one of
them run at a time. The same target is asked for twice, and a query of the second request fails;
it is asked for a third time with rules whose steps overflow.
-/

namespace Trial

open Cli (PlanArguments)
open Cli.Command (planGroup planAction rulesOf)

/-- A configuration in which names that end with `b` have a rule of their own. -/
def content (precision : String) : Cli.Content :=
  .ok (("\x7b\"rules\":\x7b\"patterns\":[\x7b\"regexp\":\"b$\",\"function\":\"max\"," ++
    "\"retention\":\"0:" ++ precision ++ "\"\x7d]\x7d\x7d").toUTF8.toList)

def arguments : PlanArguments :=
  ⟨"gateway.json", ⟨100, 400, 0⟩, 500, true, "points", true, ["x.a", "x.b", "x.a"]⟩

def rules (precision : String) : RuleSet :=
  (rulesOf Regex.engine arguments.config (content precision)).toOption.getD .standard

def planned (precision : String) : Except StepError QueryPlan :=
  QueryPlan.alone arguments.aggregated (planGroup arguments (rules precision)) arguments.frame
    arguments.now

def asked (precision : String) : Request :=
  .single arguments.frame (planGroup arguments (rules precision)) arguments.now

def orchestrator : Orchestrator :=
  ⟨{ FetchConfig.standard with aggregated := true, maxConcurrentQueries := 1 },
    fun ticket _ =>
      if ticket = ⟨⟨1, 0⟩, 0⟩ then ⟨5, .failed (.request "refused")⟩
      else ⟨5, .body ⟨[], 0, none⟩⟩, .absent⟩

/-- A step that has no common multiple with one of a minute. -/
def wide : String := "4294967291"

def requests : List (Nat × Request) := [(0, asked "90"), (2, asked "90"), (4, asked wide)]

def run : Run := (Run.start orchestrator requests).finish

def ending? (number : Nat) : Option (Nat × Except FetchError Unit) :=
  run.requests[number]?.bind (·.ending?)

theorem exists_ended {number time : Nat} {outcome : Except FetchError Unit}
    (h : ending? number = some (time, outcome)) :
    ∃ request ended, run.requests[number]? = some request ∧ request.phase = .concluded ended ∧
      ended.time = time ∧ ended.result.map (fun _ => ()) = outcome := by
  obtain ⟨request, hrequest, hending⟩ := Option.bind_eq_some_iff.mp h
  obtain ⟨ended, hended⟩ := RequestRun.exists_ended hending
  exact ⟨request, ended, hrequest, hended⟩

theorem endings :
    ending? 0 = some (10, .ok ()) ∧
      ending? 1 = some (20, .error (.transport (.request "refused"))) ∧
      ending? 2 = some (4, .error (.step (.overflow 60 4294967291))) := by
  decide +kernel

theorem rulesOf_content {precision : String}
    (h : (rulesOf Regex.engine arguments.config (content precision)).isOk = true) :
    rulesOf Regex.engine arguments.config (content precision) = .ok (rules precision) := by
  unfold rules
  cases hrules : rulesOf Regex.engine arguments.config (content precision) with
  | ok found => rfl
  | error error =>
      rw [hrules] at h
      cases h

theorem planned_wide : planned wide = .error (.overflow 60 4294967291) := by decide +kernel

theorem exists_planned : ∃ plan, planned "90" = .ok plan ∧ plan.step = 180 ∧
    (Cli.Report.entries plan.queries).map (·.1) =
      ["query 0: table=points function=average metrics=1",
        "query 1: table=points function=max metrics=1"] ∧
    plan.Unbroken := by
  have hplanned : (planned "90").map (fun plan =>
      (plan.step, (Cli.Report.entries plan.queries).map (·.1))) =
        .ok (180, ["query 0: table=points function=average metrics=1",
          "query 1: table=points function=max metrics=1"]) := by decide +kernel
  cases hplan : planned "90" with
  | error error =>
      rw [hplan] at hplanned
      cases hplanned
  | ok plan =>
      rw [hplan] at hplanned
      obtain ⟨hstep, hqueries⟩ := Prod.mk.inj (Except.ok.inj hplanned)
      have hplanOf : Plan.PlanOf .aggregated arguments.now arguments.frame
          (planGroup arguments (rules "90")) plan := ⟨0, hplan⟩
      exact ⟨plan, rfl, hstep, hqueries, hplanOf.unbroken (by decide) (by decide +kernel)⟩

/-- Both queries of the plan are found in what is printed, and are sent for a request that is
answered and for one that fails; and the overflow is what the command says and what the third
request ends with. -/
theorem plan_prints_what_is_sent_of_two_functions :
    ∃ plan, plan.step = 180 ∧
      (Cli.Report.entries plan.queries).map (·.1) =
        ["query 0: table=points function=average metrics=1",
          "query 1: table=points function=max metrics=1"] ∧
      planAction Regex.engine arguments (content "90") = .print (Cli.Report.plan plan) ∧
      Cli.Report.entriesOf (Cli.Report.linesOf (Cli.Report.plan plan)) =
        Cli.Report.entries plan.queries ∧
      (run.callsFor 0).Perm (Fetching.callsOf ⟨0, 0⟩ plan) ∧
      (run.callsFor 1).Perm (Fetching.callsOf ⟨1, 0⟩ plan) ∧
      planAction Regex.engine arguments (content wide) =
        .fail (StepError.overflow 60 4294967291).message ∧
      run.callsFor 2 = [] ∧
      ∃ request ended, run.requests[2]? = some request ∧ request.phase = .concluded ended ∧
        ended.result = .error (.step (.overflow 60 4294967291)) := by
  have hprompt : Run.Prompt orchestrator requests run := Run.prompt_finish _ _
  have hframe : ¬ arguments.frame.stop < arguments.frame.start := by decide
  obtain ⟨hfirst, hsecond, hthird⟩ := endings
  have hrules := @rulesOf_content "90" (by decide +kernel)
  have hwide := @rulesOf_content wide (by decide +kernel)
  obtain ⟨plan, hplan, hstep, hqueries, hunbroken⟩ := exists_planned
  obtain ⟨hprints, -, hsends⟩ := Run.plan_prints_what_is_sent arguments (rules "90")
  obtain ⟨hfails, -, hsendsNone⟩ := Run.plan_prints_what_is_sent arguments (rules wide)
  have hplanned : QueryPlan.alone arguments.aggregated (planGroup arguments (rules "90"))
      arguments.frame arguments.now = .ok plan := hplan
  have hoverflow : QueryPlan.alone arguments.aggregated (planGroup arguments (rules wide))
      arguments.frame arguments.now = .error (.overflow 60 4294967291) := planned_wide
  obtain ⟨hprinted, hlists⟩ := (hprints _ _ hframe hrules).1 plan hplanned
  refine ⟨plan, hstep, hqueries, hprinted, hlists.read hunbroken, ?_, ?_,
    (hfails _ _ hframe hwide).2 _ hoverflow, ?_, ?_⟩
  · obtain ⟨request, ended, hrequest, hphase, -, hresult⟩ := exists_ended hfirst
    have hall := ((hsends orchestrator requests 0 0 rfl rfl run hprompt.reachable).2 request ended
      hrequest hphase (by decide)).2.1
    rw [hplanned] at hall
    refine hall ?_
    cases hanswer : ended.result with
    | ok response => exact ⟨response, rfl⟩
    | error error =>
        rw [hanswer] at hresult
        cases hresult
  · obtain ⟨request, ended, hrequest, hphase, htime, hresult⟩ := exists_ended hsecond
    have hall := ((hsends orchestrator requests 1 2 rfl rfl run hprompt.reachable).2 request ended
      hrequest hphase (by decide)).2.2
    rw [hplanned] at hall
    refine hall hprompt (by rw [htime]; decide) fun _ hcrashed => ?_
    rw [hcrashed] at hresult
    cases hresult
  · have hnone := (hsendsNone orchestrator requests 2 4 rfl rfl run hprompt.reachable).1
    rw [hoverflow] at hnone
    exact List.subperm_nil.mp hnone
  · obtain ⟨request, ended, hrequest, hphase, -⟩ := exists_ended hthird
    have hends := ((hsendsNone orchestrator requests 2 4 rfl rfl run hprompt.reachable).2 request
      ended hrequest hphase (by decide)).1
    exact ⟨request, ended, hrequest, hphase, hends _ hoverflow⟩

end Trial

end Fetch

end SeriesGateway
