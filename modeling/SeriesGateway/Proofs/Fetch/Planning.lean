import SeriesGateway.Proofs.Fetch.Agreement
import SeriesGateway.Proofs.Fetch.Moves

/-! # Agreed plans

Where storage aggregates, a group plans only when all groups of its request have
reported, with the common multiple of the steps of all of them. So the plans of one
request, whenever they are made, are made with one and the same step; and every reply
is built by such a plan.
-/

namespace SeriesGateway.Fetch

open Step (IsCommonStep commonMultiple)

/-- The plans that a target of a request can be fetched by when the schedule is left
out: where storage aggregates, a target that has metrics is planned with the common
multiple of the steps of all targets. -/
def Request.PlanFor (orchestrator : Orchestrator) (request : Request) (frame : TimeFrame)
    (group : TargetGroup) (plan : Plan.QueryPlan) : Prop :=
  match orchestrator.mode with
  | .unaggregated => plan = .unaggregated group frame request.epoch
  | .aggregated => ∃ common : UInt32,
    Plan.QueryPlan.aggregated group frame request.epoch common = .ok plan ∧
      (group.metrics ≠ [] →
        common.toNat = commonMultiple (request.pairs.flatMap request.stepsOf))

/-- A target has one agreed plan. -/
theorem Request.PlanFor.eq {orchestrator : Orchestrator} {request : Request} {frame : TimeFrame}
    {group : TargetGroup} {plan other : Plan.QueryPlan}
    (h : request.PlanFor orchestrator frame group plan)
    (hother : request.PlanFor orchestrator frame group other) : plan = other := by
  unfold PlanFor at h hother
  cases hmode : orchestrator.mode with
  | unaggregated =>
      rw [hmode] at h hother
      exact h.trans hother.symm
  | aggregated =>
      rw [hmode] at h hother
      obtain ⟨common, hplan, hcommon⟩ := h
      obtain ⟨same, hsame, hagreed⟩ := hother
      by_cases hempty : group.metrics = []
      · rw [Plan.QueryPlan.aggregated_of_empty hempty] at hplan hsame
        exact Except.ok.inj (hplan.symm.trans hsame)
      · obtain rfl := UInt32.toNat_inj.mp ((hcommon hempty).trans (hagreed hempty).symm)
        exact Except.ok.inj (hplan.symm.trans hsame)

namespace RequestRun

/-- Whatever a group of a request fetches by, and every reply it ended with, comes from
an agreed plan. -/
structure Planned (orchestrator : Orchestrator) (request : Request) (run : RequestRun) :
    Prop where
  fetching : ∀ {group : GroupRun} {work : Fetching}, group ∈ run.groups →
    group.phase = .fetching work →
      request.PlanFor orchestrator group.frame group.group work.plan
  replied : ∀ {result : GroupResult} {reply : GroupReply}, result ∈ run.results →
    result.result = .ok reply → ∃ group plan store,
      request.pairs[result.position]? = some (result.frame, group) ∧
      request.PlanFor orchestrator result.frame group plan ∧ reply = .ofPlan group plan store

variable {orchestrator : Orchestrator} {request : Request} {run : RequestRun}

theorem planned_new (orchestrator : Orchestrator) (number start : Nat) (request : Request) :
    Planned orchestrator request (new number start request) where
  fetching := by simp [new]
  replied := by simp [new]

/-- A barrier that is released has heard all groups. -/
theorem Gathered.received_of_released {order : List Nat} (h : Gathered request run order)
    (hrun : Sound orchestrator request run) (hlength : run.groups.length = request.size)
    (hreleased : run.barrier.released = true) : run.barrier.received.toNat = request.size := by
  rw [h.barrier_eq, Step.Barrier.ofReports, decide_eq_true_eq, h.length_reports hrun] at hreleased
  rw [h.toNat_received hrun, ← hlength]
  exact Nat.le_antisymm h.length_order_le hreleased

/-- A plan that a group makes in a turn is an agreed one. -/
theorem planFor_of_plans (hrun : Sound orchestrator request run)
    (hgathered : orchestrator.config.aggregated = true → ∃ order, Gathered request run order)
    (hlength : run.groups.length = request.size) {group : GroupRun} {started : Nat}
    {plan : Plan.QueryPlan}
    (hplan : group.Plans (run.context orchestrator started) run.barrier plan) :
    request.PlanFor orchestrator group.frame group.group plan := by
  have hmode : (run.context orchestrator started).mode = orchestrator.mode := rfl
  rw [GroupRun.Plans, hmode] at hplan
  rw [Request.PlanFor, ← hrun.request_eq]
  cases haggregated : orchestrator.config.aggregated with
  | false =>
      have hplain : orchestrator.mode = .unaggregated := by simp [Orchestrator.mode, haggregated]
      rw [hplain] at hplan ⊢
      exact hplan
  | true =>
      have hshared : orchestrator.mode = .aggregated := by simp [Orchestrator.mode, haggregated]
      rw [hshared] at hplan ⊢
      obtain ⟨common, hcommon, hanswer⟩ := hplan
      refine ⟨common, hcommon, fun hmetrics => ?_⟩
      obtain ⟨hreleased, waited, hanswered⟩ := hanswer hmetrics
      obtain ⟨order, h⟩ := hgathered haggregated
      obtain ⟨agreed, hagreed, -, hall⟩ :=
        h.exists_common hrun (h.received_of_released hrun hlength hreleased)
      rw [← hall waited, hanswered] at hagreed
      rw [hrun.request_eq]
      exact hagreed

namespace Planned

theorem settle (h : Planned orchestrator request run) (clock : Clock) :
    Planned orchestrator request (run.settle clock) := by
  unfold RequestRun.settle
  split
  next => exact ⟨h.fetching, h.replied⟩
  next => exact h

theorem begin (h : Planned orchestrator request run)
    (haccepted : orchestrator.refusal? run.request = none) (clock : Clock) :
    Planned orchestrator request (run.begin orchestrator clock) := by
  simp only [RequestRun.begin, haccepted]
  refine ⟨?_, h.replied⟩
  intro group work hgroup hfetching
  obtain ⟨position, hposition⟩ := List.mem_iff_getElem?.mp hgroup
  rw [getElem?_groupsOf, Option.map_eq_some_iff] at hposition
  obtain ⟨pair, -, rfl⟩ := hposition
  cases hfetching

/-- What a group works on in a turn has an agreed plan. -/
theorem planFor_of_worksOn (h : Planned orchestrator request run) {after : RequestRun}
    (hafter : Sound orchestrator request after)
    (hgathered : orchestrator.config.aggregated = true → ∃ order, Gathered request after order)
    (hlength : after.groups.length = request.size) {group : GroupRun} (hgroup : group ∈ run.groups)
    {started : Nat} {work : Fetching}
    (hwork : group.WorksOn (after.context orchestrator started) after.barrier work) :
    request.PlanFor orchestrator group.frame group.group work.plan := by
  rcases hwork with hbegun | ⟨-, plan, hplan, rfl⟩
  · exact h.fetching hgroup hbegun
  · exact planFor_of_plans hafter hgathered hlength hplan

theorem turned (h : Planned orchestrator request run) (hrun : Sound orchestrator request run)
    {after : RequestRun} (hafter : Sound orchestrator request after)
    (hgathered : orchestrator.config.aggregated = true → ∃ order, Gathered request after order)
    (hlength : run.groups.length = request.size) {position : Nat} {group acted : GroupRun}
    {turn : Turn} {floor next : Floor} (hgroup : run.groups[position]? = some group)
    (hturned : Turned orchestrator run position group acted turn floor after next) :
    Planned orchestrator request after := by
  obtain ⟨started, -, hcourse⟩ := hturned.course
  obtain ⟨-, hpair, -⟩ := hrun.groups position group hgroup
  have hsize : after.groups.length = request.size := hturned.length_groups.trans hlength
  rw [hturned.context_eq] at hcourse
  have hagreed : ∀ {work},
      group.WorksOn (after.context orchestrator started) after.barrier work →
        request.PlanFor orchestrator group.frame group.group work.plan := fun hwork =>
    h.planFor_of_worksOn hafter hgathered hsize (List.mem_of_getElem? hgroup) hwork
  constructor
  · intro found work hfound hfetching
    rw [hturned.groups_eq] at hfound
    rcases List.mem_or_eq_of_mem_set hfound with hold | rfl
    · exact h.fetching hold hfetching
    · rw [hturned.acted_eq] at hfetching
      rw [hturned.frame_eq, hturned.group_eq]
      cases hcourse with
      | works hwork hledger hcalls hclock recent =>
          have hplan := hagreed hwork
          cases hfetching
          exact hplan
      | _ => cases hfetching
  · intro result reply hresult hok
    rw [hturned.results_eq] at hresult
    rcases List.mem_append.mp hresult with hold | hnew
    · exact h.replied hold hok
    · obtain ⟨outcome, houtcome, rfl⟩ := List.mem_map.mp hnew
      rw [Option.mem_toList] at houtcome
      dsimp only at hok ⊢
      subst hok
      cases hcourse with
      | waits => cases houtcome
      | works => cases houtcome
      | fails => cases houtcome
      | breaks => cases houtcome
      | empty hbefore hplan hnone =>
          cases houtcome
          exact ⟨_, _, _, hpair, planFor_of_plans hafter hgathered hsize hplan, rfl⟩
      | ends hwork hledger hcalls hclock hreply =>
          cases houtcome
          obtain ⟨store, rfl⟩ := hreply _ rfl
          exact ⟨_, _, _, hpair, hagreed hwork, rfl⟩

/-- A turn of a group puts only queries of an agreed plan of the group on record. -/
theorem calls_of_turned (h : Planned orchestrator request run) {number : Nat}
    (henrolled : Enrolled orchestrator number request run) {after : RequestRun}
    (hafter : Sound orchestrator request after)
    (hgathered : orchestrator.config.aggregated = true → ∃ order, Gathered request after order)
    {position : Nat} {group acted : GroupRun} {turn : Turn} {floor next : Floor}
    (hgroup : run.groups[position]? = some group)
    (hturned : Turned orchestrator run position group acted turn floor after next) :
    ∀ call ∈ next.calls, call ∈ floor.calls ∨
      ∃ plan, request.PlanFor orchestrator group.frame group.group plan ∧
        call.1.group = ⟨number, position⟩ ∧ plan.queries[call.1.query]? = some call.2 := by
  obtain ⟨started, hrunning, hcourse⟩ := hturned.course
  have hsize : after.groups.length = request.size :=
    hturned.length_groups.trans (henrolled.of_running hrunning).2
  rw [hturned.context_eq] at hcourse
  have hacted : ∀ {work},
      group.WorksOn (after.context orchestrator started) after.barrier work →
        next.calls = (group.acted (after.context orchestrator started) work floor).2.2.calls →
          ∀ call ∈ next.calls, call ∈ floor.calls ∨
            ∃ plan, request.PlanFor orchestrator group.frame group.group plan ∧
              call.1.group = ⟨number, position⟩ ∧ plan.queries[call.1.query]? = some call.2 := by
    intro work hwork hcalls call hcall
    rw [hcalls] at hcall
    refine (Fetching.calls_actAll _ _ _ _ _ call hcall).imp_right ?_
    rintro ⟨query, hquery, rfl⟩
    have hbadges := henrolled.map_badge_of_worksOn hgroup hwork
    have hbadge := List.mem_map_of_mem (f := (·.badge)) hquery
    rw [hbadges, badgesOf] at hbadge
    obtain ⟨⟨asked, i⟩, hasked, hsame⟩ := List.mem_map.mp hbadge
    obtain ⟨hticket, hsame⟩ := Prod.mk.inj hsame
    obtain ⟨rfl, -⟩ := Prod.mk.inj hsame
    refine ⟨work.plan, h.planFor_of_worksOn hafter hgathered hsize
      (List.mem_of_getElem? hgroup) hwork, ?_, ?_⟩
    · rw [← hticket]
    · rw [← hticket]
      exact List.mem_zipIdx_iff_getElem?.mp hasked
  cases hcourse with
  | waits => exact fun call => .inl
  | fails => exact fun call => .inl
  | empty => exact fun call => .inl
  | breaks error hfetching hledger hcalls => exact fun call hcall => .inl (hcalls ▸ hcall)
  | works hwork hledger hcalls => exact hacted hwork hcalls
  | ends hwork hledger hcalls => exact hacted hwork hcalls

end Planned

theorem planned_play (orchestrator : Orchestrator) (number start : Nat) (request : Request)
    (moves : List Move) :
    Planned orchestrator request ((new number start request).play orchestrator moves) := by
  apply play_induction (planned_new orchestrator number start request)
  intro moves next h hmoved
  have hrun := (sound_new orchestrator number start request).play moves
  have henrolled := enrolled_play orchestrator number start request moves
  have hafter := (sound_new orchestrator number start request).play (moves ++ [next])
  have hgathered : orchestrator.config.aggregated = true → ∃ order,
      Gathered request ((new number start request).play orchestrator (moves ++ [next])) order :=
    fun haggregated => (gathered_new number start request).play
      (sound_new orchestrator number start request) haggregated (moves ++ [next])
  generalize (new number start request).play orchestrator moves = run at *
  generalize (new number start request).play orchestrator (moves ++ [next]) = after at *
  cases hmoved with
  | still => exact h
  | refused hpending hrefusal time => exact ⟨h.fetching, h.replied⟩
  | begun hpending haccepted clock => exact (h.begin haccepted clock).settle clock
  | settled hrunning clock => exact h.settle clock
  | turned hgroup hopen hturned =>
      obtain ⟨started, hrunning, -⟩ := hturned.course
      exact h.turned hrun hafter hgathered (henrolled.of_running hrunning).2 hgroup hturned

end RequestRun

end SeriesGateway.Fetch
