import Mathlib.Data.List.Permutation
import SeriesGateway.Proofs.Fetch.Lineup
import SeriesGateway.Proofs.Fetch.Merging
import SeriesGateway.Proofs.Fetch.Outcome
import SeriesGateway.Proofs.Fetch.Series

/-! # The secondary source

A secondary source that fails or is too slow adds nothing, and all that is left of it is that
it may let groups act in another order. So responses may be added in another order, and of
several calls that take a group down another one may come first; but the responses and the
crashes are the same. What a source does answer in time comes behind the points of storage.
-/

namespace SeriesGateway.Fetch

/-! ## Results of two runs -/

/-- The same reply, or, where storage aggregates, two replies to one group by one plan of
several queries that differ in the order in which the responses of these were added. -/
inductive GroupReply.SameButOrder (config : FetchConfig) : GroupReply → GroupReply → Prop
  | same (reply : GroupReply) : SameButOrder config reply reply
  | reordered {group : TargetGroup} {plan : Plan.QueryPlan} {first second : List (List Wire.Row)}
      {recent : List RecentPoint} (haggregated : config.aggregated = true)
      (hmany : 2 ≤ plan.queries.length) (hlength : first.length = plan.queries.length)
      (horder : first.Perm second) :
    SameButOrder config
      (.ofPlan group plan
        (Fetching.conclude plan (Fetching.storeOf group.isReversed plan first) recent))
      (.ofPlan group plan
        (Fetching.conclude plan (Fetching.storeOf group.isReversed plan second) recent))

/-- The same error; or a group was taken down both times, for one of the given reasons. -/
inductive FetchError.SameFault (reasons : String → Prop) : FetchError → FetchError → Prop
  | same (error : FetchError) : SameFault reasons error error
  | crashed {one two : String} (hone : reasons one) (htwo : reasons two) :
    SameFault reasons (.taskFailed one) (.taskFailed two)

/-- A query of a plan comes to this crash. -/
def Storage.Crashes (storage : Storage) (id : GroupId) (plan : Plan.QueryPlan)
    (reason : String) : Prop :=
  ∃ call ∈ Fetching.callsOf id plan, (storage call.1 call.2).outcome = .crashed reason

/-- At most one response has one order. -/
theorem eq_of_perm_of_length_le_one {first second : List (List Wire.Row)}
    (h : first.Perm second) (hlength : first.length ≤ 1) : first = second := by
  match first with
  | [] => exact h.nil_eq
  | [_] => exact (List.perm_singleton.mp h.symm).symm
  | _ :: _ :: _ => simp at hlength

/-- Replies by one plan that are made of the same responses differ in the order of these, if at
all. -/
theorem GroupReply.sameButOrder_of_perm {config : FetchConfig} {group : TargetGroup}
    {plan : Plan.QueryPlan} {first second : List (List Wire.Row)} {recent : List RecentPoint}
    (hplain : config.aggregated = false → plan.queries.length ≤ 1)
    (hlength : first.length = plan.queries.length) (horder : first.Perm second) :
    SameButOrder config
      (.ofPlan group plan
        (Fetching.conclude plan (Fetching.storeOf group.isReversed plan first) recent))
      (.ofPlan group plan
        (Fetching.conclude plan (Fetching.storeOf group.isReversed plan second) recent)) := by
  by_cases hmany : 2 ≤ plan.queries.length
  · have haggregated : config.aggregated = true := by
      by_contra hnot
      have hfew := hplain (by simpa using hnot)
      omega
    exact .reordered haggregated hmany hlength horder
  · obtain rfl := eq_of_perm_of_length_le_one horder (by omega)
    exact .same _

/-! ## What is foreseen -/

namespace Fetching

variable {context : RequestContext} {id : GroupId} {plan : Plan.QueryPlan}

theorem fates_of_idle (hnone : plan.queries = []) : fates context id plan = [] := by
  rw [fates, queriesOf, hnone]
  rfl

theorem length_of_fates {responses : List (List Wire.Row)}
    (h : fates context id plan = responses.map fun rows => .ok (.ok rows)) :
    responses.length = plan.queries.length := by
  have hlength := congrArg List.length h
  simpa [fates, queriesOf] using hlength.symm

theorem outcomeOf_map_ok (responses : List (List Wire.Row)) :
    outcomeOf (responses.map .ok) = .ok responses := by
  rw [outcomeOf]
  induction responses with
  | nil => rfl
  | cons rows rest ih =>
      rw [List.map_cons, List.mapM_cons, ih]
      rfl

theorem eq_of_map_ok {ε α : Type} {first second : List α}
    (h : first.map (Except.ok : α → Except ε α) = second.map .ok) : first = second :=
  List.map_injective_iff.mpr (fun _ _ => Except.ok.inj) h

theorem eq_map_of_fates {results : List (Except FetchError (List Wire.Row))}
    {responses : List (List Wire.Row)} (hfates : fates context id plan = results.map .ok)
    (hresponses : fates context id plan = responses.map fun rows => .ok (.ok rows)) :
    results = responses.map .ok := by
  apply @eq_of_map_ok String
  rw [List.map_map]
  exact hfates.symm.trans hresponses

/-- What a query crashes with is how storage answers it. -/
theorem crashes_of_mem_fates {reason : String} (h : Except.error reason ∈ fates context id plan) :
    context.storage.Crashes id plan reason := by
  obtain ⟨query, hquery, hfate⟩ := List.mem_map.mp h
  obtain ⟨entry, hentry, rfl⟩ := List.mem_map.mp hquery
  refine ⟨_, List.mem_map_of_mem hentry, ?_⟩
  simp only [QueryRun.prospect, QueryRun.callComesTo] at hfate
  split at hfate
  next => cases hfate
  next =>
    split at hfate
    next hcrashed => rw [hcrashed, Except.error.inj hfate]
    next => cases hfate
    next => cases hfate

end Fetching

namespace Foreseen

variable {context other : RequestContext} {id : GroupId} {group : TargetGroup}
  {planned : Except StepError Plan.QueryPlan} {plan : Plan.QueryPlan}
  {one two : Except FetchError GroupReply} {recent : List RecentPoint}

/-- What is foreseen depends only on what queries come to and what the secondary source
adds. -/
theorem congr (h : Foreseen context id group planned one)
    (hfates : ∀ plan, Fetching.fates context id plan = Fetching.fates other id plan)
    (hrecent : ∀ plan, planned = .ok plan →
      Fetching.recentOf context id group plan = Fetching.recentOf other id group plan) :
    Foreseen other id group planned one := by
  cases h with
  | unplanned error => exact .unplanned error
  | idle hnone => exact .idle hnone
  | crashes hcrash => exact .crashes (by rwa [hfates, hrecent _ rfl] at hcrash)
  | fails hall hadded herror =>
      exact .fails ((hfates _).symm.trans hall) ((hrecent _ rfl).symm.trans hadded) herror
  | replies hsome hall hadded horder =>
      exact .replies hsome ((hfates _).symm.trans hall) ((hrecent _ rfl).symm.trans hadded) horder

section Planned

variable (h : Foreseen context id group (.ok plan) one)
  (hrecent : Fetching.recentOf context id group plan = .ok recent)
include h hrecent

theorem eq_of_idle (hnone : plan.queries = []) :
    one = .ok (.ofPlan group plan (Fetching.describedStore plan)) := by
  have hfates := @Fetching.fates_of_idle context id plan hnone
  cases h with
  | idle => rfl
  | crashes hcrash => simp [hfates, hrecent] at hcrash
  | fails hall _ herror =>
      rw [hfates, eq_comm, List.map_eq_nil_iff] at hall
      subst hall
      cases herror
  | replies hsome => exact absurd hnone hsome

/-- A group one of whose queries crashes is taken down by one of them. -/
theorem exists_crash {reason : String}
    (hcrash : Except.error reason ∈ Fetching.fates context id plan) :
    ∃ told, Except.error told ∈ Fetching.fates context id plan ∧
      one = .error (.taskFailed told) := by
  cases h with
  | idle hnone =>
      rw [Fetching.fates_of_idle hnone] at hcrash
      cases hcrash
  | crashes htold => exact ⟨_, htold.resolve_right (by simp [hrecent]), rfl⟩
  | fails hall => simp [hall] at hcrash
  | replies _ hall => simp [hall] at hcrash

theorem eq_of_fails {results : List (Except FetchError (List Wire.Row))} {error : FetchError}
    (hfates : Fetching.fates context id plan = results.map .ok)
    (herror : Fetching.outcomeOf results = .error error) : one = .error error := by
  cases h with
  | idle hnone =>
      rw [Fetching.fates_of_idle hnone, eq_comm, List.map_eq_nil_iff] at hfates
      subst hfates
      cases herror
  | crashes hcrash => simp [hfates, hrecent] at hcrash
  | fails hall _ hother =>
      obtain rfl := Fetching.eq_of_map_ok (hall.symm.trans hfates)
      exact congrArg Except.error (Except.error.inj (hother.symm.trans herror))
  | @replies _ responses _ _ _ hall =>
      obtain rfl := Fetching.eq_map_of_fates hfates hall
      rw [Fetching.outcomeOf_map_ok] at herror
      cases herror

theorem exists_order {responses : List (List Wire.Row)} (hsome : plan.queries ≠ [])
    (hfates : Fetching.fates context id plan = responses.map fun rows => .ok (.ok rows)) :
    ∃ order, order.Perm responses ∧ one = .ok (.ofPlan group plan
      (Fetching.conclude plan (Fetching.storeOf group.isReversed plan order) recent)) := by
  cases h with
  | idle hnone => exact absurd hnone hsome
  | crashes hcrash => simp [hfates, hrecent] at hcrash
  | fails hall _ herror =>
      obtain rfl := Fetching.eq_map_of_fates hall hfates
      rw [Fetching.outcomeOf_map_ok] at herror
      cases herror
  | @replies _ others order _ _ hall hadded horder =>
      obtain rfl := Except.ok.inj (hadded.symm.trans hrecent)
      have hresults : Fetching.fates context id plan = (others.map .ok).map .ok := by
        rw [hall, List.map_map]
        rfl
      have hsame := Fetching.eq_map_of_fates hresults hfates
      obtain rfl := Fetching.eq_of_map_ok hsame
      exact ⟨order, horder, rfl⟩

end Planned

/-- Only the order of responses is left open, and which of several crashes is told. -/
theorem alike {config : FetchConfig} {reasons : String → Prop}
    (hone : Foreseen context id group planned one) (htwo : Foreseen context id group planned two)
    (hrecent : ∀ plan, planned = .ok plan →
      ∃ recent, Fetching.recentOf context id group plan = .ok recent)
    (hplain : config.aggregated = false → ∀ plan, planned = .ok plan → plan.queries.length ≤ 1)
    (hreasons : ∀ plan reason, planned = .ok plan → context.storage.Crashes id plan reason →
      reasons reason) :
    Alike (GroupReply.SameButOrder config) (FetchError.SameFault reasons) one two := by
  cases planned with
  | error error =>
      cases hone
      cases htwo
      exact .same _
  | ok plan =>
      obtain ⟨recent, hrecent⟩ := hrecent plan rfl
      cases hone with
      | idle hnone =>
          rw [htwo.eq_of_idle hrecent hnone]
          exact .same _
      | crashes hcrash =>
          have hcrash := hcrash.resolve_right (by simp [hrecent])
          obtain ⟨told, htold, rfl⟩ := htwo.exists_crash hrecent hcrash
          exact .crashed (hreasons plan _ rfl (Fetching.crashes_of_mem_fates hcrash))
            (hreasons plan _ rfl (Fetching.crashes_of_mem_fates htold))
      | fails hfates _ herror =>
          rw [htwo.eq_of_fails hrecent hfates herror]
          exact .same _
      | @replies _ responses first _ hsome hfates hadded hfirst =>
          obtain rfl := Except.ok.inj (hadded.symm.trans hrecent)
          obtain ⟨second, hsecond, rfl⟩ := htwo.exists_order hrecent hsome hfates
          exact GroupReply.sameButOrder_of_perm (fun hnot => hplain hnot plan rfl)
            (hfirst.length_eq.trans (Fetching.length_of_fates hfates))
            (hfirst.trans hsecond.symm)

end Foreseen

/-! ## Sources that are of no use -/

/-- Only plans of a storage that aggregates have several queries. -/
theorem Request.length_queries_planAt {config : FetchConfig} {request : Request} {position : Nat}
    {pair : TimeFrame × TargetGroup} {plan : Plan.QueryPlan} (hplain : config.aggregated = false)
    (h : request.planAt config position pair = .ok plan) : plan.queries.length ≤ 1 := by
  unfold planAt at h
  rw [hplain] at h
  obtain rfl := Except.ok.inj h
  exact Plan.QueryPlan.length_queries_unaggregated _ _ _

theorem Request.PlanFor.length_queries {orchestrator : Orchestrator} {request : Request}
    {frame : TimeFrame} {group : TargetGroup} {plan : Plan.QueryPlan}
    (h : request.PlanFor orchestrator frame group plan)
    (hplain : orchestrator.config.aggregated = false) : plan.queries.length ≤ 1 := by
  unfold PlanFor Orchestrator.mode at h
  rw [hplain] at h
  obtain rfl := h
  exact Plan.QueryPlan.length_queries_unaggregated _ _ _

/-- The source fails for every group of a request that asks it, or is too slow for it. -/
def RecentSource.BrokenFor (source : RecentSource) (config : FetchConfig) (number : Nat)
    (asked : Request) : Prop :=
  ∀ position frame group plan, asked.pairs[position]? = some (frame, group) →
    asked.planAt config position (frame, group) = .ok plan →
    let answer := source ⟨number, position⟩ group.metrics plan.start plan.stop
    (∃ error, answer.points = .error (.failed error)) ∨
      config.secondaryTimeout.millisCovering < answer.delay

theorem RecentSource.BrokenFor.adds_eq {source : RecentSource} {config : FetchConfig}
    {number : Nat} {asked : Request} (h : source.BrokenFor config number asked) {position : Nat}
    {frame : TimeFrame} {group : TargetGroup} {plan : Plan.QueryPlan}
    (hpair : asked.pairs[position]? = some (frame, group))
    (hplan : asked.planAt config position (frame, group) = .ok plan) :
    (Secondary.present source).adds config ⟨number, position⟩ group.metrics plan.start
      plan.stop = .ok [] := by
  rcases h position frame group plan hpair hplan with ⟨error, herror⟩ | hslow
  · simp [Secondary.adds, RecentAnswer.comesTo, herror]
  · exact if_pos hslow

/-- The source fails for every group of a request, by whichever plan that asks it. -/
def RecentSource.FailsFor (source : RecentSource) (orchestrator : Orchestrator) (number : Nat)
    (asked : Request) : Prop :=
  ∀ position frame group plan, asked.pairs[position]? = some (frame, group) →
    asked.PlanFor orchestrator frame group plan →
    ∃ error, (source ⟨number, position⟩ group.metrics plan.start plan.stop).points =
      .error (.failed error)

/-- Where nothing comes from a secondary source, replies by one plan are made of the same
answers of storage. -/
theorem GroupReply.Merges.sameButOrder {config : FetchConfig} {storage : Storage}
    {source : RecentSource} {id : GroupId} {group : TargetGroup} {plan : Plan.QueryPlan}
    {reply other : GroupReply} (hreply : reply.Merges ⟨config, storage, .absent⟩ id group plan)
    (hother : other.Merges ⟨config, storage, .present source⟩ id group plan)
    (hfails : ∃ error, (source id group.metrics plan.start plan.stop).points =
      .error (.failed error))
    (hplain : config.aggregated = false → plan.queries.length ≤ 1) :
    reply.SameButOrder config other := by
  obtain ⟨error, hfailed⟩ := hfails
  rcases hreply with
    ⟨hnone, rfl⟩ | ⟨hsome, responses, recent, hanswers, hgiven, first, hfirst, -, rfl⟩
  · rcases hother with ⟨-, rfl⟩ | ⟨hsome, -⟩
    · exact .same _
    · exact absurd hnone hsome
  · rcases hother with ⟨hnone, -⟩ | ⟨-, others, added, hothers, hadded, second, hsecond, -, rfl⟩
    · exact absurd hnone hsome
    · obtain rfl : recent = [] := hgiven
      obtain rfl := hadded.eq_nil_of_failed hfailed
      have hunique : Relator.RightUnique storage.Answers := fun _ _ _ hrows hsame => hrows.eq hsame
      obtain rfl := List.right_unique_forall₂' hunique hanswers hothers
      have hlength : responses.length = plan.queries.length := by
        rw [← hanswers.length_eq, Fetching.callsOf, List.length_map, List.length_zipIdx]
      exact GroupReply.sameButOrder_of_perm hplain (hfirst.length_eq.trans hlength)
        (hfirst.trans hsecond.symm)

/-- Storage takes down the group at a position, for this reason. -/
def Request.CrashesAt (config : FetchConfig) (storage : Storage) (asked : Request)
    (number position : Nat) (reason : String) : Prop :=
  ∃ pair plan, asked.pairs[position]? = some pair ∧
    asked.planAt config position pair = .ok plan ∧
      storage.Crashes ⟨number, position⟩ plan reason

/-- The same frames in the same order, with replies that differ only in the order in which
responses were added. -/
def Response.SameButOrder (config : FetchConfig) : Response → Response → Prop :=
  List.Forall₂ fun one two =>
    one.1 = two.1 ∧ List.Forall₂ (GroupReply.SameButOrder config) one.2 two.2

/-! ## Runs with a broken source -/

namespace Run

/-- A request comes to an end in some run, under whatever schedule. -/
def Ends (orchestrator : Orchestrator) (requests : List (Nat × Request)) (number : Nat)
    (request : RequestRun) (ended : RequestEnd) : Prop :=
  ∃ run, Reachable orchestrator requests run ∧ run.requests[number]? = some request ∧
    request.phase = .concluded ended

/-- A request comes to an answer in a run that keeps nobody waiting, and no group of it
reaches the deadline. -/
def AnswersInTime (orchestrator : Orchestrator) (requests : List (Nat × Request))
    (number begins : Nat) (request : RequestRun) (answer : Except FetchError Response) : Prop :=
  ∃ run time, Prompt orchestrator requests run ∧ run.requests[number]? = some request ∧
    request.phase = .concluded ⟨time, answer⟩ ∧
    time < begins + orchestrator.config.requestTimeout.millisCovering

variable {config : FetchConfig} {storage : Storage} {source : RecentSource}
  {orchestrator : Orchestrator} {requests : List (Nat × Request)} {number begins : Nat}
  {asked : Request} {request one two : RequestRun} {ended : RequestEnd}
  {answer other : Except FetchError Response}

namespace Ends

theorem enrolled (h : Ends orchestrator requests number request ended)
    (hasked : requests[number]? = some (begins, asked)) :
    request.Enrolled orchestrator number asked ∧ request.Sound orchestrator asked := by
  obtain ⟨run, hreachable, hrequest, -⟩ := h
  exact hreachable.played.enrolled hasked hrequest

/-- A request that is not refused has one result for each target, and answers with these. -/
theorem answer_eq (h : Ends orchestrator requests number request ended)
    (hasked : requests[number]? = some (begins, asked))
    (haccepted : orchestrator.refusal? asked = none) :
    ended.result = Response.ofResults request.results ∧
      (request.results.map (·.position)).Perm (List.range asked.size) := by
  obtain ⟨henrolled, -⟩ := h.enrolled hasked
  obtain ⟨run, -, -, hended⟩ := h
  have hstage := henrolled.stage
  simp only [RequestRun.Stage, hended, haccepted] at hstage
  obtain ⟨hlength, hdone, hresult⟩ := hstage
  exact ⟨hresult, henrolled.positions_perm hlength hdone⟩

theorem of_refused (h : Ends orchestrator requests number request ended)
    (hasked : requests[number]? = some (begins, asked)) {error : FetchError}
    (hrefusal : orchestrator.refusal? asked = some error) :
    request.results = [] ∧ ended.result = .error error := by
  obtain ⟨henrolled, -⟩ := h.enrolled hasked
  obtain ⟨run, -, -, hended⟩ := h
  have hstage := henrolled.stage
  simp only [RequestRun.Stage, hended, hrefusal] at hstage
  exact ⟨henrolled.results_of_groups hstage.1, hstage.2⟩

theorem merges (h : Ends orchestrator requests number request ended)
    (hasked : requests[number]? = some (begins, asked)) {result : GroupResult}
    (hresult : result ∈ request.results) {reply : GroupReply}
    (hreply : result.result = .ok reply) :
    ∃ group plan, asked.pairs[result.position]? = some (result.frame, group) ∧
      asked.PlanFor orchestrator result.frame group plan ∧
      reply.Merges orchestrator ⟨number, result.position⟩ group plan := by
  obtain ⟨run, hreachable, hrequest, -⟩ := h
  exact hreachable.merges hasked hrequest hresult hreply

end Ends

namespace AnswersInTime

/-- A run that goes on to its end is a prompt one. -/
theorem of_finish
    (hrequest : (start orchestrator requests).finish.requests[number]? = some request)
    (hended : request.phase = .concluded ended)
    (hearly : ended.time < begins + orchestrator.config.requestTimeout.millisCovering) :
    AnswersInTime orchestrator requests number begins request ended.result :=
  ⟨_, ended.time, prompt_finish orchestrator requests, hrequest, hended, hearly⟩

theorem ends (h : AnswersInTime orchestrator requests number begins request answer) :
    ∃ time, Ends orchestrator requests number request ⟨time, answer⟩ := by
  obtain ⟨run, time, hprompt, hrequest, hended, -⟩ := h
  exact ⟨time, run, hprompt.reachable, hrequest, hended⟩

/-- What the groups ended with was foreseen. -/
theorem foreseen (h : AnswersInTime orchestrator requests number begins request answer)
    (hasked : requests[number]? = some (begins, asked)) {result : GroupResult}
    (hresult : result ∈ request.results) :
    ∃ group, asked.pairs[result.position]? = some (result.frame, group) ∧
      Foreseen (asked.contextAt orchestrator begins) ⟨number, result.position⟩ group
        (asked.planAt orchestrator.config result.position (result.frame, group))
        result.result := by
  obtain ⟨run, time, hprompt, hrequest, hended, hearly⟩ := h
  refine (hprompt.foretold hasked hrequest).results ?_ result hresult
  simp only [RequestRun.standsAt, hended]
  exact hearly

/-- With a source that is broken groups end as they do without one. -/
theorem alikeAt (hone : AnswersInTime ⟨config, storage, .absent⟩ requests number begins one answer)
    (htwo : AnswersInTime ⟨config, storage, .present source⟩ requests number begins two other)
    (hasked : requests[number]? = some (begins, asked))
    (hbroken : source.BrokenFor config number asked) :
    AlikeAt (GroupReply.SameButOrder config)
      (fun position => FetchError.SameFault (asked.CrashesAt config storage number position))
      one.results two.results := by
  intro first hfirst second hsecond hsame
  obtain ⟨group, hpair, hforeseen⟩ := hone.foreseen hasked hfirst
  obtain ⟨same, hsecondPair, hother⟩ := htwo.foreseen hasked hsecond
  rw [← hsame] at hsecondPair hother
  rw [hpair] at hsecondPair
  obtain ⟨hframe, rfl⟩ := Prod.mk.inj (Option.some.inj hsecondPair)
  rw [← hframe] at hother
  refine ⟨hframe, ?_⟩
  have hunaided : Foreseen (asked.contextAt ⟨config, storage, .absent⟩ begins)
      ⟨number, first.position⟩ group (asked.planAt config first.position (first.frame, group))
      second.result :=
    hother.congr (fun _ => rfl) fun plan hplan => hbroken.adds_eq hpair hplan
  exact hforeseen.alike hunaided (fun _ _ => ⟨[], rfl⟩)
    (fun hplain _ => Request.length_queries_planAt hplain)
    fun plan _ hplan hcrash => ⟨_, plan, hpair, hplan, hcrash⟩

end AnswersInTime

/-- Replies to a request that are given with a source that fails are those given without
one. -/
theorem Ends.sameButOrder {soon late : Nat} {response others : Response}
    (hone : Ends ⟨config, storage, .absent⟩ requests number one ⟨soon, .ok response⟩)
    (htwo : Ends ⟨config, storage, .present source⟩ requests number two ⟨late, .ok others⟩)
    (hasked : requests[number]? = some (begins, asked))
    (hfails : source.FailsFor ⟨config, storage, .present source⟩ number asked) :
    Response.SameButOrder config response others := by
  cases hrefusal : Orchestrator.refusal? ⟨config, storage, .absent⟩ asked with
  | some error => cases (hone.of_refused hasked hrefusal).2
  | none =>
      obtain ⟨hresponse, hfirst⟩ := hone.answer_eq hasked hrefusal
      obtain ⟨hothers, hsecond⟩ := htwo.answer_eq hasked hrefusal
      have halike : AlikeAt (GroupReply.SameButOrder config) (fun _ _ _ => False) one.results
          two.results := by
        intro first hresult second hother hsame
        obtain ⟨reply, hreply⟩ := exists_reply_of_ofResults hresponse.symm first hresult
        obtain ⟨replied, hreplied⟩ := exists_reply_of_ofResults hothers.symm second hother
        obtain ⟨group, plan, hpair, hplan, hmerges⟩ := hone.merges hasked hresult hreply
        obtain ⟨same, agreed, hsecondPair, hagreed, hmerged⟩ := htwo.merges hasked hother hreplied
        rw [← hsame] at hsecondPair hmerged
        rw [hpair] at hsecondPair
        obtain ⟨hframe, rfl⟩ := Prod.mk.inj (Option.some.inj hsecondPair)
        rw [← hframe] at hagreed
        obtain rfl := Request.PlanFor.eq hagreed hplan
        rw [hreply, hreplied]
        exact ⟨hframe, hmerges.sameButOrder hmerged (hfails _ _ _ _ hpair hagreed)
          hplan.length_queries⟩
      have hanswered := answeredAlike_ofResults hfirst hsecond halike
      rw [← hresponse, ← hothers] at hanswered
      cases hanswered with
      | replies hreplies => exact hreplies

/-- A secondary source that fails or is too slow for every group changes nothing but the order
in which responses are added, and which of several crashes is told. Where no group reaches the
deadline a request is refused with it as without it, or answered alike: the same groups end
with the same errors, or all of them with the same replies. Only where storage aggregates and a
plan has several queries may the responses of these, which are the same, have been added in
another order, and only a group that storage takes down may tell of another crash.

For this the groups of a request begin in their order, and none is kept waiting. Whatever the
schedule, a request that is answered with replies both times is answered alike if the source
fails; and what a source does answer is merged with each reply as if it had been ingested behind
all points of storage. -/
theorem broken_secondary_changes_only_order (hasked : requests[number]? = some (begins, asked)) :
    (∀ source one two answer other, source.BrokenFor config number asked →
      AnswersInTime ⟨config, storage, .absent⟩ requests number begins one answer →
      AnswersInTime ⟨config, storage, .present source⟩ requests number begins two other →
        (∃ error, answer = .error error ∧ other = .error error ∧
          one.results = [] ∧ two.results = []) ∨
        AnsweredAlike (GroupReply.SameButOrder config)
          (fun position => FetchError.SameFault (asked.CrashesAt config storage number position))
          one.results two.results answer other) ∧
    (∀ source one two soon late response other,
      source.FailsFor ⟨config, storage, .present source⟩ number asked →
      Ends ⟨config, storage, .absent⟩ requests number one ⟨soon, .ok response⟩ →
      Ends ⟨config, storage, .present source⟩ requests number two ⟨late, .ok other⟩ →
        Response.SameButOrder config response other) ∧
    ∀ secondary run request, Reachable ⟨config, storage, secondary⟩ requests run →
      run.requests[number]? = some request →
      ∀ result ∈ request.results, ∀ reply, result.result = .ok reply →
        ∃ group plan, asked.pairs[result.position]? = some (result.frame, group) ∧
          asked.PlanFor ⟨config, storage, secondary⟩ result.frame group plan ∧
          reply.Merges ⟨config, storage, secondary⟩ ⟨number, result.position⟩ group plan := by
  refine ⟨fun source one two answer other hbroken hone htwo => ?_,
    fun source one two soon late response other hfails hone htwo => ?_,
    fun secondary run request hreachable hrequest result hresult reply hreply =>
      hreachable.merges hasked hrequest hresult hreply⟩
  · obtain ⟨soon, hends⟩ := hone.ends
    obtain ⟨late, hother⟩ := htwo.ends
    cases hrefusal : Orchestrator.refusal? ⟨config, storage, .absent⟩ asked with
    | some error =>
        obtain ⟨hnone, hanswer⟩ := hends.of_refused hasked hrefusal
        obtain ⟨hnoneEither, hother⟩ := hother.of_refused hasked hrefusal
        exact .inl ⟨error, hanswer, hother, hnone, hnoneEither⟩
    | none =>
        obtain ⟨rfl, hfirst⟩ := hends.answer_eq hasked hrefusal
        obtain ⟨rfl, hsecond⟩ := hother.answer_eq hasked hrefusal
        exact .inr (answeredAlike_ofResults hfirst hsecond (hone.alikeAt htwo hasked hbroken))
  · exact hone.sameButOrder htwo hasked hfails

end Run

/-! ## An outage

Two groups compete for two slots. The first has a query for each of its three metrics. The
answers to two of them have a point of the first metric at the same time, and each has the name
of a metric that nobody asked for.
-/

namespace Outage

def rules : RuleSet :=
  let lettered (letter : Char) (function : Aggregation) : List RetentionPattern :=
    (RetentionPattern.ofParts 0 (some fun name => name.toList.contains letter) (some function)
      []).toOption.toList
  { RuleSet.standard with
    patterns := lettered 'b' .max ++ lettered 'c' .min
    defaultFunction := .last }

def target (table : String) (metrics : List String) : TargetGroup :=
  metrics.foldl (fun group metric => group.push metric metric metric) (.new table rules)

def minute : TimeFrame := ⟨0, 60, 0⟩

def tied : TargetGroup := target "x" ["a", "b", "c"]

def asked : Request :=
  ⟨[(minute, tied), (⟨0, 120, 0⟩, target "y" ["a", "b"])], 1000, by decide⟩

def config : FetchConfig :=
  { FetchConfig.standard with
    aggregated := true
    maxConcurrentQueries := 2
    rangeLimits := [⟨.ofSeconds 60, 2, .ofSeconds 30⟩, ⟨.ofSeconds 120, 1, .ofSeconds 30⟩] }

def stray (letter : UInt8) : Wire.Row := ⟨[letter], [], [], []⟩

def low : List Wire.Row := [⟨[97], [60], [⟨0x3ff0000000000000⟩], []⟩, stray 116]

def high : List Wire.Row := [⟨[97], [60], [⟨0x4000000000000000⟩], []⟩, stray 117]

def body (pace : Nat) (rows : List Wire.Row) : Outcome :=
  .body ⟨[⟨pace, rows.flatMap (Wire.Row.encode .aggregated)⟩], 0, none⟩

/-- The second and the third query of the first group come to these outcomes. -/
def storage (second third : Outcome) : Storage := fun ticket _ =>
  match ticket.group.position, ticket.query with
  | 0, 0 => ⟨10, body 0 [stray 115]⟩
  | 0, 1 => ⟨40, second⟩
  | 0, _ => ⟨5, third⟩
  | _, 0 => ⟨5, body 5 []⟩
  | _, _ => ⟨60, body 0 []⟩

def answering : Storage := storage (body 0 low) (body 0 high)

def crashing : Storage := storage (.crashed "second") (.crashed "third")

/-- A source that fails when the first query of the first group has just ended. -/
def failing : RecentSource := fun _ _ _ _ => ⟨10, .error (.failed (.request "no recent points"))⟩

/-- A source that takes groups down. -/
def panicking : RecentSource := fun _ _ _ _ => ⟨10, .error (.crashed "no source")⟩

/-- A source that has a point for every group. -/
def ready : RecentSource := fun _ _ _ _ => ⟨0, .ok [⟨"a", 60, ⟨0x4008000000000000⟩, 60⟩]⟩

theorem brokenFor_failing (config : FetchConfig) (number : Nat) (asked : Request) :
    failing.BrokenFor config number asked :=
  fun _ _ _ _ _ _ => .inl ⟨_, rfl⟩

theorem adds_failing (config : FetchConfig) (id : GroupId) (metrics : List String)
    (start stop : UInt32) :
    (Secondary.present failing).adds config id metrics start stop = .ok [] := by
  rw [Secondary.adds, RecentAnswer.comesTo]
  split <;> rfl

/-- The names that the reply to a group knows. -/
def known (result : GroupResult) : Nat × Option (List String) :=
  (result.position, result.result.toOption.map (·.store.names))

theorem exists_reply {result : GroupResult} {position : Nat} {names : List String}
    (h : known result = (position, some names)) :
    result.position = position ∧
      ∃ reply, result.result = .ok reply ∧ reply.store.names = names := by
  obtain ⟨hposition, hnames⟩ := Prod.mk.inj h
  cases hreply : result.result with
  | error error =>
      rw [hreply] at hnames
      cases hnames
  | ok reply =>
      rw [hreply] at hnames
      exact ⟨hposition, reply, rfl, Option.some.inj hnames⟩

section Seen

variable {orchestrator : Orchestrator} {asked : Request} {time : Nat}

/-- A request that is seen to be answered in time, with replies that know these names. -/
theorem exists_response {names : List (Nat × Option (List String))}
    (hseen : ((Run.start orchestrator [(0, asked)]).finish.requests[0]?).map
      (fun request => (request.ending?, request.results.map known)) =
        some (some (time, .ok ()), names))
    (hearly : time < orchestrator.config.requestTimeout.millisCovering) :
    ∃ request response, Run.AnswersInTime orchestrator [(0, asked)] 0 0 request (.ok response) ∧
      request.results.map known = names := by
  obtain ⟨request, hrequest, hsame⟩ := Option.map_eq_some_iff.mp hseen
  obtain ⟨hending, hnames⟩ := Prod.mk.inj hsame
  obtain ⟨response, hended⟩ := RequestRun.exists_response_of_ending hending
  exact ⟨request, response, .of_finish hrequest hended (by rwa [Nat.zero_add]), hnames⟩

/-- A request that is seen to fail in time. -/
theorem exists_failed {error : FetchError}
    (hseen : ((Run.start orchestrator [(0, asked)]).finish.requests[0]?).map (·.ending?) =
      some (some (time, .error error)))
    (hearly : time < orchestrator.config.requestTimeout.millisCovering) :
    ∃ request, Run.AnswersInTime orchestrator [(0, asked)] 0 0 request (.error error) := by
  obtain ⟨request, hrequest, hending⟩ := Option.map_eq_some_iff.mp hseen
  exact ⟨request, .of_finish hrequest (RequestRun.phase_of_ending_error hending)
    (by rwa [Nat.zero_add])⟩

/-- A request that is seen to fail under some schedule. -/
theorem exists_ends_failed {run : Run} (h : Run.Reachable orchestrator [(0, asked)] run)
    {error : FetchError}
    (hseen : (run.requests[0]?).map (·.ending?) = some (some (time, .error error))) :
    ∃ request, Run.Ends orchestrator [(0, asked)] 0 request ⟨time, .error error⟩ := by
  obtain ⟨request, hrequest, hending⟩ := Option.map_eq_some_iff.mp hseen
  exact ⟨request, run, h, hrequest, RequestRun.phase_of_ending_error hending⟩

end Seen

/-! ## The order of responses -/

theorem exists_response_absent : ∃ request response,
    Run.AnswersInTime ⟨config, answering, .absent⟩ [(0, asked)] 0 0 request (.ok response) ∧
    request.results.map known = [(0, some ["a", "b", "c", "s", "u", "t"]), (1, some ["a", "b"])] :=
  @exists_response _ _ 75 _ (by decide +kernel) (by decide +kernel)

theorem exists_response_failing : ∃ request response,
    Run.AnswersInTime ⟨config, answering, .present failing⟩ [(0, asked)] 0 0 request
      (.ok response) ∧
    request.results.map known = [(0, some ["a", "b", "c", "s", "t", "u"]), (1, some ["a", "b"])] :=
  @exists_response _ _ 70 _ (by decide +kernel) (by decide +kernel)

theorem exists_response_ready : ∃ request response,
    Run.AnswersInTime ⟨config, answering, .present ready⟩ [(0, asked)] 0 0 request
      (.ok response) ∧
    request.results.map known = [(0, some ["a", "b", "c", "s", "u", "t"]), (1, some ["a", "b"])] :=
  @exists_response _ _ 75 _ (by decide +kernel) (by decide +kernel)

/-- The plan of the group whose queries tie. -/
def tiedPlan : Plan.QueryPlan :=
  let parts : List Plan.FunctionGroup := [⟨.last, ["a"], 60⟩, ⟨.max, ["b"], 60⟩, ⟨.min, ["c"], 60⟩]
  ⟨.aggregated, .resolve tied minute 1000, 60, 0, 60,
    parts.map (Plan.QueryPlan.functionQuery tied 60 0 60)⟩

theorem planAt_tied : asked.planAt config 0 (minute, tied) = .ok tiedPlan := by decide +kernel

theorem fates_tied (secondary : Secondary) :
    Fetching.fates (asked.contextAt ⟨config, answering, secondary⟩ 0) ⟨0, 0⟩ tiedPlan =
      [[stray 115], low, high].map fun rows => .ok (.ok rows) := by
  have hfates : Fetching.fates (asked.contextAt ⟨config, answering, .absent⟩ 0) ⟨0, 0⟩ tiedPlan =
      [[stray 115], low, high].map fun rows => .ok (.ok rows) := by
    decide +kernel
  exact hfates

/-- The points of each metric in the reply of the group whose queries tie. -/
def TiedPoints (request : RequestRun) (points : List (List Point)) : Prop :=
  ∃ result ∈ request.results, result.position = 0 ∧
    ∃ reply, result.result = .ok reply ∧ reply.series.map (·.points) = points

/-- The reply to the group whose queries tie, for an order of their responses. -/
def tiedReply (order : List (List Wire.Row)) : GroupReply :=
  .ofPlan tied tiedPlan (Fetching.conclude tiedPlan (Fetching.storeOf false tiedPlan order) [])

/-- Points that tie need no sorting. -/
theorem tiedReply_eq {order : List (List Wire.Row)} {one two : Point}
    (hpoints : (Fetching.storeOf false tiedPlan order).points = [one, two])
    (htied : one.keyLe two = true) :
    tiedReply order =
      .ofPlan tied tiedPlan (({ Fetching.storeOf false tiedPlan order with
        points := [one, two] } : PointStore).uniq.rollup 0 60) := by
  have hsorted : (Fetching.storeOf false tiedPlan order).sort =
      { Fetching.storeOf false tiedPlan order with points := [one, two] } := by
    rw [PointStore.sort, hpoints, List.mergeSort_of_pairwise (by simpa using htied)]
  rw [tiedReply, Fetching.conclude, PointStore.consolidate]
  exact congrArg
    (fun store : PointStore => GroupReply.ofPlan tied tiedPlan (store.uniq.rollup 0 60)) hsorted

/-- Of two points that tie the one stays that was added last. -/
theorem series_tiedReply :
    (tiedReply [[stray 115], low, high]).series.map (·.points) =
        [[⟨1, ⟨0x4000000000000000⟩, 60, 60⟩], [], []] ∧
      (tiedReply [[stray 115], high, low]).series.map (·.points) =
        [[⟨1, ⟨0x3ff0000000000000⟩, 60, 60⟩], [], []] := by
  let one : Point := ⟨1, ⟨0x3ff0000000000000⟩, 60, 60⟩
  let two : Point := ⟨1, ⟨0x4000000000000000⟩, 60, 60⟩
  have hforward : (Fetching.storeOf false tiedPlan [[stray 115], low, high]).points =
      [one, two] := by
    decide +kernel
  have hbackward : (Fetching.storeOf false tiedPlan [[stray 115], high, low]).points =
      [two, one] := by
    decide +kernel
  rw [tiedReply_eq hforward (by decide), tiedReply_eq hbackward (by decide)]
  constructor <;> decide +kernel

/-- The names that a reply knows tell in which order the responses were added. -/
theorem order_of_names : ∀ order ∈ [[stray 115], low, high].permutations',
    ((Fetching.storeOf false tiedPlan order).names = ["a", "b", "c", "s", "t", "u"] →
      order = [[stray 115], low, high]) ∧
    ((Fetching.storeOf false tiedPlan order).names = ["a", "b", "c", "s", "u", "t"] →
      order = [[stray 115], high, low]) := by
  decide +kernel

/-- Where the secondary source adds nothing the reply to that group is made of its responses, in
the order that the names tell. -/
theorem exists_tiedReply {secondary : Secondary} {request : RequestRun}
    {answer : Except FetchError Response}
    (h : Run.AnswersInTime ⟨config, answering, secondary⟩ [(0, asked)] 0 0 request answer)
    (hnothing : ∀ metrics start stop,
      secondary.adds config ⟨0, 0⟩ metrics start stop = .ok [])
    {names : List String} (hnames : (0, some names) ∈ request.results.map known) :
    ∃ result ∈ request.results, result.position = 0 ∧ ∃ order ∈
      [[stray 115], low, high].permutations', result.result = .ok (tiedReply order) ∧
        (Fetching.storeOf false tiedPlan order).names = names := by
  obtain ⟨result, hresult, hseen⟩ := List.mem_map.mp hnames
  obtain ⟨hposition, reply, hreply, rfl⟩ := exists_reply hseen
  obtain ⟨group, hpair, hforeseen⟩ := h.foreseen rfl hresult
  rw [hposition] at hpair hforeseen
  obtain ⟨hframe, rfl⟩ : minute = result.frame ∧ tied = group :=
    Prod.mk.inj (Option.some.inj hpair)
  rw [← hframe, planAt_tied] at hforeseen
  obtain ⟨order, horder, hordered⟩ :=
    hforeseen.exists_order (hnothing _ _ _) (by decide) (fates_tied secondary)
  rw [hreply] at hordered
  obtain rfl := Except.ok.inj hordered
  exact ⟨result, hresult, hposition, order, List.mem_permutations'.mpr horder, hreply, rfl⟩

theorem tiedPoints_absent {request : RequestRun} {answer : Except FetchError Response}
    (h : Run.AnswersInTime ⟨config, answering, .absent⟩ [(0, asked)] 0 0 request answer)
    (hnames : request.results.map known =
      [(0, some ["a", "b", "c", "s", "u", "t"]), (1, some ["a", "b"])]) :
    TiedPoints request [[⟨1, ⟨0x3ff0000000000000⟩, 60, 60⟩], [], []] := by
  obtain ⟨result, hresult, hposition, order, horder, hreply, hknown⟩ :=
    exists_tiedReply h (fun _ _ _ => rfl) (hnames ▸ List.mem_cons_self)
  obtain rfl := (order_of_names order horder).2 hknown
  exact ⟨result, hresult, hposition, _, hreply, series_tiedReply.2⟩

theorem tiedPoints_failing {request : RequestRun} {answer : Except FetchError Response}
    (h : Run.AnswersInTime ⟨config, answering, .present failing⟩ [(0, asked)] 0 0 request answer)
    (hnames : request.results.map known =
      [(0, some ["a", "b", "c", "s", "t", "u"]), (1, some ["a", "b"])]) :
    TiedPoints request [[⟨1, ⟨0x4000000000000000⟩, 60, 60⟩], [], []] := by
  obtain ⟨result, hresult, hposition, order, horder, hreply, hknown⟩ :=
    exists_tiedReply h (adds_failing _ _) (hnames ▸ List.mem_cons_self)
  obtain rfl := (order_of_names order horder).1 hknown
  exact ⟨result, hresult, hposition, _, hreply, series_tiedReply.1⟩

/-- A request is not answered alike where a reply knows names that no other reply knows. -/
theorem response_ne {unaided aided : Orchestrator} {one two : RequestRun}
    {response other : Response} {position : Nat} {names : List String}
    (hone : Run.AnswersInTime unaided [(0, asked)] 0 0 one (.ok response))
    (htwo : Run.AnswersInTime aided [(0, asked)] 0 0 two (.ok other))
    (haccepted : unaided.refusal? asked = none ∧ aided.refusal? asked = none)
    (hknown : (position, some names) ∈ one.results.map known)
    (hunknown : ∀ entry ∈ two.results.map known, entry.2 ≠ some names) : response ≠ other := by
  rintro rfl
  obtain ⟨_, hends⟩ := hone.ends
  obtain ⟨_, hothers⟩ := htwo.ends
  obtain ⟨result, hresult, hseen⟩ := List.mem_map.mp hknown
  obtain ⟨-, reply, hreply, hnames⟩ := exists_reply hseen
  -- the other run would have to answer with this reply too
  obtain ⟨filed, hfiled, -, hmem⟩ :=
    exists_filed (hends.answer_eq rfl haccepted.1).1.symm hresult hreply
  obtain ⟨same, hsame, -, hreplied⟩ :=
    mem_ofResults (hothers.answer_eq rfl haccepted.2).1.symm hfiled hmem
  refine hunknown _ (List.mem_map_of_mem hsame) ?_
  rw [known, hreplied, ← hnames]
  rfl

theorem failsFor_failing (orchestrator : Orchestrator) (number : Nat) (asked : Request) :
    failing.FailsFor orchestrator number asked :=
  fun _ _ _ _ _ _ => ⟨_, rfl⟩

/-- Without the source and with one that fails the request is answered alike; a point of a
source that answers is merged with those of storage. -/
theorem broken_secondary_changes_only_order_of_outage :
    (∃ one two response other, failing.BrokenFor config 0 asked ∧
      Run.AnswersInTime ⟨config, answering, .absent⟩ [(0, asked)] 0 0 one (.ok response) ∧
      Run.AnswersInTime ⟨config, answering, .present failing⟩ [(0, asked)] 0 0 two (.ok other) ∧
      AnsweredAlike (GroupReply.SameButOrder config)
        (fun position => FetchError.SameFault (asked.CrashesAt config answering 0 position))
        one.results two.results (.ok response) (.ok other) ∧
      Response.SameButOrder config response other) ∧
    ∃ request response,
      Run.AnswersInTime ⟨config, answering, .present ready⟩ [(0, asked)] 0 0 request
        (.ok response) ∧
      ∃ result ∈ request.results, ∃ reply, result.result = .ok reply ∧ ∃ group plan,
        asked.pairs[result.position]? = some (result.frame, group) ∧
        asked.PlanFor ⟨config, answering, .present ready⟩ result.frame group plan ∧
        reply.Merges ⟨config, answering, .present ready⟩ ⟨0, result.position⟩ group plan := by
  obtain ⟨one, response, hone, -⟩ := exists_response_absent
  obtain ⟨two, other, htwo, -⟩ := exists_response_failing
  obtain ⟨request, answered, hanswered, hknown⟩ := exists_response_ready
  obtain ⟨soon, hfirst⟩ := hone.ends
  obtain ⟨late, hsecond⟩ := htwo.ends
  obtain ⟨halike, hsame, hmerged⟩ :=
    @Run.broken_secondary_changes_only_order config answering [(0, asked)] 0 0 asked rfl
  refine ⟨⟨one, two, response, other, brokenFor_failing _ _ _, hone, htwo, ?_,
    hsame failing one two soon late response other (failsFor_failing _ _ _) hfirst hsecond⟩, ?_⟩
  · exact (halike failing one two _ _ (brokenFor_failing _ _ _) hone htwo).resolve_left (by simp)
  · have hfound : (0, some ["a", "b", "c", "s", "u", "t"]) ∈ request.results.map known :=
      hknown ▸ List.mem_cons_self
    obtain ⟨result, hresult, hseen⟩ := List.mem_map.mp hfound
    obtain ⟨-, reply, hreply, -⟩ := exists_reply hseen
    obtain ⟨run, time, hprompt, hrequest, -⟩ := id hanswered
    exact ⟨request, answered, hanswered, result, hresult, reply, hreply,
      hmerged _ run request hprompt.reachable hrequest result hresult reply hreply⟩

/-! ## Other schedules -/

/-- A target of one metric under these rules. -/
def plain (rules : RuleSet) : TargetGroup := (TargetGroup.new "z" rules).push "m" "m" "m"

def lone : Request := .single minute (plain .standard) 1000

/-- Rules by which every metric has a prime for its precision. -/
def prime : RuleSet := ⟨[], 4294967291, .average, by decide⟩

/-- Two targets whose precisions have no common multiple. -/
def clashing : Request :=
  ⟨[(minute, plain .standard), (minute, plain prime)], 1000, by decide⟩

/-- A storage that takes its time, also between the answer and the body. -/
def sluggish (secondary : Secondary) : Orchestrator :=
  ⟨.standard, fun _ _ => ⟨50000, .body ⟨[⟨5000, []⟩], 0, none⟩⟩, secondary⟩

def aggregating (secondary : Secondary) : Orchestrator :=
  ⟨{ FetchConfig.standard with aggregated := true }, (sluggish secondary).storage, secondary⟩

/-- The agents act in this order. -/
def acts (run : Run) (agents : List Agent) : Run := agents.foldl Run.act run

theorem reachable_acts {orchestrator : Orchestrator} {requests : List (Nat × Request)} {run : Run}
    (h : Run.Reachable orchestrator requests run) (agents : List Agent) :
    Run.Reachable orchestrator requests (acts run agents) := by
  induction agents generalizing run with
  | nil => exact h
  | cons agent rest ih => exact ih (h.act agent)

/-- After its query was sent the group is kept waiting, beyond the time that the query has. -/
def starved : Run :=
  let sent := acts (.start (sluggish (.present failing)) [(0, lone)]) [.request 0, .group ⟨0, 0⟩]
  acts { sent with floor := { sent.floor with clock := { sent.floor.clock with now := 70000 } } }
    [.group ⟨0, 0⟩, .request 0]

theorem reachable_starved :
    Run.Reachable (sluggish (.present failing)) [(0, lone)] starved :=
  reachable_acts ((reachable_acts .start _).pass 70000) _

/-- The second group reports before the first. -/
def crossed : Run :=
  acts (.start (aggregating (.present failing)) [(0, clashing)])
    [.request 0, .group ⟨0, 1⟩, .group ⟨0, 0⟩, .group ⟨0, 1⟩, .request 0]

/-- What a source that adds nothing may still change: which of two queries ends first that end
at the same time, and thereby which of their points stays; and which of two crashes a group
tells of. A source that panics takes groups down itself. And with other schedules, a group that
is kept waiting may have too little time left for its query, and two steps that have no common
multiple are told in the order in which their groups reported. -/
theorem failing_secondary_changes_answer :
    (∀ config number asked, failing.BrokenFor config number asked) ∧
    (∃ one two response other,
      Run.AnswersInTime ⟨config, answering, .absent⟩ [(0, asked)] 0 0 one (.ok response) ∧
      Run.AnswersInTime ⟨config, answering, .present failing⟩ [(0, asked)] 0 0 two (.ok other) ∧
      TiedPoints one [[⟨1, ⟨0x3ff0000000000000⟩, 60, 60⟩], [], []] ∧
      TiedPoints two [[⟨1, ⟨0x4000000000000000⟩, 60, 60⟩], [], []] ∧ response ≠ other) ∧
    (∃ one two,
      Run.AnswersInTime ⟨config, crashing, .absent⟩ [(0, asked)] 0 0 one
        (.error (.taskFailed "third")) ∧
      Run.AnswersInTime ⟨config, crashing, .present failing⟩ [(0, asked)] 0 0 two
        (.error (.taskFailed "second"))) ∧
    (∃ two, Run.AnswersInTime ⟨config, answering, .present panicking⟩ [(0, asked)] 0 0 two
        (.error (.taskFailed "no source"))) ∧
    (∃ one two response,
      Run.AnswersInTime (sluggish .absent) [(0, lone)] 0 0 one (.ok response) ∧
      70000 < (sluggish (.present failing)).config.requestTimeout.millisCovering ∧
      Run.Ends (sluggish (.present failing)) [(0, lone)] 0 two
        ⟨70000, .error (.queryTimeout "z" (.ofSeconds 60))⟩) ∧
    ∃ one two,
      Run.AnswersInTime (aggregating .absent) [(0, clashing)] 0 0 one
        (.error (.step (.overflow 60 4294967291))) ∧
      Run.Ends (aggregating (.present failing)) [(0, clashing)] 0 two
        ⟨0, .error (.step (.overflow 4294967291 60))⟩ := by
  obtain ⟨one, response, hone, hfirst⟩ := exists_response_absent
  obtain ⟨two, other, htwo, hsecond⟩ := exists_response_failing
  refine ⟨brokenFor_failing, ⟨one, two, response, other, hone, htwo, tiedPoints_absent hone hfirst,
    tiedPoints_failing htwo hsecond, ?_⟩, ?_, ?_, ?_, ?_⟩
  · apply response_ne hone htwo (by decide) (hfirst ▸ List.mem_cons_self)
    rw [hsecond]
    decide
  · obtain ⟨one, hone⟩ := @exists_failed ⟨config, crashing, .absent⟩ asked 75
      (.taskFailed "third") (by decide +kernel) (by decide +kernel)
    obtain ⟨two, htwo⟩ := @exists_failed ⟨config, crashing, .present failing⟩ asked 70
      (.taskFailed "second") (by decide +kernel) (by decide +kernel)
    exact ⟨one, two, hone, htwo⟩
  · exact @exists_failed _ _ 10 _ (by decide +kernel) (by decide +kernel)
  · obtain ⟨one, response, hone, -⟩ := @exists_response (sluggish .absent) lone 55000
      [(0, some ["m"])] (by decide +kernel) (by decide +kernel)
    obtain ⟨two, htwo⟩ := @exists_ends_failed _ _ 70000 _ reachable_starved
      (.queryTimeout "z" (.ofSeconds 60)) (by decide +kernel)
    exact ⟨one, two, response, hone, by decide +kernel, htwo⟩
  · obtain ⟨one, hone⟩ := @exists_failed (aggregating .absent) clashing 0
      (.step (.overflow 60 4294967291)) (by decide +kernel) (by decide +kernel)
    obtain ⟨two, htwo⟩ := @exists_ends_failed (aggregating (.present failing)) clashing 0 crossed
      (reachable_acts .start _) (.step (.overflow 4294967291 60)) (by decide +kernel)
    exact ⟨one, two, hone, htwo⟩

end Outage

end SeriesGateway.Fetch
