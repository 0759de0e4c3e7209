import SeriesGateway.Proofs.Fetch.Filing
import SeriesGateway.Proofs.Fetch.Reachability
import SeriesGateway.Proofs.Fetch.Series

/-! # All replies or an error

A request that asks for too many metrics is refused before any query is sent. Any other
request awaits all of its groups, whatever becomes of them: it ends with the replies of
all of them, or with the error of one that failed. It does end, whoever acts in what
order, as soon as its time is up and all of its groups and then the request had a turn.
-/

namespace SeriesGateway.Fetch

namespace RequestRun

/-- When a request has ended, and whether well. -/
def ending? (run : RequestRun) : Option (Nat × Except FetchError Unit) :=
  match run.phase with
  | .concluded ended => some (ended.time, ended.result.map fun _ => ())
  | _ => none

theorem exists_ended {run : RequestRun} {time : Nat} {outcome : Except FetchError Unit}
    (h : run.ending? = some (time, outcome)) :
    ∃ ended, run.phase = .concluded ended ∧ ended.time = time ∧
      ended.result.map (fun _ => ()) = outcome := by
  unfold ending? at h
  split at h
  next ended hphase =>
    obtain ⟨htime, hresult⟩ := Prod.mk.inj (Option.some.inj h)
    exact ⟨ended, hphase, htime, hresult⟩
  next => cases h

theorem exists_response_of_ending {run : RequestRun} {time : Nat}
    (h : run.ending? = some (time, .ok ())) :
    ∃ response, run.phase = .concluded ⟨time, .ok response⟩ := by
  obtain ⟨⟨_, result⟩, hphase, rfl, hresult⟩ := exists_ended h
  cases result with
  | error error => cases hresult
  | ok response => exact ⟨response, hphase⟩

theorem phase_of_ending_error {run : RequestRun} {time : Nat} {error : FetchError}
    (h : run.ending? = some (time, .error error)) :
    run.phase = .concluded ⟨time, .error error⟩ := by
  obtain ⟨⟨_, result⟩, hphase, rfl, hresult⟩ := exists_ended h
  cases result with
  | error other =>
      obtain rfl := Except.error.inj hresult
      exact hphase
  | ok response => cases hresult

variable {orchestrator : Orchestrator} {number start : Nat} {request : Request}
  {run after : RequestRun}

/-! ## What lasts -/

theorem Moved.groups_of_isDone (henrolled : Enrolled orchestrator number request run)
    (hmoved : Moved orchestrator run after) {position : Nat} {group : GroupRun}
    (hgroup : run.groups[position]? = some group) (hdone : group.isDone = true) :
    after.groups[position]? = some group := by
  have hsettle : ∀ clock, (run.settle clock).groups = run.groups := by
    intro clock
    unfold RequestRun.settle
    split <;> rfl
  cases hmoved with
  | still => exact hgroup
  | refused => exact hgroup
  | begun hpending =>
      rw [henrolled.groups_of_pending hpending] at hgroup
      cases hgroup
  | settled hrunning clock => rwa [hsettle]
  | @turned other found acted turn floor next _ hfound hopen hturned =>
      have hother : other ≠ position := by
        rintro rfl
        rw [hgroup] at hfound
        rw [← Option.some.inj hfound, hdone] at hopen
        cases hopen
      rw [hturned.groups_eq, List.getElem?_set_ne hother]
      exact hgroup

theorem Moved.isOver_of_isOver (hmoved : Moved orchestrator run after)
    (hover : run.isOver = true) : after.isOver = true := by
  cases hmoved with
  | still => exact hover
  | refused => rfl
  | begun hpending => simp [isOver, hpending] at hover
  | settled hrunning => simp [isOver, hrunning] at hover
  | turned hgroup hopen hturned =>
      obtain ⟨started, hrunning, -⟩ := hturned.course
      simp [isOver, hrunning] at hover

theorem isOver_or_phase_eq_settle (run : RequestRun) (clock : Clock) :
    (run.settle clock).isOver = true ∨ (run.settle clock).phase = run.phase := by
  unfold settle
  split
  next => exact .inl rfl
  next => exact .inr rfl

/-- A request that runs goes on to run until it is over. -/
theorem Moved.phase_of_running (hmoved : Moved orchestrator run after) {started : Nat}
    (hrunning : run.phase = .running started) :
    after.isOver = true ∨ after.phase = .running started := by
  cases hmoved with
  | still => exact .inr hrunning
  | refused => exact .inl rfl
  | begun hpending =>
      rw [hrunning] at hpending
      cases hpending
  | settled _ clock => exact (run.isOver_or_phase_eq_settle clock).imp_right (·.trans hrunning)
  | turned hgroup hopen hturned => exact .inr (hturned.phase_eq.trans hrunning)

/-! ## Ends -/

/-- A group that has a turn after the deadline of its request has ended with it. -/
theorem isDone_of_late_turn (hrun : Sound orchestrator request run)
    (henrolled : Enrolled orchestrator number request run) {started : Nat}
    (hrunning : run.phase = .running started) {position : Nat} (hlt : position < request.size)
    {floor : Floor}
    (hlate : started + orchestrator.config.requestTimeout.millisCovering ≤ floor.clock.now) :
    ∃ group, (run.move orchestrator (.group position floor)).groups[position]? = some group ∧
      group.isDone = true := by
  have hexists : position < run.groups.length := by
    rw [(henrolled.of_running hrunning).2]
    exact hlt
  obtain ⟨group, hgroup⟩ : ∃ group, run.groups[position]? = some group :=
    ⟨_, List.getElem?_eq_getElem hexists⟩
  simp only [move, hgroup]
  split
  next hdone => exact ⟨group, hgroup, hdone⟩
  next hopen =>
    have hopen : group.isDone = false := by simpa using hopen
    have hdone := @GroupRun.isDone_act_of_deadline (run.context orchestrator started) group hopen
      (hrun.onCourse hgroup hopen started) run.barrier { floor with woken := [] } hlate
    rw [hrun.actGroup_eq hgroup hrunning]
    exact ⟨_, List.getElem?_set_self hexists, hdone⟩

theorem play_append (run : RequestRun) (first second : List Move) :
    run.play orchestrator (first ++ second) =
      (run.play orchestrator first).play orchestrator second :=
  List.foldl_append

/-- As turns go on, a request that runs ends, or all of its groups end that have a turn
after its deadline. -/
theorem isOver_or_isDone_of_turns {moves : List Move} {started : Nat}
    (hrunning : ((new number start request).play orchestrator moves).phase = .running started)
    (later : List Move) :
    let run := (new number start request).play orchestrator (moves ++ later)
    run.isOver = true ∨ run.phase = .running started ∧
      ∀ position < request.size, (∃ floor : Floor,
          started + orchestrator.config.requestTimeout.millisCovering ≤ floor.clock.now ∧
            .group position floor ∈ later) →
        ∃ group, run.groups[position]? = some group ∧ group.isDone = true := by
  induction later using List.reverseRecOn with
  | nil =>
      dsimp only
      rw [List.append_nil]
      exact .inr ⟨hrunning, by simp⟩
  | append_singleton later next ih =>
      dsimp only at ih ⊢
      rw [← List.append_assoc]
      have hsound := (sound_new orchestrator number start request).play (moves ++ later)
      have henrolled := enrolled_play orchestrator number start request (moves ++ later)
      have hnext : (new number start request).play orchestrator (moves ++ later ++ [next]) =
          ((new number start request).play orchestrator (moves ++ later)).move orchestrator next :=
        play_append _ _ [next]
      rw [hnext]
      generalize (new number start request).play orchestrator (moves ++ later) = run at *
      have hmoved := moved_move hsound next
      rcases ih with hover | ⟨hstill, hdone⟩
      · exact .inl (hmoved.isOver_of_isOver hover)
      refine (hmoved.phase_of_running hstill).imp_right fun hphase => ⟨hphase, ?_⟩
      rintro position hlt ⟨floor, hlate, hturn⟩
      rcases List.mem_append.mp hturn with hbefore | hnow
      · obtain ⟨group, hgroup, hended⟩ := hdone position hlt ⟨floor, hlate, hbefore⟩
        exact ⟨group, hmoved.groups_of_isDone henrolled hgroup hended, hended⟩
      · rw [← List.mem_singleton.mp hnow]
        exact isDone_of_late_turn hsound henrolled hstill hlt hlate

/-- A request that runs is over when all of its groups, and then the request, had a turn
after its deadline. -/
theorem isOver_of_turns {moves : List Move} {started : Nat}
    (hrunning : ((new number start request).play orchestrator moves).phase = .running started)
    {later : List Move} (hturns : ∀ position < request.size, ∃ floor : Floor,
      started + orchestrator.config.requestTimeout.millisCovering ≤ floor.clock.now ∧
        .group position floor ∈ later) (clock : Clock) :
    ((new number start request).play orchestrator (moves ++ later ++ [.request clock])).isOver =
      true := by
  have hall := isOver_or_isDone_of_turns hrunning later
  have hsound := (sound_new orchestrator number start request).play (moves ++ later)
  have henrolled := enrolled_play orchestrator number start request (moves ++ later)
  rw [play_append _ _ [_]]
  dsimp only at hall
  generalize (new number start request).play orchestrator (moves ++ later) = run at *
  rcases hall with hover | ⟨hstill, hdone⟩
  · exact (moved_move hsound (.request clock)).isOver_of_isOver hover
  have hended : run.groups.all (·.isDone) = true := by
    rw [List.all_eq_true]
    intro group hgroup
    obtain ⟨position, hposition⟩ := List.mem_iff_getElem?.mp hgroup
    have hlt := (List.getElem?_eq_some_iff.mp hposition).1
    rw [(henrolled.of_running hstill).2] at hlt
    obtain ⟨found, hfound, hended⟩ := hdone position hlt (hturns position hlt)
    rw [hposition] at hfound
    rw [Option.some.inj hfound]
    exact hended
  simp only [play, List.foldl_cons, List.foldl_nil, move, act, hstill, settle, if_pos hended]
  rfl

/-! ## Beginnings and endings -/

theorem phase_of_isOver (hover : run.isOver = true) : ∃ ended, run.phase = .concluded ended := by
  unfold isOver at hover
  split at hover
  next ended hended => exact ⟨ended, hended⟩
  next => cases hover

theorem phase_of_response {response : Response} (hresponse : run.response? = some response) :
    ∃ time, run.phase = .concluded ⟨time, .ok response⟩ := by
  unfold response? at hresponse
  split at hresponse
  next time _ hended =>
    cases hresponse
    exact ⟨time, hended⟩
  next => cases hresponse

/-- A request that is refused never runs, and ends with the refusal. -/
theorem Enrolled.ends_of_refused (h : Enrolled orchestrator number request run)
    {error : FetchError} (hrefusal : orchestrator.refusal? request = some error) :
    (∀ started, run.phase ≠ .running started) ∧
      ∀ ended, run.phase = .concluded ended → ended.result = .error error := by
  refine ⟨fun started hrunning => ?_, fun ended hended => ?_⟩
  · rw [(h.of_running hrunning).1] at hrefusal
    cases hrefusal
  · have hstage := h.stage
    simp only [Stage, hended, hrefusal] at hstage
    exact hstage.2

theorem act_of_refused {timer : Timer} (hpending : run.phase = .pending timer) {clock : Clock}
    (hreached : clock.reached timer = true) {error : FetchError}
    (hrefusal : orchestrator.refusal? run.request = some error) :
    (run.act orchestrator clock).1.phase = .concluded ⟨clock.now, .error error⟩ := by
  simp [act, hpending, hreached, begin, hrefusal]

theorem act_of_accepted {timer : Timer} (hpending : run.phase = .pending timer) {clock : Clock}
    (hreached : clock.reached timer = true) (haccepted : orchestrator.refusal? run.request = none) :
    (run.act orchestrator clock).1.isOver = true ∨
      (run.act orchestrator clock).1.phase = .running clock.now := by
  simp only [act, hpending, hreached, begin, haccepted, if_true]
  exact isOver_or_phase_eq_settle _ clock

/-- Every target of a request that has ended has left one result. -/
theorem Enrolled.positions_perm (h : Enrolled orchestrator number request run)
    (hlength : run.groups.length = request.size)
    (hdone : ∀ group ∈ run.groups, group.isDone = true) :
    (run.results.map (·.position)).Perm (List.range request.size) := by
  rw [List.perm_ext_iff_of_nodup h.nodup_results List.nodup_range]
  intro position
  rw [h.mem_results, List.mem_range, ← hlength]
  constructor
  · rintro ⟨group, hgroup, -⟩
    exact (List.getElem?_eq_some_iff.mp hgroup).1
  · intro hlt
    exact ⟨_, List.getElem?_eq_getElem hlt, hdone _ (List.getElem_mem hlt)⟩

end RequestRun

/-- What a request that was not refused comes to, given how its groups ended: all of
their replies, or the error of one that failed. -/
def Request.Comes (request : Request) (results : List GroupResult) :
    Except FetchError Response → Prop
  | .ok response =>
    (∀ result ∈ results, ∃ reply, result.result = .ok reply) ∧ request.Answered results response
  | .error error => ∃ result ∈ results, result.result = .error error

namespace RequestRun

variable {orchestrator : Orchestrator} {number : Nat} {request : Request} {run : RequestRun}

/-- A reply is a result of its own target. -/
theorem Sound.pair_of_reply (hrun : Sound orchestrator request run) {result : GroupResult}
    (hresult : result ∈ run.results) {reply : GroupReply} (hok : result.result = .ok reply) :
    request.pairs[result.position]? = some (result.frame, reply.group) := by
  obtain ⟨group, hpair, hreplyOf⟩ := hrun.results result hresult
  rw [hok] at hreplyOf
  obtain ⟨plan, -, hmade⟩ := hreplyOf.exists_madeBy
  rw [hpair, hmade.group_eq]

theorem comes_of_concluded (hrun : Sound orchestrator request run)
    (henrolled : Enrolled orchestrator number request run)
    (haccepted : orchestrator.refusal? request = none) {ended : RequestEnd}
    (hended : run.phase = .concluded ended) :
    (∀ group ∈ run.groups, group.isDone = true) ∧
      (run.results.map (·.position)).Perm (List.range request.size) ∧
      request.Comes run.results ended.result := by
  have hstage := henrolled.stage
  simp only [Stage, hended, haccepted] at hstage
  obtain ⟨hlength, hdone, hresult⟩ := hstage
  have hpositions := henrolled.positions_perm hlength hdone
  refine ⟨hdone, hpositions, ?_⟩
  rw [hresult]
  cases hanswer : Response.ofResults run.results with
  | ok response =>
      exact answered_of_ofResults hpositions
        (fun result hresult reply hok => hrun.pair_of_reply hresult hok) hanswer
  | error error =>
      rw [Response.ofResults] at hanswer
      cases hreplies : repliesOf run.results with
      | ok replies =>
          rw [hreplies] at hanswer
          cases hanswer
      | error first =>
          rw [hreplies] at hanswer
          cases hanswer
          exact exists_of_repliesOf_eq_error hreplies

end RequestRun

/-- Nothing is ever sent for a request that is refused. -/
theorem Run.request_ne_of_refused {orchestrator : Orchestrator} {requests : List (Nat × Request)}
    {run : Run} (hrun : Reachable orchestrator requests run) {number begins : Nat}
    {asked : Request} (hasked : requests[number]? = some (begins, asked)) {error : FetchError}
    (hrefusal : orchestrator.refusal? asked = some error) :
    ∀ call ∈ run.floor.calls, call.1.group.request ≠ number := by
  rintro call hcall rfl
  obtain ⟨_, other, _, _, _, hother, haccepted, -⟩ := agreed_of_calls hrun call hcall
  rw [hasked] at hother
  obtain ⟨rfl, rfl⟩ := Prod.mk.inj (Option.some.inj hother)
  rw [hrefusal] at haccepted
  cases haccepted

/-- All or nothing, for every request of a run and at any time. A request that asks for
more metrics than allowed never has a query sent: it fails with this error in the first
turn it has. Any other request ends when all of its groups have ended, each with one
result: with all of their replies exactly if none of them failed, each reply filed under
the frame of its target and in the order of the request, or else with the error of a
group that failed. Such a request begins in the first turn it has, and is over when all
of its groups, and then the request, had a turn after its deadline. -/
theorem Run.all_replies_or_error {orchestrator : Orchestrator} {requests : List (Nat × Request)}
    {run : Run} (hrun : Reachable orchestrator requests run) {number begins : Nat}
    {asked : Request} (hasked : requests[number]? = some (begins, asked)) :
    let limit := orchestrator.config.maxMetricsPerRequest
    ∃ request, run.requests[number]? = some request ∧
      (limit ≠ 0 ∧ limit < asked.metricCount →
        let error := FetchError.metricsLimitExceeded asked.metricCount limit
        (∀ ticket time query, .called ticket time query ∈ run.floor.events →
          ticket.group.request ≠ number) ∧
        (∀ started, request.phase ≠ .running started) ∧
        (∀ ended, request.phase = .concluded ended → ended.result = .error error) ∧
        ∀ timer clock, request.phase = .pending timer → clock.reached timer = true →
          (request.act orchestrator clock).1.phase = .concluded ⟨clock.now, .error error⟩) ∧
      (¬ (limit ≠ 0 ∧ limit < asked.metricCount) →
        (∀ ended, request.phase = .concluded ended →
          (∀ group ∈ request.groups, group.isDone = true) ∧
          (request.results.map (·.position)).Perm (List.range asked.size) ∧
          asked.Comes request.results ended.result) ∧
        (∀ timer clock, request.phase = .pending timer → clock.reached timer = true →
          (request.act orchestrator clock).1.isOver = true ∨
            (request.act orchestrator clock).1.phase = .running clock.now) ∧
        ∀ started later clock, request.phase = .running started →
          (∀ position < asked.size, ∃ floor : Floor,
            started + orchestrator.config.requestTimeout.millisCovering ≤ floor.clock.now ∧
              .group position floor ∈ later) →
          (request.play orchestrator (later ++ [.request clock])).isOver = true) := by
  intro limit
  have hlt : number < run.requests.length := by
    rw [hrun.length_requests]
    exact (List.getElem?_eq_some_iff.mp hasked).1
  refine ⟨_, List.getElem?_eq_getElem hlt, ?_⟩
  obtain ⟨moves, hrequest⟩ := hrun.played.exists_moves hasked (List.getElem?_eq_getElem hlt)
  rw [hrequest]
  have hsound := (RequestRun.sound_new orchestrator number begins asked).play moves
  have henrolled := RequestRun.enrolled_play orchestrator number begins asked moves
  have hturns := @RequestRun.isOver_of_turns orchestrator number begins asked moves
  simp only [RequestRun.play_append _ _ (_ ++ _), List.append_assoc] at hturns
  -- the schedule does not matter any more
  generalize (RequestRun.new number begins asked).play orchestrator moves = request at *
  constructor
  · intro hexcess
    have hrefusal : orchestrator.refusal? asked =
        some (.metricsLimitExceeded asked.metricCount limit) := if_pos hexcess
    obtain ⟨hidle, hended⟩ := henrolled.ends_of_refused hrefusal
    refine ⟨?_, hidle, hended, ?_⟩
    · exact fun ticket time query hcalled =>
        request_ne_of_refused hrun hasked hrefusal _ (Floor.mem_calls hcalled)
    · exact fun timer clock hpending hreached =>
        RequestRun.act_of_refused hpending hreached (hsound.request_eq ▸ hrefusal)
  · intro hfits
    have haccepted : orchestrator.refusal? asked = none := if_neg hfits
    refine ⟨?_, ?_, ?_⟩
    · exact fun ended hended =>
        RequestRun.comes_of_concluded hsound henrolled haccepted hended
    · exact fun timer clock hpending hreached =>
        RequestRun.act_of_accepted hpending hreached (hsound.request_eq ▸ haccepted)
    · exact fun started later clock hrunning hlater => hturns hrunning hlater clock

/-- Two targets share a frame, and the second is answered before the first; another
request asks for one metric too many. -/
theorem Run.all_replies_or_error_of_overtaking :
    let rules : RuleSet := ⟨[], 60, .last, by decide⟩
    let target (metric : String) := (TargetGroup.new "points" rules).push metric metric "t"
    let storage : Storage := fun ticket _ =>
      ⟨if ticket.group.position = 0 then 20 else 5,
        .body ⟨[⟨0, (⟨[97], [60], [⟨0⟩], [1]⟩ : Wire.Row).encode .unaggregated⟩], 0, none⟩⟩
    let orchestrator : Orchestrator :=
      ⟨{ FetchConfig.standard with maxMetricsPerRequest := 2 }, storage, .absent⟩
    let frame : TimeFrame := ⟨60, 180, 0⟩
    let asked : Request := ⟨[(frame, target "a"), (frame, target "b")], 1000, by decide⟩
    let large : Request :=
      ⟨[(frame, target "a"), (frame, target "b"), (frame, target "c")], 1000, by decide⟩
    let run := (start orchestrator [(0, asked), (0, large)]).finish
    (∃ request response, run.requests[0]? = some request ∧
      request.results.map (·.position) = [1, 0] ∧ request.response? = some response ∧
      asked.Answered request.results response) ∧
    ∃ request ended, run.requests[1]? = some request ∧ request.phase = .concluded ended ∧
      ended.result = .error (.metricsLimitExceeded 3 2) ∧
      ∀ ticket time query, .called ticket time query ∈ run.floor.events →
        ticket.group.request ≠ 1 := by
  intro rules target storage orchestrator frame asked large run
  have hreachable : Reachable orchestrator [(0, asked), (0, large)] run := reachable_finish _ _
  constructor
  · have hasked : [(0, asked), (0, large)][0]? = some (0, asked) := rfl
    obtain ⟨request, hrequest, -, haccepted⟩ := all_replies_or_error hreachable hasked
    have hends : (run.requests[0]?).map (fun request =>
        (request.results.map (·.position), request.response?.isSome)) = some ([1, 0], true) := by
      decide +kernel
    rw [hrequest, Option.map_some, Option.some.injEq, Prod.mk.injEq] at hends
    obtain ⟨hpositions, hsome⟩ := hends
    obtain ⟨response, hresponse⟩ := Option.isSome_iff_exists.mp hsome
    obtain ⟨hconcluded, -, -⟩ := haccepted (by decide)
    obtain ⟨time, hended⟩ := RequestRun.phase_of_response hresponse
    obtain ⟨-, -, -, hanswered⟩ := hconcluded _ hended
    exact ⟨request, response, hrequest, hpositions, hresponse, hanswered⟩
  · have hasked : [(0, asked), (0, large)][1]? = some (0, large) := rfl
    obtain ⟨request, hrequest, hrefused, -⟩ := all_replies_or_error hreachable hasked
    obtain ⟨hcalls, -, hconcluded, -⟩ := hrefused (by decide)
    have hover : (run.requests[1]?).map (·.isOver) = some true := by decide +kernel
    rw [hrequest, Option.map_some, Option.some.injEq] at hover
    obtain ⟨ended, hended⟩ := RequestRun.phase_of_isOver hover
    exact ⟨request, ended, hrequest, hended, hconcluded ended hended, hcalls⟩

end SeriesGateway.Fetch
