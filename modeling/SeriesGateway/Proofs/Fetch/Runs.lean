import SeriesGateway.Fetch.Run
import SeriesGateway.Proofs.Fetch.Schedule

/-! # Runs are schedules

A run decides who acts and when the clock moves, and all of its requests share the
time and the slots. For each of them this is one of the schedules that a request
can be played by, so what holds of a request under any schedule holds of every
request of a run.
-/

namespace SeriesGateway.Fetch.Run

/-- Each request of the run is as some schedule leaves it. -/
structure Played (orchestrator : Orchestrator) (requests : List (Nat × Request)) (run : Run) :
    Prop where
  orchestrator_eq : run.orchestrator = orchestrator
  requests : ∀ (number : Nat) (request : RequestRun), run.requests[number]? = some request →
    ∃ start asked moves, requests[number]? = some (start, asked) ∧
      request = (RequestRun.new number start asked).play orchestrator moves

variable {orchestrator : Orchestrator} {requests : List (Nat × Request)} {run : Run}

theorem played_start (orchestrator : Orchestrator) (requests : List (Nat × Request)) :
    Played orchestrator requests (start orchestrator requests) where
  orchestrator_eq := rfl
  requests number request hrequest := by
    simp only [start, List.getElem?_map, List.getElem?_zipIdx, Option.map_map,
      Option.map_eq_some_iff] at hrequest
    obtain ⟨⟨begins, asked⟩, hasked, rfl⟩ := hrequest
    exact ⟨begins, asked, [], hasked, by simp [RequestRun.play]⟩

namespace Played

/-- A request of the run is as some schedule of its own leaves it. -/
theorem exists_moves (h : Played orchestrator requests run) {number begins : Nat}
    {asked : Request} (hasked : requests[number]? = some (begins, asked)) {request : RequestRun}
    (hrequest : run.requests[number]? = some request) :
    ∃ moves, request = (RequestRun.new number begins asked).play orchestrator moves := by
  obtain ⟨_, _, moves, hsame, hplayed⟩ := h.requests number request hrequest
  rw [hasked] at hsame
  obtain ⟨rfl, rfl⟩ := Prod.mk.inj (Option.some.inj hsame)
  exact ⟨moves, hplayed⟩

/-- A turn of one request is a move of it, and none of the others. -/
theorem set (h : Played orchestrator requests run) {number : Nat} {request : RequestRun}
    (hrequest : run.requests[number]? = some request) (next : RequestRun.Move) (floor : Floor)
    (queue : List Agent) :
    Played orchestrator requests ⟨run.orchestrator,
      run.requests.set number (request.move orchestrator next), floor, queue, run.release⟩ where
  orchestrator_eq := h.orchestrator_eq
  requests other after hafter := by
    rcases eq_or_getElem?_of_set hafter with ⟨rfl, rfl⟩ | ⟨-, hold⟩
    · obtain ⟨begins, asked, moves, hasked, rfl⟩ := h.requests number request hrequest
      refine ⟨begins, asked, moves ++ [next], hasked, ?_⟩
      rw [RequestRun.play, RequestRun.play, List.foldl_append]
      rfl
    · exact h.requests other after hold

/-- A request of the run has its turn, or there is no such request and nothing happens. -/
theorem actRequest_cases (h : Played orchestrator requests run) (number : Nat) :
    run.requests[number]? = none ∧ run.actRequest number = run ∨
      ∃ request, run.requests[number]? = some request ∧
        run.actRequest number =
          let acted := request.act orchestrator run.floor.clock
          { run with
            requests := run.requests.set number acted.1
            floor := nextTurn run.floor
            queue := (run.queue ++ acted.2.map Agent.group).eraseDups } := by
  cases hrequest : run.requests[number]? with
  | none => exact .inl ⟨rfl, by simp only [Run.actRequest, hrequest]⟩
  | some request =>
      refine .inr ⟨request, rfl, ?_⟩
      simp only [Run.actRequest, hrequest, lineUp, h.orchestrator_eq]

theorem actRequest (h : Played orchestrator requests run) (number : Nat) :
    Played orchestrator requests (run.actRequest number) := by
  rcases h.actRequest_cases number with ⟨-, hsame⟩ | ⟨request, hrequest, hafter⟩
  · rwa [hsame]
  · rw [hafter]
    exact h.set hrequest (.request run.floor.clock) _ _

theorem actGroup (h : Played orchestrator requests run) (id : GroupId) :
    Played orchestrator requests (run.actGroup id) := by
  unfold Run.actGroup
  split
  next => exact h
  next request hrequest =>
    split
    next => exact h
    next group hgroup =>
      split
      next => exact h
      next hopen =>
        have hmove : (request.actGroup run.orchestrator group run.floor).1 =
            request.move orchestrator (.group id.position run.floor) := by
          simp only [RequestRun.move, hgroup, if_neg hopen, h.orchestrator_eq]
        simp only [hmove, lineUp]
        exact h.set hrequest _ _ _

end Played

end SeriesGateway.Fetch.Run
