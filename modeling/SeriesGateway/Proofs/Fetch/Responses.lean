import SeriesGateway.Proofs.Fetch.Rows
import SeriesGateway.Proofs.Fetch.Turns
import SeriesGateway.Proofs.Wire.Grammar

/-! # Whole responses

However a body comes in, it comes to the rows that it holds or to an error, as if it
had been there from the start. So a query that ends well has received all rows of the
response that storage has for it, and it adds them to the store in the turn in which
it ends; in all other turns it leaves the store alone.
-/

namespace SeriesGateway.Fetch

/-! ## Bodies in time -/

namespace Stream

variable {stream : Stream} {shape : Wire.RowShape} {reception : Wire.Reception}
  {left : List Delivery}

/-- What a body comes to when its times are left out: all of its rows, or an error. -/
def response (stream : Stream) (shape : Wire.RowShape) : Except FetchError (List Wire.Row) :=
  let (rows, result) := Wire.Body.decode shape stream.body
  result.map fun _ => rows

/-- All chunks of a body in front of those that are left have been decoded. -/
def Decoded (stream : Stream) (shape : Wire.RowShape) (reception : Wire.Reception)
    (left : List Delivery) : Prop :=
  ∃ taken, stream.deliveries = taken ++ left ∧
    (Wire.Reception.start shape).acceptAll (taken.map (·.chunk)) = (reception, none)

theorem decoded_start (stream : Stream) (shape : Wire.RowShape) :
    stream.Decoded shape (.start shape) stream.deliveries :=
  ⟨[], rfl, rfl⟩

/-- All chunks have been decoded, so only the end of the body is left. -/
theorem Decoded.response_eq (h : stream.Decoded shape reception []) :
    stream.response shape =
      match stream.failure, reception.finish with
      | some error, _ => .error (.transport error)
      | none, (_, some error) => .error (.decode error)
      | none, (last, none) => .ok last.delivered := by
  obtain ⟨taken, htaken, haccepted⟩ := h
  rw [List.append_nil] at htaken
  simp only [response, Wire.Body.decode, body, htaken, haccepted]
  rcases reception.finish with ⟨last, _ | error⟩
  · cases stream.failure <;> rfl
  · cases stream.failure <;> rfl

/-- The next chunk is decoded, or the response is its error. -/
theorem Decoded.accept {delivery : Delivery} {rest : List Delivery}
    (h : stream.Decoded shape reception (delivery :: rest)) :
    match reception.accept delivery.chunk with
    | (_, some error) => stream.response shape = .error (.decode error)
    | (after, none) => stream.Decoded shape after rest := by
  obtain ⟨taken, htaken, haccepted⟩ := h
  split
  next after error haccept =>
    have hall : (Wire.Reception.start shape).acceptAll (stream.deliveries.map (·.chunk)) =
        (after, some error) := by
      rw [htaken, List.map_append, Wire.Reception.acceptAll_append haccepted, List.map_cons,
        Wire.Reception.acceptAll, haccept]
    simp only [response, Wire.Body.decode, body, hall]
    rfl
  next after haccept =>
    refine ⟨taken ++ [delivery], ?_, ?_⟩
    · rw [htaken, List.append_assoc, List.singleton_append]
    · rw [List.map_append, Wire.Reception.acceptAll_append haccepted, List.map_singleton,
        Wire.Reception.acceptAll, haccept]
      rfl

/-- However a body comes in, it comes to its response. -/
theorem Decoded.advance (h : stream.Decoded shape reception left) (clock : Clock)
    (arrives : Timer) :
    match stream.advance clock reception arrives left with
    | .waiting after later _ => stream.Decoded shape after later
    | .ended result => result = stream.response shape := by
  induction left generalizing reception arrives with
  | nil =>
      rw [h.response_eq, Stream.advance]
      by_cases harrived : clock.reached arrives = true
      · rw [if_pos harrived]
        rcases reception.finish with ⟨last, _ | error⟩
        · cases stream.failure <;> rfl
        · cases stream.failure <;> rfl
      · rw [if_neg harrived]
        exact h
  | cons delivery rest ih =>
      have haccept := h.accept
      rw [Stream.advance]
      by_cases harrived : clock.reached arrives = true
      · rw [if_pos harrived]
        rcases haccepted : reception.accept delivery.chunk with ⟨after, _ | error⟩
        · rw [haccepted] at haccept
          exact ih haccept _
        · rw [haccepted] at haccept
          exact haccept.symm
      · rw [if_neg harrived]
        exact h

end Stream

/-! ## Turns of a query -/

namespace QueryRun

variable {storage : Storage} {run : QueryRun}

/-- Storage answers the query with a body that holds these rows, and all of it can be
decoded. -/
def Receives (storage : Storage) (run : QueryRun) (rows : List Wire.Row) : Prop :=
  ∃ stream, (storage run.ticket run.query).outcome = .body stream ∧
    stream.response run.query.shape = .ok rows

/-- The rows of a query that has ended well. -/
def rows? (run : QueryRun) : Option (List Wire.Row) :=
  match run.result? with
  | some (.ok rows) => some rows
  | _ => none

/-- A query is where the answer that storage has for it leads. -/
def Faithful (storage : Storage) (run : QueryRun) : Prop :=
  match run.phase with
  | .calling answer _ _ => answer = storage run.ticket run.query
  | .reading stream reception left _ _ =>
    (storage run.ticket run.query).outcome = .body stream ∧
      stream.Decoded run.query.shape reception left
  | .ended (.ok rows) => run.Receives storage rows
  | _ => True

theorem faithful_fail (run : QueryRun) (error : FetchError) (floor : Floor) :
    (run.fail error floor).1.Faithful storage := trivial

theorem faithful_awaitBody {stream : Stream} {reception : Wire.Reception} {left : List Delivery}
    (hbody : (storage run.ticket run.query).outcome = .body stream)
    (hdecoded : stream.Decoded run.query.shape reception left) (arrives expires : Timer)
    (floor : Floor) :
    (run.awaitBody stream reception left arrives expires floor).1.Faithful storage := by
  have hadvance := hdecoded.advance floor.clock arrives
  unfold awaitBody
  split
  next result hended =>
    rw [hended] at hadvance
    cases result with
    | ok rows => exact ⟨stream, hbody, hadvance.symm⟩
    | error error => trivial
  next after later arrives hwaiting =>
    rw [hwaiting] at hadvance
    split
    · exact run.faithful_fail _ floor
    · exact ⟨hbody, hadvance⟩

theorem faithful_awaitAnswer {answer : Answer} (hanswer : answer = storage run.ticket run.query)
    (arrives expires : Timer) (floor : Floor) :
    (run.awaitAnswer answer arrives expires floor).1.Faithful storage := by
  unfold awaitAnswer
  split
  · dsimp only
    split
    next => trivial
    next => exact run.faithful_fail _ _
    next stream hbody =>
      rw [hanswer] at hbody
      exact faithful_awaitBody hbody (stream.decoded_start _) _ _ _
  · split
    · exact run.faithful_fail _ _
    · exact hanswer

theorem Faithful.act (h : run.Faithful storage) (floor : Floor) :
    (run.act storage floor).1.Faithful storage := by
  unfold QueryRun.act
  split
  next =>
    split
    next => exact faithful_awaitAnswer rfl _ _ _
    next =>
      split
      · exact run.faithful_fail _ _
      · exact h
  next hcalling =>
    rw [Faithful, hcalling] at h
    exact faithful_awaitAnswer h _ _ _
  next hreading =>
    rw [Faithful, hreading] at h
    exact faithful_awaitBody h.1 h.2 _ _ _
  next => exact h
  next => exact h

theorem rows?_of_result? {result : Except FetchError (List Wire.Row)}
    (hresult : run.result? = some result) : run.rows? = result.toOption := by
  rw [rows?, hresult]
  cases result <;> rfl

theorem rows?_of_none (hnone : run.result? = none) : run.rows? = none := by
  rw [rows?, hnone]

theorem isOver_of_result? {result : Except FetchError (List Wire.Row)}
    (hresult : run.result? = some result) : run.isOver = true := by
  unfold result? at hresult
  split at hresult
  next hended => rw [isOver, hended]
  next => cases hresult

theorem Faithful.receives (h : run.Faithful storage) {rows : List Wire.Row}
    (hresult : run.result? = some (.ok rows)) : run.Receives storage rows := by
  unfold result? at hresult
  split at hresult
  next hended =>
    cases hresult
    rw [Faithful, hended] at h
    exact h
  next => cases hresult

/-- Rows that are received have as many values as times. -/
theorem Receives.length_values {rows : List Wire.Row} (h : run.Receives storage rows) :
    ∀ row ∈ rows, row.values.length = row.times.length := by
  obtain ⟨stream, -, hresponse⟩ := h
  rw [Stream.response] at hresponse
  rcases hdecode : Wire.Body.decode run.query.shape stream.body with ⟨found, error | stats⟩
  · rw [hdecode] at hresponse
    cases hresponse
  · rw [hdecode] at hresponse
    cases hresponse
    obtain ⟨all, rfl⟩ := Wire.Body.exists_written_of_ok hdecode
    intro row hrow
    obtain ⟨written, -, rfl⟩ := List.mem_map.mp hrow
    exact written.length_values

end QueryRun

namespace Fetching

/-- A query adds its rows in the turn in which it ends well, and does nothing to the
store in any other turn. -/
theorem collect_act (storage : Storage) (reversed : Bool) (run : QueryRun) (floor : Floor) :
    (run.act storage floor).1.rows? = run.rows? ∧
        (∀ store, collect reversed store run (run.act storage floor).1 = store) ∨
      run.result? = none ∧ ∃ rows, (run.act storage floor).1.result? = some (.ok rows) ∧
        ∀ store, collect reversed store run (run.act storage floor).1 =
          addRows reversed store rows := by
  cases hbefore : run.result? with
  | some result =>
      have hsame := QueryRun.act_of_isOver storage (QueryRun.isOver_of_result? hbefore) floor
      rw [hsame]
      exact .inl ⟨rfl, fun store => by simp only [collect, hbefore]⟩
  | none =>
      rw [QueryRun.rows?_of_none hbefore]
      cases hafter : (run.act storage floor).1.result? with
      | none =>
          exact .inl ⟨QueryRun.rows?_of_none hafter, fun store => by
            simp only [collect, hbefore, hafter]⟩
      | some result =>
          cases result with
          | error error =>
              exact .inl ⟨QueryRun.rows?_of_result? hafter, fun store => by
                simp only [collect, hbefore, hafter]⟩
          | ok rows =>
              exact .inr ⟨rfl, rows, rfl, fun store => by
                simp only [collect, hbefore, hafter]⟩

theorem collect_of_isOver (storage : Storage) (reversed : Bool) {run : QueryRun}
    (hover : run.isOver = true) (floor : Floor) (store : PointStore) :
    collect reversed store run (run.act storage floor).1 = store := by
  rcases collect_act storage reversed run floor with hsilent | ⟨hnone, rows, hrows, -⟩
  · exact hsilent.2 store
  · rw [QueryRun.act_of_isOver storage hover, hnone] at hrows
    cases hrows

end Fetching

end SeriesGateway.Fetch
