import SeriesGateway.Fetch.Floor

/-! # The life of a query

A query waits for its slots, is sent, and its body is decoded as it arrives. It
ends with all rows of the body or with an error, and gives its slots back as it
ends. What has arrived by the time a limit is reached counts before the limit.
-/

namespace SeriesGateway.Fetch

inductive QueryPhase where
  | admission
  | calling (answer : Answer) (arrives expires : Timer)
  | reading (stream : Stream) (reception : Wire.Reception) (left : List Delivery)
      (arrives expires : Timer)
  | ended (result : Except FetchError (List Wire.Row))
  /-- The call took the whole target group down. -/
  | crashed (reason : String)

structure QueryRun where
  ticket : Ticket
  query : Plan.StorageQuery
  /-- The pools to take a slot of. -/
  pools : List PoolId
  /-- Time for the round trip, once it begins. -/
  timeout : Duration
  /-- When the request began. -/
  started : Nat
  /-- When waiting for slots ends. -/
  deadline : Nat
  phase : QueryPhase

/-- How far a body has come. -/
inductive Progress where
  | waiting (reception : Wire.Reception) (left : List Delivery) (arrives : Timer)
  | ended (result : Except FetchError (List Wire.Row))

namespace Stream

/-- How long the next part of a body lets wait for itself. -/
def nextDelay (stream : Stream) : List Delivery → Nat
  | [] => stream.endDelay
  | delivery :: _ => delivery.delay

/-- Decodes what has arrived of a body. -/
def advance (stream : Stream) (clock : Clock) :
    Wire.Reception → Timer → List Delivery → Progress
  | reception, arrives, [] =>
    if clock.reached arrives then
      match stream.failure with
      | some error => .ended (.error (.transport error))
      | none =>
        match reception.finish with
        | (_, some error) => .ended (.error (.decode error))
        | (reception, none) => .ended (.ok reception.delivered)
    else .waiting reception [] arrives
  | reception, arrives, delivery :: rest =>
    if clock.reached arrives then
      match reception.accept delivery.chunk with
      | (_, some error) => .ended (.error (.decode error))
      | (reception, none) =>
        stream.advance clock reception (clock.timer (stream.nextDelay rest)) rest
    else .waiting reception (delivery :: rest) arrives

end Stream

namespace QueryRun

/-- Ends the query in a phase and gives its slots back. -/
def close (run : QueryRun) (phase : QueryPhase) (floor : Floor) : QueryRun × Floor :=
  ({ run with phase }, floor.leave run.ticket run.pools)

def fail (run : QueryRun) (error : FetchError) (floor : Floor) : QueryRun × Floor :=
  run.close (.ended (.error error)) floor

/-- The error of a round trip that took too long. -/
def timeoutError (run : QueryRun) : FetchError := .queryTimeout run.query.table run.timeout

/-- Goes on with the body. -/
def awaitBody (run : QueryRun) (stream : Stream) (reception : Wire.Reception)
    (left : List Delivery) (arrives expires : Timer) (floor : Floor) : QueryRun × Floor :=
  match stream.advance floor.clock reception arrives left with
  | .ended result => run.close (.ended result) floor
  | .waiting reception left arrives =>
    if floor.clock.reached expires then run.fail run.timeoutError floor
    else ({ run with phase := .reading stream reception left arrives expires }, floor)

/-- Goes on with the call. -/
def awaitAnswer (run : QueryRun) (answer : Answer) (arrives expires : Timer) (floor : Floor) :
    QueryRun × Floor :=
  if floor.clock.reached arrives then
    let floor := floor.record (.returned run.ticket)
    match answer.outcome with
    | .crashed reason => run.close (.crashed reason) floor
    | .failed error => run.fail (.transport error) floor
    | .body stream =>
      run.awaitBody stream (.start run.query.shape) stream.deliveries
        (floor.clock.timer (stream.nextDelay stream.deliveries)) expires floor
  else if floor.clock.reached expires then
    run.fail run.timeoutError (floor.record (.returned run.ticket))
  else ({ run with phase := .calling answer arrives expires }, floor)

/-- Sends the query. -/
def call (storage : Storage) (run : QueryRun) (floor : Floor) : QueryRun × Floor :=
  let answer := storage run.ticket run.query
  run.awaitAnswer answer (floor.clock.timer answer.delay)
    (floor.clock.timer run.timeout.millisCovering)
    (floor.record (.called run.ticket floor.clock.now run.query))

/-- Does what can be done now. -/
def act (storage : Storage) (run : QueryRun) (floor : Floor) : QueryRun × Floor :=
  match run.phase with
  | .admission =>
    match floor.enter run.ticket run.pools with
    | (true, floor) => run.call storage floor
    | (false, floor) =>
      if run.deadline ≤ floor.clock.now then
        run.fail (.admissionTimeout (.ofMillis (floor.clock.now - run.started))) floor
      else (run, floor)
  | .calling answer arrives expires => run.awaitAnswer answer arrives expires floor
  | .reading stream reception left arrives expires =>
    run.awaitBody stream reception left arrives expires floor
  | .ended _ => (run, floor)
  | .crashed _ => (run, floor)

/-- The result, once there is one. -/
def result? (run : QueryRun) : Option (Except FetchError (List Wire.Row)) :=
  match run.phase with
  | .ended result => some result
  | _ => none

/-- Whether the query has no part in the run any more. -/
def isOver (run : QueryRun) : Bool :=
  match run.phase with
  | .ended _ => true
  | .crashed _ => true
  | _ => false

/-- Why the query has crashed, if it has. -/
def crash? (run : QueryRun) : Option String :=
  match run.phase with
  | .crashed reason => some reason
  | _ => none

/-- Gives up a query that is not over. -/
def cancel (floor : Floor) (run : QueryRun) : Floor :=
  match run.phase with
  | .admission => floor.leave run.ticket run.pools
  | .calling .. => (floor.record (.returned run.ticket)).leave run.ticket run.pools
  | .reading .. => floor.leave run.ticket run.pools
  | .ended _ => floor
  | .crashed _ => floor

/-- The timers that are set. -/
def timers (run : QueryRun) : List Timer :=
  match run.phase with
  | .calling _ arrives expires => [arrives, expires]
  | .reading _ _ _ arrives expires => [arrives, expires]
  | _ => []

end QueryRun

end SeriesGateway.Fetch
