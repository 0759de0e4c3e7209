import SeriesGateway.Proofs.Fetch.Placement
import SeriesGateway.Proofs.Fetch.Responses
import SeriesGateway.Proofs.Fetch.Timers

/-! # Foresight

What a call comes to is settled by how long its parts let wait for themselves and how long
anybody waits for them, and not by when the call is made. So it can be told beforehand, and
as long as every timer is heeded when it runs out no turn changes what is told. Of a group
only the order in which its queries end is left open.
-/

namespace SeriesGateway.Fetch

/-- What a call comes to, or why it takes its group down. -/
abbrev Fate (α : Type) := Except String α

/-! ## Bodies -/

namespace Stream

/-- What a body comes to whose next part arrives at a time: nothing if it goes on for longer
than anybody waits for it. -/
def comesTo (stream : Stream) (expires : Nat) :
    Wire.Reception → (arrives : Nat) → List Delivery → Option (Except FetchError (List Wire.Row))
  | reception, arrives, [] =>
    if expires < arrives then none
    else
      match stream.failure, reception.finish with
      | some error, _ => some (.error (.transport error))
      | none, (_, some error) => some (.error (.decode error))
      | none, (last, none) => some (.ok last.delivered)
  | reception, arrives, delivery :: rest =>
    if expires < arrives then none
    else
      match reception.accept delivery.chunk with
      | (_, some error) => some (.error (.decode error))
      | (reception, none) => stream.comesTo expires reception (arrives + stream.nextDelay rest) rest

variable {stream : Stream} {reception : Wire.Reception} {left : List Delivery}

theorem comesTo_of_lt {expires arrives : Nat} (h : expires < arrives) :
    stream.comesTo expires reception arrives left = none := by
  cases left <;> rw [comesTo, if_pos h]

/-- Only the time from now on matters. -/
theorem comesTo_add (expires arrives later : Nat) :
    stream.comesTo (expires + later) reception (arrives + later) left =
      stream.comesTo expires reception arrives left := by
  induction left generalizing reception arrives with
  | nil => simp only [comesTo, Nat.add_lt_add_iff_right]
  | cons delivery rest ih =>
      simp only [comesTo, Nat.add_lt_add_iff_right, Nat.add_right_comm _ later, ih]

/-- What arrives now brings the body no nearer to an end than was told before. -/
theorem comesTo_advance {clock : Clock} {arrives : Timer} {expires : Nat}
    (harrives : clock.now ≤ arrives.due) (hexpires : clock.now ≤ expires) :
    match stream.advance clock reception arrives left with
    | .ended result => stream.comesTo expires reception arrives.due left = some result
    | .waiting after later due =>
      stream.comesTo expires reception arrives.due left =
        stream.comesTo expires after due.due later := by
  induction left generalizing reception arrives with
  | nil =>
      rw [advance]
      by_cases hreached : clock.reached arrives = true
      · have hdue := Nat.le_antisymm (Clock.due_le_of_reached hreached) harrives
        rw [if_pos hreached, comesTo, hdue, if_neg (Nat.not_lt.mpr hexpires)]
        rcases reception.finish with ⟨last, _ | error⟩
        · cases stream.failure <;> rfl
        · cases stream.failure <;> rfl
      · rw [if_neg hreached]
  | cons delivery rest ih =>
      rw [advance]
      by_cases hreached : clock.reached arrives = true
      · have hdue := Nat.le_antisymm (Clock.due_le_of_reached hreached) harrives
        rw [if_pos hreached, comesTo, hdue, if_neg (Nat.not_lt.mpr hexpires)]
        rcases reception.accept delivery.chunk with ⟨after, _ | error⟩
        · exact ih (Nat.le_add_right _ _)
        · rfl
      · rw [if_neg hreached]

end Stream

/-! ## Queries -/

namespace QueryRun

variable {storage : Storage} {run : QueryRun} {floor : Floor}

/-- What the body of a query comes to within its time. -/
def bodyComesTo (run : QueryRun) (stream : Stream) (reception : Wire.Reception)
    (left : List Delivery) (arrives expires : Nat) : Except FetchError (List Wire.Row) :=
  (stream.comesTo expires reception arrives left).getD (.error run.timeoutError)

/-- What a call comes to that is answered at one time and given up at another. -/
def callComesTo (run : QueryRun) (answer : Answer) (arrives expires : Nat) :
    Fate (Except FetchError (List Wire.Row)) :=
  if expires < arrives then .ok (.error run.timeoutError)
  else
    match answer.outcome with
    | .crashed reason => .error reason
    | .failed error => .ok (.error (.transport error))
    | .body stream =>
      .ok (run.bodyComesTo stream (.start run.query.shape) stream.deliveries
        (arrives + stream.nextDelay stream.deliveries) expires)

/-- What a query comes to, if it gets its slots in time. -/
def prospect (storage : Storage) (run : QueryRun) : Fate (Except FetchError (List Wire.Row)) :=
  match run.phase with
  | .admission =>
    let answer := storage run.ticket run.query
    run.callComesTo answer answer.delay run.timeout.millisCovering
  | .calling answer arrives expires => run.callComesTo answer arrives.due expires.due
  | .reading stream reception left arrives expires =>
    .ok (run.bodyComesTo stream reception left arrives.due expires.due)
  | .ended result => .ok result
  | .crashed reason => .error reason

theorem callComesTo_add (run : QueryRun) (answer : Answer) (arrives expires later : Nat) :
    run.callComesTo answer (arrives + later) (expires + later) =
      run.callComesTo answer arrives expires := by
  simp only [callComesTo, bodyComesTo, Nat.add_lt_add_iff_right, Nat.add_right_comm _ later,
    Stream.comesTo_add]

theorem prospect_awaitBody (run : QueryRun) {stream : Stream} {reception : Wire.Reception}
    {left : List Delivery} {arrives expires : Timer} (harrives : floor.clock.now ≤ arrives.due)
    (hexpires : floor.clock.now ≤ expires.due) :
    (run.awaitBody stream reception left arrives expires floor).1.prospect storage =
      .ok (run.bodyComesTo stream reception left arrives.due expires.due) := by
  have hadvance := @Stream.comesTo_advance stream reception left _ _ _ harrives hexpires
  unfold awaitBody
  split
  next result hended =>
    rw [hended] at hadvance
    simp only [bodyComesTo, hadvance]
    rfl
  next after later due hwaiting =>
    rw [hwaiting] at hadvance
    split
    next hexpired =>
      -- what it still waits for comes after its time
      have hlate : expires.due < due.due :=
        Nat.lt_of_le_of_lt (Clock.due_le_of_reached hexpired) (Stream.lt_due_of_waiting hwaiting)
      simp only [bodyComesTo, hadvance, Stream.comesTo_of_lt hlate]
      rfl
    next =>
      simp only [bodyComesTo, hadvance]
      rfl

theorem prospect_awaitAnswer (run : QueryRun) {answer : Answer} {arrives expires : Timer}
    (harrives : floor.clock.now ≤ arrives.due) (hexpires : floor.clock.now ≤ expires.due) :
    (run.awaitAnswer answer arrives expires floor).1.prospect storage =
      run.callComesTo answer arrives.due expires.due := by
  unfold awaitAnswer
  split
  next hreached =>
    have hdue := Nat.le_antisymm (Clock.due_le_of_reached hreached) harrives
    dsimp only
    rw [callComesTo, hdue, if_neg (Nat.not_lt.mpr hexpires)]
    cases answer.outcome with
    | crashed => rfl
    | failed error => rfl
    | body stream =>
      exact @prospect_awaitBody _ (floor.record (.returned run.ticket)) run _ _ _ _ _
        (Nat.le_add_right _ _) hexpires
  next hunreached =>
    have hlt := Clock.lt_due_of_not_reached hunreached
    split
    next hexpired =>
      have hlate := Nat.lt_of_le_of_lt (Clock.due_le_of_reached hexpired) hlt
      rw [callComesTo, if_pos hlate]
      rfl
    next => rfl

theorem prospect_call (storage : Storage) (run : QueryRun) (floor : Floor) :
    (run.call storage floor).1.prospect storage =
      run.callComesTo (storage run.ticket run.query) (storage run.ticket run.query).delay
        run.timeout.millisCovering := by
  rw [← callComesTo_add _ _ _ _ floor.clock.now, Nat.add_comm _ floor.clock.now,
    Nat.add_comm _ floor.clock.now]
  exact prospect_awaitAnswer run (Nat.le_add_right _ _) (Nat.le_add_right _ _)

/-- A turn in time does not change what a query comes to. -/
theorem prospect_act (htimers : ∀ timer ∈ run.timers, floor.clock.now ≤ timer.due)
    (hearly : floor.clock.now < run.deadline) :
    (run.act storage floor).1.prospect storage = run.prospect storage := by
  by_cases hwaiting : run.isWaiting = true
  · have hphase := phase_of_isWaiting hwaiting
    rw [act_eq_of_isWaiting storage hwaiting]
    dsimp only
    split
    next =>
      rw [prospect_call]
      simp only [prospect, hphase]
    next => rw [if_neg (Nat.not_le.mpr hearly)]
  · unfold act
    split
    next hphase => simp [isWaiting, hphase] at hwaiting
    next hphase =>
      simp only [timers, hphase, List.forall_mem_cons] at htimers
      rw [prospect_awaitAnswer run htimers.1 htimers.2.1]
      simp only [prospect, hphase]
    next hphase =>
      simp only [timers, hphase, List.forall_mem_cons] at htimers
      rw [prospect_awaitBody run htimers.1 htimers.2.1]
      simp only [prospect, hphase]
    next => rfl
    next => rfl

theorem prospect_of_result? {result : Except FetchError (List Wire.Row)}
    (h : run.result? = some result) : run.prospect storage = .ok result := by
  unfold result? at h
  split at h
  next hended => rw [prospect, hended, Option.some.inj h]
  next => cases h

theorem prospect_of_crash? {reason : String} (h : run.crash? = some reason) :
    run.prospect storage = .error reason := by
  unfold crash? at h
  split at h
  next hcrashed => rw [prospect, hcrashed, Option.some.inj h]
  next => cases h

end QueryRun

/-! ## The secondary source -/

/-- The points of an answer that arrives at one time and is given up at another. -/
def RecentAnswer.comesTo (answer : RecentAnswer) (arrives expires : Nat) :
    Fate (List RecentPoint) :=
  if expires < arrives then .ok []
  else
    match answer.points with
    | .ok points => .ok points
    | .error (.failed _) => .ok []
    | .error (.crashed reason) => .error reason

/-- The points that the secondary source has for a question, as far as they come in time. -/
def Secondary.adds (secondary : Secondary) (config : FetchConfig) (group : GroupId)
    (metrics : List String) (start stop : UInt32) : Fate (List RecentPoint) :=
  match secondary with
  | .absent => .ok []
  | .present source =>
    let answer := source group metrics start stop
    answer.comesTo answer.delay config.secondaryTimeout.millisCovering

namespace RecentRun

/-- The points that a question to the secondary source comes to. -/
def prospect (context : RequestContext) (group : GroupId) (metrics : List String)
    (start stop : UInt32) : RecentRun → Fate (List RecentPoint)
  | unasked => context.secondary.adds context.config group metrics start stop
  | asking answer arrives expires => answer.comesTo arrives.due expires.due
  | answered points => .ok points
  | crashed reason => .error reason

variable {context : RequestContext} {group : GroupId} {metrics : List String}
  {start stop : UInt32} {floor : Floor}

theorem prospect_await {answer : RecentAnswer} {clock : Clock} {arrives expires : Timer}
    (harrives : clock.now ≤ arrives.due) (hexpires : clock.now ≤ expires.due) :
    (await answer arrives expires clock).prospect context group metrics start stop =
      answer.comesTo arrives.due expires.due := by
  unfold await
  split
  next hreached =>
    have hdue := Nat.le_antisymm (Clock.due_le_of_reached hreached) harrives
    rw [RecentAnswer.comesTo, hdue, if_neg (Nat.not_lt.mpr hexpires)]
    cases answer.points with
    | ok points => rfl
    | error failure => cases failure <;> rfl
  next hunreached =>
    have hlt := Clock.lt_due_of_not_reached hunreached
    split
    next hexpired =>
      have hlate := Nat.lt_of_le_of_lt (Clock.due_le_of_reached hexpired) hlt
      rw [RecentAnswer.comesTo, if_pos hlate]
      rfl
    next => rfl

/-- A turn in time does not change what the secondary source adds. -/
theorem prospect_act {run : RecentRun} (htimers : ∀ timer ∈ run.timers,
      floor.clock.now ≤ timer.due) :
    (run.act context group metrics start stop floor).1.prospect context group metrics start stop =
      run.prospect context group metrics start stop := by
  cases run with
  | unasked =>
      unfold act
      dsimp only
      split
      next hsecondary => rw [prospect, prospect, hsecondary]; rfl
      next source hsecondary =>
        rw [prospect_await (Nat.le_add_right _ _) (Nat.le_add_right _ _), prospect, hsecondary]
        simp only [Secondary.adds, RecentAnswer.comesTo, Clock.timer, Nat.add_lt_add_iff_left]
  | asking answer arrives expires =>
      simp only [timers, List.forall_mem_cons] at htimers
      exact prospect_await htimers.1 htimers.2.1
  | answered points => rfl
  | crashed reason => rfl

theorem prospect_of_points? {run : RecentRun} {points : List RecentPoint}
    (h : run.points? = some points) :
    run.prospect context group metrics start stop = .ok points := by
  unfold points? at h
  split at h
  next => exact congrArg Except.ok (Option.some.inj h)
  next => cases h

theorem prospect_of_crash? {run : RecentRun} {reason : String} (h : run.crash? = some reason) :
    run.prospect context group metrics start stop = .error reason := by
  unfold crash? at h
  split at h
  next => exact congrArg Except.error (Option.some.inj h)
  next => cases h

end RecentRun

end SeriesGateway.Fetch
