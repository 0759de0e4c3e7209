import SeriesGateway.Proofs.Fetch.Courses

/-! # Timers

Whoever has a turn heeds all of its timers that have run out. So the timers that are set
after the turn are still to run out, also those that were set in it without any delay.
-/

namespace SeriesGateway.Fetch

namespace Timer

variable {α : Type} {entry : Timer × α} {entries : List (Timer × α)}

theorem perm_insert (entry : Timer × α) (entries : List (Timer × α)) :
    (insert entry entries).Perm (entry :: entries) := by
  induction entries with
  | nil => exact .refl _
  | cons other rest ih =>
      rw [insert]
      split
      next => exact .refl _
      next => exact (ih.cons other).trans (.swap entry other rest)

theorem perm_inOrder (entries : List (Timer × α)) : (inOrder entries).Perm entries := by
  induction entries with
  | nil => exact .refl _
  | cons entry rest ih => exact (perm_insert entry (inOrder rest)).trans (ih.cons entry)

theorem mem_inOrder : entry ∈ inOrder entries ↔ entry ∈ entries := (perm_inOrder entries).mem_iff

end Timer

/-- All of these timers are still to run out. -/
def Clock.Before (clock : Clock) (timers : List Timer) : Prop :=
  ∀ timer ∈ timers, clock.now < timer.due

theorem Clock.lt_due_of_not_reached {clock : Clock} {timer : Timer}
    (h : ¬ clock.reached timer = true) : clock.now < timer.due := by
  simpa [Clock.reached] using h

theorem Clock.due_le_of_reached {clock : Clock} {timer : Timer}
    (h : clock.reached timer = true) : timer.due ≤ clock.now := by
  simpa [Clock.reached] using h

namespace RequestContext

variable {context : RequestContext} {origin : Nat}

/-- A deadline that can be told is one that the clock comes to. -/
theorem OnClock.deadline_le (h : context.OnClock origin) :
    origin + context.deadline ≤ clockSeconds * 1000 := by
  unfold OnClock Duration.nanosPerSecond at h
  unfold deadline Duration.millisCovering
  omega

/-- No clock tells a deadline that is further ahead than it counts. -/
theorem not_onClock
    (h : clockSeconds * Duration.nanosPerSecond ≤ context.config.requestTimeout.nanos) :
    ¬ context.OnClock origin :=
  Nat.not_lt.mpr (h.trans (Nat.le_add_left _ _))

/-- With a timeout of at most half of what a clock counts, all deadlines can be told in the first
half of it. -/
theorem onClock_of_le
    (htimeout :
      context.config.requestTimeout.nanos ≤ clockSeconds / 2 * Duration.nanosPerSecond)
    (hearly : origin + context.started < clockSeconds / 2 * 1000) : context.OnClock origin := by
  unfold Duration.nanosPerSecond at htimeout
  unfold OnClock Duration.nanosPerSecond
  omega

end RequestContext

theorem Stream.lt_due_of_waiting {stream : Stream} {clock : Clock} {left later : List Delivery}
    {reception next : Wire.Reception} {arrives due : Timer}
    (h : stream.advance clock reception arrives left = .waiting next later due) :
    clock.now < due.due := by
  induction left generalizing reception arrives with
  | nil =>
      unfold advance at h
      split at h
      next =>
        split at h
        · cases h
        · split at h <;> cases h
      next hunreached =>
        cases h
        exact Clock.lt_due_of_not_reached hunreached
  | cons delivery rest ih =>
      unfold advance at h
      split at h
      next =>
        split at h
        · cases h
        · exact ih h
      next hunreached =>
        cases h
        exact Clock.lt_due_of_not_reached hunreached

namespace QueryRun

theorem before_awaitBody (run : QueryRun) (stream : Stream) (reception : Wire.Reception)
    (left : List Delivery) (arrives expires : Timer) (floor : Floor) :
    floor.clock.Before (run.awaitBody stream reception left arrives expires floor).1.timers := by
  unfold awaitBody
  split
  next => simp [Clock.Before, close, timers]
  next hwaiting =>
    split
    next => simp [Clock.Before, fail, close, timers]
    next hunreached =>
      simpa [Clock.Before, timers] using
        ⟨Stream.lt_due_of_waiting hwaiting, Clock.lt_due_of_not_reached hunreached⟩

theorem before_awaitAnswer (run : QueryRun) (answer : Answer) (arrives expires : Timer)
    (floor : Floor) :
    floor.clock.Before (run.awaitAnswer answer arrives expires floor).1.timers := by
  unfold awaitAnswer
  split
  next =>
    dsimp only
    split
    next => simp [Clock.Before, close, timers]
    next => simp [Clock.Before, fail, close, timers]
    next => exact before_awaitBody run _ _ _ _ _ (floor.record (.returned run.ticket))
  next hunanswered =>
    split
    next => simp [Clock.Before, fail, close, timers]
    next hunreached =>
      simpa [Clock.Before, timers] using
        ⟨Clock.lt_due_of_not_reached hunanswered, Clock.lt_due_of_not_reached hunreached⟩

theorem before_act (storage : Storage) (run : QueryRun) (floor : Floor) :
    floor.clock.Before (run.act storage floor).1.timers := by
  by_cases hwaiting : run.isWaiting = true
  · rw [act_eq_of_isWaiting storage hwaiting]
    dsimp only
    split
    next => exact before_awaitAnswer run _ _ _ _
    next =>
      split
      · simp [Clock.Before, fail, close, timers]
      · simp [Clock.Before, timers, phase_of_isWaiting hwaiting]
  · unfold act
    split
    next hphase => simp [isWaiting, hphase] at hwaiting
    next => exact before_awaitAnswer run _ _ _ floor
    next => exact before_awaitBody run _ _ _ _ _ floor
    next hphase => simp [Clock.Before, timers, hphase]
    next hphase => simp [Clock.Before, timers, hphase]

end QueryRun

namespace Fetching

/-- Where no query takes its group down all have their turn, and what a turn makes true of
a query is true of all of them. -/
theorem forall_actAll {storage : Storage} {reversed : Bool} {motive : QueryRun → Prop}
    {clock : Clock} {queries : List QueryRun}
    (hact : ∀ run ∈ queries, ∀ floor : Floor, floor.clock = clock →
      motive (run.act storage floor).1) (store : PointStore) {floor : Floor}
    (hclock : floor.clock = clock)
    (hsound : ∀ query ∈ (actAll storage reversed store floor queries).1,
      query.crash? = none) :
    ∀ query ∈ (actAll storage reversed store floor queries).1, motive query := by
  induction queries generalizing store floor with
  | nil => simp [actAll]
  | cons run rest ih =>
      obtain ⟨hfirst, hrest⟩ := List.forall_mem_cons.mp hact
      have hlater := (run.act_spec storage floor).2.2.trans hclock
      rw [actAll] at hsound ⊢
      dsimp only at hsound ⊢
      split
      next hcrashed =>
        rw [if_pos hcrashed] at hsound
        rw [hsound _ List.mem_cons_self] at hcrashed
        cases hcrashed
      next hrunning =>
        rw [if_neg hrunning] at hsound
        obtain ⟨-, hothers⟩ := List.forall_mem_cons.mp hsound
        exact List.forall_mem_cons.mpr ⟨hfirst floor hclock, ih hrest _ hlater hothers⟩

end Fetching

theorem RecentRun.before_act (context : RequestContext) (group : GroupId) (metrics : List String)
    (start stop : UInt32) (floor : Floor) (run : RecentRun) :
    floor.clock.Before (run.act context group metrics start stop floor).1.timers := by
  have hawait : ∀ answer arrives expires,
      floor.clock.Before (await answer arrives expires floor.clock).timers := by
    intro answer arrives expires
    unfold await
    split
    next => split <;> simp [Clock.Before, timers]
    next hunanswered =>
      split
      next => simp [Clock.Before, timers]
      next hunreached =>
        simpa [Clock.Before, timers] using
          ⟨Clock.lt_due_of_not_reached hunanswered, Clock.lt_due_of_not_reached hunreached⟩
  unfold act
  split
  next =>
    split
    · simp [Clock.Before, timers]
    · exact hawait _ _ _
  next => exact hawait _ _ _
  next => simp [Clock.Before, timers]
  next => simp [Clock.Before, timers]

/-! ## Timers of a group -/

/-- The timers of a phase, but for the deadline. -/
def GroupPhase.timers : GroupPhase → List Timer
  | waiting _ expires => [expires]
  | fetching work => work.timers
  | _ => []

namespace GroupRun

variable {context : RequestContext} {run : GroupRun} {barrier : Step.Barrier} {floor next : Floor}
  {turn : Turn}

theorem lt_due_of_answered? {grouping : Plan.Grouping} {expires : Timer} {clock : Clock}
    (h : run.answered? context grouping expires barrier clock = none) :
    clock.now < expires.due := by
  unfold answered? at h
  dsimp only at h
  split at h
  next => cases h
  next =>
    split at h
    next => cases h
    next hunreached => exact Clock.lt_due_of_not_reached hunreached

theorem Fetched.before_timers {work : Fetching}
    (h : run.Fetched context work floor turn next) : floor.clock.Before turn.phase.timers := by
  cases h with
  | goesOn hsound =>
      have hqueries := Fetching.forall_actAll
        (motive := fun query => floor.clock.Before query.timers)
        (fun query _ other hclock => hclock ▸ query.before_act context.storage other)
        work.store rfl hsound
      have hrecent : floor.clock.Before (run.asked context work floor).1.timers := by
        rw [← Fetching.clock_actAll context.storage run.group.isReversed work.store floor
          work.queries]
        exact RecentRun.before_act context _ _ _ _ _ work.recent
      intro timer htimer
      rcases List.mem_append.mp htimer with hquery | hsecondary
      · obtain ⟨query, hquery, htimer⟩ := List.mem_flatMap.mp hquery
        exact hqueries query hquery timer htimer
      · exact hrecent timer hsecondary
  | _ => simp [Clock.Before, Turn.phase, GroupPhase.timers]

theorem Advanced.before_timers (h : run.Advanced context barrier floor turn next) :
    floor.clock.Before turn.phase.timers := by
  cases h with
  | @waits expires hbefore hwaits hplanned =>
      have hexpires : floor.clock.now < expires.due := by
        rcases hwaits with ⟨hready, rfl⟩ | ⟨grouping, hwaiting⟩
        · cases hmode : context.mode with
          | unaggregated => simp only [planned?, hready, hmode] at hplanned; cases hplanned
          | aggregated =>
              simp only [planned?, hready, hmode] at hplanned
              split at hplanned
              next => cases hplanned
              next =>
                split at hplanned
                next => cases hplanned
                next => exact lt_due_of_answered? hplanned
        · simp only [planned?, hwaiting] at hplanned
          exact lt_due_of_answered? hplanned
      simpa [Clock.Before, Turn.phase, GroupPhase.timers] using hexpires
  | unplanned => simp [Clock.Before, Turn.phase, GroupPhase.timers]
  | fetches hbefore hplanned =>
      unfold fetch
      dsimp only
      split
      next => simp [Clock.Before, Turn.phase, GroupPhase.timers]
      next => exact (fetched_fetchOn context run _ floor).before_timers
  | goesOn hfetching => exact (fetched_fetchOn context run _ floor).before_timers

theorem mem_timers {timer : Timer} (h : timer ∈ run.timers) :
    timer ∈ run.phase.timers ∨ timer ∈ run.deadline := by
  unfold timers at h
  split at h
  next => cases h
  next hwaiting => simpa [hwaiting, GroupPhase.timers] using h
  next hfetching => simpa [hfetching, GroupPhase.timers] using h
  next => cases h

theorem mem_timers_of_phase {timer : Timer} (h : timer ∈ run.phase.timers) :
    timer ∈ run.timers := by
  unfold timers
  cases hphase : run.phase with
  | waiting grouping expires => simp_all [GroupPhase.timers]
  | fetching work => simp_all [GroupPhase.timers]
  | _ => simp_all [GroupPhase.timers]

/-- After a turn of a group it has begun, and no timer of it has run out. -/
theorem before_act (hopen : run.isDone = false) (hcourse : run.OnCourse context)
    (hdeadline : ∀ timer ∈ run.deadline, timer.due = context.deadline)
    (barrier : Step.Barrier) (floor : Floor) :
    let after := (run.act context barrier floor).1
    after.phase ≠ .ready ∧ (∀ timer ∈ after.deadline, timer.due = context.deadline) ∧
      floor.clock.Before after.timers := by
  have hadvanced := advanced_advance hopen hcourse barrier floor
  have hclock := (advance_course hopen hcourse barrier floor).clock_eq
  have hturn := advance_turnOf hopen hcourse barrier floor
  have hnone : ∀ phase, phase = GroupPhase.done →
      floor.clock.Before ({ run with phase } : GroupRun).timers := by
    rintro phase rfl
    simp [Clock.Before, timers]
  rcases run.act_cases context barrier floor with
    ⟨result, -, hact⟩ | ⟨phase, -, -, hact⟩ | ⟨phase, hphase, hearly, hact⟩
  · rw [hact]
    exact ⟨nofun, hdeadline, hnone _ rfl⟩
  · rw [hact]
    exact ⟨nofun, hdeadline, hnone _ rfl⟩
  · rw [hact]
    rw [hphase] at hadvanced hturn
    rw [hclock] at hearly
    have hbefore := hadvanced.before_timers
    have hdue : ∀ timer ∈ some (run.deadline.getD ⟨context.deadline, floor.clock.turn⟩),
        timer.due = context.deadline := by
      rintro timer htimer
      obtain rfl := Option.some.inj htimer
      cases hset : run.deadline with
      | none => rfl
      | some timer => exact hdeadline timer hset
    dsimp only
    rw [hclock]
    refine ⟨?_, hdue, fun timer htimer => ?_⟩
    · rintro rfl
      exact hturn
    · rcases mem_timers htimer with hset | hset
      · exact hbefore timer hset
      · rw [hdue timer hset]
        exact hearly

end GroupRun

end SeriesGateway.Fetch
