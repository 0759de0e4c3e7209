import SeriesGateway.Proofs.Fetch.Turns

/-! # Turns in full

What a turn of a group comes to, with all that it depends on: whether the group learns
its plan in this turn, and from which answer of the barrier; how its queries and the
secondary source stand after they acted; and whether the deadline cuts it short. And no
timer that is set after a turn has run out before it.
-/

namespace SeriesGateway.Fetch

/-! ## Plans -/

namespace GroupRun

/-- The plan that the barrier lets a group make, once it is released or the patience of
the group has ended. -/
def answered? (context : RequestContext) (run : GroupRun) (grouping : Plan.Grouping)
    (expires : Timer) (barrier : Step.Barrier) (clock : Clock) :
    Option (Except StepError Plan.QueryPlan) :=
  let plan (released : Bool) :=
    (barrier.answer released context.config.stepResolveTimeout).bind
      (Plan.QueryPlan.aggregatedWith run.group run.frame grouping)
  if barrier.released then some (plan true)
  else if clock.reached expires then some (plan false)
  else none

/-- The plan that a group without queries makes in a turn, or why it cannot, if it learns
this in the turn. The barrier is the one after the turn. -/
def planned? (context : RequestContext) (run : GroupRun) (barrier : Step.Barrier)
    (clock : Clock) : Option (Except StepError Plan.QueryPlan) :=
  match run.phase, context.mode with
  | .waiting grouping expires, _ => run.answered? context grouping expires barrier clock
  | _, .unaggregated => some (.ok (.unaggregated run.group run.frame context.epoch))
  | _, .aggregated =>
    let grouping := Plan.Grouping.resolve run.group run.frame context.epoch
    match grouping.contribution with
    | .error error => some (.error error)
    | .ok _ =>
      if grouping.isEmpty then
        some (Plan.QueryPlan.aggregatedWith run.group run.frame grouping 0)
      else
        run.answered? context grouping
          (clock.timer context.config.stepResolveTimeout.millisCovering) barrier clock

/-- What a group can do in a turn, and the floor that it leaves behind. The barrier is the
one after the turn. -/
inductive Advanced (context : RequestContext) (run : GroupRun) (barrier : Step.Barrier)
    (floor : Floor) : Turn → Floor → Prop
  /-- The group waits at the barrier, since this turn or for longer. -/
  | waits {expires : Timer} (hbefore : run.phase.queries = [])
      (hwaits : run.phase = .ready ∧
          expires = floor.clock.timer context.config.stepResolveTimeout.millisCovering ∨
        ∃ grouping, run.phase = .waiting grouping expires)
      (hplanned : run.planned? context barrier floor.clock = none) :
    Advanced context run barrier floor
      (.goesOn (.waiting (.resolve run.group run.frame context.epoch) expires)) floor
  /-- The group learns that it has no plan. -/
  | unplanned {error : StepError} (hbefore : run.phase.queries = [])
      (hplanned : run.planned? context barrier floor.clock = some (.error error)) :
    Advanced context run barrier floor (.ends (.error (.step error))) floor
  /-- The group makes its plan and begins to fetch. -/
  | fetches {plan : Plan.QueryPlan} (hbefore : run.phase.queries = [])
      (hplanned : run.planned? context barrier floor.clock = some (.ok plan)) :
    Advanced context run barrier floor (run.fetch context plan floor).1
      (run.fetch context plan floor).2
  /-- The group goes on to fetch. -/
  | goesOn {work : Fetching} (hfetching : run.phase = .fetching work) :
    Advanced context run barrier floor (run.fetchOn context work floor).1
      (run.fetchOn context work floor).2

variable {context : RequestContext} {run : GroupRun}

/-- Whoever learns its plan in a turn goes by it. -/
theorem advanced_fetchAggregated (hbefore : run.phase.queries = []) {grouping : Plan.Grouping}
    {barrier : Step.Barrier} {floor : Floor} {common : Except StepError UInt32}
    (hplanned : run.planned? context barrier floor.clock =
      some (common.bind (Plan.QueryPlan.aggregatedWith run.group run.frame grouping))) :
    run.Advanced context barrier floor (run.fetchAggregated context grouping common floor).1
      (run.fetchAggregated context grouping common floor).2 := by
  unfold fetchAggregated
  dsimp only
  split
  next plan hplan =>
    rw [hplan] at hplanned
    exact .fetches hbefore hplanned
  next error herror =>
    rw [herror] at hplanned
    exact .unplanned hbefore hplanned

theorem advanced_awaitStep (hbefore : run.phase.queries = []) {expires : Timer}
    {barrier : Step.Barrier} {floor : Floor}
    (hwaits : run.phase = .ready ∧
        expires = floor.clock.timer context.config.stepResolveTimeout.millisCovering ∨
      ∃ grouping, run.phase = .waiting grouping expires)
    (hplanned : run.planned? context barrier floor.clock =
      run.answered? context (.resolve run.group run.frame context.epoch) expires barrier
        floor.clock) :
    run.Advanced context barrier floor
      (run.awaitStep context (.resolve run.group run.frame context.epoch) expires barrier floor).1
      (run.awaitStep context (.resolve run.group run.frame context.epoch) expires barrier
        floor).2 := by
  rw [answered?] at hplanned
  unfold awaitStep
  dsimp only at hplanned ⊢
  split
  next hreleased =>
    rw [if_pos hreleased] at hplanned
    exact advanced_fetchAggregated hbefore hplanned
  next hclosed =>
    rw [if_neg hclosed] at hplanned
    split
    next hexpired =>
      rw [if_pos hexpired] at hplanned
      exact advanced_fetchAggregated hbefore hplanned
    next hpatient =>
      rw [if_neg hpatient] at hplanned
      exact .waits hbefore hwaits hplanned

theorem advanced_begin (hready : run.phase = .ready) (barrier : Step.Barrier) (floor : Floor) :
    run.Advanced context (run.begin context barrier floor).2.1 floor
      (run.begin context barrier floor).1 (run.begin context barrier floor).2.2 := by
  have hbefore : run.phase.queries = [] := by rw [hready]; rfl
  unfold begin
  split
  next hmode =>
    apply Advanced.fetches hbefore
    simp only [planned?, hready, hmode]
  next hmode =>
    dsimp only
    split
    next error herror =>
      apply Advanced.unplanned hbefore
      simp only [planned?, hready, hmode, herror]
    next step hstep =>
      dsimp only
      split
      next hempty =>
        apply advanced_fetchAggregated hbefore
        simp only [planned?, hready, hmode, hstep, hempty, if_true]
        rfl
      next hsome =>
        apply advanced_awaitStep hbefore (.inl ⟨hready, rfl⟩)
        simp only [planned?, hready, hmode, hstep, if_neg hsome]

theorem advanced_advance (hopen : run.isDone = false) (hcourse : run.OnCourse context)
    (barrier : Step.Barrier) (floor : Floor) :
    run.Advanced context (run.advance context barrier floor).2.1 floor
      (run.advance context barrier floor).1 (run.advance context barrier floor).2.2 := by
  unfold advance
  split
  next hready => exact advanced_begin hready barrier floor
  next grouping expires hwaiting =>
    obtain ⟨-, -, rfl⟩ := hcourse.waiting hwaiting
    apply advanced_awaitStep (by rw [hwaiting]; rfl) (.inr ⟨_, hwaiting⟩)
    simp only [planned?, hwaiting]
  next work hfetching => exact .goesOn hfetching
  next hdone =>
    rw [isDone, hdone] at hopen
    cases hopen

/-! ## Deadlines -/

/-- A turn of a group either ends it as it goes, or ends it because its time is up, or
leaves it in a phase that it goes on from. -/
theorem act_cases (context : RequestContext) (run : GroupRun) (barrier : Step.Barrier)
    (floor : Floor) :
    let advanced := run.advance context barrier floor
    let acted := run.act context barrier floor
    (∃ result, advanced.1 = .ends result ∧
      acted = ({ run with phase := .done }, some result, advanced.2)) ∨
    (∃ phase, advanced.1 = .goesOn phase ∧ context.deadline ≤ advanced.2.2.clock.now ∧
      acted = ({ run with phase := .done }, some (.error .deadline), advanced.2.1,
        abandonPhase advanced.2.2 phase)) ∨
    ∃ phase, advanced.1 = .goesOn phase ∧ advanced.2.2.clock.now < context.deadline ∧
      acted = ({ run with
          phase
          deadline := some (run.deadline.getD ⟨context.deadline, advanced.2.2.clock.turn⟩) },
        none, advanced.2) := by
  dsimp only
  unfold act
  split
  next result _ _ hadvance => exact .inl ⟨result, by rw [hadvance], by rw [hadvance]⟩
  next phase _ _ hadvance =>
    rw [hadvance]
    split
    next hlate => exact .inr (.inl ⟨phase, rfl, hlate, rfl⟩)
    next hearly => exact .inr (.inr ⟨phase, rfl, Nat.lt_of_not_le hearly, rfl⟩)

end GroupRun

end SeriesGateway.Fetch
