import Mathlib.Data.List.Perm.Subperm
import SeriesGateway.Proofs.Fetch.Schedule
import SeriesGateway.Proofs.Step.Agreement

/-! # Agreement under any schedule

The groups of a request that lets storage aggregate meet at a barrier. Each of
them reports once, in its first turn, whatever it does afterwards; so when all
have had a turn nobody is missing, and from then on everyone who waits is given
the common multiple of the steps of all groups, or the same overflow. The
schedule decides neither whether there is a common step nor which one it is.
-/

namespace SeriesGateway.Fetch

open Step (Barrier IsCommonStep Report commonMultiple)

/-- The steps that a target of a request needs: those of its function groups. -/
def Request.stepsOf (request : Request) (pair : TimeFrame × TargetGroup) : List UInt32 :=
  (Plan.Grouping.resolve pair.2 pair.1 request.epoch).groups.map (·.step)

/-- What a target of a request reports. -/
def Request.reportOf (request : Request) (pair : TimeFrame × TargetGroup) : Report :=
  (Plan.Grouping.resolve pair.2 pair.1 request.epoch).contribution

theorem Request.isCommonStep_reportOf (request : Request) (pair : TimeFrame × TargetGroup) :
    IsCommonStep (request.stepsOf pair) (request.reportOf pair) :=
  Step.isCommonStep_contribution _

namespace GroupRun

/-- Whether a group has had a turn. -/
def hasBegun (run : GroupRun) : Bool :=
  match run.phase with
  | .ready => false
  | _ => true

/-- A group reports in its first turn and in no other. -/
theorem act_barrier {context : RequestContext} (hmode : context.mode = .aggregated)
    (run : GroupRun) (barrier : Barrier) (floor : Floor) :
    (run.act context barrier floor).2.2.1 =
      if run.hasBegun then barrier
      else barrier.report
        (Plan.Grouping.resolve run.group run.frame context.epoch).contribution := by
  have hadvance : (run.advance context barrier floor).2.1 =
      if run.hasBegun then barrier
      else barrier.report
        (Plan.Grouping.resolve run.group run.frame context.epoch).contribution := by
    unfold advance
    split
    next hphase =>
      simp only [hasBegun, hphase, begin, hmode]
      cases (Plan.Grouping.resolve run.group run.frame context.epoch).contribution <;> rfl
    next hphase => simp [hasBegun, hphase]
    next hphase => simp [hasBegun, hphase]
    next hphase => simp [hasBegun, hphase]
  rw [← hadvance, act]
  rcases run.advance context barrier floor with ⟨turn, next, floor⟩
  cases turn with
  | ends result => rfl
  | goesOn phase =>
      dsimp only
      split <;> rfl

theorem hasBegun_of_underway {mode : Plan.Mode} {epoch : UInt32} {run : GroupRun}
    (hphase : run.phase = .done ∨ Underway mode epoch run.frame run.group run.phase) :
    run.hasBegun = true := by
  unfold hasBegun
  split
  next hready =>
    rw [hready] at hphase
    exact hphase.elim nofun False.elim
  next => rfl

end GroupRun

namespace RequestRun

/-- The groups that have had a turn have reported, each once and in some order,
and nobody else has. -/
structure Gathered (request : Request) (run : RequestRun) (order : List Nat) : Prop where
  nodup : order.Nodup
  mem_order : ∀ position, position ∈ order ↔
    ∃ group, run.groups[position]? = some group ∧ group.hasBegun = true
  barrier_eq : run.barrier = .ofReports run.groups.length
    ((order.filterMap (request.pairs[·]?)).map request.reportOf)
  pending : ∀ start, run.phase = .pending start → run.groups = []

variable {orchestrator : Orchestrator} {request : Request} {run : RequestRun} {order : List Nat}

theorem gathered_new (number start : Nat) (request : Request) :
    Gathered request (new number start request) [] :=
  { nodup := List.nodup_nil
    mem_order := by simp [new]
    barrier_eq := by simp [new, Barrier.initial, Barrier.ofReports]
    pending := fun _ _ => rfl }

namespace Gathered

/-- Only groups of the request report. -/
theorem length_reports (h : Gathered request run order) (hrun : Sound orchestrator request run) :
    ((order.filterMap (request.pairs[·]?)).map request.reportOf).length = order.length := by
  rw [List.length_map, List.length_filterMap_eq_countP, List.countP_eq_length]
  intro position hposition
  obtain ⟨group, hgroup, -⟩ := (h.mem_order position).mp hposition
  rw [(hrun.groups position group hgroup).2.1]
  rfl

theorem subset_range (h : Gathered request run order) :
    order ⊆ List.range run.groups.length := by
  intro position hposition
  obtain ⟨group, hgroup, -⟩ := (h.mem_order position).mp hposition
  exact List.mem_range.mpr (List.getElem?_eq_some_iff.mp hgroup).1

theorem length_order_le (h : Gathered request run order) : order.length ≤ run.groups.length := by
  simpa using (h.nodup.subperm h.subset_range).length_le

theorem toNat_received (h : Gathered request run order) (hrun : Sound orchestrator request run) :
    run.barrier.received.toNat = order.length := by
  have hle := h.length_order_le
  rw [← h.length_reports hrun] at hle ⊢
  rw [h.barrier_eq, Barrier.toNat_received_ofReports hle hrun.length_groups_lt]

/-- Where a group has not had its turn, somebody is missing. -/
theorem length_order_lt (h : Gathered request run order) {position : Nat}
    (hlt : position < run.groups.length) (hout : position ∉ order) :
    order.length < run.groups.length := by
  have hnodup : (position :: order).Nodup := List.nodup_cons.mpr ⟨hout, h.nodup⟩
  have hsub : position :: order ⊆ List.range run.groups.length :=
    List.cons_subset.mpr ⟨List.mem_range.mpr hlt, h.subset_range⟩
  have hle := (hnodup.subperm hsub).length_le
  rwa [List.length_range] at hle

theorem of_pending (h : Gathered request run order) {start : Timer}
    (hpending : run.phase = .pending start) :
    order = [] ∧ run.barrier = .ofReports 0 [] := by
  have hle := h.length_order_le
  have hbarrier := h.barrier_eq
  rw [h.pending start hpending] at hle hbarrier
  obtain rfl := List.eq_nil_of_length_eq_zero (Nat.le_zero.mp hle)
  exact ⟨rfl, hbarrier⟩

theorem begin (h : Gathered request run order) (hrun : Sound orchestrator request run)
    (haggregated : orchestrator.config.aggregated = true) {start : Timer}
    (hpending : run.phase = .pending start) (clock : Clock) :
    Gathered request (run.begin orchestrator clock) order := by
  obtain ⟨rfl, hbarrier⟩ := h.of_pending hpending
  unfold RequestRun.begin
  split
  next => exact { h with pending := by simp }
  next =>
    have hgroups : (groupsOf run.number run.request).length = request.size := by
      simp [groupsOf, hrun.request_eq, Request.size]
    refine { h with mem_order := ?_, barrier_eq := ?_, pending := by simp }
    · intro position
      constructor
      · intro hin
        cases hin
      · rintro ⟨group, hgroup, hbegun⟩
        dsimp only at hgroup
        rw [getElem?_groupsOf, Option.map_eq_some_iff] at hgroup
        obtain ⟨pair, -, rfl⟩ := hgroup
        cases hbegun
    · dsimp only
      rw [if_pos haggregated, hbarrier, hgroups, hrun.request_eq]
      have hsize : (UInt64.ofNat request.size).toNat = request.size :=
        UInt64.toNat_ofNat_of_lt' request.fits
      have hfits : 0 + (UInt64.ofNat request.size).toNat < UInt64.size := by
        rw [hsize, Nat.zero_add]
        exact request.fits
      exact (Barrier.addParticipants_ofReports (Nat.le_refl 0) hfits).trans (by simp [hsize])

theorem settle (h : Gathered request run order) (clock : Clock) :
    Gathered request (run.settle clock) order := by
  unfold RequestRun.settle
  split
  next => exact { h with pending := by simp }
  next => exact h

theorem act (h : Gathered request run order) (hrun : Sound orchestrator request run)
    (haggregated : orchestrator.config.aggregated = true) (clock : Clock) :
    Gathered request (run.act orchestrator clock).1 order := by
  unfold RequestRun.act
  split
  next hpending =>
    split
    next =>
      dsimp only
      split
      · exact (h.begin hrun haggregated hpending clock).settle clock
      · exact h.begin hrun haggregated hpending clock
    next => exact h
  next => exact h.settle clock
  next => exact h

/-- After a turn of a group it has begun, and the others are what they were. -/
theorem mem_order_set (h : Gathered request run order) {position : Nat} {after : GroupRun}
    (hlt : position < run.groups.length) (hbegun : after.hasBegun = true) (other : Nat) :
    (∃ group, (run.groups.set position after)[other]? = some group ∧ group.hasBegun = true) ↔
      other = position ∨ other ∈ order := by
  rw [List.getElem?_set, h.mem_order]
  by_cases hsame : position = other
  · subst hsame
    simp [hlt, hbegun]
  · simp [hsame, Ne.symm hsame]

/-- A turn of a group that has reported before changes nothing that was gathered. -/
theorem set_of_begun (h : Gathered request run order) {position : Nat} {group after : GroupRun}
    (hgroup : run.groups[position]? = some group) (hbegun : group.hasBegun = true)
    (hafter : after.hasBegun = true) (hrunning : ∀ start, run.phase ≠ .pending start)
    (results : List GroupResult) :
    Gathered request { run with groups := run.groups.set position after, results } order := by
  have hlt := (List.getElem?_eq_some_iff.mp hgroup).1
  have hin : position ∈ order := (h.mem_order position).mpr ⟨group, hgroup, hbegun⟩
  refine ⟨h.nodup, fun other => ?_, ?_, ?_⟩
  · rw [h.mem_order_set hlt hafter]
    exact ⟨.inr, fun hor => hor.elim (fun hsame => hsame ▸ hin) id⟩
  · simpa using h.barrier_eq
  · exact fun start hpending => absurd hpending (hrunning start)

/-- The first turn of a group adds its report behind the others. -/
theorem set_of_first (h : Gathered request run order) (hrun : Sound orchestrator request run)
    {position : Nat} {group after : GroupRun} (hgroup : run.groups[position]? = some group)
    (hfirst : group.hasBegun = false) (hafter : after.hasBegun = true)
    (hrunning : ∀ start, run.phase ≠ .pending start) (results : List GroupResult) :
    Gathered request
      { run with
        barrier := run.barrier.report (request.reportOf (group.frame, group.group))
        groups := run.groups.set position after
        results } (order ++ [position]) := by
  have hlt := (List.getElem?_eq_some_iff.mp hgroup).1
  have hpair := (hrun.groups position group hgroup).2.1
  have hout : position ∉ order := by
    intro hin
    obtain ⟨other, hother, hbegun⟩ := (h.mem_order position).mp hin
    rw [hgroup] at hother
    rw [← Option.some.inj hother, hfirst] at hbegun
    cases hbegun
  have hmissing := h.length_order_lt hlt hout
  rw [← h.length_reports hrun] at hmissing
  refine ⟨?_, fun other => ?_, ?_, ?_⟩
  · rw [(List.perm_append_singleton position order).nodup_iff]
    exact List.nodup_cons.mpr ⟨hout, h.nodup⟩
  · rw [h.mem_order_set hlt hafter, List.mem_append, List.mem_singleton, or_comm]
  · rw [h.barrier_eq, Barrier.report_ofReports hmissing hrun.length_groups_lt]
    simp [hpair]
  · exact fun start hpending => absurd hpending (hrunning start)

/-- The first turn of a group adds its report behind the others, and no other turn does. -/
theorem actGroup_of_running (h : Gathered request run order)
    (hrun : Sound orchestrator request run)
    (haggregated : orchestrator.config.aggregated = true) {position : Nat} {group : GroupRun}
    (hgroup : run.groups[position]? = some group) (hopen : group.isDone = false) {started : Nat}
    (hrunning : run.phase = .running started) (floor : Floor) :
    Gathered request (run.actGroup orchestrator group floor).1
      (if group.hasBegun then order else order ++ [position]) := by
  have hmode : (run.context orchestrator started).mode = .aggregated := by
    simp [RequestContext.mode, context, haggregated]
  have hbarrier := group.act_barrier hmode run.barrier { floor with woken := [] }
  have hreport : (Plan.Grouping.resolve group.group group.frame
      (run.context orchestrator started).epoch).contribution =
        request.reportOf (group.frame, group.group) := by
    rw [Request.reportOf, ← hrun.request_eq]
    rfl
  obtain ⟨-, hframe, htarget, hafter, -⟩ :=
    GroupRun.act_spec hopen (hrun.onCourse hgroup hopen started) run.barrier
      { floor with woken := [] }
  have hbegun := GroupRun.hasBegun_of_underway (by rw [hframe, htarget]; exact hafter)
  have hstarted : ∀ start, run.phase ≠ .pending start := by simp [hrunning]
  rw [hrun.actGroup_eq hgroup hrunning]
  dsimp only
  rw [hbarrier, hreport]
  split
  next hdone => exact h.set_of_begun hgroup hdone hbegun hstarted _
  next hfirst => exact h.set_of_first hrun hgroup (by simpa using hfirst) hbegun hstarted _

theorem actGroup (h : Gathered request run order) (hrun : Sound orchestrator request run)
    (haggregated : orchestrator.config.aggregated = true) {position : Nat} {group : GroupRun}
    (hgroup : run.groups[position]? = some group) (hopen : group.isDone = false) (floor : Floor) :
    ∃ order, Gathered request (run.actGroup orchestrator group floor).1 order := by
  by_cases hrunning : ∃ started, run.phase = .running started
  · obtain ⟨started, hrunning⟩ := hrunning
    exact ⟨_, h.actGroup_of_running hrun haggregated hgroup hopen hrunning floor⟩
  · rw [RequestRun.actGroup_of_not_running (not_exists.mp hrunning)]
    exact ⟨order, h⟩

theorem move (h : Gathered request run order) (hrun : Sound orchestrator request run)
    (haggregated : orchestrator.config.aggregated = true) (next : Move) :
    ∃ order, Gathered request (run.move orchestrator next) order := by
  cases next with
  | request clock => exact ⟨order, h.act hrun haggregated clock⟩
  | group position floor =>
      simp only [RequestRun.move]
      split
      next => exact ⟨order, h⟩
      next group hgroup =>
        split
        next => exact ⟨order, h⟩
        next hopen => exact h.actGroup hrun haggregated hgroup (by simpa using hopen) floor

theorem play (h : Gathered request run order) (hrun : Sound orchestrator request run)
    (haggregated : orchestrator.config.aggregated = true) (moves : List Move) :
    ∃ order, Gathered request (run.play orchestrator moves) order := by
  induction moves generalizing run order with
  | nil => exact ⟨order, h⟩
  | cons next rest ih =>
      obtain ⟨order, hnext⟩ := h.move hrun haggregated next
      exact ih hnext (hrun.move next)

/-! ## When all have reported -/

theorem isComplete_of_received (h : Gathered request run order)
    (hrun : Sound orchestrator request run) (hall : run.barrier.received.toNat = request.size) :
    run.barrier.isComplete = true := by
  have hexpected : run.barrier.expected.toNat = run.groups.length := by
    rw [h.barrier_eq]
    exact Barrier.toNat_expected_ofReports hrun.length_groups_lt
  rw [Barrier.isComplete, decide_eq_true_eq, UInt64.le_iff_toNat_le, hexpected, hall]
  exact hrun.length_groups_le

theorem barrier_settle (run : RequestRun) (clock : Clock) :
    (run.settle clock).barrier = run.barrier := by
  unfold RequestRun.settle
  split <;> rfl

/-- A request without targets registers nobody. -/
theorem barrier_begin (h : Gathered request run order) (hrun : Sound orchestrator request run)
    (hall : run.barrier.received.toNat = request.size) {start : Timer}
    (hpending : run.phase = .pending start) (clock : Clock) :
    (run.begin orchestrator clock).barrier = run.barrier := by
  obtain ⟨-, hbarrier⟩ := h.of_pending hpending
  have hnobody : request.size = 0 := by
    rw [← hall, hbarrier]
    rfl
  unfold RequestRun.begin
  split
  next => rfl
  next =>
    dsimp only
    rw [hrun.request_eq, hnobody, hbarrier]
    split
    next => exact @Barrier.addParticipants_ofReports 0 [] (Nat.le_refl 0) 0 (by decide)
    next => rfl

/-- When all have reported, no turn changes the barrier any more. -/
theorem barrier_move (h : Gathered request run order) (hrun : Sound orchestrator request run)
    (haggregated : orchestrator.config.aggregated = true)
    (hall : run.barrier.received.toNat = request.size) (next : Move) :
    (run.move orchestrator next).barrier = run.barrier := by
  have hcomplete := h.isComplete_of_received hrun hall
  cases next with
  | request clock =>
      simp only [RequestRun.move, RequestRun.act]
      split
      next start hpending =>
        have hbegin := h.barrier_begin hrun hall hpending clock
        split
        next =>
          split
          · exact (barrier_settle _ clock).trans hbegin
          · exact hbegin
        next => rfl
      next => exact barrier_settle run clock
      next => rfl
  | group position floor =>
      simp only [RequestRun.move]
      split
      next => rfl
      next group hgroup =>
        split
        next => rfl
        next =>
          by_cases hrunning : ∃ started, run.phase = .running started
          · obtain ⟨started, hrunning⟩ := hrunning
            have hmode : (run.context orchestrator started).mode = .aggregated := by
              simp [RequestContext.mode, context, haggregated]
            rw [hrun.actGroup_eq hgroup hrunning]
            dsimp only
            rw [group.act_barrier hmode, Barrier.report, if_pos hcomplete, ite_self]
          · rw [RequestRun.actGroup_of_not_running (not_exists.mp hrunning)]

theorem barrier_play (h : Gathered request run order) (hrun : Sound orchestrator request run)
    (haggregated : orchestrator.config.aggregated = true)
    (hall : run.barrier.received.toNat = request.size) (moves : List Move) :
    (run.play orchestrator moves).barrier = run.barrier := by
  induction moves generalizing run order with
  | nil => rfl
  | cons next rest ih =>
      obtain ⟨after, hafter⟩ := h.move hrun haggregated next
      have hsame := h.barrier_move hrun haggregated hall next
      exact (ih hafter (hrun.move next) (hsame ▸ hall)).trans hsame

/-- When all have reported, the reports are those of all targets. -/
theorem perm_pairs (h : Gathered request run order) (hrun : Sound orchestrator request run)
    (hall : run.barrier.received.toNat = request.size) :
    (order.filterMap (request.pairs[·]?)).Perm request.pairs := by
  have hlength : order.length = request.size := (h.toNat_received hrun).symm.trans hall
  have hrange : order.Perm (List.range request.size) := by
    have hsub : order ⊆ List.range request.size := by
      intro position hposition
      have hlt := List.mem_range.mp (h.subset_range hposition)
      exact List.mem_range.mpr (Nat.lt_of_lt_of_le hlt hrun.length_groups_le)
    exact (h.nodup.subperm hsub).perm_of_length_le (by simp [hlength])
  have hpairs : (List.range request.size).filterMap (request.pairs[·]?) = request.pairs := by
    have hsome : (List.range request.size).map (request.pairs[·]?) = request.pairs.map some := by
      apply List.ext_getElem?
      intro position
      by_cases hlt : position < request.pairs.length
      · simp [Request.size, hlt]
      · simp [Request.size, hlt]
    calc (List.range request.size).filterMap (request.pairs[·]?)
        = ((List.range request.size).map (request.pairs[·]?)).filterMap id := by
          rw [List.filterMap_map]
          rfl
      _ = request.pairs := by rw [hsome, List.filterMap_map]; simp
  have hreported := hrange.filterMap (request.pairs[·]?)
  rwa [hpairs] at hreported

/-- When all have reported, the barrier answers for the steps of all targets. -/
theorem exists_common (h : Gathered request run order) (hrun : Sound orchestrator request run)
    (hall : run.barrier.received.toNat = request.size) :
    ∃ common, IsCommonStep (request.pairs.flatMap request.stepsOf) common ∧
      run.barrier.released = true ∧ ∀ waited, run.barrier.answer true waited = common := by
  have hperm := h.perm_pairs hrun hall
  have hreports : List.Forall₂ IsCommonStep
      ((order.filterMap (request.pairs[·]?)).map request.stepsOf)
      ((order.filterMap (request.pairs[·]?)).map request.reportOf) := by
    rw [List.forall₂_map_left_iff, List.forall₂_map_right_iff, List.forall₂_same]
    exact fun pair _ => request.isCommonStep_reportOf pair
  have hfull : run.groups.length =
      ((order.filterMap (request.pairs[·]?)).map request.reportOf).length := by
    apply Nat.le_antisymm
    · rw [List.length_map, hperm.length_eq]
      exact hrun.length_groups_le
    · rw [h.length_reports hrun]
      exact h.length_order_le
  obtain ⟨common, hcommon, hanswer⟩ :=
    Barrier.answer_of_isCommonStep hreports (hfull ▸ hrun.length_groups_lt)
  rw [h.barrier_eq, hfull]
  refine ⟨common, ?_, by simp [Barrier.ofReports], hanswer⟩
  rw [Step.isCommonStep_perm (hperm.flatMap_right _).symm]
  exact hcommon

end Gathered

section Empty

variable {position : Nat} {frame : TimeFrame} {group : TargetGroup}

end Empty

end RequestRun

end SeriesGateway.Fetch
