import SeriesGateway.Proofs.Config.Buckets
import SeriesGateway.Proofs.Fetch.Slots

/-! # Buckets of queries

The bucket of a query is looked up twice, once for its slots and once for its time. Both
lookups go by the range of the query, and no turn changes what they came to: at any
moment of a run the slots of a bucket are held by queries whose time is that of the same
bucket, and the clock of a round trip that begins is set to that time.
-/

namespace SeriesGateway.Fetch

namespace QueryRun

/-- The range of the query, in seconds. -/
def range (run : QueryRun) : UInt32 := secondsBetween run.query.start run.query.stop

/-- When the round trip must be over, as long as it goes on. -/
def expires? (run : QueryRun) : Option Timer :=
  match run.phase with
  | .calling _ _ expires => some expires
  | .reading _ _ _ _ expires => some expires
  | _ => none

/-- The slots that a query needs and the time it has are those of one bucket, which is
the one that its range is in. Beyond the last bucket it needs no such slot, and has the
time that is meant for this. -/
inductive Placed (config : FetchConfig) (run : QueryRun) : Prop
  | bucket {position : Nat} {limit : RangeLimit}
      (hbucket : config.bucket? run.range = some position)
      (hposition : config.rangeLimits[position]? = some limit)
      (hlimit : config.rangeLimit? run.range = some limit)
      (hpools : run.pools = [.request run.ticket.group.request, .bucket position, .all])
      (htimeout : run.timeout = limit.queryTimeout)
  | beyond (hbucket : config.bucket? run.range = none)
      (hlimit : config.rangeLimit? run.range = none)
      (hpools : run.pools = [.request run.ticket.group.request, .all])
      (htimeout : run.timeout = config.defaultQueryTimeout)

variable {config : FetchConfig} {storage : Storage} {run : QueryRun}

theorem placed_of_eq (hpools : run.pools = poolsFor config run.ticket.group.request run.range)
    (htimeout : run.timeout = config.queryTimeout run.range) : run.Placed config := by
  have hlimit := config.rangeLimit?_eq_bind_bucket? run.range
  rw [FetchConfig.queryTimeout] at htimeout
  rw [poolsFor] at hpools
  cases hbucket : config.bucket? run.range with
  | none =>
      rw [hbucket, Option.bind_none] at hlimit
      rw [hlimit] at htimeout
      rw [hbucket] at hpools
      exact .beyond hbucket hlimit hpools htimeout
  | some position =>
      obtain ⟨limit, hposition, -⟩ := FetchConfig.covers_of_bucket? hbucket
      rw [hbucket, Option.bind_some, hposition] at hlimit
      rw [hlimit] at htimeout
      rw [hbucket] at hpools
      exact .bucket hbucket hposition hlimit hpools htimeout

/-- A query needs a slot of a bucket exactly if its range is in this bucket. -/
theorem Placed.bucket_mem_iff (h : run.Placed config) (position : Nat) :
    .bucket position ∈ run.pools ↔ config.bucket? run.range = some position := by
  cases h with
  | bucket hbucket hposition hlimit hpools => simp [hpools, hbucket, eq_comm]
  | beyond hbucket hlimit hpools => simp [hpools, hbucket]

/-! ## Turns -/

theorem exists_phase_awaitBody (run : QueryRun) (stream : Stream) (reception : Wire.Reception)
    (left : List Delivery) (arrives expires : Timer) (floor : Floor) :
    ∃ phase, (run.awaitBody stream reception left arrives expires floor).1 =
      { run with phase } := by
  unfold awaitBody
  split
  · exact ⟨_, rfl⟩
  · split
    · exact ⟨_, rfl⟩
    · exact ⟨_, rfl⟩

theorem exists_phase_awaitAnswer (run : QueryRun) (answer : Answer) (arrives expires : Timer)
    (floor : Floor) :
    ∃ phase, (run.awaitAnswer answer arrives expires floor).1 = { run with phase } := by
  unfold awaitAnswer
  split
  · dsimp only
    split
    · exact ⟨_, rfl⟩
    · exact ⟨_, rfl⟩
    · exact exists_phase_awaitBody _ _ _ _ _ _ _
  · split
    · exact ⟨_, rfl⟩
    · exact ⟨_, rfl⟩

/-- A turn changes nothing of a query but how far it has come. -/
theorem exists_phase_act (storage : Storage) (run : QueryRun) (floor : Floor) :
    ∃ phase, (run.act storage floor).1 = { run with phase } := by
  unfold act
  split
  · split
    · exact exists_phase_awaitAnswer _ _ _ _ _
    · split
      · exact ⟨_, rfl⟩
      · exact ⟨_, rfl⟩
  · exact exists_phase_awaitAnswer _ _ _ _ _
  · exact exists_phase_awaitBody _ _ _ _ _ _ _
  · exact ⟨_, rfl⟩
  · exact ⟨_, rfl⟩

theorem Placed.act (h : run.Placed config) (storage : Storage) (floor : Floor) :
    (run.act storage floor).1.Placed config := by
  obtain ⟨phase, hafter⟩ := exists_phase_act storage run floor
  rw [hafter]
  cases h with
  | bucket hbucket hposition hlimit hpools htimeout =>
      exact .bucket hbucket hposition hlimit hpools htimeout
  | beyond hbucket hlimit hpools htimeout => exact .beyond hbucket hlimit hpools htimeout

theorem expires?_awaitBody {stream : Stream} {reception : Wire.Reception} {left : List Delivery}
    {arrives expires : Timer} {floor : Floor}
    (hrunning : (run.awaitBody stream reception left arrives expires floor).1.isRunning = true) :
    (run.awaitBody stream reception left arrives expires floor).1.expires? = some expires := by
  unfold awaitBody at hrunning ⊢
  split at hrunning
  next => cases hrunning
  next =>
    split at hrunning
    next => cases hrunning
    next hopen =>
      rw [if_neg hopen]
      rfl

theorem expires?_awaitAnswer {answer : Answer} {arrives expires : Timer} {floor : Floor}
    (hrunning : (run.awaitAnswer answer arrives expires floor).1.isRunning = true) :
    (run.awaitAnswer answer arrives expires floor).1.expires? = some expires := by
  unfold awaitAnswer at hrunning ⊢
  split at hrunning
  next harrived =>
    rw [if_pos harrived]
    dsimp only at hrunning ⊢
    split at hrunning
    next => cases hrunning
    next => cases hrunning
    next => exact expires?_awaitBody hrunning
  next hwaiting =>
    rw [if_neg hwaiting]
    split at hrunning
    next => cases hrunning
    next hopen =>
      rw [if_neg hopen]
      rfl

/-- The clock of a round trip is set, to the time of the query, in the turn in which it
begins, and not touched after that. -/
theorem expires?_act (floor : Floor) (hrunning : (run.act storage floor).1.isRunning = true) :
    (run.act storage floor).1.expires? =
      if run.isRunning then run.expires?
      else some (floor.clock.timer run.timeout.millisCovering) := by
  by_cases hwaiting : run.isWaiting = true
  · have hnew : run.isRunning = false := by simp [isRunning, hwaiting]
    rw [act_eq_of_isWaiting storage hwaiting] at hrunning ⊢
    rw [hnew]
    dsimp only at hrunning ⊢
    split at hrunning
    next hadmitted =>
      rw [if_pos hadmitted]
      exact expires?_awaitAnswer hrunning
    next =>
      split at hrunning
      next => cases hrunning
      next =>
        have hsame : run.isRunning = true := hrunning
        rw [hnew] at hsame
        cases hsame
  · unfold act at hrunning ⊢
    split at hrunning
    next hadmission => simp [isWaiting, hadmission] at hwaiting
    next hcalling =>
      have hbegun : run.isRunning = true := by simp [isRunning, isWaiting, isOver, hcalling]
      rw [if_pos hbegun, expires?_awaitAnswer hrunning, expires?, hcalling]
    next hreading =>
      have hbegun : run.isRunning = true := by simp [isRunning, isWaiting, isOver, hreading]
      rw [if_pos hbegun, expires?_awaitBody hrunning, expires?, hreading]
    next => rw [if_pos hrunning]
    next => rw [if_pos hrunning]

end QueryRun

/-! ## Queries of a group -/

/-- What every turn of a query keeps is kept by turns one after the other. -/
theorem Fetching.forall_mem_actAll {storage : Storage} {motive : QueryRun → Prop}
    (hact : ∀ run floor, motive run → motive (run.act storage floor).1) (reversed : Bool)
    (store : PointStore) (floor : Floor) {queries : List QueryRun}
    (h : ∀ run ∈ queries, motive run) :
    ∀ run ∈ (actAll storage reversed store floor queries).1, motive run := by
  induction queries generalizing store floor with
  | nil => exact List.forall_mem_nil _
  | cons run rest ih =>
      obtain ⟨hrun, hrest⟩ := List.forall_mem_cons.mp h
      rw [actAll]
      dsimp only
      split
      next => exact List.forall_mem_cons.mpr ⟨hact run floor hrun, hrest⟩
      next => exact List.forall_mem_cons.mpr ⟨hact run floor hrun, ih _ _ hrest⟩

theorem Fetching.placed_of_mem_queriesOf {context : RequestContext} {id : GroupId}
    {plan : Plan.QueryPlan} :
    ∀ query ∈ queriesOf context id plan, query.Placed context.config := by
  intro query hquery
  obtain ⟨⟨asked, i⟩, -, rfl⟩ := List.mem_map.mp hquery
  exact QueryRun.placed_of_eq rfl rfl

/-- The queries that a group has on their way have their places. -/
def GroupRun.IsPlaced (config : FetchConfig) (run : GroupRun) : Prop :=
  ∀ query ∈ run.phase.queries, query.Placed config

namespace RequestRun

variable {orchestrator : Orchestrator}

theorem Turned.isPlaced {run after : RequestRun} {position : Nat} {group acted : GroupRun}
    {turn : Turn} {floor next : Floor}
    (h : run.Turned orchestrator position group acted turn floor after next)
    (hgroup : group.IsPlaced orchestrator.config) : acted.IsPlaced orchestrator.config := by
  obtain ⟨started, -, hcourse⟩ := h.course
  rw [GroupRun.IsPlaced, h.acted_eq]
  cases hcourse with
  | @works work next hwork hledger hcalls hclock recent =>
      have hbefore : ∀ query ∈ work.queries, query.Placed orchestrator.config := by
        rcases hwork with hbegun | ⟨-, plan, -, rfl⟩
        · rw [GroupRun.IsPlaced, hbegun] at hgroup
          exact hgroup
        · exact Fetching.placed_of_mem_queriesOf
      exact Fetching.forall_mem_actAll (fun run floor hrun => hrun.act _ floor) _ _ _ hbefore
  | _ => exact List.forall_mem_nil _

theorem isPlaced_play (orchestrator : Orchestrator) (number start : Nat) (request : Request)
    (moves : List Move) :
    ∀ group ∈ ((new number start request).play orchestrator moves).groups,
      group.IsPlaced orchestrator.config :=
  groups_induction (fun _ _ _ => List.forall_mem_nil _)
    (fun hgroup hturned => hturned.isPlaced hgroup) moves

end RequestRun

namespace Run

variable {orchestrator : Orchestrator} {requests : List (Nat × Request)} {run : Run}

theorem Played.placed (h : Played orchestrator requests run) (id : GroupId) :
    ∀ query ∈ run.queriesAt id, query.Placed orchestrator.config := by
  unfold queriesAt
  split
  next => exact List.forall_mem_nil _
  next request hrequest =>
    have hgroups : ∀ group ∈ request.groups, group.IsPlaced orchestrator.config := by
      obtain ⟨begins, asked, moves, -, rfl⟩ := h.requests _ _ hrequest
      exact RequestRun.isPlaced_play orchestrator id.request begins asked moves
    rw [RequestRun.queriesAt]
    cases hgroup : request.groups[id.position]? with
    | none => exact List.forall_mem_nil _
    | some group => exact hgroups group (List.mem_of_getElem? hgroup)

/-- How the buckets of the settings are used at a moment of a run. -/
structure Bucketed (orchestrator : Orchestrator) (run : Run) : Prop where
  /-- Slots and time of a query are those of its bucket. -/
  placed : ∀ id, ∀ query ∈ run.queriesAt id, query.Placed orchestrator.config
  /-- A round trip has the time of the query from the turn in which it begins. -/
  timed : ∀ id, ∀ query ∈ run.queriesAt id, ∀ floor,
    (query.act orchestrator.storage floor).1.isRunning = true →
      (query.act orchestrator.storage floor).1.expires? =
        if query.isRunning then query.expires?
        else some (floor.clock.timer query.timeout.millisCovering)
  /-- There is a pool for each bucket with a limit, and it has as many slots. -/
  limit_eq : ∀ position, (run.floor.ledger.pool? (.bucket position)).map (·.limit) =
    ((orchestrator.config.rangeLimits[position]?).map (·.maxConcurrent)).filter (· ≠ 0)
  /-- A slot of a bucket is held by a query whose range is in this bucket. -/
  of_mem_holders : ∀ {position pool}, run.floor.ledger.pool? (.bucket position) = some pool →
    ∀ ticket ∈ pool.holders, ∃ query ∈ run.queriesAt ticket.group,
      query.ticket = ticket ∧ query.isOver = false ∧
        orchestrator.config.bucket? query.range = some position
  /-- A query that runs holds a slot of its bucket. -/
  mem_holders : ∀ {position pool}, run.floor.ledger.pool? (.bucket position) = some pool →
    ∀ id, ∀ query ∈ run.queriesAt id, query.isRunning = true →
      orchestrator.config.bucket? query.range = some position → query.ticket ∈ pool.holders

theorem Reachable.bucketed (h : Reachable orchestrator requests run) :
    Bucketed orchestrator run := by
  obtain ⟨acts, hshown⟩ := exists_shown h
  have hconserved := conserved_of_shown hshown
    (Hall.conserved_after orchestrator.config requests.length acts)
  have hplaced := h.played.placed
  refine
    { placed := hplaced, timed := fun _ query _ floor => query.expires?_act floor,
      limit_eq := ?_, of_mem_holders := ?_, mem_holders := ?_ }
  · intro position
    rw [hconserved.limit_eq, slotsOf]
    cases orchestrator.config.rangeLimits[position]? with
    | none => rfl
    | some limit =>
        by_cases hnone : limit.maxConcurrent = 0 <;> simp [Option.filter_some, hnone]
  · intro position pool hpool ticket hholds
    obtain ⟨query, hquery, hticket, hopen, hneeds⟩ := hconserved.of_mem_holders hpool ticket hholds
    exact ⟨query, hquery, hticket, hopen,
      ((hplaced _ query hquery).bucket_mem_iff position).mp hneeds⟩
  · intro position pool hpool id query hquery hrunning hbucket
    exact hconserved.mem_holders hpool id query hquery hrunning
      (((hplaced id query hquery).bucket_mem_iff position).mpr hbucket)

/-- The buckets of valid settings are unambiguous, and every query keeps to one of them.

* Settings are accepted if they are valid, and refused otherwise, with the fault of the
  first check that they violate.
* The bucket of a range is the shortest one that covers it. There is none exactly if the
  range is longer than all buckets, a longer range is never in an earlier bucket, and the
  time of a query is never zero.
* At any moment of any run the slots of a query and its time belong to one bucket. -/
theorem buckets_decide_slots_and_time (orchestrator : Orchestrator)
    (requests : List (Nat × Request)) :
    let config := orchestrator.config
    (config.fault? = none ↔ config.Valid) ∧
    (∀ fault, config.fault? = some fault ↔
      Checks.FirstFault config.Violates config.checks fault) ∧
    (config.Valid →
      (∀ range limit, config.rangeLimit? range = some limit ↔
        limit ∈ config.rangeLimits ∧ limit.Covers range ∧
          ∀ other ∈ config.rangeLimits, other.Covers range → limit.maxRange ≤ other.maxRange) ∧
      (∀ range, config.rangeLimit? range = none ↔
        ∀ limit ∈ config.rangeLimits, limit.maxRange < .ofSeconds range.toNat) ∧
      (∀ shorter longer, shorter ≤ longer → ∀ later, config.bucket? longer = some later →
        ∃ earlier ≤ later, config.bucket? shorter = some earlier) ∧
      ∀ range, config.queryTimeout range ≠ .zero) ∧
    ∀ run, Reachable orchestrator requests run → Bucketed orchestrator run := by
  refine ⟨FetchConfig.fault?_eq_none_iff, fun fault => FetchConfig.fault?_eq_some_iff,
    fun hvalid => ⟨fun range limit => hvalid.rangeLimit?_eq_some_iff, fun range => ?_, ?_,
      hvalid.queryTimeout_ne_zero⟩, fun run hrun => hrun.bucketed⟩
  · rw [FetchConfig.rangeLimit?_eq_none_iff]
    exact forall₂_congr fun limit _ => Nat.not_le
  · intro shorter longer hle later hlater
    exact FetchConfig.bucket?_mono hle hlater

/-- One bucket ends half a second before the range of two queries, and another one half a
second behind it, with one slot: one query runs, with the time of this bucket, and the
other one waits. -/
theorem buckets_decide_slots_and_time_of_fractional_buckets :
    let rules : RuleSet := ⟨[], 60, .last, by decide⟩
    let target (metric : String) := (TargetGroup.new "points" rules).push metric metric "t"
    let buckets : List RangeLimit :=
      [⟨.ofMillis 119500, 1, .ofSeconds 3⟩, ⟨.ofMillis 120500, 1, .ofSeconds 7⟩]
    let orchestrator : Orchestrator :=
      ⟨{ FetchConfig.standard with rangeLimits := buckets },
        fun _ _ => ⟨5, .body ⟨[], 0, none⟩⟩, .absent⟩
    let asked : Request :=
      ⟨[(⟨60, 180, 0⟩, target "a"), (⟨60, 180, 0⟩, target "b")], 1000, by decide⟩
    let run := (((start orchestrator [(0, asked)]).act (.request 0)).act (.group ⟨0, 0⟩)).act
      (.group ⟨0, 1⟩)
    let shown (query : QueryRun) := (query.range, query.timeout, query.isRunning)
    orchestrator.config.Valid ∧ Bucketed orchestrator run ∧
      (run.queriesAt ⟨0, 0⟩).map shown = [(120, .ofSeconds 7, true)] ∧
      (run.queriesAt ⟨0, 1⟩).map shown = [(120, .ofSeconds 7, false)] := by
  intro rules target buckets orchestrator asked run shown
  have hreachable : Reachable orchestrator [(0, asked)] run :=
    ((Reachable.start.act _).act _).act _
  have hbuckets := buckets_decide_slots_and_time orchestrator [(0, asked)]
  exact ⟨hbuckets.1.mp (by decide +kernel), hbuckets.2.2.2 run hreachable, by decide +kernel,
    by decide +kernel⟩

end Run

end SeriesGateway.Fetch
