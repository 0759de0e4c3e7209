import SeriesGateway.Proofs.Fetch.Reachability
import SeriesGateway.Proofs.Fetch.Responses

/-! # Traces of queries in their store

The queries of a group share a store, so a query finds in it at each of its turns what
the others made of it since the last one. What a query does to it is therefore said as a
trace: what it found and what it left, turn by turn. A query that ends well adds its
whole response in one turn; the trace of any other leaves everything as it was found. In
a run these traces make up all that ever happens to the store of a group.
-/

namespace SeriesGateway.Fetch

namespace QueryRun

/-- The turns of a query from one state to another, each at any floor and with any store
that it finds: the stores found and left. -/
inductive Turns (storage : Storage) (reversed : Bool) :
    QueryRun → List (PointStore × PointStore) → QueryRun → Prop
  | nil (run : QueryRun) : Turns storage reversed run [] run
  | cons {run last : QueryRun} {trace : List (PointStore × PointStore)} (floor : Floor)
      (found : PointStore)
      (hrest : Turns storage reversed (run.act storage floor).1 trace last) :
    Turns storage reversed run
      ((found, Fetching.collect reversed found run (run.act storage floor).1) :: trace) last

/-- No turn changes the store that it finds. -/
def LeavesAll (trace : List (PointStore × PointStore)) : Prop :=
  ∀ turn ∈ trace, turn.2 = turn.1

/-- One turn adds these rows to the store that it finds, and all others leave theirs. -/
def AddsOnce (reversed : Bool) (rows : List Wire.Row) (trace : List (PointStore × PointStore)) :
    Prop :=
  ∃ before found left behind, trace = before ++ (found, left) :: behind ∧
    LeavesAll before ∧ LeavesAll behind ∧ found.Gains reversed rows left

/-- What the trace of a query is, by how far the query has come: if it has ended well,
its rows are all that storage answered it with, and it has added them. -/
def Accounts (storage : Storage) (reversed : Bool) (run : QueryRun)
    (trace : List (PointStore × PointStore)) : Prop :=
  match run.result? with
  | some (.ok rows) => run.Receives storage rows ∧ AddsOnce reversed rows trace
  | _ => LeavesAll trace

variable {storage : Storage} {reversed : Bool} {run middle last : QueryRun}
  {trace more : List (PointStore × PointStore)}

theorem leavesAll_nil : LeavesAll [] := nofun

theorem LeavesAll.cons (h : LeavesAll trace) (store : PointStore) :
    LeavesAll ((store, store) :: trace) :=
  List.forall_mem_cons.mpr ⟨rfl, h⟩

theorem Accounts.cons (h : run.Accounts storage reversed trace) (store : PointStore) :
    run.Accounts storage reversed ((store, store) :: trace) := by
  unfold Accounts at h ⊢
  split at h
  next rows hrows =>
    obtain ⟨hreceives, before, found, left, behind, rfl, hbefore, hbehind, hgains⟩ := h
    exact ⟨hreceives, (store, store) :: before, found, left, behind, rfl, hbefore.cons store,
      hbehind, hgains⟩
  next => exact h.cons store

namespace Turns

theorem trans (h : Turns storage reversed run trace middle)
    (hmore : Turns storage reversed middle more last) :
    Turns storage reversed run (trace ++ more) last := by
  induction h with
  | nil run => exact hmore
  | cons floor found hrest ih => exact .cons floor found (ih hmore)

theorem badge_eq (h : Turns storage reversed run trace last) : last.badge = run.badge := by
  induction h with
  | nil run => rfl
  | @cons run last trace floor found hrest ih => exact ih.trans (run.act_spec storage floor).1

/-- A query that is over does nothing any more. -/
theorem of_isOver (h : Turns storage reversed run trace last) (hover : run.isOver = true) :
    last = run ∧ LeavesAll trace := by
  induction h with
  | nil run => exact ⟨rfl, leavesAll_nil⟩
  | @cons run last trace floor found hrest ih =>
      rw [Fetching.collect_of_isOver storage reversed hover]
      rw [act_of_isOver storage hover] at ih
      obtain ⟨rfl, hleaves⟩ := ih hover
      exact ⟨rfl, hleaves.cons found⟩

/-- Whatever a query finds, its trace accounts for what it has come to. -/
theorem accounts (h : Turns storage reversed run trace last) (hrun : run.Faithful storage)
    (hopen : run.result? = none) : last.Accounts storage reversed trace := by
  induction h with
  | nil run =>
      rw [Accounts, hopen]
      exact leavesAll_nil
  | @cons run last trace floor found hrest ih =>
      have hafter := hrun.act floor
      rcases Fetching.collect_act storage reversed run floor with ⟨hrows, hsilent⟩ |
        ⟨-, rows, hrows, hadds⟩
      · rw [hsilent]
        cases hresult : (run.act storage floor).1.result? with
        | none => exact (ih hafter hresult).cons found
        | some result =>
            -- it has ended without rows, for it had none before
            obtain ⟨rfl, hleaves⟩ := hrest.of_isOver (isOver_of_result? hresult)
            rw [rows?_of_none hopen, rows?_of_result? hresult] at hrows
            rw [Accounts, hresult]
            cases result with
            | ok rows => cases hrows
            | error error => exact hleaves.cons found
      · obtain ⟨rfl, hleaves⟩ := hrest.of_isOver (isOver_of_result? hrows)
        have hreceives := hafter.receives hrows
        rw [Accounts, hrows, hadds]
        exact ⟨hreceives, [], found, _, trace, rfl, leavesAll_nil, hleaves,
          Fetching.gains_addRows hreceives.length_values reversed found⟩

theorem accounts_of_admission (h : Turns storage reversed run trace last)
    (hadmission : run.phase = .admission) : last.Accounts storage reversed trace := by
  apply h.accounts
  · rw [Faithful, hadmission]
    trivial
  · rw [result?, hadmission]

end Turns

end QueryRun

/-! ## The store of a group -/

namespace Fetching

/-- A change of the store of a group: the position of the query that made it in a turn,
and the stores that it found and left. -/
abbrev Change : Type := Nat × PointStore × PointStore

/-- The trace of the query at a position. -/
def traceAt (position : Nat) (changes : List Change) : List (PointStore × PointStore) :=
  (changes.filter (·.1 == position)).map (·.2)

/-- Changes of a store one after the other, each of what the one before it left. -/
def Chained (store : PointStore) : List Change → PointStore → Prop
  | [], last => last = store
  | (_, found, left) :: rest, last => found = store ∧ Chained left rest last

/-- All changes of the store since its description are turns of the queries, which are
where these turns have led them. -/
structure Traced (storage : Storage) (reversed : Bool) (work : Fetching)
    (changes : List Change) : Prop where
  chained : Chained (describedStore work.plan) changes work.store
  within : ∀ change ∈ changes, change.1 < work.queries.length
  turns : ∀ (position : Nat) (query : QueryRun), work.queries[position]? = some query →
    ∃ begun : QueryRun, begun.phase = .admission ∧
      begun.Turns storage reversed (traceAt position changes) query

variable {storage : Storage} {reversed : Bool} {store middle last : PointStore}
  {changes more : List Change}

theorem Chained.append (h : Chained store changes middle) (hmore : Chained middle more last) :
    Chained store (changes ++ more) last := by
  induction changes generalizing store with
  | nil =>
      cases h
      exact hmore
  | cons change rest ih => exact ⟨h.1, ih h.2⟩

theorem traceAt_append (position : Nat) (first second : List Change) :
    traceAt position (first ++ second) = traceAt position first ++ traceAt position second := by
  rw [traceAt, List.filter_append, List.map_append]
  rfl

theorem traceAt_cons_self (position : Nat) (turn : PointStore × PointStore)
    (rest : List Change) :
    traceAt position ((position, turn) :: rest) = turn :: traceAt position rest := by
  simp [traceAt]

theorem traceAt_cons_of_ne {position other : Nat} (hother : other ≠ position)
    (turn : PointStore × PointStore) (rest : List Change) :
    traceAt position ((other, turn) :: rest) = traceAt position rest := by
  simp [traceAt, hother]

theorem traceAt_of_lt {position : Nat} (hlater : ∀ change ∈ changes, position < change.1) :
    traceAt position changes = [] := by
  rw [traceAt, List.filter_eq_nil_iff.mpr, List.map_nil]
  intro change hchange
  have hlt := hlater change hchange
  simp only [beq_iff_eq]
  omega

/-- The changes lead queries that begin at a position from one state to another. -/
structure Led (storage : Storage) (reversed : Bool) (first : Nat) (store : PointStore)
    (queries : List QueryRun) (changes : List Change) (after : List QueryRun)
    (last : PointStore) : Prop where
  chained : Chained store changes last
  within : ∀ change ∈ changes, first ≤ change.1 ∧ change.1 < first + queries.length
  turns : ∀ (i : Nat) (query : QueryRun), queries[i]? = some query →
    ∃ acted, after[i]? = some acted ∧
      query.Turns storage reversed (traceAt (first + i) changes) acted

theorem led_of_same (storage : Storage) (reversed : Bool) (first : Nat) (store : PointStore)
    (queries : List QueryRun) : Led storage reversed first store queries [] queries store where
  chained := rfl
  within := nofun
  turns _ query hquery := ⟨query, hquery, .nil query⟩

/-- The first query has a turn, and the others go on from the store that it left. -/
theorem Led.cons {first : Nat} {run : QueryRun} {rest others : List QueryRun} (floor : Floor)
    (h : Led storage reversed (first + 1)
      (collect reversed store run (run.act storage floor).1) rest changes others last) :
    Led storage reversed first store (run :: rest)
      ((first, store, collect reversed store run (run.act storage floor).1) :: changes)
      ((run.act storage floor).1 :: others) last where
  chained := ⟨rfl, h.chained⟩
  within := by
    rw [List.length_cons, List.forall_mem_cons]
    refine ⟨⟨Nat.le_refl first, by omega⟩, fun change hchange => ?_⟩
    have hwithin := h.within change hchange
    omega
  turns i query hquery := by
    cases i with
    | zero =>
        cases hquery
        have hnone : traceAt (first + 0) changes = [] :=
          traceAt_of_lt fun change hchange => (h.within change hchange).1
        refine ⟨_, rfl, ?_⟩
        rw [Nat.add_zero] at hnone ⊢
        rw [traceAt_cons_self, hnone]
        exact .cons floor store (.nil _)
    | succ i =>
        obtain ⟨acted, hacted, hturns⟩ := h.turns i query hquery
        refine ⟨acted, hacted, ?_⟩
        rw [traceAt_cons_of_ne (by omega), Nat.add_comm i 1, ← Nat.add_assoc]
        exact hturns

/-- When queries act in order, each that has a turn finds the store that the one in
front of it left. -/
theorem exists_led_actAll (storage : Storage) (reversed : Bool) (store : PointStore)
    (floor : Floor) (queries : List QueryRun) (first : Nat) :
    ∃ changes, Led storage reversed first store queries changes
      (actAll storage reversed store floor queries).1
      (actAll storage reversed store floor queries).2.1 := by
  induction queries generalizing store floor first with
  | nil => exact ⟨[], led_of_same storage reversed first store []⟩
  | cons run rest ih =>
      rw [actAll]
      dsimp only
      split
      · exact ⟨_, (led_of_same storage reversed (first + 1) _ rest).cons floor⟩
      · obtain ⟨changes, hled⟩ := ih (collect reversed store run (run.act storage floor).1)
          (run.act storage floor).2 (first + 1)
        exact ⟨_, hled.cons floor⟩

theorem length_actAll (storage : Storage) (reversed : Bool) (store : PointStore) (floor : Floor)
    (queries : List QueryRun) :
    (actAll storage reversed store floor queries).1.length = queries.length := by
  have hbadges := congrArg List.length (map_badge_actAll storage reversed store floor queries)
  rwa [List.length_map, List.length_map] at hbadges

theorem Traced.exists_actAll {work : Fetching} (h : Traced storage reversed work changes)
    (floor : Floor) (recent : RecentRun) (recentFirst : Bool) :
    ∃ more, Traced storage reversed ⟨work.plan,
      (actAll storage reversed work.store floor work.queries).2.1,
      (actAll storage reversed work.store floor work.queries).1, recent, recentFirst⟩ more := by
  obtain ⟨more, hled⟩ := exists_led_actAll storage reversed work.store floor work.queries 0
  have hlength := length_actAll storage reversed work.store floor work.queries
  refine ⟨changes ++ more, h.chained.append hled.chained, ?_, ?_⟩
  · rw [hlength]
    intro change hchange
    rcases List.mem_append.mp hchange with hold | hnew
    · exact h.within change hold
    · have hwithin := hled.within change hnew
      omega
  · intro position query hquery
    have hlt := (List.getElem?_eq_some_iff.mp hquery).1
    rw [hlength] at hlt
    have hbefore := List.getElem?_eq_getElem hlt
    obtain ⟨begun, hbegun, hturns⟩ := h.turns position _ hbefore
    obtain ⟨acted, hacted, hmore⟩ := hled.turns position _ hbefore
    cases hacted.symm.trans hquery
    rw [Nat.zero_add] at hmore
    rw [traceAt_append]
    exact ⟨begun, hbegun, hturns.trans hmore⟩

theorem Traced.accounts {work : Fetching} (h : Traced storage reversed work changes)
    {position : Nat} {query : QueryRun} (hquery : work.queries[position]? = some query) :
    query.Accounts storage reversed (traceAt position changes) := by
  obtain ⟨begun, hbegun, hturns⟩ := h.turns position query hquery
  exact hturns.accounts_of_admission hbegun

theorem traced_new (storage : Storage) (reversed : Bool) (context : RequestContext)
    (id : GroupId) (plan : Plan.QueryPlan) :
    Traced storage reversed
      ⟨plan, describedStore plan, queriesOf context id plan, .unasked, false⟩ [] := by
  refine ⟨rfl, nofun, ?_⟩
  intro position query hquery
  obtain ⟨entry, -, rfl⟩ := List.mem_map.mp (List.mem_of_getElem? hquery)
  exact ⟨_, rfl, .nil _⟩

end Fetching

/-! ## Runs -/

/-- The store of a group that fetches is what the turns of its queries made of it. -/
def GroupRun.IsTraced (storage : Storage) (run : GroupRun) : Prop :=
  ∀ work, run.phase = .fetching work →
    ∃ changes, Fetching.Traced storage run.group.isReversed work changes

theorem RequestRun.Turned.isTraced {orchestrator : Orchestrator} {run after : RequestRun}
    {position : Nat} {group acted : GroupRun} {turn : Turn} {floor next : Floor}
    (h : run.Turned orchestrator position group acted turn floor after next)
    (hgroup : group.IsTraced orchestrator.storage) : acted.IsTraced orchestrator.storage := by
  obtain ⟨started, -, hcourse⟩ := h.course
  intro work hfetching
  rw [h.acted_eq] at hfetching
  rw [h.group_eq]
  cases hcourse with
  | @works before next hwork hledger hcalls hclock recent recentFirst =>
      cases hfetching
      have hbefore : ∃ changes,
          Fetching.Traced orchestrator.storage group.group.isReversed before changes := by
        rcases hwork with hbegun | ⟨-, plan, -, rfl⟩
        · exact hgroup before hbegun
        · exact ⟨[], Fetching.traced_new _ _ _ _ plan⟩
      obtain ⟨changes, htraced⟩ := hbefore
      exact htraced.exists_actAll floor recent recentFirst
  | _ => cases hfetching

theorem RequestRun.isTraced_play (orchestrator : Orchestrator) (number start : Nat)
    (request : Request) (moves : List Move) :
    ∀ group ∈ ((new number start request).play orchestrator moves).groups,
      group.IsTraced orchestrator.storage :=
  groups_induction (fun _ _ _ _ => nofun) (fun hgroup hturned => hturned.isTraced hgroup) moves

/-- A query that ends well has added all points of the response that storage answered it
with, in order and in one turn; until then, and if it fails, it leaves every store as it
finds it, whatever the store is and whatever others do to it in between. In any run the
store of a group is its description, changed by such turns of its queries alone, one
after the other. -/
theorem Run.adds_whole_response_or_nothing (orchestrator : Orchestrator)
    (requests : List (Nat × Request)) :
    (∀ (reversed : Bool) (begun last : QueryRun) (trace : List (PointStore × PointStore)),
      begun.phase = .admission → begun.Turns orchestrator.storage reversed trace last →
        last.badge = begun.badge ∧ last.Accounts orchestrator.storage reversed trace) ∧
    ∀ run, Run.Reachable orchestrator requests run →
      ∀ request ∈ run.requests, ∀ group ∈ request.groups, ∀ work,
        group.phase = .fetching work →
          ∃ changes : List Fetching.Change,
            Fetching.Chained (Fetching.describedStore work.plan) changes work.store ∧
            (∀ change ∈ changes, change.1 < work.queries.length) ∧
            ∀ (position : Nat) (query : QueryRun), work.queries[position]? = some query →
              query.Accounts orchestrator.storage group.group.isReversed
                (Fetching.traceAt position changes) := by
  refine ⟨?_, ?_⟩
  · intro reversed begun last trace hbegun hturns
    exact ⟨hturns.badge_eq, hturns.accounts_of_admission hbegun⟩
  · intro run hreachable request hrequest group hgroup work hfetching
    obtain ⟨number, hnumber⟩ := List.mem_iff_getElem?.mp hrequest
    obtain ⟨-, -, -, hgroups⟩ := hreachable.played.of_play
      (motive := fun _ _ request => ∀ group ∈ request.groups,
        group.IsTraced orchestrator.storage)
      (RequestRun.isTraced_play orchestrator) hnumber
    obtain ⟨changes, htraced⟩ := hgroups group hgroup work hfetching
    exact ⟨changes, htraced.chained, htraced.within, fun position query => htraced.accounts⟩

/-- A query that has decoded a row when its body breaks off, and one that has added a row
to the store by then: the store stays as the other one left it. -/
theorem Run.adds_whole_response_or_nothing_of_late_fault :
    let row : Wire.Row := ⟨[0x61], [60], [⟨0x3ff0000000000000⟩], []⟩
    let good : Delivery := ⟨0, Wire.Row.encode .aggregated row⟩
    let orchestrator : Orchestrator :=
      ⟨.standard, fun ticket _ => ⟨0, .body ⟨if ticket.query = 0 then [good, ⟨5, [1]⟩] else [good],
        0, none⟩⟩, .absent⟩
    let begun (number : Nat) : QueryRun :=
      ⟨⟨⟨0, 0⟩, number⟩, ⟨"points", "", .ofPaths [], 60, 60, 60, .aggregated, some .max⟩, [],
        .ofSeconds 1, 0, 1000, .admission⟩
    let act (run : QueryRun) (now : Nat) : QueryRun :=
      (run.act orchestrator.storage ⟨⟨now, 0⟩, ⟨[]⟩, [], []⟩).1
    let failed := act (act (begun 0) 0) 5
    let ended := act (begun 1) 0
    let store := Fetching.collect false .empty (begun 1) ended
    failed.result? = some (.error (.decode
        ⟨"row 1 truncated: input ended with 1 byte(s) buffered", [1]⟩)) ∧
      ended.result? = some (.ok [row]) ∧
      QueryRun.AddsOnce false [row] [(.empty, store)] ∧
      ∃ trace, (begun 0).Turns orchestrator.storage false trace failed ∧
        trace.map Prod.fst = [.empty, store] ∧ trace.map Prod.snd = [.empty, store] := by
  intro row good orchestrator begun act failed ended store
  have hfailed : failed.result? = some (.error (.decode
      ⟨"row 1 truncated: input ended with 1 byte(s) buffered", [1]⟩)) := by decide +kernel
  have hended : ended.result? = some (.ok [row]) := by decide +kernel
  have haccounts := (adds_whole_response_or_nothing orchestrator []).1 false
  have hadds : (begun 1).Turns orchestrator.storage false [(.empty, store)] ended :=
    .cons _ .empty (.nil ended)
  have hadded := (haccounts _ _ _ rfl hadds).2
  rw [QueryRun.Accounts, hended] at hadded
  have hturns : (begun 0).Turns orchestrator.storage false _ failed :=
    .cons _ .empty (.cons _ store (.nil failed))
  have hleft := (haccounts _ _ _ rfl hturns).2
  rw [QueryRun.Accounts, hfailed] at hleft
  have hleaves : QueryRun.LeavesAll _ := hleft
  exact ⟨hfailed, hended, hadded.2, _, hturns, rfl, List.map_congr_left hleaves⟩

end SeriesGateway.Fetch
