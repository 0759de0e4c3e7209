import SeriesGateway.Proofs.Distinct
import SeriesGateway.Proofs.Fetch.Promptness
import SeriesGateway.Proofs.Fetch.Slots
import SeriesGateway.Proofs.Fetch.Waking

/-! # Nobody is kept waiting

A run lines up everybody who must act, and lets them act in the order in which they were
lined up. Those who must act at one time are soon served, because there are only so many
who can be ahead of them; so the clock moves on only when nobody must act. Hence a run that
goes on to its end is a prompt one.
-/

namespace SeriesGateway.Fetch.Run

variable {orchestrator : Orchestrator} {requests : List (Nat × Request)} {run : Run}

/-- The agent is a request of the run or a group of one. -/
def Knows (run : Run) : Agent → Prop
  | .request number => number < run.requests.length
  | .group id => ∃ request group, run.requests[id.request]? = some request ∧
    request.groups[id.position]? = some group

/-- Of two groups of one request that are to begin, the one that comes first in the request
is lined up first. -/
def InOrder (run : Run) (first second : Agent) : Prop :=
  ∀ number earlier later, first = .group ⟨number, earlier⟩ → second = .group ⟨number, later⟩ →
    run.Ready ⟨number, earlier⟩ → run.Ready ⟨number, later⟩ → earlier < later

/-- Agents of the run are lined up, each once, and groups that are to begin in their order;
and nobody else waits for slots. -/
structure Lineup (run : Run) : Prop where
  nodup : run.queue.Nodup
  known : ∀ agent ∈ run.queue, run.Knows agent
  waiting : run.floor.ledger.Knows fun id => run.Knows (.group id)
  order : run.queue.Pairwise run.InOrder

/-! ## Lining up -/

/-- Who is lined up is lined up behind the others. -/
theorem exists_queue_append {queue : List Agent} (agents : List Agent) (hnodup : queue.Nodup) :
    ∃ more, (queue ++ agents).eraseDups = queue ++ more ∧ more.Nodup ∧
      (agents.Nodup → more.Sublist agents) ∧
      ∀ agent, agent ∈ more ↔ agent ∈ agents ∧ agent ∉ queue := by
  refine ⟨(agents.removeAll queue).eraseDups, ?_, nodup_eraseDups _, ?_, ?_⟩
  · rw [List.eraseDups_append, eraseDups_of_nodup hnodup]
  · intro hagents
    have hsub : (agents.removeAll queue).Sublist agents := List.filter_sublist
    rw [eraseDups_of_nodup (hsub.nodup hagents)]
    exact hsub
  · intro agent
    simp [List.removeAll]

/-- Agents stay known. -/
theorem knows_set {after : Run} {number : Nat} {request following : RequestRun}
    (hrequest : run.requests[number]? = some request)
    (hrequests : after.requests = run.requests.set number following)
    (hgroups : request.groups = [] ∨ following.groups.length = request.groups.length)
    {agent : Agent} (h : run.Knows agent) : after.Knows agent := by
  have hlt := (List.getElem?_eq_some_iff.mp hrequest).1
  cases agent with
  | request other =>
      rw [Knows, hrequests, List.length_set]
      exact h
  | group id =>
      obtain ⟨found, group, hfound, hgroup⟩ := h
      by_cases hsame : id.request = number
      · rw [hsame, hrequest] at hfound
        obtain rfl := Option.some.inj hfound
        have hposition := (List.getElem?_eq_some_iff.mp hgroup).1
        have hlength : id.position < following.groups.length := by
          rcases hgroups with hnone | hlength
          · simp [hnone] at hposition
          · rwa [hlength]
        refine ⟨following, following.groups[id.position], ?_, List.getElem?_eq_getElem hlength⟩
        rw [hrequests, hsame, List.getElem?_set_self hlt]
      · refine ⟨found, group, ?_, hgroup⟩
        rw [hrequests, List.getElem?_set_ne (Ne.symm hsame)]
        exact hfound

theorem Played.knows_act (h : Played orchestrator requests run) (agent : Agent) {other : Agent}
    (hother : run.Knows other) : (run.act agent).Knows other := by
  cases agent with
  | request number =>
      rcases h.actRequest_cases number with ⟨-, hsame⟩ | ⟨request, hrequest, hafter⟩
      · rwa [Run.act, hsame]
      · obtain ⟨_, asked, -, henrolled, -⟩ := h.exists_enrolled hrequest
        refine knows_set hrequest (congrArg Run.requests hafter) ?_ hother
        rcases request.act_cases orchestrator run.floor.clock with
          ⟨hact, -⟩ | ⟨_, _, -, -, -, hact⟩ | ⟨start, hpending, -, -, -⟩ | ⟨_, -, hact⟩
        · rw [hact]; exact .inr rfl
        · rw [hact]; exact .inr rfl
        · exact .inl (henrolled.groups_of_pending hpending)
        · rw [hact, RequestRun.groups_settle]; exact .inr rfl
  | group id =>
      rcases groupTurn_or_idle h id with ⟨request, started, group, agents, hturn⟩ | hidle
      · have hrequests := congrArg Run.requests hturn.after_eq
        exact knows_set hturn.request_eq hrequests (.inr (by simp)) hother
      · obtain ⟨hrequests, -⟩ := actGroup_of_idle hidle
        cases other with
        | request other => rw [Run.act, Knows, hrequests]; exact hother
        | group other => rw [Run.act, Knows, hrequests]; exact hother

theorem knows_of_openGroup? {id : GroupId} {group : GroupRun}
    (h : run.openGroup? id = some group) : run.Knows (.group id) := by
  obtain ⟨request, hrequest, hgroup⟩ := Option.bind_eq_some_iff.mp h
  exact ⟨request, group, hrequest, (RequestRun.openGroup?_eq_some_iff.mp hgroup).2⟩

/-! ## Turns -/

/-- After the turn of a request, it need not act; and who must had to act before it too, or
is one of its groups, which have lined up to begin. -/
theorem RequestTurn.pressing {number : Nat} {begun : List GroupId} {after : Run}
    (h : run.RequestTurn number begun after) {other : Agent} (hpressing : after.Pressing other) :
    other ≠ .request number ∧ (run.Pressing other ∨
      other ∈ after.queue ∧ (∃ id, other = .group id) ∧ run.Pressing (.request number)) := by
  cases other with
  | request other =>
      obtain ⟨timer, htimer, hdue⟩ := hpressing
      obtain ⟨hbefore, hlater⟩ := h.pending other timer htimer
      rw [h.now_eq] at hdue
      refine ⟨?_, .inl ⟨timer, hbefore, hdue⟩⟩
      rintro ⟨⟩
      exact Nat.lt_irrefl _ (Nat.lt_of_lt_of_le (hlater rfl) hdue)
  | group id =>
      refine ⟨nofun, ?_⟩
      obtain ⟨group, hgroup, hmust⟩ : ∃ group, after.openGroup? id = some group ∧
          (group.phase = .ready ∨ ∃ timer ∈ group.timers, timer.due ≤ run.floor.clock.now) := by
        rw [← h.now_eq]
        rcases hpressing with ⟨group, hgroup, hready⟩ | ⟨group, hgroup, hdue⟩
        · exact ⟨group, hgroup, .inl hready⟩
        · exact ⟨group, hgroup, .inr hdue⟩
      rcases h.openGroup id group hgroup with hbefore | ⟨hbegun, -⟩
      · exact .inl (hmust.imp (fun hready => ⟨group, hbefore, hready⟩)
          fun hdue => ⟨group, hbefore, hdue⟩)
      · obtain ⟨-, -, -, hdue⟩ := h.fresh id hbegun
        refine .inr ⟨?_, ⟨id, rfl⟩, hdue⟩
        rcases h.queue_eq with ⟨-, hnone⟩ | hqueue
        · rw [hnone] at hbegun
          cases hbegun
        · rw [hqueue, List.mem_eraseDups]
          exact List.mem_append_right _ (List.mem_map_of_mem hbegun)

/-- After the turn of a group, it need not act, and who must had to act before it too. -/
theorem GroupTurn.pressing {id : GroupId} {request : RequestRun} {started : Nat}
    {group : GroupRun} {agents : List Agent}
    (h : run.GroupTurn orchestrator id request started group agents)
    (hrun : Played orchestrator requests run) {other : Agent}
    (hpressing : (run.actGroup id).Pressing other) :
    other ≠ .group id ∧ run.Pressing other := by
  have hnow := h.now_eq hrun
  cases other with
  | request other =>
      obtain ⟨timer, htimer, hdue⟩ := hpressing
      rw [h.pending?_eq] at htimer
      rw [hnow] at hdue
      exact ⟨nofun, timer, htimer, hdue⟩
  | group other =>
      have hother : other ≠ id := by
        rintro rfl
        rcases hpressing with ⟨found, hfound, hready⟩ | ⟨found, hfound, timer, htimer, hdue⟩
        · exact (h.before_timers hrun hfound).1 hready
        · rw [hnow] at hdue
          have hlt := (h.before_timers hrun hfound).2 timer htimer
          exact Nat.lt_irrefl _ (Nat.lt_of_lt_of_le hlt hdue)
      rw [Pressing, Ready, h.openGroup?_eq, if_neg hother, hnow] at hpressing
      exact ⟨fun hsame => hother (Agent.group.inj hsame), hpressing⟩

/-- The same of a group whose turn does nothing. -/
theorem pressing_of_idle {id : GroupId}
    (hidle : ∀ group, run.openGroup? id = some group → group.isDone = true) {other : Agent}
    (hpressing : (run.actGroup id).Pressing other) : other ≠ .group id ∧ run.Pressing other := by
  obtain ⟨hrequests, hnow, -⟩ := actGroup_of_idle hidle
  have hbefore : run.Pressing other := by
    cases other with
    | request other => rwa [Pressing, hnow, pending?_congr hrequests] at hpressing
    | group other => rwa [Pressing, Ready, hnow, openGroup?_congr hrequests] at hpressing
  refine ⟨?_, hbefore⟩
  rintro rfl
  -- a group that has ended is past its first turn, and has no timer
  rcases hbefore with ⟨group, hgroup, hready⟩ | ⟨group, hgroup, timer, htimer, -⟩
  · rw [GroupRun.isDone_iff_phase.mp (hidle group hgroup)] at hready
    cases hready
  · rw [GroupRun.timers, GroupRun.isDone_iff_phase.mp (hidle group hgroup)] at htimer
    cases htimer

/-- Who must act after a turn is somebody else; and had to act before it too, or is to begin
since this turn, and lined up. -/
theorem Played.pressing_act (h : Played orchestrator requests run) {agent other : Agent}
    (hpressing : (run.act agent).Pressing other) :
    other ≠ agent ∧ (run.Pressing other ∨ other ∈ (run.act agent).queue ∧
      (∃ id, other = .group id) ∧ ∃ number, agent = .request number ∧ run.Pressing agent) := by
  cases agent with
  | request number =>
      obtain ⟨begun, hturn⟩ := h.requestTurn number
      obtain ⟨hother, hbefore⟩ := hturn.pressing hpressing
      exact ⟨hother, hbefore.imp_right fun ⟨hqueue, hgroup, hdue⟩ =>
        ⟨hqueue, hgroup, number, rfl, hdue⟩⟩
  | group id =>
      rcases groupTurn_or_idle h id with ⟨request, started, group, agents, hturn⟩ | hidle
      · exact (hturn.pressing h hpressing).imp_right .inl
      · exact (pressing_of_idle hidle hpressing).imp_right .inl

theorem mem_waitingGroups {request : RequestRun} {id : GroupId} (h : id ∈ request.waitingGroups) :
    ∃ group ∈ request.groups, group.id = id := by
  unfold RequestRun.waitingGroups at h
  obtain ⟨entry, hentry, rfl⟩ := List.mem_map.mp h
  rw [Timer.mem_inOrder] at hentry
  obtain ⟨group, hgroup, hentry⟩ := List.mem_filterMap.mp hentry
  obtain ⟨timer, -, rfl⟩ := Option.map_eq_some_iff.mp hentry
  exact ⟨group, hgroup, rfl⟩

/-- After the turn of a group, only groups of the run are woken or wait for slots. -/
theorem GroupTurn.knows {id : GroupId} {request : RequestRun} {started : Nat} {group : GroupRun}
    {agents : List Agent} (h : run.GroupTurn orchestrator id request started group agents)
    (hrun : Played orchestrator requests run)
    (hwaiting : run.floor.ledger.Knows fun id => run.Knows (.group id)) :
    (group.act (request.context orchestrator started) request.barrier
      { run.floor with woken := [] }).2.2.2.Knows fun id => run.Knows (.group id) := by
  obtain ⟨_, asked, -, henrolled, -⟩ := hrun.exists_enrolled h.request_eq
  have hid : group.id = id := henrolled.id_eq h.group_eq
  have hknown : run.Knows (.group id) := ⟨request, group, h.request_eq, h.group_eq⟩
  have hfloor : Floor.Knows (fun id => run.Knows (.group id)) { run.floor with woken := [] } :=
    ⟨hwaiting, by simp⟩
  apply GroupRun.knows_act h.open_eq (h.of_played hrun).1 _ hfloor
  · rwa [hid]
  · intro query hquery
    have hown : query.ticket.group = id := by
      cases hphase : group.phase with
      | fetching work =>
          rw [hphase] at hquery
          exact group_of_badges (henrolled.badges h.group_eq hphase) _ (List.mem_map_of_mem hquery)
      | _ =>
          rw [hphase] at hquery
          cases hquery
    rwa [hown]

theorem GroupTurn.known_of_mem {id : GroupId} {request : RequestRun} {started : Nat}
    {group : GroupRun} {agents : List Agent}
    (h : run.GroupTurn orchestrator id request started group agents)
    (hrun : Played orchestrator requests run)
    (hwaiting : run.floor.ledger.Knows fun id => run.Knows (.group id)) :
    ∀ agent ∈ agents, run.Knows agent := by
  obtain ⟨_, asked, -, henrolled, -⟩ := hrun.exists_enrolled h.request_eq
  intro agent hagent
  rcases h.lined agent hagent with rfl | ⟨other, rfl, hreleased | hwoken⟩
  · exact (List.getElem?_eq_some_iff.mp h.request_eq).1
  · obtain ⟨found, hfound, rfl⟩ := mem_waitingGroups hreleased
    obtain ⟨position, hposition⟩ := List.mem_iff_getElem?.mp hfound
    rw [henrolled.id_eq hposition]
    exact ⟨request, found, h.request_eq, hposition⟩
  · exact (h.knows hrun hwaiting).woken other hwoken

namespace Lineup

theorem lineUp (h : Lineup run) {rest : List Agent} (hrest : rest.Sublist run.queue) :
    Lineup { run with queue := rest } where
  nodup := hrest.nodup h.nodup
  known agent hagent := h.known agent (hrest.subset hagent)
  waiting := h.waiting
  order := h.order.sublist hrest

/-- The line after a turn: others may be lined up behind those who stand in it. The groups
among them that are to begin are in order, and of another request than those before. -/
theorem extend (h : Lineup run) {after : Run} {more : List Agent}
    (hqueue : after.queue = run.queue ++ more) (hnodup : more.Nodup)
    (hnew : ∀ agent ∈ more, agent ∉ run.queue)
    (hknown : ∀ agent, run.Knows agent → after.Knows agent)
    (hmore : ∀ agent ∈ more, after.Knows agent)
    (hwaiting : after.floor.ledger.Knows fun id => run.Knows (.group id))
    (hready : ∀ id, .group id ∈ run.queue → after.Ready id → run.Ready id)
    (hascending : more.Pairwise after.InOrder)
    (hapart : ∀ first second, .group first ∈ run.queue → .group second ∈ more →
      after.Ready second → first.request ≠ second.request) : Lineup after where
  nodup := by
    rw [hqueue, List.nodup_append]
    refine ⟨h.nodup, hnodup, ?_⟩
    rintro first hfirst second hsecond rfl
    exact hnew first hsecond hfirst
  known := by
    rw [hqueue]
    intro agent hagent
    exact (List.mem_append.mp hagent).elim (fun hold => hknown agent (h.known agent hold))
      (hmore agent)
  waiting id pool hpool ticket hticket := hknown _ (hwaiting id pool hpool ticket hticket)
  order := by
    rw [hqueue, List.pairwise_append]
    refine ⟨h.order.imp_of_mem ?_, hascending, ?_⟩
    · rintro first second hfirst hsecond horder number earlier later rfl rfl hearlier hlater
      exact horder number earlier later rfl rfl (hready _ hfirst hearlier)
        (hready _ hsecond hlater)
    · rintro first hfirst second hsecond number earlier later rfl rfl - hlater
      exact absurd rfl (hapart ⟨number, earlier⟩ ⟨number, later⟩ hfirst hsecond hlater)

theorem actRequest (h : Lineup run) (hrun : Played orchestrator requests run) (number : Nat) :
    Lineup (run.actRequest number) ∧
      ∃ more, (run.actRequest number).queue = run.queue ++ more := by
  obtain ⟨begun, hturn⟩ := hrun.requestTurn number
  obtain ⟨more, hqueue, hnodup, hsub, hmem⟩ :=
    exists_queue_append (begun.map Agent.group) h.nodup
  have hafter : (run.actRequest number).queue = run.queue ++ more := by
    rcases hturn.queue_eq with ⟨hsame, rfl⟩ | hsame
    · have hnone : more = [] := by
        rw [List.eq_nil_iff_forall_not_mem]
        intro agent hagent
        have hlined := ((hmem agent).mp hagent).1
        cases hlined
      rw [hsame, hnone, List.append_nil]
    · rw [hsame, hqueue]
  have hbegun : (begun.map Agent.group).Pairwise (run.actRequest number).InOrder := by
    rw [List.pairwise_map]
    refine hturn.ascending.imp ?_
    rintro first second hlt number earlier later hfirst hsecond - -
    cases hfirst
    cases hsecond
    exact hlt
  have hdistinct : (begun.map Agent.group).Nodup := by
    refine List.Nodup.map (fun _ _ hsame => Agent.group.inj hsame) (hturn.ascending.imp ?_)
    rintro first second hlt rfl
    exact Nat.lt_irrefl _ hlt
  -- no group of a request that has not begun is lined up
  have hapart : ∀ first second, Agent.group first ∈ run.queue → second ∈ begun →
      first.request ≠ second.request := by
    intro first second hfirst hsecond hsame
    obtain ⟨request, group, hrequest, hgroup⟩ := h.known _ hfirst
    obtain ⟨hnumber, hnone, -⟩ := hturn.fresh second hsecond
    rw [hsame, hnumber] at hrequest
    rw [hnone request hrequest] at hgroup
    cases hgroup
  refine ⟨h.extend hafter hnodup (fun agent hagent => ((hmem agent).mp hagent).2)
    (fun agent => hrun.knows_act (.request number)) ?_ ?_ ?_ ?_ ?_, more, hafter⟩
  · intro agent hagent
    obtain ⟨id, hid, rfl⟩ := List.mem_map.mp ((hmem agent).mp hagent).1
    obtain ⟨hnumber, -, ⟨request, group, hrequest, hgroup⟩, -⟩ := hturn.fresh id hid
    refine ⟨request, group, ?_, hgroup⟩
    rwa [hnumber]
  · rw [hturn.ledger_eq]
    exact h.waiting
  · rintro id hid ⟨group, hgroup, hready⟩
    rcases hturn.openGroup id group hgroup with hbefore | ⟨hnow, -⟩
    · exact ⟨group, hbefore, hready⟩
    · exact absurd rfl (hapart id id hid hnow)
  · exact hbegun.sublist (hsub hdistinct)
  · intro first second hfirst hsecond _
    obtain ⟨found, hfound, hsame⟩ := List.mem_map.mp ((hmem _).mp hsecond).1
    obtain rfl := Agent.group.inj hsame
    exact hapart first found hfirst hfound

theorem actGroup (h : Lineup run) (hrun : Played orchestrator requests run) (id : GroupId)
    (hready : ∀ other, run.Ready other → other ≠ id → .group other ∈ run.queue) :
    Lineup (run.actGroup id) ∧ ∃ more, (run.actGroup id).queue = run.queue ++ more := by
  rcases groupTurn_or_idle hrun id with ⟨request, started, group, agents, hturn⟩ | hidle
  · obtain ⟨more, hqueue, hnodup, -, hmem⟩ := exists_queue_append agents h.nodup
    have hafter : (run.actGroup id).queue = run.queue ++ more := by
      rw [hturn.after_eq]
      exact hqueue
    have hbefore : ∀ other, (run.actGroup id).Ready other → run.Ready other ∧ other ≠ id := by
      rintro other ⟨found, hfound, hfirst⟩
      have hother : other ≠ id := by
        rintro rfl
        exact (hturn.before_timers hrun hfound).1 hfirst
      rw [hturn.openGroup?_eq, if_neg hother] at hfound
      exact ⟨⟨found, hfound, hfirst⟩, hother⟩
    refine ⟨h.extend hafter hnodup (fun agent hagent => ((hmem agent).mp hagent).2)
      (fun agent => hrun.knows_act (.group id)) ?_ ?_ ?_ ?_ ?_, more, hafter⟩
    · intro agent hagent
      exact hrun.knows_act (.group id)
        (hturn.known_of_mem hrun h.waiting agent ((hmem agent).mp hagent).1)
    · rw [hturn.after_eq]
      exact (hturn.knows hrun h.waiting).waiting
    · exact fun other _ hother => (hbefore other hother).1
    · -- groups that are to begin are lined up already
      refine List.pairwise_of_forall_mem_list ?_
      rintro first - second hsecond number earlier later rfl rfl - hlater
      obtain ⟨hthen, hother⟩ := hbefore _ hlater
      exact absurd (hready _ hthen hother) ((hmem _).mp hsecond).2
    · intro first second _ hsecond hnow
      obtain ⟨hthen, hother⟩ := hbefore second hnow
      exact absurd (hready second hthen hother) ((hmem _).mp hsecond).2
  · obtain ⟨hrequests, -, hledger, hqueue, -⟩ := actGroup_of_idle hidle
    have hsame : (run.actGroup id).queue = run.queue ++ [] := by
      rw [List.append_nil]
      rcases hqueue with hqueue | hqueue
      · exact hqueue
      · rw [hqueue, eraseDups_of_nodup h.nodup]
    refine ⟨h.extend hsame .nil (by simp) (fun agent => hrun.knows_act (.group id)) (by simp) ?_ ?_
      .nil (by simp), [], hsame⟩
    · rw [hledger]
      exact h.waiting
    · rintro other - ⟨group, hgroup, hfirst⟩
      rw [openGroup?_congr hrequests] at hgroup
      exact ⟨group, hgroup, hfirst⟩

theorem act (h : Lineup run) (hrun : Played orchestrator requests run) (agent : Agent)
    (hready : ∀ id, run.Ready id → .group id ≠ agent → .group id ∈ run.queue) :
    Lineup (run.act agent) ∧ ∃ more, (run.act agent).queue = run.queue ++ more := by
  cases agent with
  | request number => exact h.actRequest hrun number
  | group id =>
      exact h.actGroup hrun id fun other hother hne =>
        hready other hother fun hsame => hne (Agent.group.inj hsame)

end Lineup

/-! ## How many there are -/

/-- All agents that there can be. -/
def everybody (requests : List (Nat × Request)) : List Agent :=
  requests.zipIdx.flatMap fun ((_, asked), number) =>
    .request number :: (List.range asked.size).map fun position => .group ⟨number, position⟩

/-- How many agents there can be. -/
def crowd (requests : List (Nat × Request)) : Nat :=
  (requests.map fun entry => 1 + entry.2.size).foldr (· + ·) 0

theorem length_everybody (requests : List (Nat × Request)) :
    (everybody requests).length = crowd requests := by
  have hsizes : ∀ entries : List ((Nat × Request) × Nat),
      (entries.flatMap fun ((_, asked), number) => Agent.request number ::
        (List.range asked.size).map fun position => .group ⟨number, position⟩).length =
      ((entries.map Prod.fst).map fun entry => 1 + entry.2.size).foldr (· + ·) 0 := by
    intro entries
    induction entries with
    | nil => rfl
    | cons entry rest ih => simp [ih, Nat.add_comm, Nat.add_assoc]
  rw [everybody, hsizes, List.zipIdx_map_fst, crowd]

theorem Reachable.mem_everybody (h : Reachable orchestrator requests run) {agent : Agent}
    (hagent : run.Knows agent) : agent ∈ everybody requests := by
  have hentry : ∀ {number begins asked}, requests[number]? = some (begins, asked) →
      ((begins, asked), number) ∈ requests.zipIdx := fun hasked =>
    List.mem_zipIdx_iff_getElem?.mpr hasked
  rw [everybody, List.mem_flatMap]
  cases agent with
  | request number =>
      have hlt : number < requests.length := h.length_requests ▸ hagent
      exact ⟨_, hentry (List.getElem?_eq_getElem hlt), List.mem_cons_self⟩
  | group id =>
      obtain ⟨request, group, hrequest, hgroup⟩ := hagent
      obtain ⟨begins, asked, hasked, -, hsound⟩ := h.played.exists_enrolled hrequest
      have hlt := Nat.lt_of_lt_of_le (List.getElem?_eq_some_iff.mp hgroup).1 hsound.length_groups_le
      refine ⟨_, hentry hasked, List.mem_cons_of_mem _ (List.mem_map.mpr ⟨id.position, ?_, rfl⟩)⟩
      exact List.mem_range.mpr hlt

theorem Lineup.length_le (h : Lineup run) (hrun : Reachable orchestrator requests run) :
    run.queue.length ≤ crowd requests := by
  rw [← length_everybody]
  exact (h.nodup.subperm fun agent hagent => hrun.mem_everybody (h.known agent hagent)).length_le

/-- There are turns enough for everybody to act twice. -/
theorem Reachable.crowd_le_turnLimit (h : Reachable orchestrator requests run) :
    crowd requests + crowd requests ≤ run.turnLimit := by
  have hasked : run.requests.map (·.request.size) = requests.map fun entry => entry.2.size := by
    apply List.ext_getElem?
    intro number
    rw [List.getElem?_map, List.getElem?_map]
    cases hrequest : run.requests[number]? with
    | none =>
        have hlength := List.getElem?_eq_none_iff.mp hrequest
        rw [h.length_requests] at hlength
        rw [List.getElem?_eq_none hlength]
        rfl
    | some request =>
        obtain ⟨begins, asked, hasked, -, hsound⟩ := h.played.exists_enrolled hrequest
        rw [hasked, Option.map_some, Option.map_some, hsound.request_eq]
  have hlimit : run.turnLimit =
      ((requests.map fun entry => entry.2.size).map fun size =>
        2 + turnsPerGroup * size).foldr (· + ·) 1 := by
    rw [← hasked, turnLimit, List.map_map]
    rfl
  have hpositive : 2 ≤ turnsPerGroup := by decide
  rw [hlimit, crowd]
  clear hasked hlimit h
  induction requests with
  | nil => simp
  | cons entry rest ih =>
      have hsize : 2 * entry.2.size ≤ turnsPerGroup * entry.2.size :=
        Nat.mul_le_mul_right _ hpositive
      simp only [List.map_cons, List.foldr_cons] at ih ⊢
      omega

/-! ## Everybody is served -/

/-- Everybody who must act is among the first `all` in the line, and requests are among the
first `requests`. -/
structure Attended (orchestrator : Orchestrator) (requests : List (Nat × Request))
    (soon all : Nat) (run : Run) : Prop where
  prompt : Prompt orchestrator requests run
  lineup : Lineup run
  soon : ∀ number, run.Pressing (.request number) → .request number ∈ run.queue.take soon
  all : ∀ agent, run.Pressing agent → agent ∈ run.queue.take all

/-- The run after a turn of the first in the line. -/
def turn (run : Run) : Run :=
  match run.queue with
  | [] => run
  | agent :: rest => ({ run with queue := rest }).act agent

theorem actAll_eq_iterate (turns : Nat) (run : Run) : run.actAll turns = turn^[turns] run := by
  induction turns generalizing run with
  | zero => rfl
  | succ turns ih =>
      rw [actAll, Function.iterate_succ_apply]
      split
      next hnone =>
        have hidle : run.turn = run := by rw [turn, hnone]
        rw [hidle]
        exact (Function.iterate_fixed hidle turns).symm
      next agent rest hqueue =>
        rw [ih, turn, hqueue]

namespace Attended

variable {soon all : Nat}

/-- After a turn those who must act have come up in the line. Only a request that must act
leaves others to act behind it. -/
theorem turn (h : Attended orchestrator requests soon all run) {agent : Agent} {rest : List Agent}
    (hqueue : run.queue = agent :: rest) :
    Prompt orchestrator requests run.turn ∧ Lineup run.turn ∧
      (∀ number, run.turn.Pressing (.request number) →
        .request number ∈ run.turn.queue.take (soon - 1)) ∧
      ∀ other, run.turn.Pressing other → other ∈ run.turn.queue.take (all - 1) ∨
        other ∈ run.turn.queue ∧ soon ≠ 0 := by
  let here : Run := { run with queue := rest }
  have hturn : run.turn = here.act agent := by rw [Run.turn, hqueue]
  have hplayed : Played orchestrator requests here := (h.prompt.reachable.lineUp rest).played
  have hall : ∀ other, run.Pressing other → other ≠ agent → other ∈ rest := by
    intro other hother hne
    have hmem := List.mem_of_mem_take (h.all other hother)
    rw [hqueue] at hmem
    exact (List.mem_cons.mp hmem).resolve_left hne
  have hline : Lineup here :=
    h.lineup.lineUp (by rw [hqueue]; exact List.sublist_cons_self agent rest)
  obtain ⟨hlineup, more, hmore⟩ := hline.act hplayed agent
    fun id hready hne => hall _ (.inl hready) hne
  rw [hturn]
  -- whoever had to act before the turn is one place further on
  have hup : ∀ {other places}, other ≠ agent → other ∈ run.queue.take places →
      other ∈ (here.act agent).queue.take (places - 1) := by
    intro other places hne hmem
    rw [hqueue] at hmem
    rw [hmore]
    cases places with
    | zero => simp at hmem
    | succ places =>
        rw [List.take_succ_cons] at hmem
        have hrest := (List.mem_cons.mp hmem).resolve_left hne
        rw [Nat.add_sub_cancel, List.take_append]
        exact List.mem_append_left _ hrest
  refine ⟨(h.prompt.lineUp rest).act agent ?_, hlineup, ?_, ?_⟩
  · rintro id rfl hready position hlt hearlier
    have hbehind := hall (.group ⟨id.request, position⟩) (.inl hearlier) fun hsame =>
      Nat.ne_of_lt hlt (congrArg GroupId.position (Agent.group.inj hsame))
    have horder := h.lineup.order
    rw [hqueue, List.pairwise_cons] at horder
    have hgreater := horder.1 _ hbehind id.request id.position position rfl rfl hready hearlier
    exact Nat.lt_asymm hlt hgreater
  · intro number hpressing
    obtain ⟨hne, hbefore | ⟨-, ⟨id, hid⟩, -⟩⟩ := hplayed.pressing_act hpressing
    · exact hup hne (h.soon number hbefore)
    · cases hid
  · intro other hpressing
    obtain ⟨hne, hbefore | ⟨hlined, -, number, rfl, hbegan⟩⟩ := hplayed.pressing_act hpressing
    · exact .inl (hup hne (h.all other hbefore))
    · refine .inr ⟨hlined, ?_⟩
      rintro rfl
      have hnone := h.soon number hbegan
      simp at hnone

theorem of_nil (h : Attended orchestrator requests soon all run) (hqueue : run.queue = [])
    (fewer less : Nat) : Attended orchestrator requests fewer less run.turn := by
  have hidle : run.turn = run := by rw [Run.turn, hqueue]
  have hsoon := h.soon
  have hall := h.all
  rw [hqueue] at hsoon hall
  rw [hidle]
  exact ⟨h.prompt, h.lineup, fun number hpressing => by simpa using hsoon number hpressing,
    fun agent hpressing => by simpa using hall agent hpressing⟩

/-- When all requests that must act have had a turn, the groups that they began with are
lined up, and nobody else begins. -/
theorem iterate_soon (h : Attended orchestrator requests soon (crowd requests) run) :
    Attended orchestrator requests 0 (crowd requests) (Run.turn^[soon] run) := by
  induction soon generalizing run with
  | zero => exact h
  | succ soon ih =>
      rw [Function.iterate_succ_apply]
      apply ih
      cases hqueue : run.queue with
      | nil => exact h.of_nil hqueue _ _
      | cons agent rest =>
          obtain ⟨hprompt, hlineup, hsoon, hall⟩ := h.turn hqueue
          refine ⟨hprompt, hlineup, hsoon, fun other hpressing => ?_⟩
          rw [List.take_of_length_le (hlineup.length_le hprompt.reachable)]
          exact (hall other hpressing).elim List.mem_of_mem_take And.left

theorem iterate_all (h : Attended orchestrator requests 0 all run) {turns : Nat}
    (hturns : all ≤ turns) : Attended orchestrator requests 0 0 (Run.turn^[turns] run) := by
  induction turns generalizing run all with
  | zero =>
      obtain rfl := Nat.le_zero.mp hturns
      exact h
  | succ turns ih =>
      rw [Function.iterate_succ_apply]
      refine ih ?_ (Nat.sub_le_of_le_add hturns)
      cases hqueue : run.queue with
      | nil => exact h.of_nil hqueue _ _
      | cons agent rest =>
          obtain ⟨hprompt, hlineup, hsoon, hall⟩ := h.turn hqueue
          exact ⟨hprompt, hlineup, hsoon, fun other hpressing =>
            (hall other hpressing).resolve_right fun hnone => hnone.2 rfl⟩

/-- When agents have acted, nobody must act any more. -/
theorem actAll (h : Attended orchestrator requests (crowd requests) (crowd requests) run) :
    Attended orchestrator requests 0 0 (run.actAll run.turnLimit) := by
  have hlimit := h.prompt.reachable.crowd_le_turnLimit
  have hturns : crowd requests ≤ run.turnLimit - crowd requests := by omega
  have hserved := h.iterate_soon.iterate_all hturns
  rw [actAll_eq_iterate]
  rwa [← Function.iterate_add_apply, Nat.sub_add_cancel (by omega)] at hserved

theorem not_pressing (h : Attended orchestrator requests 0 0 run) (agent : Agent) :
    ¬ run.Pressing agent := by
  intro hpressing
  have hmem := h.all agent hpressing
  simp at hmem

theorem lt_due (h : Attended orchestrator requests 0 0 run) {entry : Timer × Agent}
    (hentry : entry ∈ run.timers) : run.floor.clock.now < entry.1.due := by
  apply Nat.lt_of_not_le
  intro hdue
  rcases h.prompt.reachable.played.mem_timers_iff.mp hentry with
    ⟨number, hpending, -⟩ | ⟨id, group, hgroup, htimer, -⟩
  · exact h.not_pressing (.request number) ⟨entry.1, hpending, hdue⟩
  · exact h.not_pressing (.group id) (.inr ⟨group, hgroup, entry.1, htimer, hdue⟩)

end Attended

/-- Who has a timer must act when it has run out. -/
theorem mem_timers_of_pressing (h : Played orchestrator requests run)
    (hready : ∀ id, ¬ run.Ready id) {agent : Agent} {time : Nat}
    (hpressing : Pressing { run with floor.clock.now := time } agent) :
    ∃ entry ∈ run.timers, entry.1.due ≤ time ∧ entry.2 = agent := by
  cases agent with
  | request number =>
      obtain ⟨timer, htimer, hdue⟩ := hpressing
      exact ⟨(timer, .request number), h.mem_timers_iff.mpr (.inl ⟨number, htimer, rfl⟩), hdue, rfl⟩
  | group id =>
      obtain ⟨group, hgroup, timer, htimer, hdue⟩ := hpressing.resolve_left (hready id)
      exact ⟨(timer, .group id), h.mem_timers_iff.mpr (.inr ⟨id, group, hgroup, htimer, rfl⟩), hdue,
        rfl⟩

theorem knows_of_mem_timers (h : Played orchestrator requests run) {entry : Timer × Agent}
    (hentry : entry ∈ run.timers) : run.Knows entry.2 := by
  rcases h.mem_timers_iff.mp hentry with ⟨number, hpending, hagent⟩ | ⟨id, group, hgroup, -, hagent⟩
  · obtain ⟨request, hrequest, -⟩ := Option.bind_eq_some_iff.mp hpending
    rw [hagent]
    exact (List.getElem?_eq_some_iff.mp hrequest).1
  · rw [hagent]
    exact knows_of_openGroup? hgroup

theorem mem_due {timers : List (Timer × Agent)} {time : Nat} {agent : Agent} :
    agent ∈ due timers time ↔ ∃ entry ∈ timers, entry.1.due = time ∧ entry.2 = agent := by
  simp only [due, List.mem_map, Timer.mem_inOrder, List.mem_filter, decide_eq_true_eq,
    and_assoc]

/-- The clock moves on to the next timer, and those whose timers run out are lined up. -/
theorem Attended.advance (h : Attended orchestrator requests 0 0 run) {moved : Run}
    (hmoved : run.advance? = some moved) :
    Attended orchestrator requests (crowd requests) (crowd requests) moved := by
  rw [advance?, Option.map_eq_some_iff] at hmoved
  obtain ⟨time, htime, rfl⟩ := hmoved
  obtain ⟨hmem, hleast⟩ := List.min?_eq_some_iff.mp htime
  have hdue : ∀ entry ∈ run.timers, time ≤ entry.1.due := fun entry hentry =>
    hleast _ (List.mem_map_of_mem hentry)
  have hforward : run.floor.clock.now ≤ time := by
    obtain ⟨entry, hentry, rfl⟩ := List.mem_map.mp hmem
    exact Nat.le_of_lt (h.lt_due hentry)
  have hready : ∀ id, ¬ run.Ready id := fun id hready =>
    h.not_pressing (.group id) (Or.inl hready)
  have hrun := h.prompt.reachable.played
  let later : Run := { run with floor.clock.now := time }
  let moved := later.lineUp (due run.timers time)
  have hprompt : Prompt orchestrator requests moved :=
    (h.prompt.pass hforward hready hdue).lineUp _
  obtain ⟨more, hqueue, hnodup, -, hmore⟩ :=
    exists_queue_append (due run.timers time) h.lineup.nodup
  have hlineup : Lineup moved := by
    refine h.lineup.extend hqueue hnodup (fun agent hagent => ((hmore agent).mp hagent).2)
      (fun _ => id) ?_ h.lineup.waiting (fun id _ hfirst => absurd hfirst (hready id)) ?_
      fun _ second _ _ hfirst => absurd hfirst (hready second)
    · intro agent hagent
      obtain ⟨entry, hentry, -, rfl⟩ := mem_due.mp ((hmore agent).mp hagent).1
      exact knows_of_mem_timers hrun hentry
    · refine List.pairwise_of_forall_mem_list ?_
      rintro first - second - number earlier later rfl rfl hfirst -
      exact absurd hfirst (hready _)
  have hall : ∀ agent, moved.Pressing agent → agent ∈ moved.queue.take (crowd requests) := by
    intro agent hpressing
    obtain ⟨entry, hentry, hle, rfl⟩ := mem_timers_of_pressing hrun hready hpressing
    rw [List.take_of_length_le (hlineup.length_le hprompt.reachable)]
    refine List.mem_eraseDups.mpr (List.mem_append_right _ (mem_due.mpr ⟨entry, hentry, ?_, rfl⟩))
    exact Nat.le_antisymm hle (hdue entry hentry)
  exact ⟨hprompt, hlineup, fun number => hall (.request number), hall⟩

theorem lineup_start (orchestrator : Orchestrator) (requests : List (Nat × Request)) :
    Lineup (start orchestrator requests) := by
  have hrequests : ∀ agent ∈ (start orchestrator requests).queue,
      ∃ number < requests.length, agent = .request number := by
    intro agent hagent
    obtain ⟨number, hnumber, rfl⟩ := List.mem_map.mp hagent
    exact ⟨number, List.mem_range.mp hnumber, rfl⟩
  constructor
  · exact List.Nodup.map (fun _ _ hsame => Agent.request.inj hsame) List.nodup_range
  · intro agent hagent
    obtain ⟨number, hlt, rfl⟩ := hrequests agent hagent
    simpa [Knows, start] using hlt
  · exact Ledger.knows_ofConfig _ _ _
  · refine List.pairwise_of_forall_mem_list ?_
    rintro first hfirst - - number earlier later rfl
    obtain ⟨_, -, hsame⟩ := hrequests _ hfirst
    cases hsame

theorem attended_start (orchestrator : Orchestrator) (requests : List (Nat × Request)) :
    Attended orchestrator requests (crowd requests) (crowd requests)
      (start orchestrator requests) := by
  have hlineup := lineup_start orchestrator requests
  have hall : ∀ agent, (start orchestrator requests).Pressing agent →
      agent ∈ (start orchestrator requests).queue.take (crowd requests) := by
    intro agent hpressing
    rw [List.take_of_length_le (hlineup.length_le .start)]
    cases agent with
    | request number =>
        obtain ⟨timer, htimer, -⟩ := hpressing
        obtain ⟨request, hrequest, -⟩ := Option.bind_eq_some_iff.mp htimer
        have hlt := (List.getElem?_eq_some_iff.mp hrequest).1
        exact List.mem_map_of_mem (List.mem_range.mpr (by simpa [start] using hlt))
    | group id =>
        rcases hpressing with ⟨group, hgroup, -⟩ | ⟨group, hgroup, -⟩
        · rw [openGroup?_start] at hgroup
          cases hgroup
        · rw [openGroup?_start] at hgroup
          cases hgroup
  exact ⟨.start, hlineup, fun number => hall (.request number), hall⟩

theorem Attended.drive (h : Attended orchestrator requests (crowd requests) (crowd requests) run)
    (moves : Nat) : Prompt orchestrator requests (run.drive moves) := by
  induction moves generalizing run with
  | zero => exact h.actAll.prompt
  | succ moves ih =>
      rw [Run.drive]
      split
      next => exact h.actAll.prompt
      next moved hmoved => exact ih (h.actAll.advance hmoved)

/-- A run that goes on to its end keeps nobody waiting. -/
theorem prompt_finish (orchestrator : Orchestrator) (requests : List (Nat × Request)) :
    Prompt orchestrator requests (start orchestrator requests).finish :=
  (attended_start orchestrator requests).drive _

end SeriesGateway.Fetch.Run
