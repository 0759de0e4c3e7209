import SeriesGateway.Proofs.Admission.Hall
import SeriesGateway.Proofs.Fetch.Turns

/-! # Queries in the hall

What queries do to the pools of a run is what queries do in a hall: they arrive when
their group begins to fetch, ask for their slots, and depart in the turn in which they
are over or given up. Where a query stands in the hall is plain from its phase.
-/

namespace SeriesGateway.Fetch

/-- Where a query of a group stands: it is not there once it is over; before, it has some
of its slots and still needs the others, and it runs when it has all of them. -/
def QueryRun.Stands (run : QueryRun) : Option Standing → Prop
  | none => run.isOver = true
  | some standing => run.isOver = false ∧ standing.held ++ standing.left = run.pools ∧
    (standing.left = [] ↔ run.isWaiting = false)

namespace Hall

/-! ## Acts of some queries -/

/-- Acts of some queries lead from one hall to another; all others stand as they did. -/
structure Leads (config : FetchConfig) (hall next : Hall) (tickets : List Ticket) : Prop where
  exists_acts : ∃ acts, next = hall.after config acts
  others : ∀ ticket ∉ tickets, next.standings ticket = hall.standings ticket

variable {config : FetchConfig} {hall middle next : Hall} {tickets : List Ticket}

theorem Leads.refl (config : FetchConfig) (hall : Hall) (tickets : List Ticket) :
    Leads config hall hall tickets :=
  ⟨⟨[], rfl⟩, fun _ _ => rfl⟩

theorem Leads.trans (hfirst : Leads config hall middle tickets)
    (hsecond : Leads config middle next tickets) : Leads config hall next tickets where
  exists_acts := by
    obtain ⟨before, rfl⟩ := hfirst.exists_acts
    obtain ⟨later, rfl⟩ := hsecond.exists_acts
    exact ⟨before ++ later, List.foldl_append.symm⟩
  others ticket hout := (hsecond.others ticket hout).trans (hfirst.others ticket hout)

theorem Leads.mono (h : Leads config hall next tickets) {more : List Ticket}
    (hsub : tickets ⊆ more) : Leads config hall next more :=
  ⟨h.exists_acts, fun ticket hout => h.others ticket fun hin => hout (hsub hin)⟩

theorem Leads.orderly (h : Leads config hall next tickets) (horderly : Orderly config hall) :
    Orderly config next := by
  obtain ⟨acts, rfl⟩ := h.exists_acts
  exact horderly.after acts

/-- While one query acts, the others stand where they stood. -/
theorem Leads.others_of_singleton {ticket : Ticket} (h : Leads config hall next [ticket])
    {queries : List QueryRun} (hout : ticket ∉ queries.map (·.ticket)) :
    ∀ other ∈ queries, next.standings other.ticket = hall.standings other.ticket := by
  intro other hother
  apply h.others
  intro hsame
  rw [← List.mem_singleton.mp hsame] at hout
  exact hout (List.mem_map_of_mem hother)

/-! ## One query -/

theorem leads_arrive (config : FetchConfig) {ticket : Ticket} (hnew : hall.standings ticket = none)
    (range : UInt32) :
    ∃ next, Leads config hall next [ticket] ∧ next.ledger = hall.ledger ∧
      next.standings ticket = some ⟨[], poolsFor config ticket.group.request range⟩ := by
  refine ⟨hall.perform config (.arrive ticket range), ⟨⟨[.arrive ticket range], rfl⟩, ?_⟩, ?_, ?_⟩
  · intro other hother
    simp only [perform, hnew]
    exact Function.update_of_ne (by simpa using hother) _ _
  · simp only [perform, hnew]
  · simp only [perform, hnew, Function.update_self]

theorem leads_depart (config : FetchConfig) {ticket : Ticket} {standing : Standing}
    (hstanding : hall.standings ticket = some standing) :
    ∃ next, Leads config hall next [ticket] ∧
      next.ledger = (hall.ledger.leave ticket (standing.held ++ standing.left)).2 ∧
      next.standings ticket = none := by
  refine ⟨hall.perform config (.depart ticket), ⟨⟨[.depart ticket], rfl⟩, ?_⟩, ?_, ?_⟩
  · intro other hother
    simp only [perform, hstanding]
    exact Function.update_of_ne (by simpa using hother) _ _
  · simp only [perform, hstanding]
  · simp only [perform, hstanding, Function.update_self]

/-- Asking again for the slots it has changes nothing. -/
theorem Orderly.enter_append (h : Orderly config hall) {ticket : Ticket} {standing : Standing}
    (hstanding : hall.standings ticket = some standing) {held : List PoolId}
    (hheld : held ⊆ standing.held) (left : List PoolId) :
    hall.ledger.enter ticket (held ++ left) = hall.ledger.enter ticket left := by
  induction held with
  | nil => rfl
  | cons id rest ih =>
      obtain ⟨hid, hrest⟩ := List.cons_subset.mp hheld
      have hagain : hall.ledger.claim ticket id = (true, hall.ledger) := by
        unfold Ledger.claim
        split
        next => rfl
        next pool hpool =>
          have hholds := h.mem_holders hpool hstanding hid
          rw [Pool.claim_of_mem hholds]
          dsimp only
          rw [Ledger.put_self h.nodup_ids hpool]
      rw [List.cons_append, Ledger.enter, hagain]
      exact ih hrest

/-- A query that asks for the slots it still needs goes on to the first that is not
there. -/
theorem leads_enter (config : FetchConfig) {ticket : Ticket} {held left : List PoolId}
    (hstanding : hall.standings ticket = some ⟨held, left⟩) :
    ∃ next standing, Leads config hall next [ticket] ∧
      next.ledger = (hall.ledger.enter ticket left).2 ∧
      next.standings ticket = some standing ∧ standing.held ++ standing.left = held ++ left ∧
      (standing.left = [] ↔ (hall.ledger.enter ticket left).1 = true) := by
  -- along the slots it still needs, each of which moves over to those it has
  induction left generalizing hall held with
  | nil => exact ⟨hall, _, .refl config hall _, rfl, hstanding, rfl, by simp [Ledger.enter]⟩
  | cons id rest ih =>
      rw [Ledger.enter]
      have hasked : Leads config hall (hall.perform config (.ask ticket)) [ticket] := by
        refine ⟨⟨[.ask ticket], rfl⟩, fun other hother => ?_⟩
        simp only [perform, hstanding]
        split
        · exact Function.update_of_ne (by simpa using hother) _ _
        · rfl
      split
      next ledger hgranted =>
        have hperform : hall.perform config (.ask ticket) =
            ⟨ledger, Function.update hall.standings ticket (some ⟨held ++ [id], rest⟩)⟩ := by
          simp only [perform, hstanding, hgranted]
        have hnow : (hall.perform config (.ask ticket)).standings ticket =
            some ⟨held ++ [id], rest⟩ := by
          rw [hperform]
          exact Function.update_self _ _ _
        obtain ⟨next, standing, hleads, hledger, hfound, hpools, hleft⟩ := ih hnow
        rw [hperform] at hledger hleft
        refine ⟨next, standing, hasked.trans hleads, hledger, hfound, ?_, hleft⟩
        rw [hpools, List.append_assoc, List.singleton_append]
      next ledger hrefused =>
        have hperform : hall.perform config (.ask ticket) = ⟨ledger, hall.standings⟩ := by
          simp only [perform, hstanding, hrefused]
        refine ⟨hall.perform config (.ask ticket), ⟨held, id :: rest⟩, hasked, ?_, ?_, rfl, by simp⟩
        · rw [hperform]
        · rw [hperform]
          exact hstanding

/-- A query departs in the turn in which it is over. -/
theorem leads_settle (config : FetchConfig) (run : QueryRun) {standing : Standing}
    (hstanding : hall.standings run.ticket = some standing)
    (hpools : standing.held ++ standing.left = run.pools)
    (hleft : run.isOver = false → (standing.left = [] ↔ run.isWaiting = false)) :
    ∃ next, Leads config hall next [run.ticket] ∧ next.ledger = run.settle hall.ledger ∧
      run.Stands (next.standings run.ticket) := by
  cases hover : run.isOver with
  | true =>
      obtain ⟨next, hleads, hledger, hgone⟩ := leads_depart config hstanding
      refine ⟨next, hleads, ?_, ?_⟩
      · rw [hledger, hpools, QueryRun.settle, if_pos hover]
      · rw [hgone]
        exact hover
  | false =>
      refine ⟨hall, .refl config hall _, ?_, ?_⟩
      · rw [QueryRun.settle, hover]
        rfl
      · rw [hstanding]
        exact ⟨hover, hpools, hleft hover⟩

/-- A query that waits asks for all of its slots again, is given those it has, and may
be sent or over after that. -/
theorem leads_act_of_isWaiting (horderly : Orderly config hall) {run : QueryRun}
    {standing : Standing} (hstanding : hall.standings run.ticket = some standing)
    (hpools : standing.held ++ standing.left = run.pools) (hwaiting : run.isWaiting = true)
    {floor : Floor} (hledger : hall.ledger = floor.ledger) (storage : Storage) :
    ∃ next, Leads config hall next [run.ticket] ∧
      next.ledger = (run.act storage floor).2.ledger ∧
      (run.act storage floor).1.Stands (next.standings run.ticket) := by
  obtain ⟨hbadge, hsettled, hrefused, hadmitted, -, -⟩ :=
    QueryRun.act_of_isWaiting storage hwaiting floor
  simp only [QueryRun.badge, Prod.mk.injEq] at hbadge
  obtain ⟨hticket, -, hsame⟩ := hbadge
  obtain ⟨middle, place, hasked, hentered, hplace, hparts, hempty⟩ := leads_enter config hstanding
  have hagain := horderly.enter_append hstanding (List.Subset.refl _) standing.left
  rw [hpools, hledger] at hagain
  rw [hledger] at hentered hempty
  rw [hagain] at hsettled hrefused hadmitted
  have hleft : (run.act storage floor).1.isOver = false →
      (place.left = [] ↔ (run.act storage floor).1.isWaiting = false) := by
    intro hopen
    rw [hempty]
    cases hphase : (run.act storage floor).1.isWaiting with
    | true => simp [hrefused hphase]
    | false => simp [hadmitted (by simp [QueryRun.isRunning, hphase, hopen])]
  rw [← hticket] at hplace
  obtain ⟨next, hsettling, hnext, hstands⟩ := leads_settle config (run.act storage floor).1 hplace
    (by rw [hparts, hpools, hsame]) hleft
  rw [hticket] at hsettling hstands
  exact ⟨next, hasked.trans hsettling, by rw [hnext, hentered, hsettled], hstands⟩

/-- A query that runs asks for nothing, and departs if it is over. -/
theorem leads_act_of_isRunning (config : FetchConfig) {run : QueryRun} {standing : Standing}
    (hstanding : hall.standings run.ticket = some standing)
    (hpools : standing.held ++ standing.left = run.pools) (hleft : standing.left = [])
    (hrunning : run.isRunning = true) {floor : Floor} (hledger : hall.ledger = floor.ledger)
    (storage : Storage) :
    ∃ next, Leads config hall next [run.ticket] ∧
      next.ledger = (run.act storage floor).2.ledger ∧
      (run.act storage floor).1.Stands (next.standings run.ticket) := by
  have hproceeded := QueryRun.proceeded_act storage hrunning floor
  have hbadge := hproceeded.badge_eq
  simp only [QueryRun.badge, Prod.mk.injEq] at hbadge
  obtain ⟨hticket, -, hsame⟩ := hbadge
  rw [← hticket] at hstanding
  obtain ⟨next, hsettling, hnext, hstands⟩ := leads_settle config (run.act storage floor).1
    hstanding (by rw [hpools, hsame]) (by simp [hleft, hproceeded.isWaiting_eq])
  rw [hticket] at hsettling hstands
  exact ⟨next, hsettling, by rw [hnext, hproceeded.ledger_eq, hledger], hstands⟩

theorem leads_act (horderly : Orderly config hall) {run : QueryRun}
    (hstands : run.Stands (hall.standings run.ticket)) {floor : Floor}
    (hledger : hall.ledger = floor.ledger) (storage : Storage) :
    ∃ next, Leads config hall next [run.ticket] ∧
      next.ledger = (run.act storage floor).2.ledger ∧
      (run.act storage floor).1.Stands (next.standings run.ticket) := by
  cases hstanding : hall.standings run.ticket with
  | none =>
      rw [hstanding] at hstands
      rw [QueryRun.act_of_isOver storage hstands]
      refine ⟨hall, .refl config hall _, hledger, ?_⟩
      rw [hstanding]
      exact hstands
  | some standing =>
      rw [hstanding] at hstands
      obtain ⟨hopen, hpools, hleft⟩ := hstands
      cases hwaiting : run.isWaiting with
      | true => exact leads_act_of_isWaiting horderly hstanding hpools hwaiting hledger storage
      | false =>
          have hrunning : run.isRunning = true := by simp [QueryRun.isRunning, hwaiting, hopen]
          exact leads_act_of_isRunning config hstanding hpools (hleft.mpr hwaiting) hrunning
            hledger storage

theorem leads_cancel (config : FetchConfig) {run : QueryRun}
    (hstands : run.Stands (hall.standings run.ticket)) {floor : Floor}
    (hledger : hall.ledger = floor.ledger) :
    ∃ next, Leads config hall next [run.ticket] ∧
      next.ledger = (QueryRun.cancel floor run).ledger ∧ next.standings run.ticket = none := by
  rw [(QueryRun.cancel_spec floor run).1]
  cases hstanding : hall.standings run.ticket with
  | none =>
      rw [hstanding] at hstands
      have hover : run.isOver = true := hstands
      exact ⟨hall, .refl config hall _, by rw [if_pos hover, hledger], hstanding⟩
  | some standing =>
      rw [hstanding] at hstands
      obtain ⟨hopen, hpools, -⟩ := hstands
      obtain ⟨next, hleads, hleft, hgone⟩ := leads_depart config hstanding
      exact ⟨next, hleads, by rw [hleft, hpools, hledger, hopen]; rfl, hgone⟩

/-! ## The queries of a group -/

theorem leads_arrivals {queries : List QueryRun}
    (hnodup : (queries.map (·.ticket)).Nodup)
    (hnew : ∀ run ∈ queries, run.phase = .admission ∧
      (∃ range, run.pools = poolsFor config run.ticket.group.request range) ∧
      hall.standings run.ticket = none) :
    ∃ next, Leads config hall next (queries.map (·.ticket)) ∧ next.ledger = hall.ledger ∧
      ∀ run ∈ queries, run.Stands (next.standings run.ticket) := by
  induction queries generalizing hall with
  | nil => exact ⟨hall, .refl config hall _, rfl, by simp⟩
  | cons run rest ih =>
      obtain ⟨hout, hrest⟩ := List.nodup_cons.mp hnodup
      obtain ⟨⟨hphase, ⟨range, hpools⟩, hgone⟩, hothers⟩ := List.forall_mem_cons.mp hnew
      obtain ⟨middle, hfirst, hsame, hstanding⟩ := leads_arrive config hgone range
      have hapart := hfirst.others_of_singleton hout
      have hnext : ∀ other ∈ rest, other.phase = .admission ∧
          (∃ range, other.pools = poolsFor config other.ticket.group.request range) ∧
          middle.standings other.ticket = none := by
        intro other hother
        obtain ⟨hadmission, hneeds, habsent⟩ := hothers other hother
        exact ⟨hadmission, hneeds, (hapart other hother).trans habsent⟩
      obtain ⟨next, hsecond, hledger, hstands⟩ := ih hrest hnext
      refine ⟨next, (hfirst.mono (by simp)).trans (hsecond.mono (List.subset_cons_self _ _)),
        hledger.trans hsame, List.forall_mem_cons.mpr ⟨?_, hstands⟩⟩
      rw [hsecond.others _ hout, hstanding]
      refine ⟨?_, hpools.symm, ?_⟩
      · rw [QueryRun.isOver, hphase]
      · simp [QueryRun.isWaiting, hphase, poolsFor]

theorem leads_actAll (horderly : Orderly config hall) {queries : List QueryRun}
    (hnodup : (queries.map (·.ticket)).Nodup)
    (hstands : ∀ run ∈ queries, run.Stands (hall.standings run.ticket)) {floor : Floor}
    (hledger : hall.ledger = floor.ledger) (storage : Storage) (reversed : Bool)
    (store : PointStore) :
    let acted := Fetching.actAll storage reversed store floor queries
    ∃ next, Leads config hall next (queries.map (·.ticket)) ∧
      next.ledger = acted.2.2.ledger ∧
      ∀ run ∈ acted.1, run.Stands (next.standings run.ticket) := by
  induction queries generalizing hall store floor with
  | nil => exact ⟨hall, .refl config hall _, hledger, by simp [Fetching.actAll]⟩
  | cons run rest ih =>
      obtain ⟨hout, hrest⟩ := List.nodup_cons.mp hnodup
      obtain ⟨hrun, hothers⟩ := List.forall_mem_cons.mp hstands
      obtain ⟨middle, hfirst, hmiddle, hacted⟩ := leads_act horderly hrun hledger storage
      have hticket : (run.act storage floor).1.ticket = run.ticket :=
        congrArg (·.1) (run.act_spec storage floor).1
      rw [← hticket] at hacted
      have hwaiting : ∀ other ∈ rest, other.Stands (middle.standings other.ticket) := by
        intro other hother
        rw [hfirst.others_of_singleton hout other hother]
        exact hothers other hother
      rw [Fetching.actAll]
      dsimp only
      split
      next =>
        exact ⟨middle, hfirst.mono (by simp), hmiddle,
          List.forall_mem_cons.mpr ⟨hacted, hwaiting⟩⟩
      next =>
        obtain ⟨next, hsecond, hnext, hstands⟩ :=
          ih (hfirst.orderly horderly) hrest hwaiting hmiddle _
        refine ⟨next, (hfirst.mono (by simp)).trans (hsecond.mono (List.subset_cons_self _ _)),
          hnext, List.forall_mem_cons.mpr ⟨?_, hstands⟩⟩
        rw [hsecond.others _ (hticket ▸ hout)]
        exact hacted

theorem leads_cancelAll (config : FetchConfig) {queries : List QueryRun}
    (hnodup : (queries.map (·.ticket)).Nodup)
    (hstands : ∀ run ∈ queries, run.Stands (hall.standings run.ticket)) {floor : Floor}
    (hledger : hall.ledger = floor.ledger) :
    ∃ next, Leads config hall next (queries.map (·.ticket)) ∧
      next.ledger = (Fetching.cancel floor queries).ledger ∧
      ∀ ticket ∈ queries.map (·.ticket), next.standings ticket = none := by
  induction queries generalizing hall floor with
  | nil => exact ⟨hall, .refl config hall _, hledger, by simp⟩
  | cons run rest ih =>
      obtain ⟨hout, hrest⟩ := List.nodup_cons.mp hnodup
      obtain ⟨hrun, hothers⟩ := List.forall_mem_cons.mp hstands
      obtain ⟨middle, hfirst, hmiddle, hgone⟩ := leads_cancel config hrun hledger
      have hstaying : ∀ other ∈ rest, other.Stands (middle.standings other.ticket) := by
        intro other hother
        rw [hfirst.others_of_singleton hout other hother]
        exact hothers other hother
      obtain ⟨next, hsecond, hnext, hall⟩ := ih hrest hstaying hmiddle
      refine ⟨next, (hfirst.mono (by simp)).trans (hsecond.mono (List.subset_cons_self _ _)),
        hnext, List.forall_mem_cons.mpr ⟨?_, hall⟩⟩
      rw [hsecond.others _ hout]
      exact hgone

end Hall

end SeriesGateway.Fetch
