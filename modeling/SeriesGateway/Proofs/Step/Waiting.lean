import Mathlib.Data.List.Induction
import SeriesGateway.Proofs.Step.History
import SeriesGateway.Step.Waiting

/-! # What callers at a barrier are told

Callers come and leave, and time passes, while participants register and report. What a caller
is told depends only on the history of the barrier up to some moment: the first failure, or the
common multiple if all had reported, or how many were missing. Nobody is kept waiting when
nobody is missing or its patience has ended.
-/

namespace SeriesGateway.Step

open Barrier (Act accepted registered contributions firstFailure?)

namespace Barrier

/-- What callers may be told after a history of a barrier. -/
def Tells (patience : Duration) (acts : List Act) (answer : Except StepError UInt32) : Prop :=
  let reports := accepted 0 acts
  match firstFailure? [] reports with
  | some error => answer = .error error
  | none =>
    if reports.length = registered acts then
      ∃ step, answer = .ok step ∧ step.toNat = commonMultiple (contributions reports)
    else answer = .error (.timeout patience (registered acts - reports.length))

theorem registered_append (first second : List Act) :
    registered (first ++ second) = registered first + registered second := by
  induction first with
  | nil => rw [List.nil_append, registered, Nat.zero_add]
  | cons act first ih =>
      cases act with
      | register count => rw [List.cons_append, registered, ih, registered, Nat.add_assoc]
      | report report => exact ih

theorem length_accepted_le_registered (acts : List Act) :
    (accepted 0 acts).length ≤ registered acts := by
  simpa using length_accepted_le 0 acts

/-- A barrier is released exactly if nobody is missing. -/
theorem released_after {acts : List Act} (hfits : registered acts < UInt64.size) :
    (after acts).released = true ↔ (accepted 0 acts).length = registered acts := by
  have hle := length_accepted_le_registered acts
  rw [after_eq_ofReports hfits]
  simp only [ofReports, decide_eq_true_eq]
  omega

/-- What a barrier answers now is what callers may be told. -/
theorem tells_answer (patience : Duration) {acts : List Act}
    (hfits : registered acts < UInt64.size) :
    Tells patience acts ((after acts).answer (after acts).released patience) := by
  have hreleased := released_after hfits
  have hanswer := answer_ofReports (length_accepted_le_registered acts) hfits
    (after acts).released patience
  rw [← after_eq_ofReports hfits] at hanswer
  simp only [hreleased, and_self] at hanswer
  exact hanswer

end Barrier

namespace Resolver

/-! ## Histories with callers -/

/-- What can happen: to the barrier, to the time, or with callers. -/
inductive Event where
  | act (act : Act)
  | advance (millis : Nat)
  | wait
  | result
  | dismiss

/-- The answers that are given as an event happens, and what is left. -/
def handle (resolver : Resolver) : Event → List (Except StepError UInt32) × Resolver
  | .act act => ([], resolver.act (·.perform act))
  | .advance millis => ([], resolver.advance millis)
  | .wait => ([], resolver.wait)
  | .result => ([resolver.result.1], resolver.result.2)
  | .dismiss => resolver.dismiss

/-- What is left after a history. -/
def play (patience : Duration) (events : List Event) : Resolver :=
  events.foldl (fun resolver event => (resolver.handle event).2) (.new patience)

/-- The barrier's part of a history. -/
def acts (events : List Event) : List Act :=
  events.filterMap fun
    | .act act => some act
    | _ => none

theorem acts_append (first second : List Event) :
    acts (first ++ second) = acts first ++ acts second :=
  List.filterMap_append

theorem play_concat (patience : Duration) (events : List Event) (event : Event) :
    play patience (events ++ [event]) = ((play patience events).handle event).2 := by
  rw [play, List.foldl_append]
  rfl

/-- The answer to a caller that is answered now. -/
def tellsNow (resolver : Resolver) : Except StepError UInt32 :=
  resolver.barrier.answer resolver.barrier.released resolver.patience

/-- The time at which a caller that asks now is answered. -/
def answersAt (resolver : Resolver) : Nat :=
  if resolver.barrier.released then resolver.now else resolver.dueFromNow

/-- The time at which the last caller gives up. -/
def lastDue (resolver : Resolver) : Nat :=
  ((resolver.waiters.filter (·.outcome.isNone)).map (·.dueAt)).foldl max resolver.now

theorem result_eq (resolver : Resolver) :
    resolver.result =
      (resolver.tellsNow, { resolver with now := resolver.answersAt }.settle) := by
  unfold result tellsNow answersAt
  split
  next hreleased => rw [hreleased]
  next hclosed => rw [Bool.eq_false_iff.mpr hclosed]

theorem dismiss_eq (resolver : Resolver) :
    let settled : Resolver := { resolver with now := resolver.lastDue }.settle
    resolver.dismiss = (settled.waiters.filterMap (·.outcome), { settled with waiters := [] }) :=
  rfl

/-! ## Settling -/

/-- A caller has been answered before, or it is answered now since it is released or its
patience has ended, or it keeps waiting. -/
theorem settleWaiter_cases (resolver : Resolver) (waiter : Waiter) :
    waiter.outcome.isSome = true ∧ resolver.settleWaiter waiter = waiter ∨
    (resolver.settleWaiter waiter).outcome = some resolver.tellsNow ∨
    waiter.outcome = none ∧ resolver.settleWaiter waiter = waiter ∧
      resolver.barrier.released = false ∧ resolver.now < waiter.dueAt := by
  unfold settleWaiter tellsNow
  split
  next hanswered => exact .inl ⟨hanswered, rfl⟩
  next hopen =>
    split
    next hreleased => exact .inr (.inl (by rw [hreleased]))
    next hclosed =>
      have hclosed := Bool.eq_false_iff.mpr hclosed
      split
      next => exact .inr (.inl (by rw [hclosed]))
      next hearly =>
        exact .inr (.inr ⟨by simpa using hopen, rfl, hclosed, Nat.not_le.mp hearly⟩)

/-- What an event does to the barrier. -/
def Event.change (barrier : Barrier) : Event → Barrier
  | .act call => barrier.perform call
  | _ => barrier

/-- Whatever happens, callers are settled after it: those who were there, and those who come. -/
theorem handle_settles (resolver : Resolver) (event : Event) :
    ∃ before : Resolver, before.barrier = event.change resolver.barrier ∧
      before.patience = resolver.patience ∧
      (∀ waiter ∈ before.waiters, waiter ∈ resolver.waiters ∨ waiter.outcome = none) ∧
      (resolver.handle event).2.barrier = before.barrier ∧
      (resolver.handle event).2.patience = before.patience ∧
      (resolver.handle event).2.now = before.now ∧
      ∀ waiter ∈ (resolver.handle event).2.waiters, waiter ∈ before.settle.waiters := by
  cases event with
  | act call => exact ⟨{ resolver with barrier := resolver.barrier.perform call }, rfl, rfl,
      fun _ => .inl, rfl, rfl, rfl, fun _ hwaiter => hwaiter⟩
  | advance millis => exact ⟨{ resolver with now := resolver.now + millis }, rfl, rfl,
      fun _ => .inl, rfl, rfl, rfl, fun _ hwaiter => hwaiter⟩
  | wait =>
      refine ⟨{ resolver with waiters := resolver.waiters ++ [⟨resolver.dueFromNow, none⟩] }, rfl,
        rfl, fun waiter hwaiter => ?_, rfl, rfl, rfl, fun _ hwaiter => hwaiter⟩
      exact (List.mem_append.mp hwaiter).imp_right fun hcomes => by
        rw [List.mem_singleton.mp hcomes]
  | result =>
      rw [handle, result_eq]
      exact ⟨{ resolver with now := resolver.answersAt }, rfl, rfl, fun _ => .inl, rfl, rfl, rfl,
        fun _ => id⟩
  | dismiss => exact ⟨{ resolver with now := resolver.lastDue }, rfl, rfl, fun _ => .inl, rfl, rfl,
      rfl, nofun⟩

/-! ## Callers of a history -/

@[simp] theorem patience_play (patience : Duration) (events : List Event) :
    (play patience events).patience = patience := by
  induction events using List.reverseRecOn with
  | nil => rfl
  | append_singleton events event ih =>
      obtain ⟨before, -, hpatience, -, -, hafter, -⟩ :=
        (play patience events).handle_settles event
      rw [play_concat, hafter, hpatience, ih]

/-- The barrier takes no notice of time and callers. -/
theorem barrier_play (patience : Duration) (events : List Event) :
    (play patience events).barrier = Barrier.after (acts events) := by
  induction events using List.reverseRecOn with
  | nil => rfl
  | append_singleton events event ih =>
      obtain ⟨before, hbarrier, -, -, hafter, -⟩ := (play patience events).handle_settles event
      rw [play_concat, hafter, hbarrier, ih, acts_append, Barrier.after, Barrier.after,
        List.foldl_append]
      cases event <;> rfl

theorem tellsNow_play (patience : Duration) (events : List Event) :
    (play patience events).tellsNow =
      (Barrier.after (acts events)).answer (Barrier.after (acts events)).released patience := by
  rw [tellsNow, barrier_play, patience_play]

/-- What is true of a caller after a history: while it waits somebody is missing and its
patience has not ended, and if it was answered, then as the barrier answered at some moment. -/
def Attends (patience : Duration) (events : List Event) (waiter : Waiter) : Prop :=
  match waiter.outcome with
  | none =>
    (play patience events).barrier.released = false ∧ (play patience events).now < waiter.dueAt
  | some answer => ∃ earlier, earlier <+: events ∧ answer = (play patience earlier).tellsNow

theorem attends_play (patience : Duration) (events : List Event) :
    ∀ waiter ∈ (play patience events).waiters, Attends patience events waiter := by
  induction events using List.reverseRecOn with
  | nil => exact nofun
  | append_singleton events event ih =>
      obtain ⟨before, -, -, hwaiters, hbarrier, hpatience, hnow, hsettled⟩ :=
        (play patience events).handle_settles event
      rw [← play_concat] at hbarrier hpatience hnow hsettled
      intro waiter hwaiter
      obtain ⟨found, hfound, rfl⟩ := List.mem_map.mp (hsettled waiter hwaiter)
      have htells : before.tellsNow = (play patience (events ++ [event])).tellsNow := by
        rw [tellsNow, tellsNow, hbarrier, hpatience]
      rcases before.settleWaiter_cases found with
        ⟨hanswered, hsame⟩ | hnew | ⟨hopen, hsame, hclosed, hearly⟩
      · rw [hsame]
        rcases hwaiters found hfound with hold | hnone
        · obtain ⟨answer, hanswer⟩ := Option.isSome_iff_exists.mp hanswered
          have hattends := ih found hold
          simp only [Attends, hanswer] at hattends ⊢
          obtain ⟨earlier, hearlier, htold⟩ := hattends
          exact ⟨earlier, hearlier.trans (List.prefix_append events [event]), htold⟩
        · rw [hnone] at hanswered
          cases hanswered
      · simp only [Attends, hnew]
        exact ⟨_, List.prefix_rfl, htells⟩
      · rw [hsame]
        simp only [Attends, hopen, hbarrier, hnow]
        exact ⟨hclosed, hearly⟩

/-- An answer that is given to who asks, or to who leaves, was the barrier's at some moment. -/
theorem exists_of_mem_handle {patience : Duration} {events : List Event} {event : Event}
    {answer : Except StepError UInt32}
    (hanswer : answer ∈ ((play patience events).handle event).1) :
    ∃ earlier, earlier <+: events ∧ answer = (play patience earlier).tellsNow := by
  cases event with
  | act call => cases hanswer
  | advance millis => cases hanswer
  | wait => cases hanswer
  | result =>
      rw [handle, result_eq] at hanswer
      exact ⟨events, List.prefix_rfl, List.mem_singleton.mp hanswer⟩
  | dismiss =>
      rw [handle, dismiss_eq] at hanswer
      obtain ⟨waiter, hwaiter, houtcome⟩ := List.mem_filterMap.mp hanswer
      obtain ⟨found, hfound, rfl⟩ := List.mem_map.mp hwaiter
      have hattends := attends_play patience events found hfound
      let last : Resolver := { play patience events with now := (play patience events).lastDue }
      rcases last.settleWaiter_cases found with ⟨-, hsame⟩ | hnew | ⟨hopen, hsame, -⟩
      · rw [hsame] at houtcome
        simpa only [Attends, houtcome] using hattends
      · rw [hnew] at houtcome
        exact ⟨events, List.prefix_rfl, (Option.some.inj houtcome).symm⟩
      · rw [hsame, hopen] at houtcome
        cases houtcome

theorem registered_acts_le {earlier events : List Event} (h : earlier <+: events) :
    registered (acts earlier) ≤ registered (acts events) := by
  obtain ⟨later, rfl⟩ := h
  rw [acts_append, Barrier.registered_append]
  exact Nat.le_add_right _ _

/-- After any history with callers, as long as a machine word can count the participants, who
still waits has a participant to wait for and patience left. Who has been answered, who asks
and is answered next, and who leaves next was told what the barrier's history up to some moment
says. -/
theorem answers_of_history (patience : Duration) {events : List Event}
    (hfits : registered (acts events) < UInt64.size) :
    (∀ waiter ∈ (play patience events).waiters,
      (waiter.outcome = none →
        (accepted 0 (acts events)).length < registered (acts events) ∧
          (play patience events).now < waiter.dueAt) ∧
      ∀ answer, waiter.outcome = some answer →
        ∃ earlier, earlier <+: events ∧ Barrier.Tells patience (acts earlier) answer) ∧
    ∀ event, ∀ answer ∈ ((play patience events).handle event).1,
      ∃ earlier, earlier <+: events ∧ Barrier.Tells patience (acts earlier) answer := by
  have htells : ∀ earlier, earlier <+: events →
      Barrier.Tells patience (acts earlier) (play patience earlier).tellsNow := by
    intro earlier hearlier
    rw [tellsNow_play]
    exact Barrier.tells_answer patience ((registered_acts_le hearlier).trans_lt hfits)
  refine ⟨fun waiter hwaiter => ⟨fun hopen => ?_, fun answer hanswer => ?_⟩,
    fun event answer hanswer => ?_⟩
  · have hattends := attends_play patience events waiter hwaiter
    simp only [Attends, hopen, barrier_play] at hattends
    obtain ⟨hclosed, hearly⟩ := hattends
    have hmissing : (accepted 0 (acts events)).length ≠ registered (acts events) := by
      rw [ne_eq, ← Barrier.released_after hfits, hclosed]
      exact Bool.false_ne_true
    have hle := Barrier.length_accepted_le_registered (acts events)
    exact ⟨Nat.lt_of_le_of_ne hle hmissing, hearly⟩
  · have hattends := attends_play patience events waiter hwaiter
    simp only [Attends, hanswer] at hattends
    obtain ⟨earlier, hearlier, rfl⟩ := hattends
    exact ⟨earlier, hearlier, htells earlier hearlier⟩
  · obtain ⟨earlier, hearlier, rfl⟩ := exists_of_mem_handle hanswer
    exact ⟨earlier, hearlier, htells earlier hearlier⟩

example :
    ((play (.ofSeconds 2) [.act (.register 3), .act (.report (.ok 60)), .act (.report (.ok 300))])
      |>.handle .result).1 = [.error (.timeout (.ofSeconds 2) 1)] := by
  decide +kernel

/-- Of the times at which callers give up none is later than the last. -/
theorem le_foldl_max {time : Nat} {times : List Nat} (h : time ∈ times) (start : Nat) :
    time ≤ times.foldl max start := by
  have hstart : ∀ (times : List Nat) (start : Nat), start ≤ times.foldl max start := by
    intro times
    induction times with
    | nil => exact Nat.le_refl
    | cons next times ih => exact fun start => (Nat.le_max_left start next).trans (ih _)
  induction times generalizing start with
  | nil => cases h
  | cons next times ih =>
      rcases List.mem_cons.mp h with rfl | hlater
      · exact (Nat.le_max_right start time).trans (hstart times _)
      · exact ih hlater _

theorem isSome_of_lastDue (resolver : Resolver) :
    ∀ waiter ∈ ({ resolver with now := resolver.lastDue } : Resolver).settle.waiters,
      waiter.outcome.isSome = true := by
  intro waiter hwaiter
  obtain ⟨found, hfound, rfl⟩ := List.mem_map.mp hwaiter
  let last : Resolver := { resolver with now := resolver.lastDue }
  rcases last.settleWaiter_cases found with ⟨hanswered, hsame⟩ | hnew | ⟨hopen, -, -, hearly⟩
  · rwa [hsame]
  · rw [hnew]
    rfl
  · have hdue : found.dueAt ≤ resolver.lastDue :=
      le_foldl_max (List.mem_map_of_mem (List.mem_filter.mpr ⟨hfound, by rw [hopen]; rfl⟩)) _
    exact absurd hearly (Nat.not_lt.mpr hdue)

/-- Nobody leaves without an answer. -/
theorem length_dismiss (resolver : Resolver) :
    resolver.dismiss.1.length = resolver.waiters.length := by
  rw [dismiss_eq, List.length_filterMap_eq_countP,
    List.countP_eq_length.mpr resolver.isSome_of_lastDue]
  exact List.length_map _

end Resolver

end SeriesGateway.Step
