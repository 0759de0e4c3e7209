/-! # Checks in order

Something is checked for one fault after the other, and what is reported is the fault
of the first check that is violated. Checks are said apart from the reader that makes
them, as a relation between a check and the faults it is violated with; the order is a
list. Readers that run one after the other, each of which reports by its own checks,
together report by all of these checks in that order.
-/

namespace SeriesGateway.Checks

variable {Check Fault α β : Type} {violates : Check → Fault → Prop} {check : Check}
  {checks first second : List Check} {fault : Fault}

/-- No check is violated. -/
def Pass (violates : Check → Fault → Prop) (checks : List Check) : Prop :=
  ∀ check ∈ checks, ∀ fault, ¬ violates check fault

/-- The fault is that of the first check which is violated. -/
inductive FirstFault (violates : Check → Fault → Prop) : List Check → Fault → Prop
  | here {check : Check} {fault : Fault} (h : violates check fault) (behind : List Check) :
    FirstFault violates (check :: behind) fault
  | later {check : Check} {behind : List Check} {fault : Fault}
      (hpass : ∀ other, ¬ violates check other) (h : FirstFault violates behind fault) :
    FirstFault violates (check :: behind) fault

/-- What is reported is what the checks call for. -/
def Reported (violates : Check → Fault → Prop) (checks : List Check) : Option Fault → Prop
  | none => Pass violates checks
  | some fault => FirstFault violates checks fault

/-- The fault that a reader stops with. -/
def faultOf : Except Fault α → Option Fault
  | .ok _ => none
  | .error fault => some fault

theorem faultOf_eq_some_iff {result : Except Fault α} :
    faultOf result = some fault ↔ result = .error fault := by
  cases result <;> simp [faultOf]

theorem faultOf_eq_none_iff {result : Except Fault α} :
    faultOf result = none ↔ ∃ value, result = .ok value := by
  cases result <;> simp [faultOf]

theorem bind_eq_ok_iff {result : Except Fault α} {next : α → Except Fault β} {outcome : β} :
    result >>= next = .ok outcome ↔ ∃ value, result = .ok value ∧ next value = .ok outcome := by
  cases result with
  | error fault => simp [bind, Except.bind]
  | ok value => simp [bind, Except.bind]

theorem pass_cons :
    Pass violates (check :: checks) ↔
      (∀ fault, ¬ violates check fault) ∧ Pass violates checks :=
  List.forall_mem_cons

theorem pass_append :
    Pass violates (first ++ second) ↔ Pass violates first ∧ Pass violates second :=
  List.forall_mem_append

namespace FirstFault

theorem append_left (h : FirstFault violates first fault) (second : List Check) :
    FirstFault violates (first ++ second) fault := by
  induction h with
  | here h behind => exact .here h _
  | later hpass _ ih => exact .later hpass ih

theorem append_right (hpass : Pass violates first) (h : FirstFault violates second fault) :
    FirstFault violates (first ++ second) fault := by
  induction first with
  | nil => exact h
  | cons check rest ih =>
      obtain ⟨hcheck, hrest⟩ := pass_cons.mp hpass
      exact .later hcheck (ih hrest)

theorem not_pass (h : FirstFault violates checks fault) : ¬ Pass violates checks := by
  induction h with
  | here h behind => exact fun hpass => (pass_cons.mp hpass).1 _ h
  | later _ _ ih => exact fun hpass => ih (pass_cons.mp hpass).2

/-- If no check can be violated with two faults, only one fault can be the first. -/
theorem unique (h : FirstFault violates checks fault)
    (hunique : ∀ {check one other}, violates check one → violates check other → one = other)
    {other : Fault} (hother : FirstFault violates checks other) : fault = other := by
  induction h with
  | here h behind =>
      cases hother with
      | here hother => exact hunique h hother
      | later hpass _ => exact absurd h (hpass _)
  | later hpass _ ih =>
      cases hother with
      | here hother => exact absurd hother (hpass _)
      | later _ hother => exact ih hother

end FirstFault

namespace Reported

theorem singleton {found : Option Fault} (h : ∀ fault, found = some fault ↔ violates check fault) :
    Reported violates [check] found := by
  cases found with
  | some fault => exact .here ((h fault).mp rfl) []
  | none =>
      refine pass_cons.mpr ⟨fun fault hfault => ?_, List.forall_mem_nil _⟩
      cases (h fault).mpr hfault

/-- Where nothing is found, the search goes on with the second checks. -/
theorem append {found more : Option Fault} (hfirst : Reported violates first found)
    (hsecond : found = none → Reported violates second more) :
    Reported violates (first ++ second) (found.or more) := by
  cases found with
  | some fault => exact hfirst.append_left second
  | none =>
      have hmore := hsecond rfl
      cases more with
      | some fault => exact .append_right hfirst hmore
      | none => exact pass_append.mpr ⟨hfirst, hmore⟩

/-- Reading on after a reader that has stopped at no fault. -/
theorem bind {result : Except Fault α} {next : α → Except Fault β}
    (hfirst : Reported violates first (faultOf result))
    (hsecond : ∀ value, result = .ok value → Reported violates second (faultOf (next value))) :
    Reported violates (first ++ second) (faultOf (result >>= next)) := by
  cases result with
  | error fault => exact hfirst.append_left second
  | ok value => exact hfirst.append fun _ => hsecond value rfl

theorem eq_none_iff {found : Option Fault} (h : Reported violates checks found) :
    found = none ↔ Pass violates checks := by
  cases found with
  | none => exact ⟨fun _ => h, fun _ => rfl⟩
  | some fault => exact ⟨nofun, fun hpass => absurd hpass h.not_pass⟩

theorem eq_some_iff {found : Option Fault} (h : Reported violates checks found)
    (hunique : ∀ {check one other}, violates check one → violates check other → one = other) :
    found = some fault ↔ FirstFault violates checks fault := by
  constructor
  · rintro rfl
    exact h
  · intro hfirst
    cases found with
    | none => exact absurd h hfirst.not_pass
    | some found => exact congrArg some (FirstFault.unique h hunique hfirst)

end Reported

end SeriesGateway.Checks
