import Mathlib.Data.List.Induction
import Mathlib.Logic.Function.Basic
import SeriesGateway.Rules.Shared

/-! # Histories of shared rules

Configurations are reloaded, and snapshots are taken, in any order, also by callers that
overlap. What a reload does before it holds the lock of the rules, which is to compile its
configuration, depends on nothing that is shared. So calls that overlap come to what they
come to one after the other, each at the moment at which it holds the lock.

Of a history only the reloads that succeeded matter: how many they are is the number of
the object in force, and the last of them is what it holds. Snapshots that were taken
stay what they are.
-/

namespace SeriesGateway.SharedRules

/-- One call, of whoever reloads the rules or reads them. -/
inductive Call where
  | reload (config : RulesConfig)
  | snapshot
deriving DecidableEq, Repr

/-- The rule set that a call installs: what a reload compiles, if it does. -/
def Call.installs? (engine : RegexEngine) : Call → Option RuleSet
  | reload config => (RuleSet.compile engine config).toOption
  | snapshot => none

/-- The rule sets that calls install, in order. -/
def installedBy (engine : RegexEngine) (calls : List Call) : List RuleSet :=
  calls.filterMap (Call.installs? engine)

/-- Shared rules, with the snapshots that readers hold on to, in the order in which they
were taken. -/
structure Session where
  shared : SharedRules
  taken : List RulesSnapshot

namespace Session

def opening (rules : RuleSet) : Session := ⟨.ofRules rules, []⟩

def perform (engine : RegexEngine) (session : Session) : Call → Session
  | .reload config => { session with shared := (session.shared.reload engine config).2 }
  | .snapshot => { session with taken := session.taken ++ [session.shared.snapshot] }

/-- The session after a history that began with some rules. -/
def after (engine : RegexEngine) (rules : RuleSet) (calls : List Call) : Session :=
  calls.foldl (perform engine) (opening rules)

variable {engine : RegexEngine}

/-! ## One call -/

theorem reload_of_ok (shared : SharedRules) {config : RulesConfig} {compiled : RuleSet}
    (hcompiled : RuleSet.compile engine config = .ok compiled) :
    shared.reload engine config = (.ok (), ⟨⟨shared.current.number + 1, compiled⟩⟩) := by
  simp only [SharedRules.reload, hcompiled]

theorem reload_of_error (shared : SharedRules) {config : RulesConfig} {error : RuleError}
    (herror : RuleSet.compile engine config = .error error) :
    shared.reload engine config = (.error error, shared) := by
  simp only [SharedRules.reload, herror]

/-- A call puts an object of its own in force, or leaves the one that is. -/
theorem shared_perform (session : Session) (call : Call) :
    (session.perform engine call).shared =
      match call.installs? engine with
      | some compiled => ⟨⟨session.shared.current.number + 1, compiled⟩⟩
      | none => session.shared := by
  cases call with
  | snapshot => rfl
  | reload config =>
      rw [perform, Call.installs?]
      cases hcompiled : RuleSet.compile engine config with
      | ok compiled => rw [reload_of_ok _ hcompiled]; rfl
      | error error => rw [reload_of_error _ hcompiled]; rfl

theorem taken_prefix_perform (session : Session) (call : Call) :
    session.taken <+: (session.perform engine call).taken := by
  cases call with
  | snapshot => exact List.prefix_append _ _
  | reload config => exact List.prefix_refl _

/-! ## Histories -/

section History

variable (engine) (rules : RuleSet)

theorem after_concat (calls : List Call) (call : Call) :
    after engine rules (calls ++ [call]) = (after engine rules calls).perform engine call := by
  rw [after, List.foldl_append]
  rfl

/-- In force is what was installed last, and its number is that of the installations. -/
theorem current_after (calls : List Call) :
    (after engine rules calls).shared.current =
      ⟨(installedBy engine calls).length, (installedBy engine calls).getLast?.getD rules⟩ := by
  induction calls using List.reverseRecOn with
  | nil => rfl
  | append_singleton calls call ih =>
      rw [after_concat, shared_perform, installedBy, List.filterMap_append, ← installedBy]
      cases hinstalls : call.installs? engine with
      | none => simpa [hinstalls] using ih
      | some compiled => simp [hinstalls, ih]

/-- Who holds a snapshot still holds it after more calls. -/
theorem taken_prefix_after (before behind : List Call) :
    (after engine rules before).taken <+: (after engine rules (before ++ behind)).taken := by
  induction behind using List.reverseRecOn with
  | nil => simp
  | append_singleton behind call ih =>
      rw [← List.append_assoc, after_concat]
      exact ih.trans (taken_prefix_perform _ _)

/-- The next snapshot in a history is the object in force at that moment. -/
theorem taken_after_snapshot (before behind : List Call) :
    (after engine rules
        (before ++ .snapshot :: behind)).taken[(after engine rules before).taken.length]? =
      some (after engine rules before).shared.current := by
  have htaken :
      (after engine rules before).taken ++ [(after engine rules before).shared.current] <+:
        (after engine rules (before ++ .snapshot :: behind)).taken := by
    have hheld := taken_prefix_after engine rules (before ++ [.snapshot]) behind
    rwa [← List.append_cons, after_concat] at hheld
  obtain ⟨later, hlater⟩ := htaken
  rw [← hlater, List.append_assoc, List.getElem?_append_right (Nat.le_refl _), Nat.sub_self]
  rfl

/-- An object is in force as long as no reload succeeds. -/
theorem number_eq_iff (before behind : List Call) :
    (after engine rules before).shared.current.number =
        (after engine rules (before ++ behind)).shared.current.number ↔
      ∀ call ∈ behind, call.installs? engine = none := by
  rw [current_after, current_after]
  simp only [installedBy, List.filterMap_append, List.length_append]
  rw [Nat.left_eq_add, List.length_eq_zero_iff, List.filterMap_eq_nil_iff]

theorem current_eq_of_quiet {before behind : List Call}
    (hquiet : ∀ call ∈ behind, call.installs? engine = none) :
    (after engine rules (before ++ behind)).shared.current =
      (after engine rules before).shared.current := by
  rw [current_after, current_after]
  simp only [installedBy, List.filterMap_append, List.filterMap_eq_nil_iff.mpr hquiet,
    List.append_nil]

theorem current_eq_iff (before behind : List Call) :
    (after engine rules before).shared.current =
        (after engine rules (before ++ behind)).shared.current ↔
      ∀ call ∈ behind, call.installs? engine = none :=
  ⟨fun hsame => (number_eq_iff engine rules before behind).mp (congrArg RulesSnapshot.number hsame),
    fun hquiet => (current_eq_of_quiet engine rules hquiet).symm⟩

/-- What was installed last is in force, whatever failed behind it. -/
theorem rules_eq_of_last_install {before behind : List Call} {config : RulesConfig}
    {compiled : RuleSet} (hcompiled : RuleSet.compile engine config = .ok compiled)
    (hquiet : ∀ call ∈ behind, call.installs? engine = none) :
    (after engine rules (before ++ .reload config :: behind)).shared.current.rules = compiled := by
  rw [List.append_cons, current_eq_of_quiet engine rules hquiet, after_concat, perform,
    reload_of_ok _ hcompiled]

/-- No object that was in force before is the one that a reload installs. -/
theorem not_isCurrent_of_reload {before behind : List Call} {config : RulesConfig}
    {compiled : RuleSet} (hcompiled : RuleSet.compile engine config = .ok compiled) :
    ((after engine rules (before ++ behind)).shared.reload engine config).2.isCurrent
      (after engine rules before).shared.snapshot = false := by
  have hnumber : (after engine rules before).shared.current.number ≤
      (after engine rules (before ++ behind)).shared.current.number := by
    simp only [current_after, installedBy, List.filterMap_append, List.length_append]
    exact Nat.le_add_right _ _
  rw [reload_of_ok _ hcompiled]
  exact beq_false_of_ne (Nat.ne_of_lt (Nat.lt_succ_of_le hnumber))

end History

/-! ## Calls that overlap -/

/-- What happens at one moment where calls overlap: a caller that reloads has compiled its
configuration, or it gets hold of the lock and installs what it has compiled, if it has;
or somebody takes a snapshot. -/
inductive Moment where
  | compile (caller : Nat) (config : RulesConfig)
  | install (caller : Nat)
  | snapshot
deriving DecidableEq, Repr

/-- A session, with what callers have compiled and not installed yet. -/
structure Overlap where
  session : Session
  compiled : Nat → Option RuleSet

def Overlap.pass (engine : RegexEngine) (overlap : Overlap) : Moment → Overlap
  | .compile caller config =>
    { overlap with
      compiled := Function.update overlap.compiled caller (RuleSet.compile engine config).toOption }
  | .install caller =>
    match overlap.compiled caller with
    | none => overlap
    | some rules =>
      { session :=
          { overlap.session with
            shared := ⟨⟨overlap.session.shared.current.number + 1, rules⟩⟩ }
        compiled := Function.update overlap.compiled caller none }
  | .snapshot => { overlap with session := overlap.session.perform engine .snapshot }

/-- The calls of overlapping callers in the order in which they hold the lock. Of each
caller is known which configuration it is about to install. -/
def serial : (Nat → Option RulesConfig) → List Moment → List Call
  | _, [] => []
  | loading, .compile caller config :: rest =>
    serial (Function.update loading caller (some config)) rest
  | loading, .install caller :: rest =>
    match loading caller with
    | none => serial loading rest
    | some config => .reload config :: serial (Function.update loading caller none) rest
  | loading, .snapshot :: rest => .snapshot :: serial loading rest

/-- At the moment at which a caller holds the lock its whole reload takes place. -/
theorem Overlap.session_pass_install {overlap : Overlap} {caller : Nat} {config : RulesConfig}
    (hcompiled : overlap.compiled caller = (RuleSet.compile engine config).toOption) :
    (overlap.pass engine (.install caller)).session =
        overlap.session.perform engine (.reload config) ∧
      (overlap.pass engine (.install caller)).compiled =
        Function.update overlap.compiled caller none := by
  rw [pass, perform]
  cases hresult : RuleSet.compile engine config with
  | ok rules =>
      rw [hresult] at hcompiled
      rw [hcompiled, reload_of_ok _ hresult]
      exact ⟨rfl, rfl⟩
  | error error =>
      rw [hresult] at hcompiled
      rw [hcompiled, reload_of_error _ hresult]
      exact ⟨rfl, (Function.update_eq_self_iff.mpr hcompiled.symm).symm⟩

/-- Callers that overlap come to what they come to one after the other. -/
theorem session_foldl_pass {overlap : Overlap} {loading : Nat → Option RulesConfig}
    (hcompiled : ∀ caller, overlap.compiled caller =
      (loading caller).bind fun config => (RuleSet.compile engine config).toOption)
    (moments : List Moment) :
    (moments.foldl (Overlap.pass engine) overlap).session =
      (serial loading moments).foldl (perform engine) overlap.session := by
  induction moments generalizing overlap loading with
  | nil => rfl
  | cons moment rest ih =>
      rw [List.foldl_cons]
      cases moment with
      | compile caller config =>
          refine ih fun other => ?_
          by_cases hsame : other = caller
          · subst hsame
            simp [Overlap.pass]
          · simp [Overlap.pass, hsame, hcompiled]
      | install caller =>
          have hcaller := hcompiled caller
          rw [serial]
          cases hloading : loading caller with
          | none =>
              rw [hloading, Option.bind_none] at hcaller
              have hidle : overlap.pass engine (.install caller) = overlap := by
                rw [Overlap.pass, hcaller]
              rw [hidle]
              exact ih hcompiled
          | some config =>
              rw [hloading, Option.bind_some] at hcaller
              obtain ⟨hsession, hleft⟩ := Overlap.session_pass_install hcaller
              dsimp only
              rw [List.foldl_cons, ← hsession]
              refine ih fun other => ?_
              rw [hleft]
              by_cases hsame : other = caller
              · subst hsame
                simp
              · simp [hsame, hcompiled]
      | snapshot => exact ih hcompiled

/-- What counts is who holds the lock last, and not who began or compiled last. -/
example (first second : RulesConfig) :
    serial (fun _ => none)
        [.compile 1 first, .compile 2 second, .install 2, .snapshot, .install 1] =
      [.reload second, .snapshot, .reload first] := rfl

/-! ## Atomicity -/

/-- Reloads are atomic over every history of calls.

* Calls that overlap, of any callers, come to what they come to one after the other, in
  the order in which they hold the lock.
* In force is the compilation of the last configuration that was reloaded successfully,
  and the very first object if there was none.
* A reload that fails leaves the very same object in force, and one that succeeds installs
  a new object: none that was in force before is the current one, whatever rules it holds.
* A snapshot is still held after the calls that follow it, it answers every lookup as at the
  moment when it was taken, and it is the current object as long as no reload succeeds. -/
theorem reloads_are_atomic (engine : RegexEngine) (rules : RuleSet) :
    (∀ moments : List Moment,
      (moments.foldl (Overlap.pass engine) ⟨opening rules, fun _ => none⟩).session =
        after engine rules (serial (fun _ => none) moments)) ∧
    ∀ calls,
      ((∀ before config behind compiled, calls = before ++ .reload config :: behind →
          RuleSet.compile engine config = .ok compiled →
          (∀ call ∈ behind, call.installs? engine = none) →
          (after engine rules calls).shared.current.rules = compiled) ∧
        ((∀ call ∈ calls, call.installs? engine = none) →
          (after engine rules calls).shared = ofRules rules)) ∧
      (∀ config error, RuleSet.compile engine config = .error error →
        (after engine rules calls).shared.reload engine config =
          (.error error, (after engine rules calls).shared)) ∧
      (∀ config compiled, RuleSet.compile engine config = .ok compiled →
        ((after engine rules calls).shared.reload engine config).1 = .ok () ∧
        ((after engine rules calls).shared.reload engine config).2.current.rules = compiled ∧
        ∀ before behind, calls = before ++ behind →
          ((after engine rules calls).shared.reload engine config).2.isCurrent
            (after engine rules before).shared.snapshot = false) ∧
      ∀ before behind, calls = before ++ .snapshot :: behind →
        ∃ snapshot,
          (after engine rules calls).taken[(after engine rules before).taken.length]? =
            some snapshot ∧
          (∀ metric age, snapshot.rules.lookup metric age =
            (after engine rules before).shared.current.rules.lookup metric age) ∧
          ((after engine rules calls).shared.isCurrent snapshot = true ↔
            ∀ call ∈ behind, call.installs? engine = none) ∧
          (snapshot = (after engine rules calls).shared.current ↔
            ∀ call ∈ behind, call.installs? engine = none) := by
  refine ⟨session_foldl_pass fun _ => rfl, fun calls => ⟨⟨?_, fun hquiet => ?_⟩,
    fun config error herror => reload_of_error _ herror,
    fun config compiled hcompiled => ⟨?_, ?_, ?_⟩, ?_⟩⟩
  · rintro before config behind compiled rfl hcompiled hquiet
    exact rules_eq_of_last_install engine rules hcompiled hquiet
  · have hcurrent : (after engine rules ([] ++ calls)).shared.current = (ofRules rules).current :=
      current_eq_of_quiet engine rules hquiet
    exact congrArg SharedRules.mk hcurrent
  · rw [reload_of_ok _ hcompiled]
  · rw [reload_of_ok _ hcompiled]
  · rintro before behind rfl
    exact not_isCurrent_of_reload engine rules hcompiled
  · rintro before behind rfl
    have hbehind : (∀ call ∈ Call.snapshot :: behind, call.installs? engine = none) ↔
        ∀ call ∈ behind, call.installs? engine = none :=
      List.forall_mem_cons.trans (and_iff_right rfl)
    rw [← hbehind]
    exact ⟨_, taken_after_snapshot engine rules before behind, fun _ _ => rfl,
      beq_iff_eq.trans (number_eq_iff engine rules before _), current_eq_iff engine rules before _⟩

/-- A configuration loaded again is an object of its own, though it holds the same rules. -/
example (engine : RegexEngine) :
    let session := after engine .standard [.reload .standard, .snapshot, .reload .standard]
    session.taken.map (·.rules) = [session.shared.current.rules] ∧
      session.taken.map session.shared.isCurrent = [false] :=
  ⟨rfl, rfl⟩

end Session

end SeriesGateway.SharedRules
