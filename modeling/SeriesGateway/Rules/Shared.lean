import SeriesGateway.Rules.RuleSet

/-! # Shared rules

A rule set that can be replaced while readers hold on to the one they took.
Every installed rule set has a number of its own, so two snapshots are the same
object exactly when their numbers agree, whatever rules they hold.
-/

namespace SeriesGateway

/-- One installed rule set. -/
structure RulesSnapshot where
  number : Nat
  rules : RuleSet

/-- The rule set in force; its number counts the successful reloads. -/
structure SharedRules where
  current : RulesSnapshot

namespace SharedRules

def ofRules (rules : RuleSet) : SharedRules := ⟨⟨0, rules⟩⟩

def snapshot (shared : SharedRules) : RulesSnapshot := shared.current

/-- Compiles and installs a configuration. If it does not compile, the rule set
in force stays. -/
def reload (shared : SharedRules) (engine : RegexEngine) (config : RulesConfig) :
    Except RuleError Unit × SharedRules :=
  match RuleSet.compile engine config with
  | .ok rules => (.ok (), ⟨⟨shared.current.number + 1, rules⟩⟩)
  | .error error => (.error error, shared)

/-- Whether a snapshot is the rule set in force. -/
def isCurrent (shared : SharedRules) (snapshot : RulesSnapshot) : Bool :=
  snapshot.number == shared.current.number

end SharedRules

end SeriesGateway
