import Mathlib.Data.List.Chain
import SeriesGateway.Proofs.Checks
import SeriesGateway.Proofs.Retention.Ladder
import SeriesGateway.Rules.RuleSet

/-! # Compiling rule sets

A configuration of rules is compiled as a whole or refused as a whole. It is checked
from the defaults over the patterns, one after the other, back to the defaults, and
refused for the first check that it violates; if it violates none, the compiled
patterns are the configured ones, in order.

The checks are said here one by one, without the reader that makes them and without
regard to what else is wrong with a configuration.
-/

namespace SeriesGateway

open Checks

/-! ## What is configured -/

/-- The names by which a configuration can call a function. -/
def Aggregation.GoesBy (function : Aggregation) (name : String) : Prop :=
  name = function.name ∨ name = function.storageName

namespace Retention.Spec

/-- The steps that a ladder is configured with. -/
inductive Denotes : Spec → List Retention → Prop
  | list (steps : List Retention) : Denotes (.list steps) steps
  | compact (written : WrittenLadder) :
    Denotes (.compact (String.ofList written.text)) written.steps

/-- A compact ladder has entries that are no steps, and the first of them has a fault. -/
inductive Refused : Spec → RuleError → Prop
  | compact {text : String} {before after : List (List Char)} {entry : List Char}
      {fault : RuleError} (hentries : entries text.toList = before ++ entry :: after)
      (hbefore : ∀ earlier ∈ before, ∃ written : WrittenStep, written.text = earlier)
      (hfault : EntryFault entry fault) : Refused (.compact text) fault

end Retention.Spec

/-- The compiled pattern is what the configured one describes. An empty name of a
function is none. -/
structure PatternConfig.Describes (engine : RegexEngine) (config : PatternConfig)
    (pattern : RetentionPattern) : Prop where
  regexp : Option.Rel (fun text isMatch => engine text = some isMatch) config.regexp
    pattern.regexp
  function : Option.Rel (fun name function => Aggregation.GoesBy function name)
    (config.function.filter (· ≠ "")) pattern.function
  ladder : config.retention.Denotes pattern.ladder

namespace RulesConfig

/-- The compiled rule set is what the configured one describes, pattern by pattern. -/
structure Describes (engine : RegexEngine) (config : RulesConfig) (rules : RuleSet) : Prop where
  patterns : List.Forall₂ (PatternConfig.Describes engine) config.patterns rules.patterns
  default_precision : rules.defaultPrecision = config.defaultPrecision
  default_function : rules.defaultFunction.GoesBy config.defaultFunction

/-- Everything that a configuration of rules must be. -/
structure Sound (engine : RegexEngine) (config : RulesConfig) : Prop where
  default_function : ∃ function : Aggregation, function.GoesBy config.defaultFunction
  regexp : ∀ pattern ∈ config.patterns, ∀ text, pattern.regexp = some text →
    ∃ isMatch, engine text = some isMatch
  function : ∀ pattern ∈ config.patterns, ∀ name, pattern.function = some name → name ≠ "" →
    ∃ function : Aggregation, function.GoesBy name
  ladder : ∀ pattern ∈ config.patterns, ∃ steps, pattern.retention.Denotes steps
  positive : ∀ pattern ∈ config.patterns, ∀ steps, pattern.retention.Denotes steps →
    ∀ step ∈ steps, step.precision ≠ 0
  ascending : ∀ pattern ∈ config.patterns, ∀ steps, pattern.retention.Denotes steps →
    steps.Pairwise fun a b => a.age < b.age
  default_precision : config.defaultPrecision ≠ 0

/-! ## Checks -/

/-- What is checked: something about the defaults, or about the pattern at a position. -/
inductive Check where
  | defaultFunction
  | regexp (index : Nat)
  | function (index : Nat)
  | ladder (index : Nat)
  | precisions (index : Nat)
  | ages (index : Nat)
  | defaultPrecision
deriving DecidableEq, Repr

/-- The checks of the pattern at a position, in order. -/
def patternChecks (index : Nat) : List Check :=
  [.regexp index, .function index, .ladder index, .precisions index, .ages index]

/-- All checks, in order. -/
def checks (config : RulesConfig) : List Check :=
  [.defaultFunction] ++ (List.range config.patterns.length).flatMap patternChecks ++
    [.defaultPrecision]

/-- The configuration violates a check, and is to be refused with an error for it. -/
inductive Violates (engine : RegexEngine) (config : RulesConfig) : Check → RuleError → Prop
  | defaultFunction
      (hunknown : ∀ function : Aggregation, ¬ function.GoesBy config.defaultFunction) :
    Violates engine config .defaultFunction (.unknownFunction .defaults config.defaultFunction)
  | regexp {index : Nat} {pattern : PatternConfig} {text : String}
      (hpattern : config.patterns[index]? = some pattern) (htext : pattern.regexp = some text)
      (hinvalid : engine text = none) :
    Violates engine config (.regexp index) (.invalidRegex index text)
  | function {index : Nat} {pattern : PatternConfig} {name : String}
      (hpattern : config.patterns[index]? = some pattern) (hname : pattern.function = some name)
      (hpresent : name ≠ "") (hunknown : ∀ function : Aggregation, ¬ function.GoesBy name) :
    Violates engine config (.function index) (.unknownFunction (.pattern index) name)
  | ladder {index : Nat} {pattern : PatternConfig} {fault : RuleError}
      (hpattern : config.patterns[index]? = some pattern)
      (hrefused : pattern.retention.Refused fault) :
    Violates engine config (.ladder index) fault
  /-- The first step with a precision of zero is shown. -/
  | precisions {index : Nat} {pattern : PatternConfig} {before after : List Retention}
      {step : Retention} (hpattern : config.patterns[index]? = some pattern)
      (hladder : pattern.retention.Denotes (before ++ step :: after))
      (hbefore : ∀ earlier ∈ before, earlier.precision ≠ 0) (hzero : step.precision = 0) :
    Violates engine config (.precisions index)
      (.invalidRetention s!"{step.age}:{step.precision}"
        s!"pattern {index}: precision must be > 0")
  | ages {index : Nat} {pattern : PatternConfig} {before after : List Retention}
      {step next : Retention} (hpattern : config.patterns[index]? = some pattern)
      (hladder : pattern.retention.Denotes (before ++ step :: next :: after))
      (hage : next.age ≤ step.age) :
    Violates engine config (.ages index) (.unorderedRetention index)
  | defaultPrecision (hzero : config.defaultPrecision = 0) :
    Violates engine config .defaultPrecision
      (.invalidRetention "0" "default precision must be > 0")

end RulesConfig

/-! ## Parts of a pattern -/

theorem Aggregation.ofName?_eq_some_iff {name : String} {function : Aggregation} :
    ofName? name = some function ↔ function.GoesBy name := by
  constructor
  · intro hfound
    have hmatch := List.find?_some hfound
    rw [Bool.or_eq_true, beq_iff_eq, beq_iff_eq] at hmatch
    exact hmatch.imp Eq.symm Eq.symm
  · rintro (rfl | rfl) <;> cases function <;> rfl

theorem Aggregation.ofName?_eq_none_iff {name : String} :
    ofName? name = none ↔ ∀ function : Aggregation, ¬ function.GoesBy name := by
  simp only [← ofName?_eq_some_iff, Option.eq_none_iff_forall_ne_some]

namespace Retention.Spec

variable {spec : Spec} {steps other : List Retention} {fault : RuleError}

theorem steps_eq_ok_iff : spec.steps = .ok steps ↔ spec.Denotes steps := by
  constructor
  · intro hsteps
    cases spec with
    | list listed =>
        rw [Spec.steps, Except.ok.injEq] at hsteps
        exact hsteps ▸ .list listed
    | compact text =>
        obtain ⟨written, htext, rfl⟩ := parseLadder_eq_ok_iff.mp hsteps
        rw [← String.ofList_toList (s := text), ← htext]
        exact .compact written
  · intro hdenotes
    cases hdenotes with
    | list => rfl
    | compact written => rw [Spec.steps, String.toList_ofList, parseLadder_text]

theorem steps_eq_error_iff : spec.steps = .error fault ↔ spec.Refused fault := by
  constructor
  · intro hsteps
    cases spec with
    | list listed => cases hsteps
    | compact text =>
        obtain ⟨before, entry, after, hentries, hbefore, hfault⟩ :=
          parseLadder_eq_error_iff.mp hsteps
        exact .compact hentries hbefore hfault
  · rintro ⟨hentries, hbefore, hfault⟩
    exact parseLadder_eq_error_iff.mpr ⟨_, _, _, hentries, hbefore, hfault⟩

theorem Denotes.unique (hsteps : spec.Denotes steps) (hother : spec.Denotes other) :
    steps = other := by
  rw [← steps_eq_ok_iff] at hsteps hother
  exact Except.ok.inj (hsteps.symm.trans hother)

end Retention.Spec

/-- Where a ladder is out of order, two neighbours are. -/
theorem Retention.pairwise_age_iff {ladder : List Retention} :
    (ladder.Pairwise fun a b => a.age < b.age) ↔
      ∀ ⦃step next before after⦄, ladder = before ++ step :: next :: after →
        step.age < next.age := by
  have htrans : Trans (fun a b : Retention => a.age < b.age)
      (fun a b : Retention => a.age < b.age) (fun a b : Retention => a.age < b.age) :=
    ⟨UInt32.lt_trans⟩
  rw [← List.isChain_iff_pairwise, List.isChain_iff_forall_rel_of_append_cons_cons]

namespace RetentionPattern

variable {engine : RegexEngine} {index : Nat}

theorem compileRegexp_eq_ok_iff {text : Option String} {regexp : Option (String → Bool)} :
    compileRegexp engine index text = .ok regexp ↔
      Option.Rel (fun text isMatch => engine text = some isMatch) text regexp := by
  cases text with
  | none => cases regexp <;> simp [compileRegexp]
  | some text =>
      cases hcompiled : engine text <;> cases regexp <;>
        simp [compileRegexp, hcompiled]

theorem compileRegexp_eq_error_iff {text : Option String} {fault : RuleError} :
    compileRegexp engine index text = .error fault ↔
      ∃ written, text = some written ∧ engine written = none ∧
        fault = .invalidRegex index written := by
  cases text with
  | none => simp [compileRegexp]
  | some text =>
      cases hcompiled : engine text <;> simp [compileRegexp, hcompiled, eq_comm]

theorem compileFunction_of_ne_empty {name : String} (hpresent : name ≠ "") :
    compileFunction index (some name) =
      match Aggregation.ofName? name with
      | some function => .ok (some function)
      | none => .error (.unknownFunction (.pattern index) name) := by
  unfold compileFunction
  split
  next => contradiction
  next hsame => exact absurd (Option.some.inj hsame) hpresent
  next hsame =>
    cases hsame
    rfl

theorem compileFunction_eq_ok_iff {name : Option String} {function : Option Aggregation} :
    compileFunction index name = .ok function ↔
      Option.Rel (fun name function => Aggregation.GoesBy function name) (name.filter (· ≠ ""))
        function := by
  cases name with
  | none => cases function <;> simp [compileFunction]
  | some name =>
      simp only [← Aggregation.ofName?_eq_some_iff]
      by_cases hempty : name = ""
      · subst hempty
        rw [Option.filter_some, if_neg (by simp)]
        cases function <;> simp [compileFunction]
      · rw [compileFunction_of_ne_empty hempty, Option.filter_some, if_pos (by simpa using hempty)]
        cases hfound : Aggregation.ofName? name <;> cases function <;> simp [hfound]

theorem compileFunction_eq_error_iff {name : Option String} {fault : RuleError} :
    compileFunction index name = .error fault ↔
      ∃ written, name = some written ∧ written ≠ "" ∧
        (∀ function : Aggregation, ¬ function.GoesBy written) ∧
          fault = .unknownFunction (.pattern index) written := by
  cases name with
  | none => simp [compileFunction]
  | some name =>
      simp only [← Aggregation.ofName?_eq_none_iff]
      by_cases hempty : name = ""
      · simp [compileFunction, hempty]
      · rw [compileFunction_of_ne_empty hempty]
        cases hfound : Aggregation.ofName? name <;> simp [hempty, hfound, eq_comm]

/-- A pattern is built of its parts, and every pattern can be built of its own. -/
theorem ofParts_eq_ok_iff {regexp : Option (String → Bool)} {function : Option Aggregation}
    {ladder : List Retention} {pattern : RetentionPattern} :
    ofParts index regexp function ladder = .ok pattern ↔
      pattern.regexp = regexp ∧ pattern.function = function ∧ pattern.ladder = ladder := by
  unfold ofParts
  split
  next step hzero =>
    refine ⟨nofun, ?_⟩
    rintro ⟨-, -, rfl⟩
    have hstep := List.find?_some hzero
    exact absurd (by simpa using hstep) (pattern.positive step (List.mem_of_find?_eq_some hzero))
  next hzero =>
    split
    next hage =>
      rw [Except.ok.injEq]
      constructor
      · rintro rfl
        exact ⟨rfl, rfl, rfl⟩
      · rintro ⟨rfl, rfl, rfl⟩
        rfl
    next hage =>
      refine ⟨nofun, ?_⟩
      rintro ⟨-, -, rfl⟩
      exact absurd pattern.ascending hage

/-- A pattern compiles to what it describes, at whatever position it is. -/
theorem compile_eq_ok_iff {config : PatternConfig} {pattern : RetentionPattern} :
    compile engine index config = .ok pattern ↔ config.Describes engine pattern := by
  simp only [compile, bind_eq_ok_iff, compileRegexp_eq_ok_iff, compileFunction_eq_ok_iff,
    Retention.Spec.steps_eq_ok_iff, ofParts_eq_ok_iff]
  constructor
  · rintro ⟨_, hregexp, _, hfunction, _, hladder, rfl, rfl, rfl⟩
    exact ⟨hregexp, hfunction, hladder⟩
  · intro h
    exact ⟨_, h.regexp, _, h.function, _, h.ladder, rfl, rfl, rfl⟩

end RetentionPattern

theorem RuleSet.compilePatterns_eq_ok_iff {engine : RegexEngine} {index : Nat}
    {configs : List PatternConfig} {patterns : List RetentionPattern} :
    compilePatterns engine index configs = .ok patterns ↔
      List.Forall₂ (PatternConfig.Describes engine) configs patterns := by
  induction configs generalizing index patterns with
  | nil => cases patterns <;> simp [compilePatterns]
  | cons config rest ih =>
      simp only [compilePatterns, bind_eq_ok_iff, RetentionPattern.compile_eq_ok_iff, ih]
      constructor
      · rintro ⟨_, hfirst, _, hrest, ⟨⟩⟩
        exact .cons hfirst hrest
      · rintro (_ | ⟨hfirst, hrest⟩)
        exact ⟨_, hfirst, _, hrest, rfl⟩

theorem RuleSet.ofParts_eq_ok_iff {patterns : List RetentionPattern} {precision : UInt32}
    {function : Aggregation} {rules : RuleSet} :
    ofParts patterns precision function = .ok rules ↔
      rules.patterns = patterns ∧ rules.defaultPrecision = precision ∧
        rules.defaultFunction = function := by
  unfold ofParts
  split
  next hzero =>
    refine ⟨nofun, ?_⟩
    rintro ⟨-, rfl, -⟩
    exact absurd hzero rules.positive
  next hpositive =>
    rw [Except.ok.injEq]
    constructor
    · rintro rfl
      exact ⟨rfl, rfl, rfl⟩
    · rintro ⟨rfl, rfl, rfl⟩
      rfl

/-! ## Checks that are made -/

namespace RulesConfig

variable {engine : RegexEngine} {config : RulesConfig} {index : Nat} {pattern : PatternConfig}

/-- What a pattern violates is violated at its position. -/
theorem reported_regexp (hpattern : config.patterns[index]? = some pattern) :
    Reported (config.Violates engine) [.regexp index]
      (faultOf (RetentionPattern.compileRegexp engine index pattern.regexp)) := by
  apply Reported.singleton
  intro fault
  rw [faultOf_eq_some_iff, RetentionPattern.compileRegexp_eq_error_iff]
  constructor
  · rintro ⟨text, htext, hinvalid, rfl⟩
    exact .regexp hpattern htext hinvalid
  · rintro (_ | ⟨hother, htext, hinvalid⟩)
    obtain rfl := Option.some.inj (hpattern.symm.trans hother)
    exact ⟨_, htext, hinvalid, rfl⟩

theorem reported_function (hpattern : config.patterns[index]? = some pattern) :
    Reported (config.Violates engine) [.function index]
      (faultOf (RetentionPattern.compileFunction index pattern.function)) := by
  apply Reported.singleton
  intro fault
  rw [faultOf_eq_some_iff, RetentionPattern.compileFunction_eq_error_iff]
  constructor
  · rintro ⟨name, hname, hpresent, hunknown, rfl⟩
    exact .function hpattern hname hpresent hunknown
  · rintro (_ | _ | ⟨hother, hname, hpresent, hunknown⟩)
    obtain rfl := Option.some.inj (hpattern.symm.trans hother)
    exact ⟨_, hname, hpresent, hunknown, rfl⟩

theorem reported_ladder (hpattern : config.patterns[index]? = some pattern) :
    Reported (config.Violates engine) [.ladder index] (faultOf pattern.retention.steps) := by
  apply Reported.singleton
  intro fault
  rw [faultOf_eq_some_iff, Retention.Spec.steps_eq_error_iff]
  constructor
  · exact .ladder hpattern
  · rintro (_ | _ | _ | ⟨hother, hrefused⟩)
    obtain rfl := Option.some.inj (hpattern.symm.trans hother)
    exact hrefused

theorem reported_ofParts (hpattern : config.patterns[index]? = some pattern)
    {ladder : List Retention} (hladder : pattern.retention.Denotes ladder)
    (regexp : Option (String → Bool)) (function : Option Aggregation) :
    Reported (config.Violates engine) [.precisions index, .ages index]
      (faultOf (RetentionPattern.ofParts index regexp function ladder)) := by
  unfold RetentionPattern.ofParts
  split
  next step hzero =>
    obtain ⟨hstep, before, after, rfl, hbefore⟩ := List.find?_eq_some_iff_append.mp hzero
    exact .here (.precisions hpattern hladder (by simpa using hbefore) (by simpa using hstep)) _
  next hzero =>
    have hpositive : ∀ fault, ¬ config.Violates engine (.precisions index) fault := by
      rintro _ (_ | _ | _ | _ | ⟨hother, hdenotes, -, hstep⟩)
      obtain rfl := Option.some.inj (hpattern.symm.trans hother)
      obtain rfl := hladder.unique hdenotes
      exact absurd hstep (by simpa using List.find?_eq_none.mp hzero _ (by simp))
    split
    next hage =>
      refine pass_cons.mpr ⟨hpositive, pass_cons.mpr ⟨?_, List.forall_mem_nil _⟩⟩
      rintro _ (_ | _ | _ | _ | _ | ⟨hother, hdenotes, hle⟩)
      obtain rfl := Option.some.inj (hpattern.symm.trans hother)
      obtain rfl := hladder.unique hdenotes
      exact UInt32.not_lt.mpr hle (Retention.pairwise_age_iff.mp hage rfl)
    next hage =>
      rw [Retention.pairwise_age_iff] at hage
      push Not at hage
      obtain ⟨step, next, before, after, rfl, hle⟩ := hage
      exact .later hpositive (.here (.ages hpattern hladder (UInt32.not_lt.mp hle)) _)

/-- A pattern is checked from its regular expression to the order of its ladder. -/
theorem reported_pattern (hpattern : config.patterns[index]? = some pattern) :
    Reported (config.Violates engine) (patternChecks index)
      (faultOf (RetentionPattern.compile engine index pattern)) := by
  unfold RetentionPattern.compile
  refine (reported_regexp hpattern).bind fun regexp _ => ?_
  refine (reported_function hpattern).bind fun function _ => ?_
  refine (reported_ladder hpattern).bind fun ladder hladder => ?_
  exact reported_ofParts hpattern (Retention.Spec.steps_eq_ok_iff.mp hladder) regexp function

/-- Patterns are checked one after the other. -/
theorem reported_patterns {rest : List PatternConfig} (hrest : config.patterns.drop index = rest) :
    Reported (config.Violates engine) ((List.range' index rest.length).flatMap patternChecks)
      (faultOf (RuleSet.compilePatterns engine index rest)) := by
  induction rest generalizing index with
  | nil => exact List.forall_mem_nil _
  | cons pattern rest ih =>
      have hpattern : config.patterns[index]? = some pattern := by
        rw [← List.head?_drop, hrest, List.head?_cons]
      have hbehind : config.patterns.drop (index + 1) = rest := by
        rw [← List.tail_drop, hrest, List.tail_cons]
      rw [List.length_cons, List.range'_succ, List.flatMap_cons]
      refine (reported_pattern hpattern).bind fun first _ => ?_
      rw [← List.append_nil (List.flatMap _ _)]
      exact (ih hbehind).bind fun _ _ => List.forall_mem_nil _

/-- A configuration is checked from the default function over the patterns to the default
precision. -/
theorem reported_checks (engine : RegexEngine) (config : RulesConfig) :
    Reported (config.Violates engine) config.checks (faultOf (RuleSet.compile engine config)) := by
  unfold RuleSet.compile checks
  rw [List.append_assoc]
  split
  next hunknown =>
    exact .here (.defaultFunction (Aggregation.ofName?_eq_none_iff.mp hunknown)) _
  next function hfunction =>
    have hknown : ∀ fault, ¬ config.Violates engine .defaultFunction fault := by
      rintro _ ⟨hunknown⟩
      exact hunknown function (Aggregation.ofName?_eq_some_iff.mp hfunction)
    have hpass : Reported (config.Violates engine) [.defaultFunction] none :=
      pass_cons.mpr ⟨hknown, List.forall_mem_nil _⟩
    have hpatterns := @reported_patterns engine _ _ _ (@List.drop_zero _ config.patterns)
    rw [← List.range_eq_range'] at hpatterns
    refine hpass.append fun _ => hpatterns.bind fun patterns _ => ?_
    apply Reported.singleton
    intro fault
    unfold RuleSet.ofParts
    split
    next hzero =>
      rw [faultOf_eq_some_iff, Except.error.injEq]
      constructor
      · rintro rfl
        exact .defaultPrecision hzero
      · rintro ⟨⟩
        rfl
    next hpositive =>
      refine ⟨nofun, ?_⟩
      rintro (_ | _ | _ | _ | _ | _ | ⟨hzero⟩)
      exact absurd hzero hpositive

/-- A check is violated with one fault at most. -/
theorem Violates.unique {check : Check} {fault other : RuleError}
    (h : config.Violates engine check fault) (hother : config.Violates engine check other) :
    fault = other := by
  cases h with
  | defaultFunction | ages | defaultPrecision =>
      cases hother
      rfl
  | regexp hpattern htext =>
      obtain (_ | ⟨hsame, hother⟩) := hother
      obtain rfl := Option.some.inj (hpattern.symm.trans hsame)
      obtain rfl := Option.some.inj (htext.symm.trans hother)
      rfl
  | function hpattern hname =>
      obtain (_ | _ | ⟨hsame, hother⟩) := hother
      obtain rfl := Option.some.inj (hpattern.symm.trans hsame)
      obtain rfl := Option.some.inj (hname.symm.trans hother)
      rfl
  | ladder hpattern hrefused =>
      obtain (_ | _ | _ | ⟨hsame, hother⟩) := hother
      obtain rfl := Option.some.inj (hpattern.symm.trans hsame)
      rw [← Retention.Spec.steps_eq_error_iff] at hrefused hother
      exact Except.error.inj (hrefused.symm.trans hother)
  | precisions hpattern hladder hbefore hzero =>
      obtain (_ | _ | _ | _ | ⟨hsame, hdenotes, hothers, hother⟩) := hother
      obtain rfl := Option.some.inj (hpattern.symm.trans hsame)
      have hfirst : ∀ {ladder before after : List Retention} {step : Retention},
          ladder = before ++ step :: after → (∀ earlier ∈ before, earlier.precision ≠ 0) →
            step.precision = 0 → ladder.find? (fun step => step.precision = 0) = some step := by
        intro ladder before after step hsplit hbefore hzero
        exact List.find?_eq_some_iff_append.mpr
          ⟨by simpa using hzero, before, after, hsplit, by simpa using hbefore⟩
      have hstep := (hfirst rfl hbefore hzero).symm.trans
        (hfirst (hladder.unique hdenotes) hothers hother)
      rw [Option.some.inj hstep]

/-- A configuration that passes all checks passes those of each pattern. -/
theorem pass_patternChecks (hpass : Pass (config.Violates engine) config.checks)
    {pattern : PatternConfig} (hmem : pattern ∈ config.patterns) :
    ∃ index, config.patterns[index]? = some pattern ∧
      ∀ check ∈ patternChecks index, ∀ fault, ¬ config.Violates engine check fault := by
  obtain ⟨index, hpattern⟩ := List.mem_iff_getElem?.mp hmem
  obtain ⟨hlt, -⟩ := List.getElem?_eq_some_iff.mp hpattern
  refine ⟨index, hpattern, fun check hcheck => hpass check ?_⟩
  rw [checks, List.mem_append, List.mem_append, List.mem_flatMap]
  exact .inl (.inr ⟨index, List.mem_range.mpr hlt, hcheck⟩)

/-- A configuration that passes all checks is as it must be. -/
theorem sound_of_pass (hpass : Pass (config.Violates engine) config.checks) :
    config.Sound engine := by
  have hdefaults : ∀ check ∈ [Check.defaultFunction, .defaultPrecision], ∀ fault,
      ¬ config.Violates engine check fault := by
    intro check hcheck
    apply hpass
    rw [checks, List.append_assoc]
    rcases List.mem_pair.mp hcheck with rfl | rfl <;> simp
  refine
    { default_function := ?_, regexp := ?_, function := ?_, ladder := ?_, positive := ?_,
      ascending := ?_, default_precision := ?_ }
  · by_contra hunknown
    exact hdefaults .defaultFunction (by simp) _ (.defaultFunction (not_exists.mp hunknown))
  · intro pattern hmem text htext
    obtain ⟨index, hpattern, hchecks⟩ := pass_patternChecks hpass hmem
    by_contra hinvalid
    exact hchecks (.regexp index) (by simp [patternChecks]) _
      (.regexp hpattern htext (Option.eq_none_iff_forall_ne_some.mpr (not_exists.mp hinvalid)))
  · intro pattern hmem name hname hpresent
    obtain ⟨index, hpattern, hchecks⟩ := pass_patternChecks hpass hmem
    by_contra hunknown
    exact hchecks (.function index) (by simp [patternChecks]) _
      (.function hpattern hname hpresent (not_exists.mp hunknown))
  · intro pattern hmem
    obtain ⟨index, hpattern, hchecks⟩ := pass_patternChecks hpass hmem
    cases hsteps : pattern.retention.steps with
    | ok steps => exact ⟨steps, Retention.Spec.steps_eq_ok_iff.mp hsteps⟩
    | error fault =>
        exact absurd (.ladder hpattern (Retention.Spec.steps_eq_error_iff.mp hsteps))
          (hchecks (.ladder index) (by simp [patternChecks]) fault)
  · intro pattern hmem steps hdenotes
    obtain ⟨index, hpattern, hchecks⟩ := pass_patternChecks hpass hmem
    cases hzero : steps.find? fun step => step.precision = 0 with
    | none => simpa using List.find?_eq_none.mp hzero
    | some step =>
        obtain ⟨hstep, before, after, rfl, hbefore⟩ := List.find?_eq_some_iff_append.mp hzero
        exact absurd (.precisions hpattern hdenotes (by simpa using hbefore) (by simpa using hstep))
          (hchecks (.precisions index) (by simp [patternChecks]) _)
  · intro pattern hmem steps hdenotes
    obtain ⟨index, hpattern, hchecks⟩ := pass_patternChecks hpass hmem
    rw [Retention.pairwise_age_iff]
    rintro step next before after rfl
    by_contra hage
    exact hchecks (.ages index) (by simp [patternChecks]) _
      (.ages hpattern hdenotes (UInt32.not_lt.mp hage))
  · intro hzero
    exact hdefaults .defaultPrecision (by simp) _ (.defaultPrecision hzero)

/-- A configuration that is as it must be violates no check, whatever its position. -/
theorem Sound.not_violates (h : config.Sound engine) (check : Check) (fault : RuleError) :
    ¬ config.Violates engine check fault := by
  intro hviolates
  cases hviolates with
  | defaultFunction hunknown =>
      obtain ⟨function, hfunction⟩ := h.default_function
      exact hunknown function hfunction
  | regexp hpattern htext hinvalid =>
      obtain ⟨regex, hregex⟩ := h.regexp _ (List.mem_of_getElem? hpattern) _ htext
      rw [hinvalid] at hregex
      cases hregex
  | function hpattern hname hpresent hunknown =>
      obtain ⟨function, hfunction⟩ :=
        h.function _ (List.mem_of_getElem? hpattern) _ hname hpresent
      exact hunknown function hfunction
  | ladder hpattern hrefused =>
      obtain ⟨steps, hdenotes⟩ := h.ladder _ (List.mem_of_getElem? hpattern)
      rw [← Retention.Spec.steps_eq_ok_iff] at hdenotes
      rw [← Retention.Spec.steps_eq_error_iff, hdenotes] at hrefused
      cases hrefused
  | precisions hpattern hladder hbefore hzero =>
      exact h.positive _ (List.mem_of_getElem? hpattern) _ hladder _ (by simp) hzero
  | ages hpattern hladder hage =>
      have hascending := h.ascending _ (List.mem_of_getElem? hpattern) _ hladder
      exact UInt32.not_lt.mpr hage (Retention.pairwise_age_iff.mp hascending rfl)
  | defaultPrecision hzero => exact h.default_precision hzero

theorem pass_checks_iff : Pass (config.Violates engine) config.checks ↔ config.Sound engine :=
  ⟨sound_of_pass, fun h check _ => h.not_violates check⟩

theorem compile_eq_ok_iff {rules : RuleSet} :
    RuleSet.compile engine config = .ok rules ↔ config.Describes engine rules := by
  unfold RuleSet.compile
  split
  next hunknown =>
    refine ⟨nofun, fun h => ?_⟩
    exact absurd h.default_function (Aggregation.ofName?_eq_none_iff.mp hunknown _)
  next function hfunction =>
    simp only [bind_eq_ok_iff, RuleSet.compilePatterns_eq_ok_iff, RuleSet.ofParts_eq_ok_iff]
    rw [Aggregation.ofName?_eq_some_iff] at hfunction
    constructor
    · rintro ⟨patterns, hpatterns, rfl, hprecision, rfl⟩
      exact ⟨hpatterns, hprecision, hfunction⟩
    · intro h
      have hsame := h.default_function
      rw [← Aggregation.ofName?_eq_some_iff] at hfunction hsame
      exact ⟨_, h.patterns, rfl, h.default_precision, Option.some.inj (hsame.symm.trans hfunction)⟩

/-- A configuration of rules compiles exactly if it is as it must be, and then to what it
describes, pattern by pattern; otherwise it is refused for the first check that it violates,
from the default function over the patterns, one after the other, to the default precision.
-/
theorem compiles_or_blames_first (engine : RegexEngine) (config : RulesConfig) :
    ((∃ rules, RuleSet.compile engine config = .ok rules) ↔ config.Sound engine) ∧
    (∀ rules, RuleSet.compile engine config = .ok rules ↔ config.Describes engine rules) ∧
    ∀ fault, RuleSet.compile engine config = .error fault ↔
      FirstFault (config.Violates engine) config.checks fault := by
  have hreported := reported_checks engine config
  refine ⟨?_, fun rules => compile_eq_ok_iff, fun fault => ?_⟩
  · rw [← faultOf_eq_none_iff, hreported.eq_none_iff, pass_checks_iff]
  · rw [← faultOf_eq_some_iff, hreported.eq_some_iff Violates.unique]

/-- Both patterns and the default precision are at fault, and the first pattern twice. -/
example (engine : RegexEngine) :
    let first : PatternConfig := ⟨none, some "avg", .list [⟨3600, 60⟩, ⟨0, 0⟩]⟩
    let second : PatternConfig := ⟨some "(", some "median", .compact "0:"⟩
    RuleSet.compile engine ⟨0, "max", [first, second]⟩ =
      .error (.invalidRetention "0:0" "pattern 0: precision must be > 0") :=
  rfl

end RulesConfig

end SeriesGateway
