import Mathlib.Data.List.Chain
import Mathlib.Data.List.Nodup
import SeriesGateway.Config.Fetch
import SeriesGateway.Proofs.Checks

/-! # Range buckets

Settings are checked from the timeouts over the buckets, one after the other, and what
is compared of two buckets is only that each one is longer than the one before. That is
enough for all of them to ascend, so the first bucket that covers a range is the
shortest one that does, and a longer range is never in an earlier bucket.
-/

namespace SeriesGateway

open Checks

/-- A range in seconds is not longer than the bucket is. -/
def RangeLimit.Covers (limit : RangeLimit) (range : UInt32) : Prop :=
  Duration.ofSeconds range.toNat ≤ limit.maxRange

instance (limit : RangeLimit) (range : UInt32) : Decidable (limit.Covers range) :=
  inferInstanceAs (Decidable (_ ≤ _))

theorem RangeLimit.Covers.mono {limit : RangeLimit} {shorter longer : UInt32}
    (h : limit.Covers longer) (hle : shorter ≤ longer) : limit.Covers shorter :=
  Nat.le_trans (Duration.ofSeconds_mono (UInt32.le_iff_toNat_le.mp hle)) h

/-- What is checked: a timeout by its name, or something about the bucket at a position. -/
inductive SettingCheck where
  | timeout (setting : String) (value : Duration)
  | bucketTimeout (position : Nat)
  | bucketOrder (position : Nat)
deriving DecidableEq, Repr

namespace FetchConfig

/-- Settings that an orchestrator can run with: no timeout is zero, and every bucket is
longer than the one before. -/
structure Valid (config : FetchConfig) : Prop where
  timeouts : ∀ entry ∈ config.timeouts, entry.2 ≠ .zero
  bucket_timeouts : ∀ limit ∈ config.rangeLimits, limit.queryTimeout ≠ .zero
  ascending : config.rangeLimits.IsChain fun shorter longer => shorter.maxRange < longer.maxRange

def bucketChecks (position : Nat) : List SettingCheck :=
  [.bucketTimeout position, .bucketOrder position]

/-- All checks, in order. -/
def checks (config : FetchConfig) : List SettingCheck :=
  (config.timeouts.map fun entry => .timeout entry.1 entry.2) ++
    (List.range config.rangeLimits.length).flatMap bucketChecks

/-- The settings violate a check, with a fault that tells what is wrong. -/
inductive Violates (config : FetchConfig) : SettingCheck → SettingFault → Prop
  | timeout (setting : String) : Violates config (.timeout setting .zero) (.zeroTimeout setting)
  | bucketTimeout {position : Nat} {limit : RangeLimit}
      (hlimit : config.rangeLimits[position]? = some limit) (hzero : limit.queryTimeout = .zero) :
    Violates config (.bucketTimeout position) (.zeroBucketTimeout position)
  | bucketOrder {position : Nat} {previous limit : RangeLimit}
      (hprevious : config.rangeLimits[position]? = some previous)
      (hlimit : config.rangeLimits[position + 1]? = some limit)
      (hle : limit.maxRange ≤ previous.maxRange) :
    Violates config (.bucketOrder (position + 1))
      (.unorderedBuckets limit.maxRange previous.maxRange)

variable {config : FetchConfig}

/-! ## Checks that are made -/

/-- A check is violated with one fault at most. -/
theorem Violates.unique {check : SettingCheck} {fault other : SettingFault}
    (h : config.Violates check fault) (hother : config.Violates check other) :
    fault = other := by
  cases h with
  | timeout => cases hother; rfl
  | bucketTimeout => cases hother; rfl
  | bucketOrder hprevious hlimit =>
      cases hother with
      | bucketOrder hsame hnext =>
          cases hprevious.symm.trans hsame
          cases hlimit.symm.trans hnext
          rfl

theorem reported_timeouts (config : FetchConfig) (entries : List (String × Duration)) :
    Reported config.Violates (entries.map fun entry => .timeout entry.1 entry.2)
      ((entries.find? fun entry => entry.2 = .zero).map fun entry => .zeroTimeout entry.1) := by
  induction entries with
  | nil => exact List.forall_mem_nil _
  | cons entry rest ih =>
      obtain ⟨setting, value⟩ := entry
      by_cases hzero : value = .zero
      · subst hzero
        exact .here (.timeout setting) _
      · have hpass : Reported config.Violates [.timeout setting value] none := by
          refine pass_cons.mpr ⟨?_, List.forall_mem_nil _⟩
          rintro fault ⟨⟩
          exact hzero rfl
        rw [List.find?_cons_of_neg (by simpa using hzero)]
        exact hpass.append fun _ => ih

/-- What is wrong with the timeout of a bucket. -/
def timeoutFault? (position : Nat) (limit : RangeLimit) : Option SettingFault :=
  if limit.queryTimeout = .zero then some (.zeroBucketTimeout position) else none

/-- What is wrong with a bucket behind another one. -/
def orderFault? (previous : Option Duration) (limit : RangeLimit) : Option SettingFault :=
  previous.bind fun range =>
    if limit.maxRange ≤ range then some (.unorderedBuckets limit.maxRange range) else none

theorem bucketFault?_cons (position : Nat) (previous : Option Duration) (limit : RangeLimit)
    (rest : List RangeLimit) :
    bucketFault? position previous (limit :: rest) =
      (timeoutFault? position limit).or
        ((orderFault? previous limit).or
          (bucketFault? (position + 1) (some limit.maxRange) rest)) := by
  generalize hbehind : bucketFault? (position + 1) (some limit.maxRange) rest = behind
  unfold bucketFault? timeoutFault? orderFault?
  rw [hbehind]
  split
  next => rfl
  next =>
    cases previous with
    | none => rfl
    | some range =>
        dsimp only [Option.bind_some]
        split <;> rfl

theorem reported_timeoutFault? {position : Nat} {limit : RangeLimit}
    (hlimit : config.rangeLimits[position]? = some limit) :
    Reported config.Violates [.bucketTimeout position] (timeoutFault? position limit) := by
  apply Reported.singleton
  intro fault
  rw [timeoutFault?, Option.ite_none_right_eq_some, Option.some.injEq]
  constructor
  · rintro ⟨hzero, rfl⟩
    exact .bucketTimeout hlimit hzero
  · rintro (_ | ⟨hsame, hzero⟩)
    cases hlimit.symm.trans hsame
    exact ⟨hzero, rfl⟩

/-- The first bucket follows no other, so its order is never at fault. -/
theorem reported_orderFault? {before rest : List RangeLimit} {limit : RangeLimit}
    (hsplit : config.rangeLimits = before ++ limit :: rest) :
    Reported config.Violates [.bucketOrder before.length]
      (orderFault? (before.getLast?.map (·.maxRange)) limit) := by
  apply Reported.singleton
  intro fault
  rcases List.eq_nil_or_concat before with rfl | ⟨front, previous, rfl⟩
  · exact ⟨nofun, nofun⟩
  · have hprevious : config.rangeLimits[front.length]? = some previous := by simp [hsplit]
    have hlimit : config.rangeLimits[front.length + 1]? = some limit := by simp [hsplit]
    rw [List.concat_eq_append, List.getLast?_concat, Option.map_some, orderFault?,
      Option.bind_some, Option.ite_none_right_eq_some, Option.some.injEq, List.length_append,
      List.length_singleton]
    constructor
    · rintro ⟨hle, rfl⟩
      exact .bucketOrder hprevious hlimit hle
    · rintro (_ | _ | ⟨hbefore, hsame, hle⟩)
      cases hprevious.symm.trans hbefore
      cases hlimit.symm.trans hsame
      exact ⟨hle, rfl⟩

/-- Buckets are checked one after the other, each against the one before. -/
theorem reported_bucketFault? {before rest : List RangeLimit}
    (hsplit : config.rangeLimits = before ++ rest) :
    Reported config.Violates ((List.range' before.length rest.length).flatMap bucketChecks)
      (bucketFault? before.length (before.getLast?.map (·.maxRange)) rest) := by
  induction rest generalizing before with
  | nil => exact List.forall_mem_nil _
  | cons limit rest ih =>
      have hlimit : config.rangeLimits[before.length]? = some limit := by simp [hsplit]
      have hbehind := ih (hsplit.trans (List.append_cons before limit rest))
      rw [List.length_append, List.getLast?_concat] at hbehind
      rw [List.length_cons, List.range'_succ, List.flatMap_cons, bucketFault?_cons]
      exact (reported_timeoutFault? hlimit).append fun _ =>
        (reported_orderFault? hsplit).append fun _ => hbehind

/-- What is reported is the fault of the first check that the settings violate. -/
theorem reported_fault? (config : FetchConfig) :
    Reported config.Violates config.checks config.fault? := by
  have hbuckets := reported_bucketFault? (List.nil_append config.rangeLimits).symm
  rw [List.length_nil, ← List.range_eq_range'] at hbuckets
  have hall := (reported_timeouts config config.timeouts).append fun _ => hbuckets
  rw [checks, fault?]
  cases hfound : config.timeouts.find? fun entry => entry.2 = .zero with
  | some entry => simpa [hfound] using hall
  | none => simpa [hfound] using hall

/-- Who passes all checks is valid, though only neighbours are compared. -/
theorem pass_checks_iff : Pass config.Violates config.checks ↔ config.Valid := by
  rw [checks, pass_append]
  constructor
  · rintro ⟨htimeouts, hbuckets⟩
    have hchecks : ∀ position < config.rangeLimits.length, ∀ check ∈ bucketChecks position,
        ∀ fault, ¬ config.Violates check fault := fun position hlt check hcheck =>
      hbuckets check (List.mem_flatMap.mpr ⟨position, List.mem_range.mpr hlt, hcheck⟩)
    refine ⟨fun entry hentry hzero => ?_, fun limit hlimit hzero => ?_, ?_⟩
    · have hpass := htimeouts _ (List.mem_map_of_mem hentry)
      rw [hzero] at hpass
      exact hpass _ (.timeout entry.1)
    · obtain ⟨position, hlt, rfl⟩ := List.mem_iff_getElem.mp hlimit
      exact hchecks position hlt _ (by simp [bucketChecks]) _
        (.bucketTimeout (List.getElem?_eq_getElem hlt) hzero)
    · rw [List.isChain_iff_getElem]
      intro position hlt
      refine Nat.lt_of_not_le fun hle => ?_
      exact hchecks (position + 1) hlt _ (by simp [bucketChecks]) _
        (.bucketOrder (List.getElem?_eq_getElem (Nat.lt_of_succ_lt hlt))
          (List.getElem?_eq_getElem hlt) hle)
  · intro hvalid
    constructor
    · intro check hcheck fault hviolated
      obtain ⟨⟨setting, value⟩, hentry, rfl⟩ := List.mem_map.mp hcheck
      cases hviolated with
      | timeout => exact hvalid.timeouts _ hentry rfl
    · intro check hcheck fault hviolated
      obtain ⟨position, hlt, hcheck⟩ := List.mem_flatMap.mp hcheck
      cases hviolated with
      | timeout => simp [bucketChecks] at hcheck
      | bucketTimeout hlimit hzero =>
          exact hvalid.bucket_timeouts _ (List.mem_of_getElem? hlimit) hzero
      | bucketOrder hprevious hlimit hle =>
          obtain ⟨hlt, rfl⟩ := List.getElem?_eq_some_iff.mp hlimit
          obtain ⟨hbefore, rfl⟩ := List.getElem?_eq_some_iff.mp hprevious
          exact Nat.not_lt.mpr hle (List.isChain_iff_getElem.mp hvalid.ascending _ hlt)

theorem fault?_eq_none_iff : config.fault? = none ↔ config.Valid :=
  config.reported_fault?.eq_none_iff.trans pass_checks_iff

theorem fault?_eq_some_iff {fault : SettingFault} :
    config.fault? = some fault ↔ FirstFault config.Violates config.checks fault :=
  config.reported_fault?.eq_some_iff Violates.unique

/-! ## Search -/

variable {range : UInt32} {limit : RangeLimit} {position : Nat}

theorem Valid.pairwise_maxRange (h : config.Valid) :
    config.rangeLimits.Pairwise fun shorter longer => shorter.maxRange < longer.maxRange := by
  have htrans : Trans (fun a b : RangeLimit => a.maxRange < b.maxRange)
      (fun a b : RangeLimit => a.maxRange < b.maxRange)
      (fun a b : RangeLimit => a.maxRange < b.maxRange) := ⟨Nat.lt_trans⟩
  exact List.isChain_iff_pairwise.mp h.ascending

/-- The bucket that is found by its limits is the one that is found by its position. -/
theorem rangeLimit?_eq_bind_bucket? (config : FetchConfig) (range : UInt32) :
    config.rangeLimit? range = (config.bucket? range).bind (config.rangeLimits[·]?) :=
  List.find?_eq_bind_findIdx?_getElem?

theorem rangeLimit?_eq_none_iff :
    config.rangeLimit? range = none ↔ ∀ limit ∈ config.rangeLimits, ¬ limit.Covers range := by
  simp [rangeLimit?, RangeLimit.Covers]

theorem bucket?_eq_none_iff :
    config.bucket? range = none ↔ ∀ limit ∈ config.rangeLimits, ¬ limit.Covers range := by
  simp [bucket?, RangeLimit.Covers]

theorem covers_of_bucket? (hbucket : config.bucket? range = some position) :
    ∃ limit, config.rangeLimits[position]? = some limit ∧ limit.Covers range := by
  obtain ⟨hlt, hcovers, -⟩ := List.findIdx?_eq_some_iff_getElem.mp hbucket
  exact ⟨_, List.getElem?_eq_getElem hlt, of_decide_eq_true hcovers⟩

/-- No bucket in front of one that covers a range is passed over for a later one. -/
theorem exists_bucket?_le (hlimit : config.rangeLimits[position]? = some limit)
    (hcovers : limit.Covers range) : ∃ first ≤ position, config.bucket? range = some first := by
  cases hbucket : config.bucket? range with
  | none => exact absurd hcovers (bucket?_eq_none_iff.mp hbucket _ (List.mem_of_getElem? hlimit))
  | some first =>
      obtain ⟨hlt, rfl⟩ := List.getElem?_eq_some_iff.mp hlimit
      obtain ⟨hfirst, -, hbefore⟩ := List.findIdx?_eq_some_iff_getElem.mp hbucket
      refine ⟨first, Nat.le_of_not_lt fun hlate => ?_, rfl⟩
      exact hbefore position hlate (decide_eq_true hcovers)

/-- A longer range is never in an earlier bucket. -/
theorem bucket?_mono {shorter longer : UInt32} (hle : shorter ≤ longer)
    (hbucket : config.bucket? longer = some position) :
    ∃ first ≤ position, config.bucket? shorter = some first := by
  obtain ⟨limit, hlimit, hcovers⟩ := covers_of_bucket? hbucket
  exact exists_bucket?_le hlimit (RangeLimit.Covers.mono hcovers hle)

/-- The first bucket that covers a range is the shortest one. -/
theorem Valid.rangeLimit?_eq_some_iff (h : config.Valid) :
    config.rangeLimit? range = some limit ↔
      limit ∈ config.rangeLimits ∧ limit.Covers range ∧
        ∀ other ∈ config.rangeLimits, other.Covers range → limit.maxRange ≤ other.maxRange := by
  have hshortest : ∀ {found}, config.rangeLimit? range = some found →
      found ∈ config.rangeLimits ∧ found.Covers range ∧
        ∀ other ∈ config.rangeLimits, other.Covers range → found.maxRange ≤ other.maxRange := by
    intro found hfound
    obtain ⟨hcovers, before, after, hsplit, hbefore⟩ := List.find?_eq_some_iff_append.mp hfound
    have hascending := h.pairwise_maxRange
    rw [hsplit, List.pairwise_append, List.pairwise_cons] at hascending
    obtain ⟨-, ⟨hafter, -⟩, -⟩ := hascending
    refine ⟨hsplit ▸ by simp, of_decide_eq_true hcovers, fun other hother hother_covers => ?_⟩
    rw [hsplit, List.mem_append, List.mem_cons] at hother
    rcases hother with hother | rfl | hother
    · have hpassed := hbefore other hother
      rw [Bool.not_eq_true', decide_eq_false_iff_not] at hpassed
      exact absurd hother_covers hpassed
    · exact Nat.le_refl _
    · exact Nat.le_of_lt (hafter other hother)
  refine ⟨hshortest, ?_⟩
  rintro ⟨hlimit, hcovers, hleast⟩
  cases hfound : config.rangeLimit? range with
  | none => exact absurd hcovers (rangeLimit?_eq_none_iff.mp hfound limit hlimit)
  | some found =>
      obtain ⟨hmem, hfound_covers, hfound_least⟩ := hshortest hfound
      have hdistinct : (config.rangeLimits.map (·.maxRange)).Nodup :=
        List.pairwise_map.mpr (h.pairwise_maxRange.imp fun hlt hsame =>
          Nat.ne_of_lt hlt (congrArg Duration.nanos hsame))
      have hsame : found.maxRange = limit.maxRange := Duration.ext
        (Nat.le_antisymm (hfound_least limit hlimit hcovers) (hleast found hmem hfound_covers))
      rw [List.inj_on_of_nodup_map hdistinct hmem hlimit hsame]

theorem Valid.queryTimeout_ne_zero (h : config.Valid) (range : UInt32) :
    config.queryTimeout range ≠ .zero := by
  rw [queryTimeout]
  cases hfound : config.rangeLimit? range with
  | none =>
    exact h.timeouts ("default_query_timeout", config.defaultQueryTimeout) List.mem_cons_self
  | some limit => exact h.bucket_timeouts limit (List.mem_of_find?_eq_some hfound)

end FetchConfig

end SeriesGateway
