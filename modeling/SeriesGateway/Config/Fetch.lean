import SeriesGateway.Error

/-! # Fetch settings

Limits and timeouts of the orchestrator. Queries are sorted into buckets by the
length of their range; a bucket has a query timeout and a number of slots of its
own.
-/

namespace SeriesGateway

/-- The bucket of the queries over a range that is not longer than `maxRange`. -/
structure RangeLimit where
  maxRange : Duration
  /-- Queries in flight at once; zero is no limit. -/
  maxConcurrent : Nat
  /-- Time for one storage round trip. -/
  queryTimeout : Duration
deriving DecidableEq, Repr

structure FetchConfig where
  /-- Let storage aggregate. -/
  aggregated : Bool
  /-- Metrics that one request may expand to; zero is no limit. -/
  maxMetricsPerRequest : Nat
  /-- Queries in flight at once; zero is no limit. -/
  maxConcurrentQueries : Nat
  /-- Queries of one request in flight at once; zero is no limit. -/
  maxQueriesPerRequest : Nat
  /-- Buckets, ascending by range. -/
  rangeLimits : List RangeLimit
  /-- Query timeout beyond the last bucket. -/
  defaultQueryTimeout : Duration
  /-- Time for the secondary source, whose points are then left out. -/
  secondaryTimeout : Duration
  /-- How long target groups wait for the steps of each other. -/
  stepResolveTimeout : Duration
  /-- Time for a whole request. -/
  requestTimeout : Duration
deriving DecidableEq, Repr

namespace FetchConfig

def standard : FetchConfig :=
  { aggregated := false
    maxMetricsPerRequest := 0
    maxConcurrentQueries := 0
    maxQueriesPerRequest := 0
    rangeLimits := []
    defaultQueryTimeout := .ofSeconds 60
    secondaryTimeout := .ofSeconds 1
    stepResolveTimeout := .ofSeconds 2
    requestTimeout := .ofSeconds 120 }

instance : Inhabited FetchConfig := ⟨standard⟩

/-- The timeouts that must not be zero, in the order they are checked. -/
def timeouts (config : FetchConfig) : List (String × Duration) :=
  [("default_query_timeout", config.defaultQueryTimeout),
    ("secondary_timeout", config.secondaryTimeout),
    ("step_resolve_timeout", config.stepResolveTimeout),
    ("request_timeout", config.requestTimeout)]

/-- The first fault of buckets that start at a position; `previous` is the range
of the bucket before. -/
def bucketFault? (position : Nat) (previous : Option Duration) :
    List RangeLimit → Option SettingFault
  | [] => none
  | limit :: rest =>
    if limit.queryTimeout = .zero then some (.zeroBucketTimeout position)
    else
      match previous with
      | some range =>
        if limit.maxRange ≤ range then some (.unorderedBuckets limit.maxRange range)
        else bucketFault? (position + 1) (some limit.maxRange) rest
      | none => bucketFault? (position + 1) (some limit.maxRange) rest

/-- The first setting that the orchestrator cannot run with. -/
def fault? (config : FetchConfig) : Option SettingFault :=
  match config.timeouts.find? fun entry => entry.2 = .zero with
  | some (setting, _) => some (.zeroTimeout setting)
  | none => bucketFault? 0 none config.rangeLimits

/-- Position of the first bucket for a range in seconds. -/
def bucket? (config : FetchConfig) (range : UInt32) : Option Nat :=
  config.rangeLimits.findIdx? fun limit => Duration.ofSeconds range.toNat ≤ limit.maxRange

/-- The first bucket for a range in seconds. -/
def rangeLimit? (config : FetchConfig) (range : UInt32) : Option RangeLimit :=
  config.rangeLimits.find? fun limit => Duration.ofSeconds range.toNat ≤ limit.maxRange

/-- Query timeout for a range in seconds. -/
def queryTimeout (config : FetchConfig) (range : UInt32) : Duration :=
  ((config.rangeLimit? range).map (·.queryTimeout)).getD config.defaultQueryTimeout

end FetchConfig

end SeriesGateway
