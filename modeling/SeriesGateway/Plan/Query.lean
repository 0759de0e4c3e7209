import SeriesGateway.Aggregation
import SeriesGateway.Calendar
import SeriesGateway.Plan.MetricList
import SeriesGateway.Wire.Row

/-! # Storage queries

The round trips a plan consists of, and their texts. Tables are partitioned by
date, so every query narrows the dates before it narrows the times.
-/

namespace SeriesGateway.Plan

/-- One storage round trip. -/
structure StorageQuery where
  table : String
  text : String
  external : ExternalTable
  /-- Aligned bounds, both inclusive. -/
  start : UInt32
  stop : UInt32
  /-- Width of the buckets; for raw points the largest step of a metric. -/
  step : UInt32
  shape : Wire.RowShape
  /-- The aggregate that storage applies; none for raw points. -/
  function : Option Aggregation
deriving DecidableEq, Repr

/-- The condition on dates that all times between two bounds satisfy. -/
def dateCondition (start stop : UInt32) : String :=
  let first := (Calendar.ofEpochSecond start).text
  let last := (Calendar.ofEpochSecond stop).text
  s!"PREWHERE Date >= '{first}' AND Date <= '{last}'"

/-- The condition on paths and times. -/
def rowCondition (start stop : UInt32) : String :=
  s!"WHERE (Path IN {metricsTable}) AND (Time >= {start} AND Time <= {stop})"

/-- The part of a query that says where rows come from. -/
def source (table : String) (start stop : UInt32) : String :=
  s!"FROM {table} {dateCondition start stop} {rowCondition start stop}"

/-- Asks for raw points. -/
def rawText (table : String) (start stop : UInt32) : String :=
  "SELECT Path, groupArray(Time), groupArray(Value), groupArray(Timestamp) " ++
    source table start stop ++ " GROUP BY Path FORMAT RowBinary"

/-- Asks for one point per bucket. -/
def aggregatedText (table : String) (function : Aggregation) (step start stop : UInt32) :
    String :=
  let bucket := s!"intDiv(Time, {step}) * {step} AS Bucket"
  let value := s!"{function.storageName}(Value) AS Agg"
  s!"SELECT Path, groupArray(Bucket), groupArray(Agg) FROM (SELECT Path, {bucket}, {value} " ++
    source table start stop ++
    " GROUP BY Path, Bucket ORDER BY Path, Bucket) GROUP BY Path FORMAT RowBinary"

end SeriesGateway.Plan
