import SeriesGateway.Cli.Directory
import SeriesGateway.Fetch.Run
import SeriesGateway.Fetch.Script
import SeriesGateway.Main
import SeriesGateway.Proofs.Point.Bucketing
import SeriesGateway.Proofs.Wire.RoundTrip
import SeriesGateway.Rules.Shared
import SeriesGateway.Step.Waiting
import SeriesGateway.Proofs.Step.History
import SeriesGateway.Proofs.Fetch.Gathering
import SeriesGateway.Proofs.Fetch.Schedule
import SeriesGateway.Proofs.Step.Agreement
import SeriesGateway.Proofs.Step.Exactness
import SeriesGateway.Proofs.Fetch.Agreement
import SeriesGateway.Proofs.Point.Entry
import SeriesGateway.Proofs.Point.Slice
import SeriesGateway.Proofs.Point.Contest
import SeriesGateway.Proofs.Point.Reduction
import SeriesGateway.Proofs.Fetch.Description
import SeriesGateway.Proofs.Rules.Lookup
import SeriesGateway.Proofs.Target.Pushing
import SeriesGateway.Proofs.Fetch.Series
import SeriesGateway.Proofs.Fetch.ArrivalOrder
import SeriesGateway.Proofs.Fetch.Runs
import SeriesGateway.Proofs.Admission.Hall
import SeriesGateway.Proofs.Fetch.Moves
import SeriesGateway.Proofs.Distinct
import SeriesGateway.Proofs.Plan.FunctionSteps
import SeriesGateway.Proofs.Fetch.Planning
import SeriesGateway.Proofs.Fetch.Reachability
import SeriesGateway.Proofs.Fetch.Filing
import SeriesGateway.Proofs.Fetch.Outcome
import SeriesGateway.Proofs.Fetch.Timeline
import SeriesGateway.Proofs.Admission.Occupancy
import SeriesGateway.Proofs.Fetch.Slots
import SeriesGateway.Proofs.Wire.Grammar
import SeriesGateway.Proofs.Rules.Precedence
import SeriesGateway.Proofs.Plan.Asking
import SeriesGateway.Proofs.Plan.Bounds
import SeriesGateway.Proofs.Plan.Budget
import SeriesGateway.Proofs.Wire.Truncation
import SeriesGateway.Proofs.Wire.Finality
import SeriesGateway.Proofs.Fetch.Rows
import SeriesGateway.Proofs.Fetch.Responses
import SeriesGateway.Proofs.Fetch.Traces
import SeriesGateway.Proofs.Point.Idempotence
import SeriesGateway.Proofs.Point.Nesting
import SeriesGateway.Proofs.Point.Numbering
import SeriesGateway.Proofs.Point.Views
import SeriesGateway.Proofs.Point.Recognition
import SeriesGateway.Proofs.Retention.Ladder
import SeriesGateway.Proofs.Checks
import SeriesGateway.Proofs.Rules.Compilation
import SeriesGateway.Proofs.Rules.Reloading
import SeriesGateway.Proofs.Config.Buckets
import SeriesGateway.Proofs.Fetch.Placement
import SeriesGateway.Proofs.Plan.Contribution
import SeriesGateway.Proofs.Wire.Varint
import SeriesGateway.Proofs.Plan.DateCondition
import SeriesGateway.Proofs.Fetch.Lineup
import SeriesGateway.Proofs.Fetch.Secondary
import SeriesGateway.Proofs.Step.Waiting
import SeriesGateway.Proofs.Cli.Diagnosis
