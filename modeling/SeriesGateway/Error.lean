import SeriesGateway.Duration
import SeriesGateway.Text.Hex

/-! # Errors

Every way an operation can fail, as a cause, and the text that reports it. The
families follow what a caller can do: mend the configuration or the rules,
distrust the storage answer, or retry the request.
-/

namespace SeriesGateway

/-- Why a file could not be read or written. -/
inductive FileFault where
  | notFound
  | notDirectory
  | isDirectory
  | notUtf8
  /-- Any other refusal of the operating system, by its message. -/
  | refused (message : String)
deriving DecidableEq, Repr

def FileFault.message : FileFault → String
  | notFound => "No such file or directory (os error 2)"
  | notDirectory => "Not a directory (os error 20)"
  | isDirectory => "Is a directory (os error 21)"
  | notUtf8 => "stream did not contain valid UTF-8"
  | refused message => message

/-- How a document fails to be a configuration: its text ends early, is no JSON,
or is JSON of the wrong form. -/
inductive JsonFault where
  | early
  | malformed
  | mismatch
deriving DecidableEq, Repr

def JsonFault.message : JsonFault → String
  | early => "unexpected end of text"
  | malformed => "malformed JSON"
  | mismatch => "value of the wrong form"

/-- A setting that no orchestrator can run with. -/
inductive SettingFault where
  | zeroTimeout (setting : String)
  | zeroBucketTimeout (bucket : Nat)
  | unorderedBuckets (range previous : Duration)
deriving DecidableEq, Repr

def SettingFault.message : SettingFault → String
  | zeroTimeout setting => s!"{setting} cannot be zero"
  | zeroBucketTimeout bucket => s!"range_limits[{bucket}].query_timeout cannot be zero"
  | unorderedBuckets range previous =>
    s!"range_limits must be ascending by max_range ({range.text} after {previous.text})"

inductive ConfigError where
  | unreadable (path : String) (fault : FileFault)
  | malformed (path : String) (fault : JsonFault)
  | invalid (fault : SettingFault)
deriving DecidableEq, Repr

def ConfigError.message : ConfigError → String
  | unreadable path fault => s!"failed to read config '{path}': {fault.message}"
  | malformed path fault => s!"failed to parse config '{path}': {fault.message}"
  | invalid fault => s!"invalid config: {fault.message}"

/-- Which part of a rule set is to blame. -/
inductive RulePlace where
  | defaults
  | pattern (index : Nat)
deriving DecidableEq, Repr

/-- The number a place goes by; the defaults go by the largest 64-bit number. -/
def RulePlace.number : RulePlace → Nat
  | defaults => UInt64.size - 1
  | pattern index => index

inductive RuleError where
  | invalidRegex (index : Nat) (pattern : String)
  | unknownFunction (place : RulePlace) (name : String)
  | unorderedRetention (index : Nat)
  | invalidRetention (value reason : String)
deriving DecidableEq, Repr

def RuleError.message : RuleError → String
  | invalidRegex index pattern => s!"pattern {index}: invalid regexp '{pattern}'"
  | unknownFunction place name =>
    s!"pattern {place.number}: unknown aggregation function '{name}'"
  | unorderedRetention index => s!"pattern {index}: retention ages must be strictly ascending"
  | invalidRetention value reason => s!"invalid retention '{value}': {reason}"

/-- A row that can never be decoded, with the bytes it was seen to have. -/
structure DecodeError where
  reason : String
  row : List UInt8
deriving DecidableEq, Repr

def DecodeError.message (e : DecodeError) : String :=
  s!"malformed response row: {e.reason} (row bytes: {Text.hexPreview e.row})"

/-- Why the common step of a request is not known. -/
inductive StepError where
  | timeout (waited : Duration) (missing : Nat)
  | overflow (step contribution : UInt32)
deriving DecidableEq, Repr

def StepError.message : StepError → String
  | timeout waited missing =>
    s!"common step unresolved after {waited.text}: {missing} participant(s) did not report"
  | overflow step contribution =>
    s!"common step overflows: lcm({step}, {contribution}) exceeds u32::MAX"

inductive TransportError where
  | request (reason : String)
  | status (status : Nat) (body : String)
  | body (reason : String)
deriving DecidableEq, Repr

def TransportError.message : TransportError → String
  | request reason => s!"storage request failed: {reason}"
  | status code answer => s!"storage returned status {code}: {answer}"
  | body reason => s!"failed to read storage response: {reason}"

inductive FetchError where
  | metricsLimitExceeded (requested limit : Nat)
  | admissionTimeout (waited : Duration)
  | queryTimeout (table : String) (timeout : Duration)
  | deadline
  | step (error : StepError)
  | transport (error : TransportError)
  | decode (error : DecodeError)
  | taskFailed (reason : String)
deriving DecidableEq, Repr

/-- What the reply layer makes of a failed fetch. -/
inductive ErrorKind where
  | retry
  | malformedUpstream
  | resourceExhausted
  | policyRejected
deriving DecidableEq, Repr

namespace FetchError

def message : FetchError → String
  | metricsLimitExceeded requested limit =>
    s!"request expands to {requested} metrics, limit is {limit}"
  | admissionTimeout waited => s!"no query slot available after {waited.text}"
  | queryTimeout table timeout => s!"query on '{table}' timed out after {timeout.text}"
  | deadline => "request deadline exceeded"
  | step error => error.message
  | transport error => error.message
  | decode error => error.message
  | taskFailed reason => s!"fetch task failed: {reason}"

def kind : FetchError → ErrorKind
  | metricsLimitExceeded .. => .policyRejected
  | admissionTimeout .. => .resourceExhausted
  | deadline => .resourceExhausted
  | decode _ => .malformedUpstream
  | queryTimeout .. => .retry
  | step _ => .retry
  | transport _ => .retry
  | taskFailed _ => .retry

end FetchError

/-- The error of any operation, by the phase that raises it. -/
inductive GatewayError where
  | config (error : ConfigError)
  | rule (error : RuleError)
  | decode (error : DecodeError)
  | fetch (error : FetchError)
deriving DecidableEq, Repr

def GatewayError.message : GatewayError → String
  | config error => s!"config error: {error.message}"
  | rule error => s!"rule error: {error.message}"
  | decode error => s!"decode error: {error.message}"
  | fetch error => s!"fetch error: {error.message}"

end SeriesGateway
