import SeriesGateway.Decimal.Read
import SeriesGateway.Text.Fields
import SeriesGateway.Text.Utf8
import SeriesGateway.Wire.Row

/-! # Rows as typed

Rows for test responses are typed as `name=time:value,time:value,...`. Blank
points are left out, and blanks around numbers are dropped.
-/

namespace SeriesGateway.Cli

/-- Why a typed row cannot be read. -/
inductive FixtureFault where
  | noName (row : String)
  | noValue (point : String)
  | number (fault : Decimal.Fault)
deriving DecidableEq, Repr

def FixtureFault.message : FixtureFault → String
  | noName row => s!"row '{row}' must look like name=time:value,..."
  | noValue point => s!"point '{point}' must look like time:value"
  | number fault => fault.message

namespace Fixture

/-- Reads `time:value`. -/
def readPoint (point : List Char) : Except FixtureFault (UInt32 × Sample) :=
  match Text.cut? ':' point with
  | none => .error (.noValue (String.ofList point))
  | some (time, value) => do
    let time ← (Decimal.readUInt32 (Text.trim time)).mapError .number
    let value ← (Decimal.readReal (Text.trim value)).mapError .number
    return (time, value)

/-- Reads points that are separated by commas. -/
def readPoints (text : List Char) : Except FixtureFault (List (UInt32 × Sample)) :=
  (((Text.fields ',' text).map Text.trim).filter fun point => !point.isEmpty).mapM readPoint

/-- Reads a row; its timestamps, if the shape has them, are its times. -/
def readRow (shape : Wire.RowShape) (text : String) : Except FixtureFault Wire.Row :=
  match Text.cut? '=' text.toList with
  | none => .error (.noName text)
  | some (name, points) => do
    let points ← readPoints points
    let times := points.map (·.1)
    let timestamps :=
      match shape with
      | .aggregated => []
      | .unaggregated => times
    return ⟨Text.Utf8.encode name, times, points.map (·.2), timestamps⟩

/-- The response with the given rows. -/
def response (shape : Wire.RowShape) (rows : List String) :
    Except FixtureFault (List UInt8) := do
  let rows ← rows.mapM (readRow shape)
  return rows.flatMap (Wire.Row.encode shape)

end Fixture

end SeriesGateway.Cli
