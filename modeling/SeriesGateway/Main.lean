import SeriesGateway.Cli.Action
import SeriesGateway.Regex.Reader

/-! # The program

Reads the file a command asks for, and does what the command does.
-/

namespace SeriesGateway.Cli

/-- What the operating system says about a failed operation. -/
def faultOf (error : IO.Error) : FileFault :=
  match error with
  | .noFileOrDirectory .. => .notFound
  | .inappropriateType .. => .notDirectory
  | other => .refused (toString other)

def readContent (path : String) : IO Content := do
  try
    let bytes ← IO.FS.readBinFile path
    return .ok bytes.toList
  catch error => return .error (faultOf error)

def perform : Action → IO Transcript
  | .print text => return .success text
  | .fail message => return .failure message
  | .save path content text => do
    try
      IO.FS.writeBinFile path ⟨content.toArray⟩
      return .success text
    catch error => return .failure (faultOf error).message

def run (program : String) (words : List String) : IO Transcript := do
  match Request.ofWords program words with
  | .unusable => return .unusable program
  | .page text => return .success text
  | .run command =>
    let content ←
      match command.input? with
      | some path => readContent path
      | none => pure (.ok [])
    perform (command.action Regex.engine content)

end SeriesGateway.Cli

def main (words : List String) : IO UInt32 := do
  let program := (← IO.appPath).fileName.getD ""
  let transcript ← SeriesGateway.Cli.run program words
  IO.print transcript.output
  IO.eprint transcript.errors
  return UInt32.ofNat transcript.code
