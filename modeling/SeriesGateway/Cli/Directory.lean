import SeriesGateway.Cli.Action
import SeriesGateway.Regex.Reader

/-! # Runs in a directory

A directory that holds files only, the names that lead to them, and runs of the
program in it.
-/

namespace SeriesGateway.Cli

/-- The files of a directory. -/
structure Directory where
  files : List (String × List UInt8)
deriving DecidableEq, Repr

namespace Directory

/-- Where a path leads. -/
inductive Place where
  /-- A name in the directory, and whether slashes follow it. -/
  | entry (name : String) (slashed : Bool)
  /-- The directory itself or one above it. -/
  | folder
  /-- Through a name in the directory. -/
  | through (name : String)
  /-- Outside of the directory, where nothing is. -/
  | outside

/-- Where the rest of a path leads, from the directory. -/
def follow : List String → Place
  | [] => .folder
  | name :: rest =>
    if name.isEmpty || name == "." then follow rest
    else if name == ".." then
      if rest.all fun next => next.isEmpty || next == "." || next == ".." then .folder else .outside
    else if rest.isEmpty then .entry name false
    else if rest.all String.isEmpty then .entry name true
    else .through name

/-- Where a path leads. -/
def locate (path : String) : Place :=
  let parts := (Text.fields '/' path.toList).map String.ofList
  match parts with
  | "" :: rest => if rest.all String.isEmpty then .folder else .outside
  | _ => follow parts

def contains (directory : Directory) (name : String) : Bool :=
  (directory.files.lookup name).isSome

/-- Reads a file. -/
def read (directory : Directory) (path : String) : Content :=
  match locate path with
  | .folder => .error .isDirectory
  | .outside => .error .notFound
  | .through name => .error (if directory.contains name then .notDirectory else .notFound)
  | .entry name slashed =>
    match directory.files.lookup name with
    | none => .error .notFound
    | some content => if slashed then .error .notDirectory else .ok content

/-- Writes a file, over the one that is there. -/
def write (directory : Directory) (path : String) (content : List UInt8) :
    Except FileFault Directory :=
  match locate path with
  | .folder => .error .isDirectory
  | .outside => .error .notFound
  | .through name => .error (if directory.contains name then .notDirectory else .notFound)
  | .entry name slashed =>
    if slashed then .error .isDirectory
    else .ok ⟨(name, content) :: directory.files.filter fun file => file.1 ≠ name⟩

/-- Does what a command does. -/
def perform (directory : Directory) : Action → Transcript × Directory
  | .print text => (.success text, directory)
  | .fail message => (.failure message, directory)
  | .save path content text =>
    match directory.write path content with
    | .ok after => (.success text, after)
    | .error fault => (.failure fault.message, directory)

/-- Runs the program, called by a name, with the given words. -/
def run (directory : Directory) (program : String) (words : List String) :
    Transcript × Directory :=
  match Request.ofWords program words with
  | .unusable => (.unusable program, directory)
  | .page text => (.success text, directory)
  | .run command =>
    let content : Content :=
      match command.input? with
      | some path => directory.read path
      | none => .ok []
    directory.perform (command.action Regex.engine content)

end Directory

end SeriesGateway.Cli
