import SeriesGateway.Cli.Grammar
import SeriesGateway.Text.Fields

/-! # Command line words

How the words behind a command are sorted into options, flags and positional
words. An option takes its value from the same word behind an equals sign or from
the next word; options and positional words may be mixed; two hyphens end the
options. Nothing may be given twice. A request for help counts if nothing before
it is wrong, whatever follows it.
-/

namespace SeriesGateway.Cli

/-- Sorted words. -/
structure Arguments where
  values : List (String × String)
  flags : List String
  positional : List String
deriving DecidableEq, Repr

/-- What a word looks like. -/
inductive Word where
  | plain
  /-- Two hyphens alone. -/
  | terminator
  /-- A long option with the value attached to it, if any. -/
  | long (name : String) (value : Option String)
  /-- A single hyphen with letters, of which the first one decides. -/
  | short (letter : Char)
deriving DecidableEq, Repr

def Word.ofText (text : String) : Word :=
  match text.toList with
  | ['-', '-'] => .terminator
  | '-' :: '-' :: rest =>
    match Text.cut? '=' rest with
    | some (name, value) => .long (String.ofList name) (some (String.ofList value))
    | none => .long (String.ofList rest) none
  | '-' :: letter :: _ => .short letter
  | _ => .plain

/-- What a list of words amounts to. -/
inductive Reading where
  | complete (arguments : Arguments)
  /-- Help is asked for, in detail by the long name. -/
  | help (detailed : Bool)
  | refused
deriving DecidableEq, Repr

namespace Arguments

def empty : Arguments := ⟨[], [], []⟩

def value? (arguments : Arguments) (name : String) : Option String :=
  arguments.values.lookup name

def hasFlag (arguments : Arguments) (name : String) : Bool := arguments.flags.contains name

/-- Adds a positional word, if the grammar has a place for it. -/
def addPositional? (grammar : Grammar) (arguments : Arguments) (word : String) :
    Option Arguments := do
  let spec ← grammar.positional? arguments.positional.length
  if spec.kind.admits word then
    some { arguments with positional := arguments.positional ++ [word] }
  else none

/-- Adds the value of an option; a second one is refused. -/
def addValue? (grammar : Grammar) (arguments : Arguments) (name value : String) :
    Option Arguments := do
  let option ← grammar.valued? name
  if option.kind.admits value && (arguments.value? name).isNone then
    some { arguments with values := arguments.values ++ [(name, value)] }
  else none

/-- Adds a flag; a second time it is refused. -/
def addFlag? (grammar : Grammar) (arguments : Arguments) (name : String) : Option Arguments :=
  if grammar.hasFlag name && !arguments.hasFlag name then
    some { arguments with flags := arguments.flags ++ [name] }
  else none

/-- Sorts words by a grammar. -/
def scan (grammar : Grammar) (arguments : Arguments) : List String → Reading
  | [] => .complete arguments
  | word :: rest =>
    match Word.ofText word with
    | .plain =>
      match addPositional? grammar arguments word with
      | some arguments => scan grammar arguments rest
      | none => .refused
    | .terminator =>
      match rest.foldlM (addPositional? grammar) arguments with
      | some arguments => .complete arguments
      | none => .refused
    | .short letter => if letter = 'h' then .help false else .refused
    | .long name (some value) =>
      match addValue? grammar arguments name value with
      | some arguments => scan grammar arguments rest
      | none => .refused
    | .long name none =>
      if name = "help" then .help true
      else
        match addFlag? grammar arguments name with
        | some arguments => scan grammar arguments rest
        | none =>
          match rest with
          | [] => .refused
          | value :: rest =>
            if Word.ofText value = .plain then
              match addValue? grammar arguments name value with
              | some arguments => scan grammar arguments rest
              | none => .refused
            else .refused

end Arguments

end SeriesGateway.Cli
