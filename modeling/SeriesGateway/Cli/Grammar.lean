import SeriesGateway.Decimal.Read

/-! # Grammar of a command line

Which options, flags and positional words a command takes, what their values may
be, and what is said about them.
-/

namespace SeriesGateway.Cli

/-- How decoded rows are written. -/
inductive Format where
  | csv
  | json
deriving DecidableEq, Repr

def Format.ofText? : String → Option Format
  | "csv" => some .csv
  | "json" => some .json
  | _ => none

/-- A whole number of 32 bits; one sign is allowed. -/
def word? (text : String) : Option UInt32 :=
  match text.toList with
  | '-' :: digits =>
    -- minus zero is a whole number, too
    match Decimal.readUInt32 digits with
    | .ok 0 => if digits.head? = some '+' then none else some 0
    | _ => none
  | digits => (Decimal.readUInt32 digits).toOption

/-- What a value stands for. -/
inductive ValueKind where
  | text
  | path
  | number
  | format
deriving DecidableEq, Repr

/-- Whether a text is a value of a kind. A path must not be empty. -/
def ValueKind.admits : ValueKind → String → Bool
  | text, _ => true
  | path, value => !value.isEmpty
  | number, value => (word? value).isSome
  | format, value => (Format.ofText? value).isSome

/-- An option with a value. -/
structure ValuedOption where
  name : String
  /-- The word that stands for the value in descriptions. -/
  placeholder : String
  kind : ValueKind
  required : Bool
  /-- The value that is taken if the option is absent, as far as it is described. -/
  standard : Option String
  summary : String
deriving DecidableEq, Repr

structure FlagOption where
  name : String
  summary : String
deriving DecidableEq, Repr

inductive OptionSpec where
  | valued (option : ValuedOption)
  | flag (option : FlagOption)
deriving DecidableEq, Repr

structure PositionalSpec where
  placeholder : String
  kind : ValueKind
  /-- Whether any number of words may follow. -/
  repeated : Bool
  summary : String
deriving DecidableEq, Repr

/-- What a command takes. -/
structure Grammar where
  name : String
  summary : String
  positionals : List PositionalSpec
  options : List OptionSpec
deriving DecidableEq, Repr

namespace Grammar

/-- The option of a name that takes a value. -/
def valued? (grammar : Grammar) (name : String) : Option ValuedOption :=
  grammar.options.findSome? fun
    | .valued option => if option.name = name then some option else none
    | .flag _ => none

def hasFlag (grammar : Grammar) (name : String) : Bool :=
  grammar.options.any fun
    | .valued _ => false
    | .flag option => option.name == name

/-- What the positional word at an index stands for: the last specification
covers all words behind it if it may be repeated. -/
def positional? (grammar : Grammar) (index : Nat) : Option PositionalSpec :=
  match grammar.positionals[index]? with
  | some spec => some spec
  | none => grammar.positionals.getLast?.filter (·.repeated)

end Grammar

end SeriesGateway.Cli
