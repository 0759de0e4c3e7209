import SeriesGateway.Cli.Command

/-! # Help pages

Descriptions of the program, under the name it was called by, and of its commands.
A page lists its entries in one line each; in detail, an entry has its text below
its name.
-/

namespace SeriesGateway.Cli.Help

/-- A line of a list: its name, what is said about it, a note in brackets, and
the choices it leaves. -/
structure Entry where
  label : String
  summary : String
  notes : List String
  choices : List (String × String)

def padding (width : Nat) (text : String) : String :=
  String.ofList (List.replicate (width - text.length) ' ')

def longest (labels : List String) : Nat := labels.foldl (fun n label => max n label.length) 0

/-- The choices that a value of a kind has, with what they mean. -/
def choices : ValueKind → List (String × String)
  | .format =>
    [("csv", "Comma-separated values, one point per line"), ("json", "JSON array of rows")]
  | _ => []

/-- A brief list: all texts begin in one column. -/
def brief (entries : List Entry) : String :=
  let width := longest (entries.map (·.label)) + 2
  let line (entry : Entry) : String :=
    let choices :=
      if entry.choices.isEmpty then []
      else ["[possible values: " ++ ", ".intercalate (entry.choices.map (·.1)) ++ "]"]
    "  " ++ entry.label ++ padding width entry.label ++
      " ".intercalate (entry.summary :: (entry.notes ++ choices)) ++ "\n"
  String.join (entries.map line)

/-- The indentation of texts below names. -/
def indent : String := "          "

/-- A detailed list: every text begins below its name. -/
def detailed (entries : List Entry) : String :=
  let item (entry : Entry) : String :=
    let width := longest (entry.choices.map (·.1)) + 2
    let choice : String × String → String := fun (name, meaning) =>
      indent ++ "- " ++ name ++ ":" ++ padding (width - 1) name ++ meaning ++ "\n"
    let choices :=
      if entry.choices.isEmpty then ""
      else "\n" ++ indent ++ "Possible values:\n" ++ String.join (entry.choices.map choice)
    "  " ++ entry.label ++ "\n" ++ indent ++
      ("\n" ++ indent ++ "\n" ++ indent).intercalate (entry.summary :: entry.notes) ++ "\n" ++
      choices
  "\n".intercalate (entries.map item)

/-- Whether a command has more to say than its brief page shows. -/
def hasDetails (grammar : Grammar) : Bool :=
  grammar.options.any fun
    | .valued option => !(choices option.kind).isEmpty
    | .flag _ => false

def ofPositional (spec : PositionalSpec) : Entry :=
  ⟨"<" ++ spec.placeholder ++ ">" ++ (if spec.repeated then "..." else ""), spec.summary, [],
    choices spec.kind⟩

/-- The name of an option with the place of its value. -/
def optionLabel : OptionSpec → String
  | .valued option => "--" ++ option.name ++ " <" ++ option.placeholder ++ ">"
  | .flag option => "--" ++ option.name

def ofOption (spec : OptionSpec) : Entry :=
  let label := "    " ++ optionLabel spec
  match spec with
  | .valued option =>
    ⟨label, option.summary,
      option.standard.toList.map fun value => "[default: " ++ value ++ "]", choices option.kind⟩
  | .flag option => ⟨label, option.summary, [], []⟩

def helpEntry (summary : String) : Entry := ⟨"-h, --help", summary, [], []⟩

/-- The pattern of a command line: optional words are left to one placeholder. -/
def usage (program : String) (grammar : Grammar) : String :=
  let required := grammar.options.filter fun
    | .valued option => option.required
    | .flag _ => false
  let optional := if required.length < grammar.options.length then ["[OPTIONS]"] else []
  " ".intercalate
    ("Usage:" :: program :: grammar.name :: (optional ++ required.map optionLabel ++
      grammar.positionals.map fun spec => (ofPositional spec).label)) ++ "\n"

/-- The page of a command. -/
def page (program : String) (grammar : Grammar) (inDetail : Bool) : String :=
  let help :=
    if !hasDetails grammar then helpEntry "Print help"
    else if inDetail then helpEntry "Print help (see a summary with '-h')"
    else helpEntry "Print help (see more with '--help')"
  let list := if inDetail && hasDetails grammar then detailed else brief
  grammar.summary ++ "\n\n" ++ usage program grammar ++
    "\nArguments:\n" ++ list (grammar.positionals.map ofPositional) ++
    "\nOptions:\n" ++ list (grammar.options.map ofOption ++ [help])

/-- What the command that prints help says about itself. -/
def helpSummary : String := "Print this message or the help of the given subcommand(s)"

/-- The page of the program. -/
def overview (program : String) : String :=
  s!"Diagnostics CLI for the {program} read-path engine\n\nUsage: {program} <COMMAND>\n" ++
    "\nCommands:\n" ++
    brief (Command.all.map (fun command => ⟨command.1.name, command.1.summary, [], []⟩) ++
      [⟨"help", helpSummary, [], []⟩]) ++
    "\nOptions:\n" ++ brief [helpEntry "Print help", ⟨"-V, --version", "Print version", [], []⟩]

/-- The page of the command that prints help. -/
def helpPage (program : String) : String :=
  helpSummary ++ s!"\n\nUsage: {program} help [COMMAND]...\n\nArguments:\n" ++
    brief [⟨"[COMMAND]...", "Print help for the subcommand(s)", [], []⟩]

def version (program : String) : String := s!"{program} 0.1.0\n"

/-- The page for the words behind the command that prints help. -/
def pageFor? (program : String) : List String → Option String
  | [] => some (overview program)
  | [name] =>
    if name = "help" then some (helpPage program)
    else (Command.grammar? name).map fun grammar => page program grammar true
  | _ => none

end SeriesGateway.Cli.Help
