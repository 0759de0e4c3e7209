import SeriesGateway.Cli.Help

/-! # Requests

What a whole command line asks for: a command, a page of text, or nothing that
can be understood.
-/

namespace SeriesGateway.Cli

inductive Request where
  | run (command : Command)
  | page (text : String)
  | unusable
deriving DecidableEq, Repr

namespace Request

/-- Understands the words behind the name of a command. -/
def ofCommand (program : String) (grammar : Grammar)
    (understand : Arguments → Option Command) (words : List String) : Request :=
  match Arguments.empty.scan grammar words with
  | .refused => .unusable
  | .help inDetail => .page (Help.page program grammar inDetail)
  | .complete arguments =>
    match understand arguments with
    | some command => .run command
    | none => .unusable

/-- Understands the words behind the name of the program. -/
def ofWords (program : String) : List String → Request
  | [] => .unusable
  | word :: rest =>
    match Word.ofText word with
    | .plain =>
      if word = "help" then ((Help.pageFor? program rest).map page).getD .unusable
      else
        match Command.all.find? fun command => command.1.name = word with
        | some (grammar, understand) => ofCommand program grammar understand rest
        | none => .unusable
    | .short letter =>
      if letter = 'h' then .page (Help.overview program)
      else if letter = 'V' then .page (Help.version program)
      else .unusable
    | .long name none =>
      if name = "help" then .page (Help.overview program)
      else if name = "version" then .page (Help.version program)
      else .unusable
    | _ => .unusable

end Request

end SeriesGateway.Cli
