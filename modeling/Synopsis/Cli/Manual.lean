import Synopsis.Cli.Parameter

/-!
# Manual

The help of the program and of each command: what it does, how it is called, and its commands and
parameters in two columns.
-/

namespace Synopsis.Cli

/-- The name of the program. -/
def programName : Text := "helpsync"

/-- The line that tells the version. -/
def versionText : Text := programName ++ " 0.1.0\n"

/-- What help is asked for. -/
inductive Topic where
  | program
  | command (command : Command)
  /-- The command that prints help. -/
  | help
  deriving DecidableEq

/-- The word for a value in usage lines. -/
def Parameter.placeholder (parameter : Parameter) : Text :=
  '<' :: parameter.name.map (fun c => if c = '-' then '_' else c.toUpper) ++ ['>']

namespace Manual

/-! ## Columns -/

/-- A row of two columns: an entry and its description. -/
abbrev Row := Text × Text

/-- Rows under a title. The descriptions start two columns after the longest entry. -/
def block (title : Text) (rows : List Row) : Text :=
  let width := (rows.map fun (entry, _) => entry.length).foldl max 0
  Text.unlines <| (title ++ [':']) :: rows.map fun (entry, description) =>
    "  " ++ Text.padRight width entry ++ "  " ++ description

/-- The parameter as it is given: its letter, its name and its value. -/
def entry (parameter : Parameter) : Text :=
  (match parameter.letter with
    | some c => ['-', c, ',', ' ']
    | none => "    ")
  ++ "--" ++ parameter.name
  ++ if parameter.spec?.isSome then ' ' :: parameter.placeholder else []

/-- What the description adds on a value: its default and its choices. -/
def remarks (spec : ValueSpec) : List Text :=
  let standard : List Text := spec.standard.toList.map fun value => "[default: " ++ value ++ "]"
  match spec.form with
  | .choice names => standard ++ ["[possible values: " ++ (", " : Text).intercalate names ++ "]"]
  | _ => standard

/-- The row of a parameter. -/
def parameterRow (parameter : Parameter) : Row :=
  (entry parameter,
    Text.joinWords (parameter.description :: parameter.spec?.toList.flatMap remarks))

/-- What the command that prints help does. -/
def helpDescription : Text := "Print this message or the help of the given subcommand(s)"

/-- The rows of the commands. -/
def commandRows : List Row :=
  (Command.all.map fun command => (command.name, command.description))
    ++ [(("help" : Text), helpDescription)]

/-! ## Pages -/

/-- The parameters that must be given, as they stand in a usage line. -/
def requiredWords (parameters : List Parameter) : Text :=
  (parameters.filter Parameter.isRequired).flatMap fun parameter =>
    " --" ++ parameter.name ++ ' ' :: parameter.placeholder

/-- A page: what it is about, the usage line and the blocks, with blank lines between them. -/
def page (description usage : Text) (blocks : List Text) : Text :=
  ['\n'].intercalate
    ((description ++ ['\n']) :: ("Usage: " ++ programName ++ usage ++ ['\n']) :: blocks)

end Manual

open Manual in
/-- The help on a topic. -/
def Topic.page : Topic → Text
  | program =>
    Manual.page "Regenerate shell completions and README sections from embedded help text"
      " [OPTIONS] <COMMAND>"
      [block "Commands" commandRows, block "Options" (Parameter.general.map parameterRow)]
  | command c =>
    Manual.page c.description (' ' :: c.name ++ " [OPTIONS]" ++ requiredWords c.parameters)
      [block "Options" (c.parameters.map parameterRow)]
  | help =>
    Manual.page helpDescription " help [COMMAND]..."
      [block "Arguments" [("[COMMAND]...", "Print help for the subcommand(s)")]]

end Synopsis.Cli
