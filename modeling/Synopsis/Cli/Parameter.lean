import Synopsis.Dialect
import Synopsis.Table.Output

/-!
# Commands and their parameters

The program has one command for each job. A parameter is an option with a value, a switch, or a
request for help or for the version; every command knows the parameters that it takes.
-/

namespace Synopsis.Cli

/-- What the value of an option must be. -/
inductive ValueForm where
  /-- A path, which cannot be empty. -/
  | path
  | text
  /-- One of these names. -/
  | choice (names : List Text)
  deriving DecidableEq

/-- The value has that form. -/
def ValueForm.admits : ValueForm → Text → Bool
  | path, value => !value.isEmpty
  | text, _ => true
  | choice names, value => names.contains value

/-- What an option's value must be, whether the option must be given, and its default. -/
structure ValueSpec where
  form : ValueForm
  required : Bool := false
  standard : Option Text := none
  deriving DecidableEq

/-- What a parameter does. -/
inductive Action where
  | help
  | version
  | switch
  | value (spec : ValueSpec)
  deriving DecidableEq

/-- A parameter of a command. -/
structure Parameter where
  name : Text
  /-- The letter that stands for the name. Only a parameter without a value has one. -/
  letter : Option Char := none
  action : Action
  description : Text
  deriving DecidableEq

namespace Parameter

/-- The value that the parameter takes, if it takes one. -/
def spec? (parameter : Parameter) : Option ValueSpec :=
  match parameter.action with
  | .value spec => some spec
  | _ => none

/-- The parameter must be given. -/
def isRequired (parameter : Parameter) : Bool := parameter.spec?.any (·.required)

/-! ## The parameters -/

def root : Parameter where
  name := "root"
  action := .value { form := .path, standard := some ['.'] }
  description := "Repository root; configured paths are relative to it"

def verbose : Parameter where
  name := "verbose"
  letter := some 'v'
  action := .switch
  description := "Log at debug level (overrides RUST_LOG)"

def config : Parameter where
  name := "config"
  action := .value { form := .path }
  description := "YAML configuration file (default: <root>/helpsync.yaml when present)"

def input : Parameter where
  name := "input"
  action := .value { form := .path, required := true }
  description := "Source file containing the help text assignment"

def sourceName : Parameter where
  name := "variable"
  action := .value { form := .text }
  description := "Name of the variable holding the help text (default: from config)"

def withReport : Parameter where
  name := "with-report"
  action := .switch
  description := "Also print parser diagnostics"

def format : Parameter where
  name := "format"
  action := .value
    { form := .choice (OutputFormat.all.map OutputFormat.name), standard := some "json" }
  description := "Output format"

def dialect : Parameter where
  name := "dialect"
  action := .value { form := .choice (Dialect.all.map Dialect.name), required := true }
  description := "Completion dialect to render"

def force : Parameter where
  name := "force"
  action := .switch
  description := "Overwrite templates that already exist"

def help : Parameter where
  name := "help"
  letter := some 'h'
  action := .help
  description := "Print help"

def version : Parameter where
  name := "version"
  letter := some 'V'
  action := .version
  description := "Print version"

/-- The parameters that may stand before the command. -/
def general : List Parameter := [verbose, help, version]

end Parameter

/-- The commands. -/
inductive Command where
  | sync
  | check
  | parse
  | render
  | initTemplates
  deriving DecidableEq

namespace Command

/-- The commands in the order in which they are listed. -/
def all : List Command := [sync, check, parse, render, initTemplates]

/-- The name by which a command is called. -/
def name : Command → Text
  | sync => "sync"
  | check => "check"
  | parse => "parse"
  | render => "render"
  | initTemplates => "init-templates"

/-- The command of that name. -/
def ofName? (name : Text) : Option Command := all.find? (·.name = name)

/-- What a command does. -/
def description : Command → Text
  | sync => "Regenerate completion scripts and README sections"
  | check => "Report files that are out of date without writing; exits 1 on drift"
  | parse => "Extract and parse the help text of a source file, printing the command table"
  | render => "Render one dialect's completion script to stdout"
  | initTemplates => "Write the bundled default templates into the templates directory"

/-- The parameters that only this command takes. -/
def ownParameters : Command → List Parameter
  | sync | check => []
  | parse => [.input, .sourceName, .withReport, .format]
  | render => [.dialect]
  | initTemplates => [.force]

/-- The parameters that a command takes, in the order in which they are listed. -/
def parameters (command : Command) : List Parameter :=
  [.root, .verbose, .config] ++ command.ownParameters ++ [.help]

end Command

end Synopsis.Cli
