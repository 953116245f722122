import Synopsis.Cli.Manual
import Synopsis.Files.Path

/-!
# Arguments

Arguments are read from left to right. The first request for help or for the version, or the
first mistake, decides; what a command still lacks is found at the end.
-/

namespace Synopsis.Cli

/-- Why the arguments are not understood. -/
inductive UsageError where
  | unknownParameter (argument : Text)
  | unexpectedArgument (argument : Text)
  | unexpectedValue (parameter : Parameter)
  | missingValue (parameter : Parameter)
  | invalidValue (parameter : Parameter) (value : Text)
  | repeated (parameter : Parameter)
  | missingParameter (parameter : Parameter)
  | missingCommand
  | unknownCommand (name : Text)
  deriving DecidableEq

/-- The message for the user. -/
def UsageError.message : UsageError → Text
  | unknownParameter argument | unexpectedArgument argument =>
    "unexpected argument '" ++ argument ++ "' found"
  | unexpectedValue parameter => "unexpected value for '--" ++ parameter.name ++ "' found"
  | missingValue parameter => "a value is required for '--" ++ parameter.name ++ "'"
  | invalidValue parameter value =>
    "invalid value '" ++ value ++ "' for '--" ++ parameter.name ++ "'"
  | repeated parameter =>
    "the argument '--" ++ parameter.name ++ "' cannot be used multiple times"
  | missingParameter parameter =>
    "the required argument '--" ++ parameter.name ++ "' was not provided"
  | missingCommand => "a command is required"
  | unknownCommand name => "unrecognized subcommand '" ++ name ++ "'"

/-- What ends the reading of arguments early. -/
inductive Stop where
  | help
  | version
  | mistake (error : UsageError)
  deriving DecidableEq

/-! ## What was given -/

/-- The parameters that were given, with their values. A switch has the empty value. -/
abbrev Given := List (Text × Text)

namespace Given

/-- The parameter was given. -/
def has (given : Given) (parameter : Parameter) : Bool := (given.lookup parameter.name).isSome

/-- The value of a parameter, or its default. -/
def value? (given : Given) (parameter : Parameter) : Option Text :=
  given.lookup parameter.name <|> parameter.spec?.bind (·.standard)

/-- Adds a parameter, which may be given once. -/
def add (given : Given) (parameter : Parameter) (value : Text) : Except Stop Given :=
  if given.has parameter then .error (.mistake (.repeated parameter))
  else .ok ((parameter.name, value) :: given)

/-- Adds a parameter with the value that it takes. -/
def addValue (given : Given) (parameter : Parameter) (spec : ValueSpec) (value : Text) :
    Except Stop Given :=
  if spec.form.admits value then given.add parameter value
  else .error (.mistake (.invalidValue parameter value))

/-- Adds a parameter that stands alone. -/
def addAlone (given : Given) (parameter : Parameter) : Except Stop Given :=
  match parameter.action with
  | .help => .error .help
  | .version => .error .version
  | .switch => given.add parameter []
  | .value _ => .error (.mistake (.missingValue parameter))

/-- Adds the parameters of some letters. -/
def addLetters (parameters : List Parameter) (given : Given) : Text → Except Stop Given
  | [] => .ok given
  | c :: letters =>
    match parameters.find? (·.letter = some c) with
    | some parameter => do (← given.addAlone parameter).addLetters parameters letters
    | none => .error (.mistake (.unknownParameter ['-', c]))

end Given

/-! ## Reading -/

/-- An argument by its shape. -/
inductive Shape where
  /-- The argument that ends the parameters. -/
  | separator
  /-- A name, and the value that is attached to it. -/
  | named (name : Text) (value : Option Text)
  | letters (letters : Text)
  | word
  deriving DecidableEq

/-- The shape of an argument. A single dash is a word. -/
def Shape.of : Text → Shape
  | ['-', '-'] => separator
  | '-' :: '-' :: text =>
    match Text.splitAtFirst? ['='] text with
    | some (name, value) => named name (some value)
    | none => named text none
  | '-' :: c :: rest => letters (c :: rest)
  | _ => word

/-- Reads parameters up to the first argument that is none. Gives them and the arguments that
are left. -/
def scan (parameters : List Parameter) (given : Given) :
    List Text → Except Stop (Given × List Text)
  | [] => .ok (given, [])
  | argument :: arguments =>
    match Shape.of argument with
    | .separator | .word => .ok (given, argument :: arguments)
    | .letters letters => do
      scan parameters (← given.addLetters parameters letters) arguments
    | .named name value =>
      match parameters.find? (·.name = name) with
      | none => .error (.mistake (.unknownParameter argument))
      | some parameter =>
        match parameter.action, value with
        | .value spec, some value => do
          scan parameters (← given.addValue parameter spec value) arguments
        | .value spec, none =>
          match arguments with
          | [] => .error (.mistake (.missingValue parameter))
          | value :: arguments =>
            if Shape.of value = .word then do
              scan parameters (← given.addValue parameter spec value) arguments
            else .error (.mistake (.missingValue parameter))
        | _, some _ => .error (.mistake (.unexpectedValue parameter))
        | _, none => do scan parameters (← given.addAlone parameter) arguments

/-! ## Requests -/

/-- Where a project is, and where its configuration. -/
structure ProjectPlace where
  root : Path
  config : Option Path
  deriving DecidableEq

/-- A command with its parameters. -/
inductive Invocation where
  | sync (place : ProjectPlace)
  | check (place : ProjectPlace)
  | parse (place : ProjectPlace) (input : Path) (name : Option Text) (withReport : Bool)
      (format : OutputFormat)
  | render (place : ProjectPlace) (dialect : Dialect)
  | initTemplates (place : ProjectPlace) (force : Bool)
  deriving DecidableEq

/-- What the user asks for. -/
inductive Request where
  | help (topic : Topic)
  | version
  | run (invocation : Invocation)
  deriving DecidableEq

namespace Given

/-- The value of a parameter that has one. -/
def required (given : Given) (parameter : Parameter) : Except UsageError Text :=
  match given.value? parameter with
  | some value => .ok value
  | none => .error (.missingParameter parameter)

/-- The value of a parameter, read as one of the choices. -/
def chosen {α : Type} (given : Given) (parameter : Parameter) (read? : Text → Option α) :
    Except UsageError α := do
  let value ← given.required parameter
  match read? value with
  | some choice => .ok choice
  | none => .error (.invalidValue parameter value)

/-- Where the project is. -/
def place (given : Given) : Except UsageError ProjectPlace := do
  return ⟨.of (← given.required .root), (given.value? .config).map Path.of⟩

/-- A command with what was given. -/
def invocation (given : Given) (command : Command) : Except UsageError Invocation := do
  let place ← given.place
  match command with
  | .sync => return .sync place
  | .check => return .check place
  | .parse =>
    return .parse place (.of (← given.required .input)) (given.value? .sourceName)
      (given.has .withReport) (← given.chosen .format OutputFormat.ofName?)
  | .render => return .render place (← given.chosen .dialect Dialect.ofName?)
  | .initTemplates => return .initTemplates place (given.has .force)

end Given

/-- What a stop means where help is on that topic. -/
def Stop.request (topic : Topic) : Stop → Except UsageError Request
  | help => .ok (.help topic)
  | version => .ok .version
  | mistake error => .error error

/-- The topic that follows the command for help: nothing, or one command. -/
def helpTopic : List Text → Except UsageError Topic
  | [] => .ok .program
  | name :: names =>
    match Command.ofName? name, names with
    | some command, [] => .ok (.command command)
    | some _, name :: _ => .error (.unknownCommand name)
    | none, [] => if name = "help".toList then .ok .help else .error (.unknownCommand name)
    | none, _ :: _ => .error (.unknownCommand name)

/-- Reads the arguments of a command. Only a separator may be left. -/
def readCommand (command : Command) (arguments : List Text) : Except UsageError Request :=
  match scan command.parameters [] arguments with
  | .error stop => stop.request (.command command)
  | .ok (given, []) | .ok (given, [['-', '-']]) => .run <$> given.invocation command
  | .ok (_, argument :: _) => .error (.unexpectedArgument argument)

/-- Reads the arguments of the program: general parameters, and a command with its own. -/
def readArguments (arguments : List Text) : Except UsageError Request :=
  match scan Parameter.general [] arguments with
  | .error stop => stop.request .program
  | .ok (_, []) => .error .missingCommand
  | .ok (_, name :: arguments) =>
    match Command.ofName? name with
    | some command => readCommand command arguments
    | none =>
      if name = "help".toList then .help <$> helpTopic arguments
      else .error (.unknownCommand name)

end Synopsis.Cli
