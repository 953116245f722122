import Synopsis.Cli.Arguments
import Synopsis.Help.Report
import Synopsis.Project.ConfigFile
import Synopsis.Project.Install

/-!
# Running the program

A run takes a file system and arguments, and gives what is printed, the exit code and the file
system that is left. The exit code is zero if all went well, one if a job failed, and two if the
arguments are not understood.
-/

namespace Synopsis.Cli

/-- Why a job fails. -/
inductive Failure where
  | run (error : RunError)
  | unreadableInput (path : Path) (error : FileError)
  | helpTextNotFound (name : Text) (path : Path)
  | outOfDate (count : Nat)
  deriving DecidableEq

/-- The message for the user. -/
def Failure.message : Failure → Text
  | run error => error.message
  | unreadableInput path error => "Failed to read '" ++ path.text ++ "': " ++ error.message
  | helpTextNotFound name path => (RunError.helpTextNotFound name path).message
  | outOfDate count => Text.ofNat count ++ " file(s) out of date; run `helpsync sync`"

/-- What a job prints and leaves, and why it failed if it did. -/
structure Result where
  output : Text := []
  failure : Option Failure := none
  files : FileSystem

/-- The result of a job that printed nothing before it failed. -/
def Result.failed (files : FileSystem) (failure : Failure) : Result :=
  { files := files, failure := some failure }

/-! ## Jobs -/

/-- The name of the configuration file in a project's root. -/
def configName : Path := .of "helpsync.yaml"

/-- The path of the configuration file, unless the defaults are used. -/
def ProjectPlace.configPath? (place : ProjectPlace) (files : FileSystem) : Option Path :=
  match place.config with
  | some path => some path
  | none =>
    let candidate := place.root.join configName
    if files.isFile candidate then some candidate else none

/-- The configuration of a project. -/
def ProjectPlace.loadConfig (place : ProjectPlace) (files : FileSystem) :
    Except RunError Config :=
  match place.configPath? files with
  | some path => Config.load files path
  | none => .ok {}

/-- The project at a place. -/
def ProjectPlace.load (place : ProjectPlace) (files : FileSystem) : Except RunError Project :=
  Project.mk place.root <$> place.loadConfig files

/-- Goes on with a project, or fails if it cannot be loaded. -/
def ProjectPlace.withProject (place : ProjectPlace) (files : FileSystem)
    (job : Project → Result) : Result :=
  match place.load files with
  | .ok project => job project
  | .error error => .failed files (.run error)

/-- Synchronizes a project and tells each event. -/
def runSync (files : FileSystem) (project : Project) : Result :=
  let (outcome, progress) := (project.sync).run ⟨files, []⟩
  { output := Text.unlines (progress.events.map Event.message)
    failure := match outcome with
      | .ok _ => none
      | .error error => some (.run error)
    files := progress.files }

/-- Tells which files of a project are out of date. -/
def runCheck (files : FileSystem) (project : Project) : Result :=
  match project.check files with
  | .error error => .failed files (.run error)
  | .ok [] => { output := "Completions and Documentation are up to date.\n", files := files }
  | .ok paths =>
    { output := Text.unlines (paths.map fun path => "out of date: " ++ path.text)
      failure := some (.outOfDate paths.length)
      files := files }

/-- The reading of the help text in a file. -/
def readInput (files : FileSystem) (config : Config) (input : Path) (name : Option Text) :
    Except Failure Help.Reading := do
  let name := name.getD config.source.name
  let source ← (files.readText input).mapError (.unreadableInput input)
  match Help.extract name source with
  | some help => .ok (Help.read config.policy help)
  | none => .error (.helpTextNotFound name input)

/-- The text with a line feed at its end. -/
def closeLine (text : Text) : Text :=
  if text.getLast? = some '\n' then text else text ++ ['\n']

/-- Prints the table or the report of the help text in a file. -/
def runParse (files : FileSystem) (input : Path) (name : Option Text) (withReport : Bool)
    (format : OutputFormat) (project : Project) : Result :=
  match readInput files project.config input name with
  | .error failure => .failed files failure
  | .ok reading =>
    { output :=
        if withReport then reading.report format else closeLine (reading.table.print format)
      files := files }

/-- Prints a script of a project. -/
def runRender (files : FileSystem) (dialect : Dialect) (project : Project) : Result :=
  let rendered := do
    let analysis ← project.analyze files
    project.renderScript files analysis dialect
  match rendered with
  | .error error => .failed files (.run error)
  | .ok rendered => { output := rendered.content, files := files }

/-- The line that tells what became of a template. -/
def installationLine (root : Path) (installation : Installation) : Text :=
  (if installation.written then "wrote " else "kept ")
    ++ (root.relativeTo installation.path).text

/-- Installs the templates of a project. -/
def runInitTemplates (files : FileSystem) (force : Bool) (project : Project) : Result :=
  match (project.installTemplates force).run ⟨files, []⟩ with
  | (.error error, progress) => .failed progress.files (.run error)
  | (.ok installations, progress) =>
    { output := Text.unlines (installations.map (installationLine project.root))
      files := progress.files }

/-- Does the job of an invocation. -/
def Invocation.run (files : FileSystem) : Invocation → Result
  | sync place => place.withProject files (runSync files)
  | check place => place.withProject files (runCheck files)
  | parse place input name withReport format =>
    place.withProject files (runParse files input name withReport format)
  | render place dialect => place.withProject files (runRender files dialect)
  | initTemplates place force => place.withProject files (runInitTemplates files force)

/-! ## The program -/

/-- What a run leaves behind. -/
structure Outcome where
  output : Text := []
  errors : Text := []
  exitCode : Nat := 0
  files : FileSystem

/-- The line that tells an error. -/
def errorLine (message : Text) : Text := "error: " ++ message ++ ['\n']

/-- The outcome of a job. -/
def Result.outcome (result : Result) : Outcome :=
  { output := result.output
    errors := (result.failure.map fun failure => errorLine failure.message).getD []
    exitCode := if result.failure.isSome then 1 else 0
    files := result.files }

/-- Runs the program. -/
def run (files : FileSystem) (arguments : List Text) : Outcome :=
  match readArguments arguments with
  | .error error => { errors := errorLine error.message, exitCode := 2, files := files }
  | .ok (.help topic) => { output := topic.page, files := files }
  | .ok .version => { output := versionText, files := files }
  | .ok (.run invocation) => (invocation.run files).outcome

end Synopsis.Cli
