import Synopsis.Help.Reading
import Synopsis.Project.Error

/-!
# Projects and their analysis

A project is a root directory and a configuration whose paths are relative to it. Its analysis
reads the source and gives what the help text says, and the commands that scripts complete.
-/

namespace Synopsis

/-- A root directory and a configuration. -/
structure Project where
  root : Path
  config : Config
  deriving DecidableEq

/-- What a help text says, and the commands that scripts complete. -/
structure Analysis where
  reading : Help.Reading
  commands : List Text
  deriving DecidableEq

/-- The analysis of a help text. -/
def Config.analyze (config : Config) (help : Text) : Analysis :=
  let reading := Help.read config.policy help
  ⟨reading, Script.completionCommands reading.table config.protocol config.policy⟩

namespace Project

/-- The help text of the project's source. -/
def readHelp (project : Project) (files : FileSystem) : Except RunError Text := do
  let path := project.root.join project.config.source.path
  let source ← FileAction.readSource.attempt path (files.readText path)
  match Help.extract project.config.source.name source with
  | some help => .ok help
  | none => .error (.helpTextNotFound project.config.source.name path)

/-- The analysis of the project's source. -/
def analyze (project : Project) (files : FileSystem) : Except RunError Analysis :=
  project.config.analyze <$> project.readHelp files

end Project

end Synopsis
