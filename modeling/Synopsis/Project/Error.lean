import Synopsis.Config.Decode
import Synopsis.Files.FileSystem

/-!
# Errors of a run

A run stops at its first error. What was written before stays.
-/

namespace Synopsis

/-- What was tried on a file. -/
inductive FileAction where
  | readSource
  | readTemplate
  | readReadme
  | createDirectory
  | write
  | openConfig
  | createConfig
  deriving DecidableEq

/-- The words for what failed. -/
def FileAction.phrase : FileAction → Text
  | readSource => "failed to read source"
  | readTemplate => "failed to read template"
  | readReadme => "failed to read README"
  | createDirectory => "failed to create directory"
  | write => "failed to write"
  | openConfig => "failed to open config"
  | createConfig => "failed to create config"

/-- Why a run stops. -/
inductive RunError where
  /-- The source assigns no help text to the name. -/
  | helpTextNotFound (name : Text) (path : Path)
  | templateNotFound (path : Path)
  | file (action : FileAction) (path : Path) (error : FileError)
  | yaml (error : Config.YamlError)
  /-- The configuration file opens, but no text can be read from it. -/
  | unreadableConfig (error : FileError)
  deriving DecidableEq

/-- The message for the user. -/
def RunError.message : RunError → Text
  | helpTextNotFound name path => "could not find " ++ name ++ " in " ++ path.text
  | templateNotFound path => "template not found at " ++ path.text
  | file action path error =>
    action.phrase ++ " '" ++ path.text ++ "': " ++ error.message
  | yaml error => "YAML error: " ++ error.message
  | unreadableConfig error => "YAML error: " ++ error.message

/-- The result of an operation on a file, with its error told by what was tried. -/
def FileAction.attempt {α : Type} (action : FileAction) (path : Path)
    (result : Except FileError α) : Except RunError α :=
  result.mapError (.file action path)

end Synopsis
