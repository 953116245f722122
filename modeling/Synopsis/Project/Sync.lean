import Synopsis.Project.Render

/-!
# Synchronizing and checking

A synchronization writes the scripts in the order of the dialects, and then the README if its
text changes. Each write is announced before it is tried. A check renders the same files from one
file system and tells which of them differ.
-/

namespace Synopsis

/-- What a synchronization tells while it runs. -/
inductive Event where
  | detectedCommands (commands : List Text)
  | updatingScript (dialect : Dialect) (path : Path)
  | updatingReadme (path : Path)
  | readmeUpToDate (path : Path)
  | readmeMissing (path : Path)
  | finished
  deriving DecidableEq

/-- The line that tells an event. -/
def Event.message : Event → Text
  | detectedCommands commands => "Detected commands: " ++ Text.joinWords commands
  | updatingScript dialect path =>
    "Updating " ++ dialect.label ++ " completions at: " ++ path.text
  | updatingReadme path => "Updating README sections at: " ++ path.text
  | readmeUpToDate path => "README at " ++ path.text ++ " is up to date."
  | readmeMissing path => "README at " ++ path.text ++ " not found, skipping."
  | finished => "Completions and Documentation updated."

/-- What a synchronization has done. -/
structure Report where
  commands : List Text
  scripts : List Path
  /-- Whether the README was rewritten, if there is one. -/
  readmeUpdated : Option Bool
  deriving DecidableEq

/-- What a synchronization leaves, whether it succeeds or stops. -/
structure Progress where
  files : FileSystem
  events : List Event := []

/-- A step of a synchronization: it may stop, and what it has done stays. -/
abbrev Run := ExceptT RunError (StateM Progress)

namespace Run

/-- The files as they are. -/
def files : Run FileSystem := return (← get).files

/-- Tells an event. -/
def tell (event : Event) : Run Unit := modify fun progress =>
  { progress with events := progress.events ++ [event] }

/-- Goes on with a result, or stops with its error. -/
def attempt {α : Type} (result : Except RunError α) : Run α :=
  match result with
  | .ok value => pure value
  | .error error => throw error

/-- Puts other files in place. -/
def setFiles (files : FileSystem) : Run Unit := modify fun progress =>
  { progress with files := files }

/-- Makes a directory and those above it that are missing. -/
def makeDirectories (path : Path) : Run Unit := do
  let (files, result) := (← files).makeDirectories path
  setFiles files
  attempt (FileAction.createDirectory.attempt path result)

/-- Writes a text, and makes the directories above it. -/
def write (path : Path) (content : Text) : Run Unit := do
  if let some parent := path.parent? then makeDirectories parent
  setFiles (← attempt (FileAction.write.attempt path ((← files).writeText path content)))

end Run

namespace Project

open Run

/-- Renders and writes the script of a dialect. -/
def syncScript (project : Project) (analysis : Analysis) (dialect : Dialect) : Run Path := do
  let rendered ← attempt (project.renderScript (← files) analysis dialect)
  tell (.updatingScript dialect rendered.path)
  write rendered.path rendered.content
  return rendered.path

/-- Renders the README, and writes it if its text changes. -/
def syncReadme (project : Project) (analysis : Analysis) : Run (Option Bool) := do
  match ← attempt (project.renderReadme (← files) analysis) with
  | none =>
    tell (.readmeMissing project.readmePath)
    return none
  | some rendered =>
    if rendered.isCurrent (← files) then
      tell (.readmeUpToDate rendered.path)
      return some false
    else
      tell (.updatingReadme rendered.path)
      write rendered.path rendered.content
      return some true

/-- Brings the project's files up to date. -/
def sync (project : Project) : Run Report := do
  let analysis ← attempt (project.analyze (← files))
  tell (.detectedCommands analysis.commands)
  let scripts ← Dialect.all.mapM (project.syncScript analysis)
  let readmeUpdated ← project.syncReadme analysis
  tell .finished
  return ⟨analysis.commands, scripts, readmeUpdated⟩

/-- The files that a synchronization would write. -/
def renderAll (project : Project) (files : FileSystem) : Except RunError (List RenderedFile) := do
  let analysis ← project.analyze files
  let scripts ← Dialect.all.mapM (project.renderScript files analysis)
  let readme ← project.renderReadme files analysis
  .ok (scripts ++ readme.toList)

/-- The paths of the files that do not hold what they should. -/
def check (project : Project) (files : FileSystem) : Except RunError (List Path) := do
  let rendered ← project.renderAll files
  .ok ((rendered.filter fun file => !file.isCurrent files).map RenderedFile.path)

end Project

end Synopsis
