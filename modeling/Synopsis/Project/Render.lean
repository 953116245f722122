import Synopsis.Project.Analysis

/-!
# Rendering a project's files

The scripts and the README as they should be. Nothing is written here.
-/

namespace Synopsis

/-- A path and the text that its file should hold. -/
structure RenderedFile where
  path : Path
  content : Text
  deriving DecidableEq

/-- The file holds its text already. -/
def RenderedFile.isCurrent (rendered : RenderedFile) (files : FileSystem) : Bool :=
  match files.readText rendered.path with
  | .ok text => text = rendered.content
  | .error _ => false

namespace Project

/-- The template of that name. -/
def loadTemplate (project : Project) (files : FileSystem) (template : Path) :
    Except RunError Template := do
  let path := project.config.templatePath project.root template
  if files.isFile path then
    Template.parse <$> FileAction.readTemplate.attempt path (files.readText path)
  else .error (.templateNotFound path)

/-- What the scripts of a project show. -/
def context (project : Project) (analysis : Analysis) : Script.Context :=
  ⟨analysis.commands, analysis.reading.table, project.config.flagGroup⟩

/-- The script of a dialect. -/
def renderScript (project : Project) (files : FileSystem) (analysis : Analysis)
    (dialect : Dialect) : Except RunError RenderedFile := do
  let script := project.config.scripts.of dialect
  let template ← project.loadTemplate files script.template
  .ok {
    path := project.root.join script.output
    content := Script.render dialect template (project.context analysis)
      (project.config.keysOf dialect) }

/-- The values that the templates of README sections can show. -/
def readmeBindings (project : Project) (analysis : Analysis) : Bindings :=
  ((Bindings.bind [] "commands" (Text.joinWords analysis.commands)).bind "clean_flags"
    (Flag.joined (project.context analysis).groupFlags)).bind "program" project.config.program

/-- A document with the sections replaced, one after the other. -/
def replaceSections (project : Project) (files : FileSystem) (bindings : Bindings) :
    List SectionConfig → Text → Except RunError Text
  | [], document => .ok document
  | config :: configs, document => do
    let template ← project.loadTemplate files config.template
    replaceSections project files bindings configs
      (Readme.replaceSection config.markers (template.render bindings) document)

/-- The path of the README. -/
def readmePath (project : Project) : Path := project.root.join project.config.readme.path

/-- The README with its sections replaced, if there is a README. -/
def renderReadme (project : Project) (files : FileSystem) (analysis : Analysis) :
    Except RunError (Option RenderedFile) := do
  if files.has project.readmePath then
    let document ← FileAction.readReadme.attempt project.readmePath
      (files.readText project.readmePath)
    let content ← project.replaceSections files (project.readmeBindings analysis)
      project.config.readme.sections document
    .ok (some ⟨project.readmePath, content⟩)
  else .ok none

end Project

end Synopsis
