import Synopsis.Project.Sync
import Synopsis.Readme.Bundled
import Synopsis.Script.Bundled

/-!
# Installing templates

The bundled templates are written where the configuration expects them. A file that is there is
kept unless it is to be overwritten. Section templates go to the first sections by position.
-/

namespace Synopsis

/-- What became of a template. -/
structure Installation where
  path : Path
  /-- Whether it was written, or a file was kept. -/
  written : Bool
  deriving DecidableEq

namespace Project

open Run

/-- The templates that a project uses, each with its bundled text. -/
def templateTexts (project : Project) : List (Path × Text) :=
  let place := project.config.templatePath project.root
  Dialect.all.map (fun dialect =>
      (place (project.config.scripts.of dialect).template, Script.bundledTemplate dialect))
    ++ (project.config.readme.sections.zip Readme.bundledTemplates).map fun (config, text) =>
      (place config.template, text)

/-- Installs one template. -/
def installTemplate (force : Bool) (path : Path) (text : Text) : Run Installation := do
  if !force && (← files).has path then return ⟨path, false⟩
  write path text
  return ⟨path, true⟩

/-- Installs the templates that a project uses. -/
def installTemplates (project : Project) (force : Bool) : Run (List Installation) :=
  project.templateTexts.mapM fun (path, text) => installTemplate force path text

end Project

end Synopsis
