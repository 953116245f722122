import Synopsis.Cli.Run

/-!
# Footprints

The paths that a run may look at or change. A run sees nothing else, so these are all that has to
be known of a disk before it, and what differs on them is all that has to be written after it.
-/

namespace Synopsis

namespace FileSystem

/-- The locations on the way along a path, the last one included. A path that leads nowhere,
whatever is there, has none. -/
def trail (files : FileSystem) (path : Path) : List Location :=
  match files.begin path with
  | .ok (location, pieces) =>
    pieces.foldl (fun trail piece =>
      trail ++ [(trail.getLast?.getD location).step piece]) [location]
  | .error _ => []

/-- What a file system holds and an earlier one does not, with every directory before what it
holds. -/
def changes (before after : FileSystem) : List (Location × Entry) :=
  (after.root.listing []).filter fun (location, entry) =>
    match before.lookup location, entry with
    | some (.file old), .file new => !(old == new)
    | some .directory, .directory => false
    | _, _ => true

end FileSystem

/-- The paths of a project's source, templates and outputs. -/
def Project.paths (project : Project) : List Path :=
  let config := project.config
  let scripts := Dialect.all.map config.scripts.of
  let outputs := project.readmePath :: scripts.map fun script => project.root.join script.output
  let templates := scripts.map ScriptConfig.template
    ++ config.readme.sections.map SectionConfig.template
  project.root.join config.source.path :: outputs
    ++ templates.map (config.templatePath project.root)

namespace Cli.Invocation

/-- Where the project of an invocation is. -/
def place : Invocation → ProjectPlace
  | sync place | check place | parse place .. | render place _ | initTemplates place _ => place

/-- The paths from which the configuration may come. -/
def configPaths (invocation : Invocation) : List Path :=
  let place := invocation.place
  place.root.join configName :: place.config.toList

/-- The other paths that a run may look at or change, when its configuration is known. -/
def paths (invocation : Invocation) (files : FileSystem) : List Path :=
  let inputs := match invocation with
    | parse _ input .. => [input]
    | _ => []
  inputs ++ match invocation.place.load files with
    | .ok project => project.paths
    | .error _ => []

end Cli.Invocation

end Synopsis
