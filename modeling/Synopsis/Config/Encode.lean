import Synopsis.Config.Basic
import Synopsis.Json.Printer
import Synopsis.Yaml.Printer

/-!
# Writing configurations

A configuration is written with all its members, as a JSON value or as the YAML document of that
value.
-/

namespace Synopsis

mutual

/-- The YAML node of a JSON value. A string is quoted where it must be. -/
def Yaml.Node.ofJson : Json → Yaml.Node
  | .null => .null
  | .bool true => .plain "true"
  | .bool false => .plain "false"
  | .number value => .plain (value.text)
  | .string text => .ofText text
  | .array items => .sequence (Yaml.Node.ofItems items)
  | .object members => .mapping (Yaml.Node.ofMembers members)

/-- The nodes of some values. -/
def Yaml.Node.ofItems : List Json → List Yaml.Node
  | [] => []
  | item :: items => Yaml.Node.ofJson item :: Yaml.Node.ofItems items

/-- The entries of some members. -/
def Yaml.Node.ofMembers : List (Text × Json) → List (Yaml.Node × Yaml.Node)
  | [] => []
  | (name, value) :: members =>
    (.ofText name, Yaml.Node.ofJson value) :: Yaml.Node.ofMembers members

end

/-- The JSON value of a path. -/
def Path.toJson (path : Path) : Json := .string path.text

/-- The JSON value of something that may be missing. -/
def Json.ofOption {α : Type} (write : α → Json) : Option α → Json
  | some value => write value
  | none => .null

/-- An object whose names are given as string literals. -/
def Json.ofFields (fields : List (String × Json)) : Json :=
  .object (fields.map fun (name, value) => (name.toList, value))

/-- The JSON value of a policy. -/
def Policy.toJson (policy : Policy) : Json :=
  .ofFields [
    ("start_headers", .ofTexts policy.startHeaders),
    ("end_headers", .ofTexts policy.endHeaders),
    ("excluded_commands", .ofTexts policy.excludedCommands)]

/-- The JSON value of the keys of a template. -/
def Script.Keys.toJson (keys : Script.Keys) : Json :=
  .ofFields [("commands", .string keys.commands), ("flags", .string keys.flags)]

/-- The JSON value of a script. -/
def ScriptConfig.toJson (script : ScriptConfig) : Json :=
  .ofFields [
    ("template", script.template.toJson),
    ("output", script.output.toJson),
    ("keys", .ofOption Script.Keys.toJson script.keys)]

/-- The JSON value of the end of a section. -/
def Readme.SectionEnd.toJson : Readme.SectionEnd → Json
  | .through literal => .ofFields [("through", .string literal)]
  | .before literal => .ofFields [("before", .string literal)]

/-- The JSON value of a section. -/
def SectionConfig.toJson (config : SectionConfig) : Json :=
  .ofFields [
    ("heading", .string config.heading),
    ("underline", .ofOption (fun c => .string [c]) config.underline),
    ("end", config.ending.toJson),
    ("template", config.template.toJson)]

namespace Config

/-- The JSON value of a configuration. -/
def toJson (config : Config) : Json :=
  .ofFields [
    ("version", .string config.version),
    ("source", .ofFields [
      ("path", config.source.path.toJson),
      ("variable", .string config.source.name)]),
    ("parse", config.policy.toJson),
    ("protocol_commands", .ofTexts config.protocol),
    ("program", .string config.program),
    ("flag_group", .ofFields [
      ("command", .string config.group.command),
      ("description", .string config.group.description)]),
    ("templates_dir", config.templates.toJson),
    ("completions", .ofFields [
      ("bash", config.scripts.bash.toJson),
      ("zsh", config.scripts.zsh.toJson),
      ("fish", config.scripts.fish.toJson)]),
    ("readme", .ofFields [
      ("path", config.readme.path.toJson),
      ("sections", .array (config.readme.sections.map SectionConfig.toJson))])]

/-- The YAML document of a configuration. -/
def toYaml (config : Config) : Text := Yaml.print (.ofJson config.toJson)

end Config

end Synopsis
