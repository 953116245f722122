import Synopsis.Config.Basic
import Synopsis.Config.Setting
import Synopsis.Json.Reader
import Synopsis.Yaml.Reader

/-!
# Reading configurations

Each structure is read from its fields. A field that is not there has its default, which is that
of the default configuration.

- `ofJson`: from a JSON value.
- `ofYaml`: from the text of a YAML document.
-/

namespace Synopsis

namespace Setting

/-- A path. -/
def path (setting : Setting) : Read Path := Path.of <$> setting.text

/-- Several texts. -/
def texts (setting : Setting) : Read (List Text) := setting.listOf text

/-- Where the help text is. -/
def source (setting : Setting) : Read SourceConfig := do
  let fields ← setting.fields ["path", "variable"]
  let default : SourceConfig := {}
  return {
    path := ← field fields "path" path default.path
    name := ← field fields "variable" text default.name }

/-- A policy. -/
def policy (setting : Setting) : Read Policy := do
  let fields ← setting.fields ["start_headers", "end_headers", "excluded_commands"]
  let default : Policy := {}
  return {
    startHeaders := ← field fields "start_headers" texts default.startHeaders
    endHeaders := ← field fields "end_headers" texts default.endHeaders
    excludedCommands := ← field fields "excluded_commands" texts default.excludedCommands }

/-- The flag group. -/
def group (setting : Setting) : Read GroupConfig := do
  let fields ← setting.fields ["command", "description"]
  let default : GroupConfig := {}
  return {
    command := ← field fields "command" text default.command
    description := ← field fields "description" text default.description }

/-- The keys of a template. -/
def keys (setting : Setting) : Read Script.Keys := do
  let fields ← setting.fields ["commands", "flags"]
  return {
    commands := ← required fields "commands" text
    flags := ← required fields "flags" text }

/-- A script. -/
def script (setting : Setting) : Read ScriptConfig := do
  let fields ← setting.fields ["template", "output", "keys"]
  return {
    template := ← required fields "template" path
    output := ← required fields "output" path
    keys := ← field fields "keys" (optional keys) none }

/-- The scripts. -/
def scripts (setting : Setting) : Read ScriptsConfig := do
  let fields ← setting.fields ["bash", "zsh", "fish"]
  let default : ScriptsConfig := {}
  return {
    bash := ← field fields "bash" script default.bash
    zsh := ← field fields "zsh" script default.zsh
    fish := ← field fields "fish" script default.fish }

/-- The end of a section. -/
def sectionEnd (setting : Setting) : Read Readme.SectionEnd := do
  let (name, value) ← setting.variant
  if name = "through" then return .through (← value.text)
  else if name = "before" then return .before (← value.text)
  else throw .unknownVariant

/-- A section of the README. -/
def readmeSection (setting : Setting) : Read SectionConfig := do
  let fields ← setting.fields ["heading", "underline", "end", "template"]
  return {
    heading := ← required fields "heading" text
    underline := ← field fields "underline" (optional character) defaultUnderline
    ending := ← required fields "end" sectionEnd
    template := ← required fields "template" path }

/-- The README. -/
def readme (setting : Setting) : Read ReadmeConfig := do
  let fields ← setting.fields ["path", "sections"]
  let default : ReadmeConfig := {}
  return {
    path := ← field fields "path" path default.path
    sections := ← field fields "sections" (listOf readmeSection) default.sections }

/-- A configuration. -/
def config (setting : Setting) : Read Config := do
  let fields ← setting.fields ["version", "source", "parse", "protocol_commands", "program",
    "flag_group", "templates_dir", "completions", "readme"]
  let default : Config := {}
  return {
    version := ← field fields "version" text default.version
    source := ← field fields "source" source default.source
    policy := ← field fields "parse" policy default.policy
    protocol := ← field fields "protocol_commands" texts default.protocol
    program := ← field fields "program" text default.program
    group := ← field fields "flag_group" group default.group
    templates := ← field fields "templates_dir" path default.templates
    scripts := ← field fields "completions" scripts default.scripts
    readme := ← field fields "readme" readme default.readme }

end Setting

namespace Config

/-- Why a document holds no configuration. -/
inductive YamlError where
  | document (error : Yaml.Error)
  | setting (error : Setting.Error)
  deriving DecidableEq

/-- The message for the user. -/
def YamlError.message : YamlError → Text
  | document error => error.message
  | setting error => error.message

/-- The configuration of a JSON value. -/
def ofJson (value : Json) : Except Setting.Error Config := (Setting.ofJson value).config.alone

/-- The configuration of a YAML document. Its aliases may be followed a hundred times for each mark
of the document. -/
def ofDocument (document : Yaml.Document) : Except Setting.Error Config :=
  (Setting.ofNode document.root).config.within
    (document.anchored.map fun (place, node) => (place, Setting.ofNode node))
    (100 * document.root.marks)

/-- The configuration of the text of a YAML document. -/
def ofYaml (text : Text) : Except YamlError Config :=
  match Yaml.read text with
  | .ok document => (ofDocument document).mapError .setting
  | .error error => .error (.document error)

end Config

end Synopsis
