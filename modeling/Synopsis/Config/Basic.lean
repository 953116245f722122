import Synopsis.Files.Path
import Synopsis.Help.Assignment
import Synopsis.Policy
import Synopsis.Readme.Section
import Synopsis.Script.Render

/-!
# Configurations

Where the tool's source, the templates and the outputs are, how the help text is read, and what
scripts and README show. Every part has a default, so a configuration file names only what
differs.
-/

namespace Synopsis

/-- Where the help text is. -/
structure SourceConfig where
  path : Path := .of "git-remote-gcrypt"
  name : Text := Help.defaultName
  deriving DecidableEq

/-- The command whose flags scripts show, and their description. -/
structure GroupConfig where
  command : Text := "clean"
  description : Text := "actually delete files"
  deriving DecidableEq

/-- A script: its template, where it is written, and the keys of the template's placeholders. -/
structure ScriptConfig where
  template : Path
  output : Path
  keys : Option Script.Keys := none
  deriving DecidableEq

/-- The script of a dialect unless it is configured. -/
def ScriptConfig.standard : Dialect → ScriptConfig
  | .bash => ⟨.of "bash.in", .of "completions/bash/git-remote-gcrypt", none⟩
  | .zsh => ⟨.of "zsh.in", .of "completions/zsh/_git-remote-gcrypt", none⟩
  | .fish => ⟨.of "fish.in", .of "completions/fish/git-remote-gcrypt.fish", none⟩

/-- The scripts of all dialects. -/
structure ScriptsConfig where
  bash : ScriptConfig := .standard .bash
  zsh : ScriptConfig := .standard .zsh
  fish : ScriptConfig := .standard .fish
  deriving DecidableEq

/-- The script of a dialect. -/
def ScriptsConfig.of (scripts : ScriptsConfig) : Dialect → ScriptConfig
  | .bash => scripts.bash
  | .zsh => scripts.zsh
  | .fish => scripts.fish

/-- The character under a heading unless it is configured. -/
def defaultUnderline : Option Char := some '='

/-- A section of the README and the template of its text. -/
structure SectionConfig where
  heading : Text
  underline : Option Char := defaultUnderline
  ending : Readme.SectionEnd
  template : Path
  deriving DecidableEq

/-- The boundaries of a section. -/
def SectionConfig.markers (config : SectionConfig) : Readme.Markers :=
  ⟨config.heading, config.underline, config.ending⟩

/-- The README and its sections. -/
structure ReadmeConfig where
  path : Path := .of "README.rst"
  sections : List SectionConfig :=
    [ { heading := "Detecting gcrypt repos"
        ending := .through "Exit status is 0"
        template := .of "readme-detect.rst.in" },
      { heading := "Cleaning gcrypt repos"
        ending := .before "\nKnown issues"
        template := .of "readme-clean.rst.in" } ]
  deriving DecidableEq

/-- A configuration. -/
structure Config where
  version : Text := "1.0"
  source : SourceConfig := {}
  policy : Policy := {}
  protocol : List Text := protocolCommands
  program : Text := "git-remote-gcrypt"
  group : GroupConfig := {}
  templates : Path := .of "completions/templates"
  scripts : ScriptsConfig := {}
  readme : ReadmeConfig := {}
  deriving DecidableEq

namespace Config

/-- The keys of a dialect's template: those that are configured, or the standard ones. -/
def keysOf (config : Config) (dialect : Dialect) : Script.Keys :=
  (config.scripts.of dialect).keys.getD (.standard dialect)

/-- Where a template is. -/
def templatePath (config : Config) (root template : Path) : Path :=
  (root.join config.templates).join template

/-- The flag group of the scripts. -/
def flagGroup (config : Config) : FlagGroup :=
  ⟨config.group.command, config.group.description, config.program⟩

end Config

end Synopsis
