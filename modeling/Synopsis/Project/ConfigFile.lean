import Synopsis.Config.Encode
import Synopsis.Project.Error

/-!
# Configuration files

A configuration is kept in a file as a YAML document. Loading fails in three ways: the file cannot
be opened, no text can be read from it, or the text is no configuration.
-/

namespace Synopsis.Config

/-- The configuration in a file. -/
def load (files : FileSystem) (path : Path) : Except RunError Config := do
  let _ ← FileAction.openConfig.attempt path (files.find path)
  let document ← (files.readText path).mapError .unreadableConfig
  (ofYaml document).mapError .yaml

/-- Writes a configuration to a file. -/
def save (config : Config) (files : FileSystem) (path : Path) : Except RunError FileSystem :=
  FileAction.createConfig.attempt path (files.writeText path config.toYaml)

end Synopsis.Config
