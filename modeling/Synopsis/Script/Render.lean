import Synopsis.Script.CommandList
import Synopsis.Script.FlagBlock
import Synopsis.Template

/-!
# Rendering scripts

A script template holds two placeholders, one for the command list and one for the flag block of
the flag group. A group whose command has no flags gives an empty block.
-/

namespace Synopsis.Script

/-- The keys of a template's two placeholders. -/
structure Keys where
  commands : Text
  flags : Text
  deriving DecidableEq

/-- The keys that the bundled template of a dialect uses. -/
def Keys.standard : Dialect → Keys
  | .bash | .zsh => ⟨"commands", "clean_flags"⟩
  | .fish => ⟨"not_sc_list", "clean_flags"⟩

/-- What a script shows: the completed commands, the table, and the group of flags. -/
structure Context where
  commands : List Text
  table : Table
  group : FlagGroup

/-- The flags of the group's command, none if the table lacks the command. -/
def Context.groupFlags (context : Context) : FlagList :=
  (context.table.flags? context.group.command).getD []

/-- The block for the group's flags, empty if there are none. -/
def Context.flagBlock (context : Context) (dialect : Dialect) : Text :=
  if context.groupFlags.isEmpty then []
  else Script.flagBlock dialect context.group context.groupFlags

/-- The values of the two placeholders. Under one key for both, the flag block counts. -/
def Context.bindings (context : Context) (dialect : Dialect) (keys : Keys) : Bindings :=
  (Bindings.bind [] keys.commands (commandList context.commands)).bind keys.flags
    (context.flagBlock dialect)

/-- The script that a template gives. -/
def render (dialect : Dialect) (template : Template) (context : Context) (keys : Keys) : Text :=
  template.render (context.bindings dialect keys)

end Synopsis.Script
