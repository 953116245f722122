import Synopsis.Policy
import Synopsis.Table.Basic

/-!
# Command lists

The commands that a script completes: those of the table and those of the protocol, without the
excluded ones, in increasing order and each once.
-/

namespace Synopsis.Script

/-- The names in increasing order, each once. -/
def sortedSet (names : List Text) : List Text := (Text.sorted names).eraseReps

/-- The names in increasing order, each once, with a space between each two. -/
def commandList (names : List Text) : Text := Text.joinWords (sortedSet names)

/-- The commands that a script completes. -/
def completionCommands (table : Table) (protocol : List Text) (policy : Policy) : List Text :=
  sortedSet ((table.names ++ protocol).filter (!policy.excludes ·))

end Synopsis.Script
