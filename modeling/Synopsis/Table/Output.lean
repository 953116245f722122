import Synopsis.Config.Encode
import Synopsis.Table.Load

/-!
# Printed tables

A table is printed as JSON, as YAML, or as text: one line for each command, in which the flags of
all commands start in one column.
-/

namespace Synopsis

/-- The formats of printed tables. -/
inductive OutputFormat where
  | json
  | yaml
  | text
  deriving DecidableEq

namespace OutputFormat

/-- The formats in the order in which they are offered. -/
def all : List OutputFormat := [json, yaml, text]

/-- The name by which a format is chosen. -/
def name : OutputFormat → Text
  | json => "json"
  | yaml => "yaml"
  | text => "text"

/-- The format of that name. -/
def ofName? (name : Text) : Option OutputFormat := all.find? (·.name = name)

end OutputFormat

namespace Table

/-- The column of the flags less two: the greatest length of a name in bytes. -/
def nameWidth (table : Table) : Nat := (table.names.map Text.byteLength).foldl max 0

/-- The line of a command. Without flags it is the name alone. -/
def textLine (width : Nat) (name : Text) (flags : FlagList) : Text :=
  if flags.isEmpty then name
  else Text.padRight width name ++ "  " ++ Text.joinWords (flags.map Flag.literal)

/-- The table as text. -/
def toText (table : Table) : Text :=
  Text.unlines (table.entries.map fun (name, flags) => textLine table.nameWidth name flags)

/-- The table in a format. -/
def print (table : Table) : OutputFormat → Text
  | .json => table.toJson.print .pretty
  | .yaml => Yaml.print (.ofJson table.toJson)
  | .text => table.toText

end Table

end Synopsis
