import Synopsis.Json.Printer
import Synopsis.Json.Reader
import Synopsis.Table.Basic
import Synopsis.Text.Shape

/-!
# Tables as JSON

A table is an object that maps each command to the array of its flag literals. Reading checks the
literals, and nothing else: names are free, and repeated flags are kept.

- `ofJson`: the first member that is wrong, in the order of the members, gives the error.
-/

namespace Synopsis.Table

/-! ## Writing -/

/-- The JSON value of a table. -/
def toJson (table : Table) : Json :=
  .object (table.entries.map fun (name, flags) => (name, .ofTexts (flags.map Flag.literal)))

/-! ## Reading -/

/-- What a value was expected to be. -/
inductive Expectation where
  | map
  | sequence
  | string
  deriving DecidableEq

/-- Why a value is no table. -/
inductive LoadError where
  | flag (error : FlagError)
  | mismatch (found : Json) (expected : Expectation)

/-- The words for what was expected. -/
def Expectation.phrase : Expectation → Text
  | map => "a map"
  | sequence => "a sequence"
  | string => "a string"

/-- A character of a string that is shown in a message. -/
def shown (c : Char) : Text :=
  if c = '"' then "\\\""
  else if c = '\\' then "\\\\"
  else if c = '\n' then "\\n"
  else if c = '\r' then "\\r"
  else if c = '\t' then "\\t"
  else if c = '\x00' then "\\0"
  else if Text.isShapeless c then "\\u\x7b" ++ Nat.toDigits 16 c.toNat ++ ['\x7d']
  else [c]

/-- The words for a value that was found. -/
def describe : Json → Text
  | .null => "null"
  | .bool true => "boolean `true`"
  | .bool false => "boolean `false`"
  | .number (.integer value) => "integer `" ++ Json.Number.integerText value ++ "`"
  | .number value => "floating point `" ++ value.text ++ "`"
  | .string text => "string \"" ++ Text.substitute shown text ++ "\""
  | .array _ => "sequence"
  | .object _ => "map"

/-- The message for the user. -/
def LoadError.message : LoadError → Text
  | flag error => error.message
  | mismatch found expected =>
    "invalid type: " ++ describe found ++ ", expected " ++ expected.phrase

/-- The flag of a value. -/
def flagOfJson : Json → Except LoadError Flag
  | .string literal => (Flag.parse literal).mapError .flag
  | value => .error (.mismatch value .string)

/-- The flags of a value. -/
def flagsOfJson : Json → Except LoadError FlagList
  | .array items => items.mapM flagOfJson
  | value => .error (.mismatch value .sequence)

/-- The table of a value. Of two members with one name the later counts, but both are checked. -/
def ofJson : Json → Except LoadError Table
  | .object members => do
    let entries ← members.mapM fun (name, value) => do
      let flags ← flagsOfJson value
      return (name, flags)
    return Dictionary.ofEntries entries
  | value => .error (.mismatch value .map)

/-- The table that a JSON text holds. -/
def ofJsonText? (text : Text) : Option Table := do (ofJson (← Json.read? text)).toOption

end Synopsis.Table
