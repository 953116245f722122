import Synopsis.Policy
import Synopsis.FlagList
import Synopsis.Text.Blank

/-!
# Help lines

The layout of a help text gives each line its meaning. A header is known by how its trimmed text
starts. Exactly two spaces introduce a command, exactly four a line on the flags of a command,
and nothing else inside the capture region is understood.
-/

namespace Synopsis.Help

/-- The meaning of a line. -/
inductive Line where
  | startHeader
  | endHeader
  /-- Two spaces and a command name. -/
  | command (name : Text)
  /-- Four spaces, the name of the command the flags belong to, and the rest of the line. -/
  | flagLine (owner body : Text)
  | blank
  | other
  deriving DecidableEq

namespace Line

/-- The number of spaces that a line starts with. -/
def indentation (line : Text) : Nat := (line.takeWhile (· == ' ')).length

/-- The command name at the start of a text: letters and hyphens up to a blank or the end. -/
def commandName? (text : Text) : Option Text :=
  let name := text.takeWhile FlagKind.isLongChar
  let rest := text.dropWhile FlagKind.isLongChar
  if !name.isEmpty && (rest.head?.all Text.isBlank) then some name else none

/-- Classifies a line. An end header takes precedence over a start header, and both over the
layout. -/
def classify (policy : Policy) (line : Text) : Line :=
  let trimmed := Text.trim line
  if trimmed.isEmpty then blank
  else if policy.closes trimmed then endHeader
  else if policy.opens trimmed then startHeader
  else if indentation line = 2 then
    match commandName? (line.drop 2) with
    | some name => command name
    | none => other
  else if indentation line = 4 then
    flagLine ((line.drop 4).takeWhile (!Text.isBlank ·)) ((line.drop 4).dropWhile (!Text.isBlank ·))
  else other

end Line

end Synopsis.Help
