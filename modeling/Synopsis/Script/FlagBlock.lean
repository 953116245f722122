import Synopsis.Dialect
import Synopsis.Flag.Order

/-!
# Flag blocks

The flags of one command, in the syntax of each dialect. Bash takes a list of words, zsh one
specification in which the flags exclude each other, fish one statement for each flag.
-/

namespace Synopsis

/-- The command whose flags are rendered, with what all of them share. -/
structure FlagGroup where
  command : Text
  description : Text
  program : Text
  deriving DecidableEq

namespace Script

/-- A single quote, outside of quotes: the quotation is closed, and opened again after it. -/
def escapedQuote : Text := "'\\''"

/-- The text in single quotes. -/
def singleQuoted (text : Text) : Text :=
  '\'' :: Text.substitute (fun c => if c = '\'' then escapedQuote else [c]) text ++ ['\'']

/-- A description between brackets and single quotes: brackets are escaped with a backslash. -/
def bracketed (text : Text) : Text :=
  "'[" ++ Text.substitute (fun c =>
    if c = '\'' then escapedQuote
    else if c = '[' ∨ c = ']' then ['\\', c]
    else [c]) text ++ "]'"

/-- Literals as alternatives: one stands alone, several stand between braces. -/
def alternatives : List Text → Text
  | [literal] => literal
  | literals => '{' :: [','].intercalate literals ++ ['}']

/-- The letter of the option that announces a flag of this kind. -/
def announcement : FlagKind → Text
  | .short => "-s"
  | .long => "-l"

/-- A statement for one flag. -/
def statement (group : FlagGroup) (flag : Flag) : Text :=
  "complete -c " ++ group.program ++ " -f -n \"__fish_seen_subcommand_from " ++ group.command
    ++ "\" " ++ announcement flag.kind ++ ' ' :: flag.name ++ " -d "
    ++ singleQuoted group.description

/-- The flags of the group in the syntax of a dialect. -/
def flagBlock (dialect : Dialect) (group : FlagGroup) (flags : List Flag) : Text :=
  match dialect with
  | .bash => Flag.joined flags
  | .zsh =>
    "'(" ++ Flag.joined flags ++ ")'"
      ++ alternatives ((Flag.renderOrder flags).map Flag.literal) ++ bracketed group.description
  | .fish => ['\n'].intercalate ((Flag.renderOrder flags).map (statement group))

end Script

end Synopsis
