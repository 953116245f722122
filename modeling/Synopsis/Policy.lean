import Synopsis.Text.Basic

/-!
# Policies

Which lines open and close the part of a help text that is read, and which commands are left out
of every table.
-/

namespace Synopsis

/-- Headers that bound the capture region, and commands that are never recorded. -/
structure Policy where
  startHeaders : List Text := ["Options:"]
  endHeaders : List Text := ["Environment Variables:", "Git Protocol Commands"]
  excludedCommands : List Text := ["help", "version"]
  deriving DecidableEq

namespace Policy

/-- The text starts with one of the start headers. -/
def opens (policy : Policy) (text : Text) : Bool :=
  policy.startHeaders.any text.startsWith

/-- The text starts with one of the end headers. -/
def closes (policy : Policy) (text : Text) : Bool :=
  policy.endHeaders.any text.startsWith

/-- The command is left out of every table. -/
def excludes (policy : Policy) (command : Text) : Bool :=
  policy.excludedCommands.contains command

theorem excludes_iff {policy : Policy} {command : Text} :
    policy.excludes command = true ↔ command ∈ policy.excludedCommands := by
  simp [excludes]

end Policy

/-- Verbs of a remote helper that are offered as completions without being parsed. -/
def protocolCommands : List Text := ["capabilities", "fetch", "list", "push"]

end Synopsis
