import Synopsis.Text.Basic

/-!
# Dialects

The shells that completion scripts are rendered for.
-/

namespace Synopsis

/-- A completion grammar. -/
inductive Dialect where
  | bash
  | zsh
  | fish
  deriving DecidableEq, Repr

namespace Dialect

/-- The dialects in the order in which scripts are rendered. -/
def all : List Dialect := [bash, zsh, fish]

/-- The name by which the dialect is chosen. -/
def name : Dialect → Text
  | bash => "bash"
  | zsh => "zsh"
  | fish => "fish"

/-- The name in progress lines. -/
def label : Dialect → Text
  | bash => "Bash"
  | zsh => "Zsh"
  | fish => "Fish"

/-- The dialect of that name. -/
def ofName? (name : Text) : Option Dialect := all.find? (·.name = name)

theorem mem_all (dialect : Dialect) : dialect ∈ all := by cases dialect <;> decide

end Dialect

end Synopsis
