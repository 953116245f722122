import Synopsis.Policy
import Synopsis.Table.Basic

/-!
# Valid tables

The names that a reader of help texts can find are nonempty words of lowercase letters and
hyphens, and none of them is excluded. A table from elsewhere may break both rules.
-/

namespace Synopsis

/-- A nonempty word of lowercase letters and hyphens. -/
def isCommandName (name : Text) : Bool := !name.isEmpty && name.all FlagKind.isLongChar

namespace Table

/-- What is wrong with a name in a table. -/
inductive Problem where
  | invalidName (name : Text)
  | excluded (name : Text)
  deriving DecidableEq

/-- The message for the user. -/
def Problem.message : Problem → Text
  | .invalidName name => "invalid command name: " ++ name
  | .excluded name => "excluded command present in table: " ++ name

/-- What is wrong with one name. -/
def nameProblems (policy : Policy) (name : Text) : List Problem :=
  (if isCommandName name then [] else [.invalidName name]) ++
    if policy.excludes name then [.excluded name] else []

/-- What is wrong with the names of a table, in their order. -/
def problems (policy : Policy) (table : Table) : List Problem :=
  table.names.flatMap (nameProblems policy)

theorem problems_eq_nil_iff {policy : Policy} {table : Table} :
    table.problems policy = [] ↔
      ∀ name ∈ table.names, isCommandName name = true ∧ policy.excludes name = false := by
  simp [problems, nameProblems]

end Table

end Synopsis
