import Synopsis.Proofs.Text.Order
import Synopsis.Script.CommandList

/-!
# Command lists in order

The commands that a script completes are in increasing order, so nothing changes when a script
puts them in order again.

- `mem_completionCommands`: the commands of the table and of the protocol that are not excluded.
- `increasing_completionCommands`: they are in strictly increasing order.
- `commandList_of_increasing`: names in order are shown as they are.
-/

namespace Synopsis.Script

open Text

variable {names : List Text} {name : Text}

theorem mem_sortedSet : name ∈ sortedSet names ↔ name ∈ names := by
  rw [sortedSet, mem_eraseReps, mem_sorted]

theorem increasing_sortedSet (names : List Text) : (sortedSet names).Pairwise (· < ·) :=
  increasing_eraseReps (pairwise_sorted names)

theorem sortedSet_of_increasing (h : names.Pairwise (· < ·)) : sortedSet names = names :=
  increasing_ext (increasing_sortedSet names) h fun _ => mem_sortedSet

/-- Names in order are shown as they are. -/
theorem commandList_of_increasing (h : names.Pairwise (· < ·)) :
    commandList names = joinWords names := by
  rw [commandList, sortedSet_of_increasing h]

variable {table : Table} {protocol : List Text} {policy : Policy}

theorem mem_completionCommands : name ∈ completionCommands table protocol policy ↔
    (name ∈ table.names ∨ name ∈ protocol) ∧ policy.excludes name = false := by
  rw [completionCommands, mem_sortedSet, List.mem_filter, List.mem_append, Bool.not_eq_true']

theorem increasing_completionCommands (table : Table) (protocol : List Text) (policy : Policy) :
    (completionCommands table protocol policy).Pairwise (· < ·) :=
  increasing_sortedSet _

end Synopsis.Script
