import Synopsis.Dictionary
import Synopsis.FlagList

/-!
# Command tables

A table maps command names to flag lists, in the order of the names.

- `flags?_declare`: declaring a command gives it an empty flag list and changes no other.
- `flags?_addFlag`: adding a flag appends it to one declared command and changes no other.
-/

namespace Synopsis

/-- Command names with their flags. -/
abbrev Table := Dictionary FlagList

namespace Table

/-- The table without commands. -/
def empty : Table := Dictionary.empty

/-- The command names in increasing order. -/
def names (table : Table) : List Text := table.keys

/-- The flags of a command, if the table has it. -/
def flags? (table : Table) (command : Text) : Option FlagList := table.lookup command

/-- Whether the table has the command. -/
def contains (table : Table) (command : Text) : Bool := (table.lookup command).isSome

/-- The table with `command` declared anew, without flags. -/
def declare (table : Table) (command : Text) : Table := table.put command []

/-- The table with `flag` added to `command`, or the table itself if it lacks the command. -/
def addFlag (table : Table) (command : Text) (flag : Flag) : Table :=
  match flags? table command with
  | some flags => table.put command (FlagList.add flags flag)
  | none => table

/-- Whether adding the flag changes the table: the command is there and lacks the flag. -/
def accepts (table : Table) (command : Text) (flag : Flag) : Bool :=
  (flags? table command).any fun flags => flag ∉ flags

theorem flags?_declare (table : Table) (command name : Text) :
    flags? (declare table command) name =
      if name = command then some [] else flags? table name :=
  Dictionary.lookup_put table command [] name

theorem flags?_addFlag (table : Table) (command : Text) (flag : Flag) (name : Text) :
    flags? (addFlag table command flag) name =
      if name = command then (flags? table command).map (FlagList.add · flag)
      else flags? table name := by
  unfold addFlag
  cases h : flags? table command with
  | none => by_cases hn : name = command <;> simp_all
  | some flags =>
    simp only [flags?, Dictionary.lookup_put] at h ⊢
    simp

end Table

end Synopsis
