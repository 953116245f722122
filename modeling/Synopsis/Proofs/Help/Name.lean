import Synopsis.Help.Line
import Synopsis.Proofs.Help.Group
import Synopsis.Proofs.Help.Table
import Synopsis.Table.Validity

/-!
# Command names

A command name is made of lowercase letters and hyphens, so it holds no blank, and a command line
always gives one.

- `isCommandName_of_classify`: the name on a command line is a command name.
- `isCommandName_of_mem_read`: a help text gives a table of command names.
-/

namespace Synopsis.Help

open Text

variable {policy : Policy} {c : Char} {name line : Text}

theorem isBlank_of_isLongChar (h : FlagKind.isLongChar c = true) : isBlank c = false := by
  simp only [FlagKind.isLongChar, Bool.or_eq_true, beq_iff_eq] at h
  exact (plain_of_isAlphanum (h.imp_left isAlphanum_of_isLower)).1

theorem isLongChar_of_isBlank (h : isBlank c = true) : FlagKind.isLongChar c = false := by
  cases hc : FlagKind.isLongChar c with
  | false => rfl
  | true =>
    rw [isBlank_of_isLongChar hc] at h
    cases h

theorem ne_of_isLongChar (h : FlagKind.isLongChar c = true) {d : Char}
    (hd : FlagKind.isLongChar d = false) : ¬ d = c := by
  intro he
  rw [he, h] at hd
  cases hd

theorem exists_name_eq_cons (h : isCommandName name = true) :
    ∃ c rest, name = c :: rest ∧ FlagKind.isLongChar c = true := by
  cases name with
  | nil => cases h
  | cons c rest =>
    simp only [isCommandName, List.all_cons, Bool.and_eq_true] at h
    exact ⟨c, rest, rfl, h.2.1⟩

theorem isLongChar_of_mem_name (h : isCommandName name = true) (hc : c ∈ name) :
    FlagKind.isLongChar c = true := by
  simp only [isCommandName, Bool.and_eq_true, List.all_eq_true] at h
  exact h.2 c hc

/-- The name on a command line is a command name. -/
theorem isCommandName_of_classify (h : Line.classify policy line = .command name) :
    isCommandName name = true := by
  have hname : ∀ text, Line.commandName? text = some name → isCommandName name = true := by
    intro text ht
    simp only [Line.commandName?, Option.ite_none_right_eq_some, Bool.and_eq_true] at ht
    obtain ⟨⟨hn, -⟩, he⟩ := ht
    rw [Option.some.injEq] at he
    subst he
    rw [isCommandName, hn, Bool.true_and]
    exact List.all_takeWhile
  simp only [Line.classify] at h
  split at h
  · cases h
  split at h
  · cases h
  split at h
  · cases h
  split at h
  · split at h
    · next hc =>
      cases h
      exact hname _ hc
    · cases h
  · split at h <;> cases h

/-- A help text gives a table of command names. -/
theorem isCommandName_of_mem_read {help : Text} (h : name ∈ (read policy help).table.names) :
    isCommandName name = true := by
  obtain ⟨⟨line, -, hc⟩, -⟩ := (mem_names_read policy help name).1 h
  exact isCommandName_of_classify hc

end Synopsis.Help
