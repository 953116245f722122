import Synopsis.Proofs.Help.Diagnostics
import Synopsis.Proofs.Script.CommandList

/-!
# One more excluded command

A help text is read by two policies, of which one excludes one more command. The two readings go
side by side: they have the same latest command after each line, since an excluded command becomes
the latest one too, and their tables differ in that command alone.

- `Reading.State.Without.step`, `Reading.State.Without.foldl`: the two readings, side by side.
- `completionCommands_excluding`: the completed commands lose that command alone.
- `read_excluding`: what the text says by the stricter policy.
-/

namespace Synopsis

/-- The policy that excludes one more command. -/
def Policy.excluding (policy : Policy) (command : Text) : Policy :=
  { policy with excludedCommands := policy.excludedCommands ++ [command] }

theorem Policy.excludes_excluding (policy : Policy) (command name : Text) :
    (policy.excluding command).excludes name =
      if name = command then true else policy.excludes name := by
  by_cases hn : name = command <;> simp [excluding, excludes, hn]

namespace Help

open Reading Script

variable {policy : Policy} {command line : Text}

/-- Whether a command is excluded does not matter to the meaning of a line. -/
theorem classify_excluding (policy : Policy) (command line : Text) :
    Line.classify (policy.excluding command) line = Line.classify policy line := rfl

theorem region_excluding (policy : Policy) (command help : Text) :
    region (policy.excluding command) help = region policy help := rfl

namespace Reading.State

variable {state other : State}

/-- The second state is the first one without a command. -/
structure Without (command : Text) (state other : State) : Prop where
  latest : other.latest = state.latest
  flags? : ∀ name, other.flags? name = if name = command then none else state.flags? name

/-- One line keeps two readings side by side. -/
theorem Without.step (h : Without command state other) (line : Text) :
    Without command (state.stepInside policy line)
      (other.stepInside (policy.excluding command) line) := by
  cases hc : isCommandLine policy line with
  | true =>
    obtain ⟨declared, hd⟩ := classify_of_isCommandLine hc
    have hd' := (classify_excluding policy command line).trans hd
    refine ⟨?_, fun name => ?_⟩
    · rw [(stepInside_command other [] hd').1, (stepInside_command state [] hd).1]
    · rw [(stepInside_command other name hd').2, (stepInside_command state name hd).2, h.flags?,
        Policy.excludes_excluding]
      by_cases hn : name = command <;> by_cases ho : name = declared <;> simp_all
  | false =>
    have hc' : isCommandLine (policy.excluding command) line = false := hc
    have hnamed : ∀ name, namedFlags (policy.excluding command) name [line] =
        namedFlags policy name [line] := fun _ => rfl
    refine ⟨?_, fun name => ?_⟩
    · rw [(stepInside_of_not_command other [] hc').1, (stepInside_of_not_command state [] hc).1,
        h.latest]
    · rw [(stepInside_of_not_command other name hc').2, (stepInside_of_not_command state name hc).2,
        h.flags?, h.latest, Policy.excludes_excluding, hnamed]
      by_cases hn : name = command <;> simp [hn]

/-- So do all lines of a region. -/
theorem Without.foldl (h : Without command state other) (lines : List Text) :
    Without command (lines.foldl (·.stepInside policy ·) state)
      (lines.foldl (·.stepInside (policy.excluding command) ·) other) := by
  induction lines generalizing state other with
  | nil => exact h
  | cons line lines ih => exact ih (h.step line)

theorem without_opened (command : Text) : Without command opened opened where
  latest := rfl
  flags? name := by
    show none = if name = command then none else none
    rw [ite_self]

end Reading.State

/-! ## What the text says -/

theorem table_excluding (policy : Policy) (command help : Text) :
    (read (policy.excluding command) help).table = (read policy help).table.erase command := by
  apply Dictionary.ext_lookup
  intro name
  rw [Dictionary.lookup_erase, table_read, table_read, region_excluding]
  exact ((State.without_opened command).foldl (region policy help)).flags? name

theorem unresolvedLines_excluding (policy : Policy) (command : Text) (above lines : List Text) :
    unresolvedLines (policy.excluding command) above lines =
      unresolvedLines policy above lines := by
  induction lines generalizing above with
  | nil => rfl
  | cons line lines ih =>
    rw [unresolvedLines, unresolvedLines, ih]
    rfl

theorem phase_excluding (policy : Policy) (command help : Text) :
    (read (policy.excluding command) help).diagnostics.phase =
      (read policy help).diagnostics.phase := by
  have hseeking : (read (policy.excluding command) help).diagnostics.phase = .seeking ↔
      (read policy help).diagnostics.phase = .seeking := by
    rw [phase_read_eq_seeking, phase_read_eq_seeking]
    rfl
  have hdone : (read (policy.excluding command) help).diagnostics.phase = .done ↔
      (read policy help).diagnostics.phase = .done := by
    rw [phase_read_eq_done, phase_read_eq_done]
    rfl
  cases hp : (read (policy.excluding command) help).diagnostics.phase <;>
    cases hq : (read policy help).diagnostics.phase <;> simp_all

/-- The diagnostics differ in the excluded commands alone. -/
theorem diagnostics_excluding (policy : Policy) (command help : Text) :
    (read (policy.excluding command) help).diagnostics =
      { (read policy help).diagnostics with
        excluded := (commandNames policy (region policy help)).filter
          (policy.excluding command).excludes } := by
  have hrelevant : (read (policy.excluding command) help).diagnostics.relevant =
      (read policy help).diagnostics.relevant :=
    (relevant_read _ help).trans (relevant_read policy help).symm
  have hunresolved : (read (policy.excluding command) help).diagnostics.unresolved =
      (read policy help).diagnostics.unresolved := by
    rw [unresolved_read, unresolved_read, unresolvedLines_excluding]
    rfl
  have hrecognized : (read (policy.excluding command) help).diagnostics.recognized =
      (read policy help).diagnostics.recognized := by
    have hsum := relevant_eq_add policy help
    rw [← hrelevant, ← hunresolved, relevant_eq_add] at hsum
    exact Nat.add_right_cancel hsum
  have hexcluded : (read (policy.excluding command) help).diagnostics.excluded =
      (commandNames policy (region policy help)).filter (policy.excluding command).excludes :=
    excluded_read _ help
  dsimp only
  rw [← hrelevant, ← hrecognized, ← hunresolved, ← hexcluded, ← phase_excluding policy command]

/-- The completed commands lose one command alone. -/
theorem completionCommands_excluding (table : Table) (protocol : List Text) (policy : Policy)
    (command : Text) :
    completionCommands (table.erase command) protocol (policy.excluding command) =
      (completionCommands table protocol policy).filter (· ≠ command) := by
  apply Text.increasing_ext
  · exact increasing_completionCommands _ _ _
  · exact (increasing_completionCommands _ _ _).filter _
  · intro name
    rw [List.mem_filter, mem_completionCommands, mem_completionCommands,
      Policy.excludes_excluding, Table.names, Dictionary.keys_erase, List.mem_filter]
    by_cases hn : name = command <;> simp [hn, Table.names]

/-- Excluding one more command takes this command from the table and leaves every other one with its
flags. The lines of the text count as before, and every list of completed commands loses this
command alone. -/
theorem read_excluding (policy : Policy) (command help : Text) :
    (read (policy.excluding command) help).table = (read policy help).table.erase command ∧
    (∀ name, (read (policy.excluding command) help).table.flags? name =
      if name = command then none else (read policy help).table.flags? name) ∧
    (read (policy.excluding command) help).diagnostics =
      { (read policy help).diagnostics with
        excluded := (commandNames policy (region policy help)).filter
          (policy.excluding command).excludes } ∧
    ∀ protocol,
      completionCommands (read (policy.excluding command) help).table protocol
          (policy.excluding command) =
        (completionCommands (read policy help).table protocol policy).filter (· ≠ command) := by
  have htable := table_excluding policy command help
  refine ⟨htable, fun name => ?_, ?_, fun protocol => ?_⟩
  · rw [htable]
    exact Dictionary.lookup_erase _ _ _
  · exact diagnostics_excluding policy command help
  · rw [htable]
    exact completionCommands_excluding _ _ _ _

end Help

end Synopsis
