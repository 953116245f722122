import Synopsis.Proofs.Dictionary
import Synopsis.Proofs.FlagList
import Synopsis.Proofs.Help.Region

/-!
# The table of a help text

What the table of a help text holds, told by the lines of its region and not by how they are read.
A command has the flags of the flag lines that name it, from its last command line up to the next
command line of any command.

- `Reading.State.flags?_block`: what the lines up to the next command line add.
- `Reading.State.flags?_other`: lines after another command leave a command as it is.
- `mem_names_read`: the commands of the table.
- `read_table`: the table of a help text, and that nothing outside of the region matters to it.
-/

namespace Synopsis

theorem Table.flags?_foldl_addFlag (table : Table) (owner : Text) (flags : List Flag)
    (name : Text) : (flags.foldl (·.addFlag owner ·) table).flags? name =
      if name = owner then (table.flags? owner).map fun known => flags.foldl FlagList.add known
      else table.flags? name := by
  induction flags generalizing table with
  | nil =>
    by_cases hn : name = owner
    · simp [hn]
    · simp [hn]
  | cons flag flags ih =>
    rw [List.foldl_cons, ih, flags?_addFlag, flags?_addFlag]
    by_cases hn : name = owner
    · simp only [hn, if_true, Option.map_map]
      rfl
    · simp [hn]

namespace Help

open Reading

variable {policy : Policy}

/-- The flags that the flag lines of a command name, with repeats. -/
def namedFlags (policy : Policy) (name : Text) (lines : List Text) : List Flag :=
  lines.flatMap fun line =>
    match Line.classify policy line with
    | .flagLine owner body => if owner = name then flagsOf body else []
    | _ => []

/-- The line is a command line. -/
def isCommandLine (policy : Policy) (line : Text) : Bool :=
  match Line.classify policy line with
  | .command _ => true
  | _ => false

/-- The lines up to the next command line. -/
def block (policy : Policy) (lines : List Text) : List Text :=
  lines.takeWhile fun line => !isCommandLine policy line

theorem isCommandLine_of_classify {line name : Text}
    (h : Line.classify policy line = .command name) : isCommandLine policy line = true := by
  rw [isCommandLine, h]

theorem classify_of_isCommandLine {line : Text} (h : isCommandLine policy line = true) :
    ∃ name, Line.classify policy line = .command name := by
  unfold isCommandLine at h
  split at h
  · next name hc => exact ⟨name, hc⟩
  · cases h

/-- The names on the command lines. -/
def commandNames (policy : Policy) (lines : List Text) : List Text :=
  lines.filterMap fun line =>
    match Line.classify policy line with
    | .command name => some name
    | _ => none

theorem mem_commandNames {name : Text} {lines : List Text} : name ∈ commandNames policy lines ↔
    ∃ line ∈ lines, Line.classify policy line = .command name := by
  rw [commandNames, List.mem_filterMap]
  refine exists_congr fun line => and_congr_right fun _ => ?_
  cases Line.classify policy line <;> simp

/-! ## What one line does -/

namespace Reading.State

variable {state : State} {lines : List Text} {line name : Text}

/-- The flags of a command after some lines, if it is there. -/
def flags? (state : State) (name : Text) : Option FlagList := state.reading.table.flags? name

theorem stepInside_command (state : State) (name : Text) {other : Text}
    (hc : Line.classify policy line = .command other) :
    (state.stepInside policy line).latest = some other ∧
      (state.stepInside policy line).flags? name =
        if name = other ∧ policy.excludes other = false then some [] else state.flags? name := by
  have hstep : state.stepInside policy line = state.declare policy other := by
    rw [stepInside, hc]
  rw [hstep, declare]
  cases he : policy.excludes other with
  | true => exact ⟨rfl, by simp [flags?, note]⟩
  | false =>
    refine ⟨rfl, ?_⟩
    simp only [flags?, note, Bool.false_eq_true, if_false, Table.flags?_declare, and_true]

theorem stepInside_flagLine (state : State) (name : Text) {owner body : Text}
    (hc : Line.classify policy line = .flagLine owner body) :
    (state.stepInside policy line).latest = state.latest ∧
      (state.stepInside policy line).flags? name =
        if state.latest = some name ∧ policy.excludes name = false ∧ owner = name then
          (state.flags? name).map fun known => (flagsOf body).foldl .add known
        else state.flags? name := by
  have hstep : state.stepInside policy line = state.addFlags policy line owner body := by
    rw [stepInside, hc]
  rw [hstep, addFlags]
  by_cases ho : state.latest = some owner
  · rw [if_pos ho, ho]
    cases he : policy.excludes owner with
    | true =>
      have hno : ¬ (some owner = some name ∧ policy.excludes name = false ∧ owner = name) := by
        intro h
        rw [h.2.2, h.2.1] at he
        cases he
      rw [if_neg hno]
      exact ⟨ho, rfl⟩
    | false =>
      refine ⟨ho, (Table.flags?_foldl_addFlag _ owner _ name).trans ?_⟩
      by_cases hn : name = owner
      · subst hn
        simp [he, flags?, note]
      · simp [hn, Ne.symm hn, flags?, note]
  · have hno : ¬ (state.latest = some name ∧ policy.excludes name = false ∧ owner = name) :=
      fun h => ho (h.2.2 ▸ h.1)
    rw [if_neg ho, if_neg hno]
    exact ⟨rfl, rfl⟩

/-- A line that is no command line keeps the latest command, and adds the flags that it names if
they are those of the latest command. -/
theorem stepInside_of_not_command (state : State) (name : Text)
    (hc : isCommandLine policy line = false) :
    (state.stepInside policy line).latest = state.latest ∧
      (state.stepInside policy line).flags? name =
        if state.latest = some name ∧ policy.excludes name = false then
          (state.flags? name).map fun known => (namedFlags policy name [line]).foldl .add known
        else state.flags? name := by
  -- Without flags, nothing is added.
  have hnone : ∀ condition : Prop, ∀ [Decidable condition], state.flags? name =
      if condition then (state.flags? name).map fun known => [].foldl FlagList.add known
      else state.flags? name := by
    intro condition _
    split <;> simp
  cases hl : Line.classify policy line with
  | command other =>
    rw [isCommandLine_of_classify hl] at hc
    cases hc
  | flagLine owner body =>
    obtain ⟨hlatest, hflags⟩ := stepInside_flagLine state name hl
    refine ⟨hlatest, hflags.trans ?_⟩
    by_cases hn : owner = name
    · simp [namedFlags, hl, hn]
    · have hnamed : namedFlags policy name [line] = [] := by simp [namedFlags, hl, hn]
      rw [hnamed, if_neg fun h => hn h.2.2]
      exact hnone _
  | startHeader | blank | endHeader | other =>
    have hnamed : namedFlags policy name [line] = [] := by simp [namedFlags, hl]
    rw [stepInside, hl, hnamed]
    exact ⟨rfl, hnone _⟩

/-! ## What some lines do -/

theorem namedFlags_append (policy : Policy) (name : Text) (lines more : List Text) :
    namedFlags policy name (lines ++ more) =
      namedFlags policy name lines ++ namedFlags policy name more :=
  List.flatMap_append

/-- The lines up to the next command line add the flags that they name. -/
theorem flags?_block (hl : state.latest = some name) (he : policy.excludes name = false)
    (hb : ∀ line ∈ lines, isCommandLine policy line = false) :
    (lines.foldl (·.stepInside policy ·) state).latest = some name ∧
      (lines.foldl (·.stepInside policy ·) state).flags? name =
        (state.flags? name).map fun known => (namedFlags policy name lines).foldl .add known := by
  induction lines generalizing state with
  | nil => exact ⟨hl, by simp [namedFlags]⟩
  | cons line lines ih =>
    rw [List.forall_mem_cons] at hb
    obtain ⟨hlatest, hflags⟩ := stepInside_of_not_command state name hb.1
    rw [if_pos ⟨hl, he⟩] at hflags
    rw [List.foldl_cons]
    refine ⟨(ih (hlatest.trans hl) hb.2).1, ?_⟩
    rw [(ih (hlatest.trans hl) hb.2).2, hflags, Option.map_map]
    have hlines : namedFlags policy name (line :: lines) =
        namedFlags policy name [line] ++ namedFlags policy name lines :=
      namedFlags_append policy name [line] lines
    rw [hlines]
    simp only [List.foldl_append]
    rfl

/-- Lines after another command leave a command as it is, unless it is declared again. -/
theorem flags?_other (hl : state.latest ≠ some name)
    (hn : ∀ line ∈ lines, Line.classify policy line ≠ .command name) :
    (lines.foldl (·.stepInside policy ·) state).flags? name = state.flags? name := by
  induction lines generalizing state with
  | nil => rfl
  | cons line lines ih =>
    rw [List.forall_mem_cons] at hn
    rw [List.foldl_cons]
    cases hc : isCommandLine policy line with
    | false =>
      obtain ⟨hlatest, hflags⟩ := stepInside_of_not_command state name hc
      rw [if_neg fun h => hl h.1] at hflags
      rw [ih (by rwa [hlatest]) hn.2, hflags]
    | true =>
      obtain ⟨other, ho⟩ := classify_of_isCommandLine hc
      have hne : other ≠ name := fun h => hn.1 (h ▸ ho)
      obtain ⟨hlatest, hflags⟩ := stepInside_command state name ho
      rw [ih (by rw [hlatest]; simpa using hne) hn.2, hflags]
      simp [Ne.symm hne]

/-- The commands that are there are those that were there, and those that the lines declare. -/
theorem isSome_flags?_foldl (state : State) (lines : List Text) (name : Text) :
    ((lines.foldl (·.stepInside policy ·) state).flags? name).isSome = true ↔
      (state.flags? name).isSome = true ∨
        (∃ line ∈ lines, Line.classify policy line = .command name) ∧
          policy.excludes name = false := by
  induction lines generalizing state with
  | nil => simp
  | cons line lines ih =>
    rw [List.foldl_cons, ih]
    cases hc : isCommandLine policy line with
    | false =>
      have hline : Line.classify policy line ≠ .command name := by
        intro h
        rw [isCommandLine_of_classify h] at hc
        cases hc
      have hsome : ((state.stepInside policy line).flags? name).isSome =
          (state.flags? name).isSome := by
        rw [(stepInside_of_not_command state name hc).2]
        split <;> simp
      simp [hsome, hline]
    | true =>
      obtain ⟨other, ho⟩ := classify_of_isCommandLine hc
      rw [(stepInside_command state name ho).2]
      by_cases hn : name = other
      · subst hn
        cases he : policy.excludes name <;> simp [ho]
      · have hline : Line.classify policy line ≠ .command name := by
          rw [ho]
          simpa using Ne.symm hn
        simp [hn, hline]

/-- From its last command line on, a command gets the flags of the lines up to the next command
line. -/
theorem flags?_last {before after : List Text} (hc : Line.classify policy line = .command name)
    (hn : ∀ other ∈ after, Line.classify policy other ≠ .command name)
    (he : policy.excludes name = false) :
    ((before ++ line :: after).foldl (·.stepInside policy ·) state).flags? name =
      some (namedFlags policy name (block policy after)).eraseDups := by
  rw [List.foldl_append, List.foldl_cons]
  obtain ⟨hlatest, hflags⟩ :=
    stepInside_command (before.foldl (·.stepInside policy ·) state) name hc
  rw [if_pos ⟨rfl, he⟩] at hflags
  generalize (before.foldl (·.stepInside policy ·) state).stepInside policy line = declared
    at hlatest hflags
  have added : ∀ lines, (∀ other ∈ lines, isCommandLine policy other = false) →
      (lines.foldl (·.stepInside policy ·) declared).latest = some name ∧
        (lines.foldl (·.stepInside policy ·) declared).flags? name =
          some (namedFlags policy name lines).eraseDups := by
    intro lines hb
    obtain ⟨hl, hf⟩ := flags?_block hlatest he hb
    refine ⟨hl, ?_⟩
    rw [hf, hflags, ← FlagList.ofFlags_eq_eraseDups]
    rfl
  unfold block
  rcases span_cases (fun other => !isCommandLine policy other) after with
    ⟨hall, ht, -⟩ | ⟨inside, next, rest, rfl, hinside, hnext, ht, -⟩
  · rw [ht]
    exact (added after (by simpa using hall)).2
  · rw [ht, List.foldl_append, List.foldl_cons]
    obtain ⟨-, hf⟩ := added inside (by simpa using hinside)
    generalize inside.foldl (·.stepInside policy ·) declared = ended at hf
    -- The next command line is one of another command.
    obtain ⟨other, ho⟩ := classify_of_isCommandLine (by simpa using hnext)
    have hne : other ≠ name := fun h => hn next (by simp) (h ▸ ho)
    obtain ⟨hl, hf'⟩ := stepInside_command ended name ho
    rw [if_neg fun h => hne h.1.symm, hf] at hf'
    rw [flags?_other (by rw [hl]; simpa using hne) fun line hm => hn line (by simp [hm]), hf']

end Reading.State

/-! ## The table -/

theorem table_read (policy : Policy) (help : Text) : (read policy help).table =
    ((region policy help).foldl (·.stepInside policy ·) State.opened).reading.table := by
  obtain ⟨phase, -, hr⟩ := read_eq policy help
  rw [hr]
  rfl

theorem diagnostics_read (policy : Policy) (help : Text) : (read policy help).diagnostics =
    { ((region policy help).foldl (·.stepInside policy ·) State.opened).reading.diagnostics.reversed
      with phase := (read policy help).diagnostics.phase } := by
  obtain ⟨phase, -, hr⟩ := read_eq policy help
  rw [hr]
  rfl

/-- The commands of a table are those of the command lines of the region, apart from the excluded
ones. -/
theorem mem_names_read (policy : Policy) (help name : Text) :
    name ∈ (read policy help).table.names ↔
      (∃ line ∈ region policy help, Line.classify policy line = .command name) ∧
        policy.excludes name = false := by
  rw [Table.names, ← Dictionary.isSome_lookup, table_read]
  refine (State.isSome_flags?_foldl State.opened _ name).trans ?_
  have hnone : State.opened.flags? name = none := rfl
  simp [hnone]

/-- The commands of a help text are those of the command lines of its region, apart from the
excluded ones. The flags of each are those of the flag lines that name it after its last command
line and before the next command line, each flag once and in the order of first appearance. Nothing
outside of the region matters, except to the phase in which the reading ends. -/
theorem read_table (policy : Policy) (help : Text) :
    (∀ name, name ∈ (read policy help).table.names ↔
      (∃ line ∈ region policy help, Line.classify policy line = .command name) ∧
        policy.excludes name = false) ∧
    (∀ name before line after, region policy help = before ++ line :: after →
      Line.classify policy line = .command name →
      (∀ other ∈ after, Line.classify policy other ≠ .command name) →
      policy.excludes name = false →
      (read policy help).table.flags? name =
        some (namedFlags policy name (block policy after)).eraseDups) ∧
    ∀ other, region policy other = region policy help →
      (read policy other).table = (read policy help).table ∧
      (read policy other).diagnostics =
        { (read policy help).diagnostics with phase := (read policy other).diagnostics.phase } := by
  refine ⟨fun name => ?_, fun name before line after hr hc hn he => ?_, fun other hr => ⟨?_, ?_⟩⟩
  · exact mem_names_read policy help name
  · rw [table_read, hr]
    exact State.flags?_last hc hn he
  · rw [table_read, table_read, hr]
  · rw [diagnostics_read policy other, diagnostics_read policy help, hr]

/-- A command line that repeats its command takes the flags before it away. -/
theorem read_table_repeated :
    (read {} "Options:\n  clean\n    clean -f\n  clean\n    clean -i").table.flags? "clean" =
      some [⟨.short, "i", by decide⟩] := by
  have hr : region {} "Options:\n  clean\n    clean -f\n  clean\n    clean -i" =
      ["  clean".toList, "    clean -f".toList] ++ "  clean".toList ::
        ["    clean -i".toList] := by decide +kernel
  have hc : Line.classify {} "  clean" = .command "clean" := by decide +kernel
  refine ((read_table {} _).2.1 _ _ _ _ hr hc (by decide +kernel) (by decide)).trans ?_
  decide +kernel

end Help

end Synopsis
