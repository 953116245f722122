import Synopsis.Help.Line
import Synopsis.Help.Mention
import Synopsis.Table.Basic
import Synopsis.Text.Lines

/-!
# Reading a help text

The lines are read once, from the start header to the end header that follows it. A command line
declares its command, and a flag line adds flags to it while it is the latest command. Every
other line of the region that is neither blank nor a header is kept as unresolved.

- `step_seeking`: before the start header, a line can only open the region.
- `step_done`: after the end header, a line changes nothing.
-/

namespace Synopsis.Help

/-- Where the reader stands: before, inside or after the capture region. -/
inductive Phase where
  | seeking
  | inOptions
  | done
  deriving DecidableEq, Repr

/-- What happened to the lines of the capture region. -/
structure Diagnostics where
  /-- Lines that are neither blank nor headers. -/
  relevant : Nat := 0
  /-- Command lines, and flag lines of the latest command. -/
  recognized : Nat := 0
  /-- The relevant lines that were not recognized, as they are written. -/
  unresolved : List Text := []
  /-- The commands that the policy left out, once for each of their lines. -/
  excluded : List Text := []
  phase : Phase := .seeking
  deriving DecidableEq

/-- The diagnostics with their lists the other way round. -/
def Diagnostics.reversed (diagnostics : Diagnostics) : Diagnostics :=
  { diagnostics with
    unresolved := diagnostics.unresolved.reverse
    excluded := diagnostics.excluded.reverse }

/-- What a help text says. -/
structure Reading where
  table : Table := .empty
  diagnostics : Diagnostics := {}
  deriving DecidableEq

namespace Reading

/-- What is known after some lines: the reading so far, in which the diagnostics list the latest
line first, and the latest command. -/
structure State where
  reading : Reading := {}
  latest : Option Text := none

namespace State

/-- The state with the diagnostics changed. -/
def note (state : State) (change : Diagnostics → Diagnostics) : State :=
  { state with reading.diagnostics := change state.reading.diagnostics }

/-- A command line: the command is the latest from here on, and is declared unless it is
excluded. -/
def declare (policy : Policy) (state : State) (name : Text) : State :=
  let state := { state with latest := some name }.note fun d =>
    { d with relevant := d.relevant + 1, recognized := d.recognized + 1 }
  if policy.excludes name then state.note fun d => { d with excluded := name :: d.excluded }
  else { state with reading.table := state.reading.table.declare name }

/-- A line of the region that tells nothing. -/
def leaveOut (state : State) (line : Text) : State :=
  state.note fun d =>
    { d with relevant := d.relevant + 1, unresolved := line :: d.unresolved }

/-- A flag line: its flags go to the command it names, if that is the latest. -/
def addFlags (policy : Policy) (state : State) (line owner body : Text) : State :=
  if state.latest = some owner then
    let state := state.note fun d =>
      { d with relevant := d.relevant + 1, recognized := d.recognized + 1 }
    if policy.excludes owner then state
    else
      { state with
        reading.table := (flagsOf body).foldl (·.addFlag owner ·) state.reading.table }
  else state.leaveOut line

/-- Reads one line inside the capture region. -/
def stepInside (policy : Policy) (state : State) (line : Text) : State :=
  match Line.classify policy line with
  | .endHeader => state.note fun d => { d with phase := .done }
  | .startHeader | .blank => state
  | .command name => state.declare policy name
  | .flagLine owner body => state.addFlags policy line owner body
  | .other => state.leaveOut line

/-- Reads one line. -/
def step (policy : Policy) (state : State) (line : Text) : State :=
  match state.reading.diagnostics.phase with
  | .seeking =>
    if Line.classify policy line = .startHeader then
      state.note fun d => { d with phase := .inOptions }
    else state
  | .inOptions => state.stepInside policy line
  | .done => state

/-- The reading after the last line, in which the diagnostics list the first line first. -/
def finish (state : State) : Reading :=
  { state.reading with diagnostics := state.reading.diagnostics.reversed }

theorem step_seeking {policy : Policy} {state : State} {line : Text}
    (h : state.reading.diagnostics.phase = .seeking)
    (hl : Line.classify policy line ≠ .startHeader) : state.step policy line = state := by
  simp [step, h, hl]

theorem step_done {policy : Policy} {state : State} (line : Text)
    (h : state.reading.diagnostics.phase = .done) : state.step policy line = state := by
  simp [step, h]

end State

end Reading

/-- Reads a help text. -/
def read (policy : Policy) (help : Text) : Reading :=
  ((Text.lines help).foldl (·.step policy ·) ({} : Reading.State)).finish

end Synopsis.Help
