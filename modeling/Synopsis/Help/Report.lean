import Synopsis.Help.Reading
import Synopsis.Table.Output

/-!
# Reports

A report shows a table with the diagnostics of its reading. The coverage is the part of the
relevant lines that was recognized; it is zero when no line was relevant.

- `coverage_of_relevant_eq_zero`: the coverage without relevant lines.
-/

namespace Synopsis.Help

/-- The name of a phase in documents. -/
def Phase.name : Phase → Text
  | seeking => "seeking"
  | inOptions => "in_options"
  | done => "done"

/-- The name of a phase in messages. -/
def Phase.title : Phase → Text
  | seeking => "Seeking"
  | inOptions => "InOptions"
  | done => "Done"

namespace Diagnostics

/-- The part of the relevant lines that was recognized. -/
def coverage (diagnostics : Diagnostics) : Binary64 :=
  if diagnostics.relevant = 0 then .ofNat 0
  else (Binary64.ofNat diagnostics.recognized).div (.ofNat diagnostics.relevant)

theorem coverage_of_relevant_eq_zero {diagnostics : Diagnostics} (h : diagnostics.relevant = 0) :
    diagnostics.coverage = .ofNat 0 := by
  simp [coverage, h]

/-- The coverage in whole percent. -/
def percentage (diagnostics : Diagnostics) : Nat := (diagnostics.coverage.mul (.ofNat 100)).round

/-- The JSON value of the coverage. -/
def coverageJson (diagnostics : Diagnostics) : Json := .number (.real false diagnostics.coverage)

/-- The JSON value of the diagnostics. -/
def toJson (diagnostics : Diagnostics) : Json :=
  .ofFields [
    ("relevant_lines", .ofNat diagnostics.relevant),
    ("recognized_lines", .ofNat diagnostics.recognized),
    ("unresolved_lines", .ofTexts diagnostics.unresolved),
    ("excluded_commands", .ofTexts diagnostics.excluded),
    ("final_state", .string diagnostics.phase.name)]

/-- The diagnostics in words: a summary, and a line for each unresolved line. -/
def toText (diagnostics : Diagnostics) : Text :=
  Text.unlines <|
    ("coverage: " ++ Text.ofNat diagnostics.percentage ++ "% ("
      ++ Text.ofNat diagnostics.recognized ++ '/' :: Text.ofNat diagnostics.relevant
      ++ " lines), final state: " ++ diagnostics.phase.title)
    :: diagnostics.unresolved.map fun line => "unresolved: " ++ Text.trim line

end Diagnostics

namespace Reading

/-- The JSON value of a report. -/
def toJson (reading : Reading) : Json :=
  .ofFields [
    ("table", reading.table.toJson),
    ("report", reading.diagnostics.toJson),
    ("coverage", reading.diagnostics.coverageJson)]

/-- The report in a format. -/
def report (reading : Reading) : OutputFormat → Text
  | .json => reading.toJson.print .pretty ++ ['\n']
  | .yaml => Yaml.print (.ofJson reading.toJson)
  | .text => reading.table.toText ++ reading.diagnostics.toText

end Reading

end Synopsis.Help
