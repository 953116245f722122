import Synopsis.Text.Basic

/-!
# Lines

A line ends at a line feed, and a carriage return just before that line feed belongs to the end
of the line. The last line needs no line feed, and then keeps its carriage return.

- `lines_append`: a closed line in front of a text is the first of its lines.
-/

namespace Synopsis.Text

/-- The pieces that a line feed closes, and what stands after the last line feed. -/
def closedLines : Text → List Text × Text
  | [] => ([], [])
  | c :: text =>
    match closedLines text with
    | (closed, last) =>
      if c = '\n' then ([] :: closed, last)
      else match closed with
        | [] => ([], c :: last)
        | line :: others => ((c :: line) :: others, last)

/-- The line without one carriage return at its end. -/
def dropReturn (line : Text) : Text :=
  if line.getLast? = some '\r' then line.dropLast else line

/-- The lines of a text. -/
def lines (text : Text) : List Text :=
  let (closed, last) := closedLines text
  closed.map dropReturn ++ if last = [] then [] else [last]

theorem closedLines_append {line : Text} (h : '\n' ∉ line) (text : Text) :
    closedLines (line ++ '\n' :: text) =
      (line :: (closedLines text).1, (closedLines text).2) := by
  induction line with
  | nil => simp [closedLines]
  | cons c line ih =>
    simp only [List.mem_cons, not_or] at h
    simp [closedLines, ih h.2, Ne.symm h.1]

theorem lines_append {line : Text} (h : '\n' ∉ line) (text : Text) :
    lines (line ++ '\n' :: text) = dropReturn line :: lines text := by
  simp [lines, closedLines_append h]

end Synopsis.Text
