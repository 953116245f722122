import Synopsis.Dialect
import Synopsis.Text.Blank

/-!
# Recovering command lists

A script shows its command list at a place that is known for each dialect. The first such place
that is properly closed gives the list back, split into words.
-/

namespace Synopsis.Script

/-- What precedes a command list, and what closes it. -/
structure ListFrame where
  /-- Whether the list must be the first thing on its line. -/
  opensLine : Bool
  opening : Text
  /-- The character that the list cannot hold. -/
  stop : Char
  /-- What must follow the stop character. -/
  closing : Text

/-- Where a dialect's script shows its command list. -/
def listFrame : Dialect → ListFrame
  | .bash => ⟨true, "commands=\"", '"', []⟩
  | .zsh => ⟨false, "'1:command:(", ')', ['\'']⟩
  | .fish => ⟨false, "not __fish_seen_subcommand_from ", '"', []⟩

namespace ListFrame

/-- The list, if the frame starts with the text. -/
def here? (frame : ListFrame) (text : Text) : Option Text := do
  let text := if frame.opensLine then Text.trimStart text else text
  let text ← Text.after? frame.opening text
  let _ ← Text.after? (frame.stop :: frame.closing) (text.dropWhile (· ≠ frame.stop))
  some (text.takeWhile (· ≠ frame.stop))

/-- The list in the first frame of a text, of which `atLineStart` says whether it starts a
line. -/
def search (frame : ListFrame) : Bool → Text → Option Text
  | _, [] => none
  | atLineStart, c :: text =>
    match if atLineStart || !frame.opensLine then frame.here? (c :: text) else none with
    | some list => some list
    | none => frame.search (c == '\n') text

end ListFrame

/-- The commands that a script shows. -/
def recover (dialect : Dialect) (script : Text) : Option (List Text) :=
  ((listFrame dialect).search true script).map Text.words

end Synopsis.Script
