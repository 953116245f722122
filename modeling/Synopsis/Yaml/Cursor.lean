import Synopsis.Yaml.Node

/-!
# Cursors

A place in a document: what is left of it, and where in the text that is. The document ends at
its last character or at the first null character.
-/

namespace Synopsis.Yaml

/-- The null character, which ends a document. -/
def endMark : Char := '\x00'

/-- A line feed or a carriage return. -/
def isBreak (c : Char) : Bool := c == '\n' || c == '\r'

/-- A space or a tab. -/
def isSpace (c : Char) : Bool := c == ' ' || c == '\t'

/-- A line break or the end. -/
def isBreakOrEnd (c : Char) : Bool := isBreak c || c == endMark

/-- A space, a tab, a line break or the end. -/
def isGap (c : Char) : Bool := isSpace c || isBreakOrEnd c

/-- A character that structures flow collections. -/
def isFlowIndicator (c : Char) : Bool := ",[]\x7b\x7d".toList.contains c

/-- A character of an anchor or of a tag handle. -/
def isNameChar (c : Char) : Bool := c.isAlphanum || c == '_' || c == '-'

/-- A place in a document. -/
structure Cursor where
  rest : Text
  line : Nat
  column : Nat
  index : Nat
  /-- The length of the document. -/
  size : Nat

namespace Cursor

/-- The start of a document. -/
def start (text : Text) : Cursor := ⟨text, 0, 0, 0, text.length⟩

/-- The number of characters that are left. -/
def left (cursor : Cursor) : Nat := cursor.size - cursor.index

/-- The character at the cursor. -/
def head (cursor : Cursor) : Char := cursor.rest.headD endMark

/-- The character `n` places after the cursor. -/
def ahead (cursor : Cursor) (n : Nat) : Char := (cursor.rest.drop n).headD endMark

/-- Nothing is left. -/
def isAtEnd (cursor : Cursor) : Bool := cursor.head == endMark

/-- The cursor one character further. -/
def next (cursor : Cursor) : Cursor :=
  match cursor.rest with
  | [] => cursor
  | c :: rest =>
    if c = '\n' then ⟨rest, cursor.line + 1, 0, cursor.index + 1, cursor.size⟩
    else ⟨rest, cursor.line, cursor.column + 1, cursor.index + 1, cursor.size⟩

/-- The cursor `n` characters further. -/
def skip (cursor : Cursor) : Nat → Cursor
  | 0 => cursor
  | n + 1 => cursor.next.skip n

/-- The characters up to the first that fails the test, and the cursor there. -/
def spanWhile (test : Char → Bool) (cursor : Cursor) : Text × Cursor :=
  let taken := cursor.rest.takeWhile test
  (taken, cursor.skip taken.length)

/-- The cursor after one line break, if it stands at one. -/
def skipBreak (cursor : Cursor) : Cursor :=
  if cursor.head == '\r' && cursor.ahead 1 == '\n' then cursor.skip 2
  else if isBreak cursor.head then cursor.next
  else cursor

/-- The cursor after spaces and tabs. -/
def skipSpaces (cursor : Cursor) : Cursor := (cursor.spanWhile isSpace).2

/-- The cursor after a comment, if one starts here. -/
def skipComment (cursor : Cursor) : Cursor :=
  if cursor.head == '#' then (cursor.spanWhile (!isBreakOrEnd ·)).2 else cursor

/-- Three equal marks at the start of a line, with a gap after them. -/
def isMarker (cursor : Cursor) (mark : Char) : Bool :=
  cursor.column == 0 && cursor.head == mark && cursor.ahead 1 == mark && cursor.ahead 2 == mark
    && isGap (cursor.ahead 3)

/-- The start or the end of a document stands here. -/
def isDocumentMarker (cursor : Cursor) : Bool := cursor.isMarker '-' || cursor.isMarker '.'

end Cursor

end Synopsis.Yaml
