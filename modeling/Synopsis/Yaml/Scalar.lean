import Synopsis.Yaml.Cursor

/-!
# Reading scalars

Plain and quoted scalars may run over several lines. The gap between two of their lines is
folded: the first line break becomes a space, and further ones stand for themselves. A block
scalar keeps its lines, or folds those that are not indented further.

- `Gap.text`: what a gap contributes to the scalar.
-/

namespace Synopsis.Yaml

/-! ## Gaps -/

/-- What stands between two parts of a scalar. -/
inductive Gap where
  /-- Spaces and tabs on one line. -/
  | spaces (text : Text)
  /-- Line breaks. The first one folds to a space unless it is `escaped`; `more` follow it. -/
  | breaks (escaped : Bool) (more : Nat)

namespace Gap

/-- The gap with one more space or tab. Those next to a line break count for nothing. -/
def addSpace (c : Char) : Gap → Gap
  | spaces text => spaces (text ++ [c])
  | gap => gap

/-- The gap with one more line break. -/
def addBreak : Gap → Gap
  | spaces _ => breaks false 0
  | breaks escaped more => breaks escaped (more + 1)

/-- Whether there is a line break in the gap. -/
def isBroken : Gap → Bool
  | spaces _ => false
  | breaks _ _ => true

/-- The text that the gap stands for. -/
def text : Gap → Text
  | spaces text => text
  | breaks false 0 => [' ']
  | breaks _ more => List.replicate more '\n'

end Gap

/-- Reads a gap that started before the cursor. A tab is refused while the column is below
`tabColumn` and a line break has been read. -/
def readGap (tabColumn : Int) : Nat → Cursor → Gap → Except Error (Gap × Cursor)
  | 0, cursor, gap => .ok (gap, cursor)
  | fuel + 1, cursor, gap =>
    if isSpace cursor.head then
      if gap.isBroken && cursor.head == '\t' && cursor.column < tabColumn then
        .error .tabIndentation
      else readGap tabColumn fuel cursor.next (gap.addSpace cursor.head)
    else if isBreak cursor.head then readGap tabColumn fuel cursor.skipBreak gap.addBreak
    else .ok (gap, cursor)

/-! ## Plain scalars -/

/-- Whether a plain scalar cannot go on with the character at the cursor. -/
def endsPlain (inFlow : Bool) (cursor : Cursor) : Bool :=
  isGap cursor.head
    || (cursor.head == ':'
      && (isGap (cursor.ahead 1) || (inFlow && isFlowIndicator (cursor.ahead 1))))
    || (inFlow && isFlowIndicator cursor.head)

/-- The characters of a plain scalar up to a gap or its end. -/
def plainChunk (inFlow : Bool) : Nat → Cursor → Text × Cursor
  | 0, cursor => ([], cursor)
  | fuel + 1, cursor =>
    if endsPlain inFlow cursor then ([], cursor)
    else
      let (chunk, after) := plainChunk inFlow fuel cursor.next
      (cursor.head :: chunk, after)

/-- The rest of a plain scalar after a gap, the gap before its end, and the cursor after it. -/
def readPlainFrom (inFlow : Bool) (indent : Int) :
    Nat → Cursor → Gap → Except Error (Text × Gap × Cursor)
  | 0, cursor, gap => .ok ([], gap, cursor)
  | fuel + 1, cursor, gap =>
    if cursor.isDocumentMarker || cursor.head == '#' then .ok ([], gap, cursor)
    else do
      let (chunk, cursor) := plainChunk inFlow (cursor.left + 1) cursor
      let (before, gap) := if chunk.isEmpty then ([], gap) else (gap.text, .spaces [])
      if isSpace cursor.head || isBreak cursor.head then
        let (gap, cursor) ← readGap indent (cursor.left + 1) cursor gap
        if !inFlow && cursor.column < indent then .ok (before ++ chunk, gap, cursor)
        else
          let (more, gap, cursor) ← readPlainFrom inFlow indent fuel cursor gap
          .ok (before ++ chunk ++ more, gap, cursor)
      else .ok (before ++ chunk, gap, cursor)

/-- A plain scalar, whether a line break follows it, and the cursor after it. -/
def readPlain (inFlow : Bool) (indent : Int) (cursor : Cursor) :
    Except Error (Text × Bool × Cursor) := do
  let (text, gap, cursor) ←
    readPlainFrom inFlow indent (cursor.left + 1) cursor (.spaces [])
  .ok (text, gap.isBroken, cursor)

/-! ## Quoted scalars -/

/-- The value of a hexadecimal digit. -/
def hexDigit? (c : Char) : Option Nat :=
  if c.isDigit then some (c.toNat - '0'.toNat)
  else if 'a' ≤ c ∧ c ≤ 'f' then some (c.toNat - 'a'.toNat + 10)
  else if 'A' ≤ c ∧ c ≤ 'F' then some (c.toNat - 'A'.toNat + 10)
  else none

/-- The number that the next `count` hexadecimal digits write. -/
def hexNumber? (cursor : Cursor) (count : Nat) : Option Nat :=
  let ds := cursor.rest.take count
  if ds.length = count then
    ds.foldlM (fun n c => (hexDigit? c).map (n * 16 + ·)) 0
  else none

/-- The character of that number, if there is one. -/
def charOfNat? (n : Nat) : Option Char :=
  if h : n.isValidChar then some (Char.ofNatAux n h) else none

/-- The character that a letter stands for after a backslash. -/
def simpleEscape? : Char → Option Char
  | '0' => some '\x00'
  | 'a' => some '\x07'
  | 'b' => some '\x08'
  | 't' => some '\t'
  | '\t' => some '\t'
  | 'n' => some '\n'
  | 'v' => some '\x0b'
  | 'f' => some '\x0c'
  | 'r' => some '\r'
  | 'e' => some '\x1b'
  | ' ' => some ' '
  | '"' => some '"'
  | '\'' => some '\''
  | '\\' => some '\\'
  | 'N' => some '\u0085'
  | '_' => some '\u00a0'
  | 'L' => some '\u2028'
  | 'P' => some '\u2029'
  | _ => none

/-- The number of hexadecimal digits that a letter announces after a backslash. -/
def escapeWidth? : Char → Option Nat
  | 'x' => some 2
  | 'u' => some 4
  | 'U' => some 8
  | _ => none

/-- The character of an escape whose backslash is at the cursor, and the cursor after it. -/
def readEscape (cursor : Cursor) : Except Error (Char × Cursor) :=
  match escapeWidth? (cursor.ahead 1) with
  | some width =>
    match (hexNumber? (cursor.skip 2) width).bind charOfNat? with
    | some c => .ok (c, cursor.skip (2 + width))
    | none => .error .badEscape
  | none =>
    match simpleEscape? (cursor.ahead 1) with
    | some c => .ok (c, cursor.skip 2)
    | none => .error .badEscape

/-- Where a run of a quoted scalar ends: at a gap or the closing quote, or at an escaped line
break, which it takes. -/
inductive RunEnd where
  | here
  | escapedBreak

/-- The characters of a quoted scalar up to a gap or its closing quote. -/
def quotedRun (single : Bool) : Nat → Cursor → Except Error (Text × RunEnd × Cursor)
  | 0, cursor => .ok ([], .here, cursor)
  | fuel + 1, cursor =>
    if isGap cursor.head then .ok ([], .here, cursor)
    else if single then
      if cursor.head == '\'' then
        if cursor.ahead 1 == '\'' then do
          let (run, stop, after) ← quotedRun single fuel (cursor.skip 2)
          .ok ('\'' :: run, stop, after)
        else .ok ([], .here, cursor)
      else do
        let (run, stop, after) ← quotedRun single fuel cursor.next
        .ok (cursor.head :: run, stop, after)
    else if cursor.head == '"' then .ok ([], .here, cursor)
    else if cursor.head == '\\' then
      if isBreak (cursor.ahead 1) then .ok ([], .escapedBreak, cursor.next.skipBreak)
      else do
        let (c, cursor) ← readEscape cursor
        let (run, stop, after) ← quotedRun single fuel cursor
        .ok (c :: run, stop, after)
    else do
      let (run, stop, after) ← quotedRun single fuel cursor.next
      .ok (cursor.head :: run, stop, after)

/-- The rest of a quoted scalar, and the cursor after its closing quote. -/
def readQuotedFrom (single : Bool) : Nat → Cursor → Except Error (Text × Cursor)
  | 0, _ => .error .unterminatedQuote
  | fuel + 1, cursor =>
    if cursor.isDocumentMarker || cursor.isAtEnd then .error .unterminatedQuote
    else do
      let (run, stop, cursor) ← quotedRun single (cursor.left + 1) cursor
      let closed := cursor.head == (if single then '\'' else '"')
      if closed then .ok (run, cursor.next)
      else
        let gap := match stop with
          | .here => Gap.spaces []
          | .escapedBreak => Gap.breaks true 0
        let (gap, cursor) ← readGap 0 (cursor.left + 1) cursor gap
        let (more, cursor) ← readQuotedFrom single fuel cursor
        .ok (run ++ gap.text ++ more, cursor)

/-- A quoted scalar whose opening quote is at the cursor, and the cursor after it. -/
def readQuoted (single : Bool) (cursor : Cursor) : Except Error (Text × Cursor) :=
  readQuotedFrom single (cursor.left + 1) cursor.next

/-! ## Block scalars -/

/-- What happens to the line breaks at the end of a block scalar. -/
inductive Chomping where
  | strip
  | clip
  | keep

/-- The chomping that a sign asks for. -/
def Chomping.ofSign? : Char → Option Chomping
  | '+' => some keep
  | '-' => some strip
  | _ => none

/-- An indentation of one to nine, if a digit is at the cursor. -/
def readIncrement (cursor : Cursor) : Except Error (Nat × Cursor) :=
  if cursor.head.isDigit then
    if cursor.head == '0' then .error .badBlockHeader
    else .ok (cursor.head.toNat - '0'.toNat, cursor.next)
  else .ok (0, cursor)

/-- The chomping and the indentation after the indicator of a block scalar, in either order. -/
def readHeader (cursor : Cursor) : Except Error (Chomping × Nat × Cursor) :=
  match Chomping.ofSign? cursor.head with
  | some chomping => do
    let (increment, cursor) ← readIncrement cursor.next
    .ok (chomping, increment, cursor)
  | none => do
    let (increment, after) ← readIncrement cursor
    if increment = 0 then .ok (.clip, 0, cursor)
    else
      match Chomping.ofSign? after.head with
      | some chomping => .ok (chomping, increment, after.next)
      | none => .ok (.clip, increment, after)

/-- The cursor after the rest of a line on which only spaces and a comment may stand. -/
def skipLineRest (error : Error) (cursor : Cursor) : Except Error Cursor :=
  let cursor := cursor.skipSpaces.skipComment
  if isBreakOrEnd cursor.head then .ok cursor.skipBreak else .error error

/-- Spaces up to column `indent`, or all of them while that is not known. -/
def skipIndent (indent : Nat) : Nat → Cursor → Cursor
  | 0, cursor => cursor
  | fuel + 1, cursor =>
    if (indent = 0 ∨ cursor.column < indent) ∧ cursor.head = ' ' then
      skipIndent indent fuel cursor.next
    else cursor

/-- The blank lines before a line of a block scalar: their number, the deepest column that was
seen, and the cursor at the first character that belongs to the line. -/
def blankLines (indent : Nat) : Nat → Cursor → Nat → Nat → Except Error (Nat × Nat × Cursor)
  | 0, cursor, count, deepest => .ok (count, deepest, cursor)
  | fuel + 1, cursor, count, deepest =>
    let cursor := skipIndent indent (cursor.left + 1) cursor
    let deepest := max deepest cursor.column
    if (indent = 0 ∨ cursor.column < indent) ∧ cursor.head = '\t' then .error .tabIndentation
    else if isBreak cursor.head then blankLines indent fuel cursor.skipBreak (count + 1) deepest
    else .ok (count, deepest, cursor)

/-- The lines of a block scalar from the cursor on. `held` is the break that ends the line
before, if one has been read, `blank` counts the blank lines after it, and `spaced` says whether
that line starts with a space. The answer holds the text, and the breaks left at its end. -/
def readBlockLines (literal : Bool) (indent : Nat) :
    Nat → Cursor → Bool → Nat → Bool → Except Error (Text × Bool × Nat × Cursor)
  | 0, cursor, held, blank, _ => .ok ([], held, blank, cursor)
  | fuel + 1, cursor, held, blank, spaced =>
    if cursor.column ≠ indent ∨ cursor.isAtEnd then .ok ([], held, blank, cursor)
    else do
      let startsSpaced := isSpace cursor.head
      let before : Text :=
        if !literal && held && !spaced && !startsSpaced then if blank = 0 then [' '] else []
        else if held then ['\n'] else []
      let (line, cursor) := cursor.spanWhile (!isBreakOrEnd ·)
      let text := before ++ List.replicate blank '\n' ++ line
      if cursor.isAtEnd then .ok (text, false, 0, cursor)
      else
        let (blank, _, cursor) ← blankLines indent (cursor.left + 1) cursor.skipBreak 0 0
        let (more, held, blank, cursor) ←
          readBlockLines literal indent fuel cursor true blank startsSpaced
        .ok (text ++ more, held, blank, cursor)

/-- A block scalar whose indicator is at the cursor, inside a block of that indentation, and the
cursor after it. -/
def readBlock (literal : Bool) (outer : Int) (cursor : Cursor) :
    Except Error (Text × Cursor) := do
  let (chomping, increment, cursor) ← readHeader cursor.next
  let cursor ← skipLineRest .badBlockHeader cursor
  let given := if increment = 0 then 0 else (max outer 0).toNat + increment
  let (blank, deepest, cursor) ← blankLines given (cursor.left + 1) cursor 0 0
  let indent := if given = 0 then max (max deepest (outer + 1).toNat) 1 else given
  let (text, held, blank, cursor) ←
    readBlockLines literal indent (cursor.left + 1) cursor false blank false
  let ending : Text := if held then ['\n'] else []
  match chomping with
  | .strip => .ok (text, cursor)
  | .clip => .ok (text ++ ending, cursor)
  | .keep => .ok (text ++ ending ++ List.replicate blank '\n', cursor)

end Synopsis.Yaml
