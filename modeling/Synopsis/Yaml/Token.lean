import Synopsis.Yaml.Scalar

/-!
# Tokens

A document as a list of tokens. Indentation shows as tokens that start and end blocks, and a key
that is known as one only by the colon behind it has its mark put in front of it afterwards.
-/

namespace Synopsis.Yaml

/-- A token of a document. -/
inductive Token where
  | directive
  | documentStart
  | documentEnd
  | streamEnd
  | sequenceStart
  | mappingStart
  | blockEnd
  | flowSequenceStart
  | flowSequenceEnd
  | flowMappingStart
  | flowMappingEnd
  | flowEntry
  | entry
  | key
  | value
  | alias (name : Text)
  | anchor (name : Text)
  | tag (tag : Tag)
  | scalar (text : Text) (style : Style)
  deriving DecidableEq

/-- A token that a colon may turn into a key. -/
structure PendingKey where
  /-- It must turn out a key, because it stands where the block's keys stand. -/
  required : Bool
  /-- The number of tokens before it. -/
  position : Nat
  place : Cursor

/-- What is known while a document is cut into tokens. -/
structure Scanner where
  cursor : Cursor
  /-- The tokens so far, the latest first. -/
  tokens : List Token := []
  count : Nat := 0
  /-- A key may start here. -/
  keyAllowed : Bool := true
  /-- The pending key of each open flow collection, the innermost first. -/
  pending : List (Option PendingKey) := [none]
  /-- The column of the innermost block, and of those around it. -/
  indent : Int := -1
  outer : List Int := []
  flowDepth : Nat := 0
  /-- Right behind this place a colon needs no gap after it. -/
  adjacent : Nat := 0

namespace Scanner

/-- Adds a token. -/
def push (scanner : Scanner) (token : Token) : Scanner :=
  { scanner with tokens := token :: scanner.tokens, count := scanner.count + 1 }

/-- Puts a token in front of all but the first `position` tokens. -/
def insertAt (scanner : Scanner) (position : Nat) (token : Token) : Scanner :=
  let later := scanner.count - position
  { scanner with
    tokens := scanner.tokens.take later ++ token :: scanner.tokens.drop later
    count := scanner.count + 1 }

/-- Moves `n` characters on. -/
def skip (scanner : Scanner) (n : Nat) : Scanner :=
  { scanner with cursor := scanner.cursor.skip n }

/-- Says whether a key may start next. -/
def allowKey (scanner : Scanner) (allowed : Bool) : Scanner :=
  { scanner with keyAllowed := allowed }

/-! ## Indentation -/

/-- Ends the innermost of the blocks at some columns while it is indented more than `column`. -/
def close (column : Int) : Int → List Int → Scanner → Scanner
  | indent, [], scanner => { scanner with indent := indent, outer := [] }
  | indent, next :: outer, scanner =>
    if column < indent then close column next outer (scanner.push .blockEnd)
    else { scanner with indent := indent, outer := next :: outer }

/-- Ends the blocks that are indented more than `column`. -/
def unroll (scanner : Scanner) (column : Int) : Scanner :=
  if 0 < scanner.flowDepth then scanner
  else scanner.close column scanner.indent scanner.outer

/-- Starts a block at `column` if that is further right than the innermost one. The token goes
in front of all but the first `position` tokens. -/
def roll (scanner : Scanner) (column position : Nat) (token : Token) : Scanner :=
  if 0 < scanner.flowDepth ∨ (column : Int) ≤ scanner.indent then scanner
  else
    { scanner.insertAt position token with
      indent := column, outer := scanner.indent :: scanner.outer }

/-! ## Pending keys -/

/-- Gives up the innermost pending key. -/
def dropKey (scanner : Scanner) : Except Error Scanner :=
  match scanner.pending with
  | some key :: others =>
    if key.required then .error .lostKey else .ok { scanner with pending := none :: others }
  | _ => .ok scanner

/-- Makes the token that starts here a pending key, if a key may start here. -/
def saveKey (scanner : Scanner) : Except Error Scanner :=
  if scanner.keyAllowed then do
    let scanner ← scanner.dropKey
    let key : PendingKey :=
      { required := 0 < scanner.flowDepth && scanner.indent == scanner.cursor.column
        position := scanner.count
        place := scanner.cursor }
    .ok { scanner with pending := some key :: scanner.pending.drop 1 }
  else .ok scanner

/-- A pending key is out of reach on a later line, and after 1024 characters. -/
def isStale (cursor : Cursor) (key : PendingKey) : Bool :=
  key.place.line < cursor.line || key.place.index + 1024 < cursor.index

/-- Gives up the pending keys that are out of reach. -/
def dropStaleKeys (scanner : Scanner) : Except Error Scanner :=
  let stale := isStale scanner.cursor
  if scanner.pending.any fun key => key.any fun key => stale key && key.required then
    .error .lostKey
  else .ok { scanner with pending := scanner.pending.map (·.filter (!stale ·)) }

/-! ## Between tokens -/

/-- Moves to the next token. In block context a key may start on a new line. -/
def skipGap : Nat → Scanner → Scanner
  | 0, scanner => scanner
  | fuel + 1, scanner =>
    let c := scanner.cursor.head
    if c == ' ' || (c == '\t' && (0 < scanner.flowDepth || !scanner.keyAllowed)) then
      skipGap fuel (scanner.skip 1)
    else if isBreak c then
      skipGap fuel { scanner with
        cursor := scanner.cursor.skipBreak
        keyAllowed := scanner.keyAllowed || scanner.flowDepth == 0 }
    else if c == '#' then skipGap fuel { scanner with cursor := scanner.cursor.skipComment }
    else scanner

/-! ## Directives, anchors and tags -/

/-- A version number of one to nine digits. -/
def skipNumber (cursor : Cursor) : Except Error Cursor :=
  let (digits, cursor) := cursor.spanWhile Char.isDigit
  if digits.isEmpty || 9 < digits.length then .error .badDirective else .ok cursor

/-- The characters of a tag besides those of names. -/
def isTagChar (c : Char) : Bool := isNameChar c || ";/?:@&=+$,.!~*'()[]".toList.contains c

/-- One octet behind a percent sign. -/
def tagOctet? (cursor : Cursor) : Option Nat :=
  if cursor.head == '%' then hexNumber? cursor.next 2 else none

/-- The number of octets that the first one announces. -/
def octetCount? (octet : Nat) : Option Nat :=
  if octet < 0x80 then some 1
  else if octet / 0x20 = 6 then some 2
  else if octet / 0x10 = 14 then some 3
  else if octet / 0x08 = 30 then some 4
  else none

/-- The value of octets that continue a character. -/
def moreOctets? (code : Nat) : Nat → Cursor → Option Nat
  | 0, _ => some code
  | count + 1, cursor => do
    let octet ← tagOctet? cursor
    if octet / 0x40 = 2 then moreOctets? (code * 0x100 + octet) count (cursor.skip 3) else none

/-- The character that is written as octets, and the cursor after them. -/
def tagEscape? (cursor : Cursor) : Option (Char × Cursor) := do
  let octet ← tagOctet? cursor
  let count ← octetCount? octet
  let code ← moreOctets? octet (count - 1) (cursor.skip 3)
  let c ← charOfNat? code
  some (c, cursor.skip (3 * count))

/-- The longest text of tag characters, and the cursor after it. -/
def readTagText : Nat → Cursor → Except Error (Text × Cursor)
  | 0, cursor => .ok ([], cursor)
  | fuel + 1, cursor =>
    if cursor.head == '%' then
      match tagEscape? cursor with
      | some (c, cursor) => do
        let (text, cursor) ← readTagText fuel cursor
        .ok (c :: text, cursor)
      | none => .error .badTag
    else if isTagChar cursor.head then do
      let (text, after) ← readTagText fuel cursor.next
      .ok (cursor.head :: text, after)
    else .ok ([], cursor)

/-- A handle: an exclamation mark, name characters, and the second mark if there is one. -/
def readHandle (cursor : Cursor) : Except Error (Text × Cursor) :=
  if cursor.head == '!' then
    let (name, cursor) := cursor.next.spanWhile isNameChar
    if cursor.head == '!' then .ok ('!' :: name ++ ['!'], cursor.next)
    else .ok ('!' :: name, cursor)
  else .error .badTag

/-- A tag, and the cursor after it. A gap must follow. -/
def readTag (cursor : Cursor) : Except Error (Tag × Cursor) := do
  let fuel := cursor.left + 1
  let (tag, cursor) ←
    if cursor.ahead 1 == '<' then do
      let (text, cursor) ← readTagText fuel (cursor.skip 2)
      if text.isEmpty || cursor.head != '>' then .error .badTag
      else .ok ((⟨[], text⟩ : Tag), cursor.next)
    else do
      let (handle, cursor) ← readHandle cursor
      let (text, cursor) ← readTagText fuel cursor
      if 2 ≤ handle.length && handle.getLast? == some '!' then
        if text.isEmpty then .error .badTag else .ok ((⟨handle, text⟩ : Tag), cursor)
      else
        let suffix := handle.drop 1 ++ text
        .ok (if suffix.isEmpty then ⟨[], ['!']⟩ else ⟨['!'], suffix⟩, cursor)
  if isGap cursor.head then .ok (tag, cursor) else .error .badTag

/-- The value of a tag directive: a handle with both marks, or one mark alone, and a text. -/
def skipTagDirective (cursor : Cursor) : Except Error Cursor := do
  let (handle, cursor) ← readHandle cursor.skipSpaces
  if handle != ['!'] && !(2 ≤ handle.length && handle.getLast? == some '!') then
    .error .badDirective
  else
    let (text, cursor) ← readTagText (cursor.left + 1) cursor.skipSpaces
    if text.isEmpty || !isGap cursor.head then .error .badDirective else .ok cursor

/-- The cursor after a directive. An unknown one is passed over. -/
def skipDirective (cursor : Cursor) : Except Error Cursor := do
  let (name, cursor) := cursor.next.spanWhile isNameChar
  if name.isEmpty || !isGap cursor.head then .error .badDirective
  else
    let cursor ←
      if name = "YAML" then do
        let cursor ← skipNumber cursor.skipSpaces
        if cursor.head == '.' then skipNumber cursor.next else .error .badDirective
      else if name = "TAG" then skipTagDirective cursor
      else .ok (cursor.spanWhile (!isBreakOrEnd ·)).2
    skipLineRest .badDirective cursor

/-- The name of an anchor or alias, and the cursor after it. -/
def readAnchor (cursor : Cursor) : Except Error (Text × Cursor) :=
  let (name, cursor) := cursor.next.spanWhile isNameChar
  if name.isEmpty || !(isGap cursor.head || "?:,]\x7d%@`".toList.contains cursor.head) then
    .error .badAnchor
  else .ok (name, cursor)

/-! ## One token -/

/-- The end of the document. -/
def fetchEnd (scanner : Scanner) : Except Error Scanner := do
  let scanner ← (scanner.unroll (-1)).dropKey
  .ok ((scanner.allowKey false).push .streamEnd)

/-- A directive, or a mark that starts or ends a document. -/
def fetchMarker (scanner : Scanner) (token : Token) (cursor : Except Error Cursor) :
    Except Error Scanner := do
  let scanner ← (scanner.unroll (-1)).dropKey
  let cursor ← cursor
  .ok { (scanner.allowKey false).push token with cursor := cursor }

/-- The start of a flow collection. -/
def fetchFlowStart (scanner : Scanner) (token : Token) : Except Error Scanner := do
  let scanner ← scanner.saveKey
  if scanner.flowDepth = 255 then .error .tooDeep
  else
    .ok { ((scanner.allowKey true).push token).skip 1 with
      pending := none :: scanner.pending, flowDepth := scanner.flowDepth + 1 }

/-- The end of a flow collection. -/
def fetchFlowEnd (scanner : Scanner) (token : Token) : Except Error Scanner := do
  let scanner ← scanner.dropKey
  let scanner := ((scanner.allowKey false).push token).skip 1
  .ok (if 0 < scanner.flowDepth then
    { scanner with pending := scanner.pending.drop 1, flowDepth := scanner.flowDepth - 1 }
  else scanner)

/-- The comma between the items of a flow collection. -/
def fetchFlowEntry (scanner : Scanner) : Except Error Scanner := do
  let scanner ← scanner.dropKey
  .ok (((scanner.allowKey true).push .flowEntry).skip 1)

/-- The dash in front of an item of a block sequence. -/
def fetchEntry (scanner : Scanner) : Except Error Scanner :=
  if 0 < scanner.flowDepth ∨ ¬ scanner.keyAllowed then .error .misplacedIndicator
  else do
    let scanner ← (scanner.roll scanner.cursor.column scanner.count .sequenceStart).dropKey
    .ok (((scanner.allowKey true).push .entry).skip 1)

/-- The question mark in front of a key. -/
def fetchKey (scanner : Scanner) : Except Error Scanner :=
  let inBlock := scanner.flowDepth == 0
  if inBlock ∧ ¬ scanner.keyAllowed then .error .misplacedIndicator
  else do
    let scanner ← (scanner.roll scanner.cursor.column scanner.count .mappingStart).dropKey
    .ok (((scanner.allowKey inBlock).push .key).skip 1)

/-- The colon behind a key. A pending key becomes one, and may start a mapping. -/
def fetchValue (scanner : Scanner) : Except Error Scanner :=
  let inBlock := scanner.flowDepth == 0
  match scanner.pending with
  | some key :: others =>
    let scanner := (scanner.insertAt key.position .key).roll key.place.column key.position
      .mappingStart
    .ok ((({ scanner with pending := none :: others }.allowKey false).push .value).skip 1)
  | _ =>
    if inBlock ∧ ¬ scanner.keyAllowed then .error .misplacedIndicator
    else
      let scanner := scanner.roll scanner.cursor.column scanner.count .mappingStart
      .ok (((scanner.allowKey inBlock).push .value).skip 1)

/-- An anchor, an alias or a tag. -/
def fetchProperty (scanner : Scanner) : Except Error Scanner := do
  let scanner ← scanner.saveKey
  let scanner := scanner.allowKey false
  if scanner.cursor.head == '!' then
    let (tag, cursor) ← readTag scanner.cursor
    .ok { scanner.push (.tag tag) with cursor := cursor }
  else
    let (name, cursor) ← readAnchor scanner.cursor
    .ok { scanner.push (if scanner.cursor.head == '*' then .alias name else .anchor name) with
      cursor := cursor }

/-- A block scalar. -/
def fetchBlock (scanner : Scanner) : Except Error Scanner := do
  let scanner ← scanner.saveKey
  let (text, cursor) ← readBlock (scanner.cursor.head == '|') scanner.indent scanner.cursor
  .ok { (scanner.allowKey true).push (.scalar text .quoted) with cursor := cursor }

/-- A quoted scalar. -/
def fetchQuoted (scanner : Scanner) : Except Error Scanner := do
  let scanner ← scanner.saveKey
  let (text, cursor) ← readQuoted (scanner.cursor.head == '\'') scanner.cursor
  .ok { (scanner.allowKey false).push (.scalar text .quoted) with
    cursor := cursor, adjacent := cursor.index }

/-- A plain scalar. A key may start after it if a line break follows it. -/
def fetchPlain (scanner : Scanner) : Except Error Scanner := do
  let scanner ← scanner.saveKey
  let (text, broken, cursor) ←
    readPlain (0 < scanner.flowDepth) (scanner.indent + 1) scanner.cursor
  .ok { (scanner.allowKey broken).push (.scalar text .plain) with cursor := cursor }

/-- The token at the cursor. -/
def fetchHere (scanner : Scanner) : Except Error Scanner :=
  let cursor := scanner.cursor
  let inFlow := 0 < scanner.flowDepth
  let next := cursor.ahead 1
  let c := cursor.head
  if cursor.isAtEnd then scanner.fetchEnd
  else if cursor.column = 0 ∧ c = '%' then scanner.fetchMarker .directive (skipDirective cursor)
  else if cursor.isMarker '-' then scanner.fetchMarker .documentStart (.ok (cursor.skip 3))
  else if cursor.isMarker '.' then scanner.fetchMarker .documentEnd (.ok (cursor.skip 3))
  else if c = '[' then scanner.fetchFlowStart .flowSequenceStart
  else if c = '\x7b' then scanner.fetchFlowStart .flowMappingStart
  else if c = ']' then scanner.fetchFlowEnd .flowSequenceEnd
  else if c = '\x7d' then scanner.fetchFlowEnd .flowMappingEnd
  else if c = ',' then scanner.fetchFlowEntry
  else if c = '-' ∧ isGap next then scanner.fetchEntry
  else if c = '?' ∧ isGap next then scanner.fetchKey
  else if c = ':' ∧ (isGap next ∨
      (inFlow ∧ (isFlowIndicator next ∨ cursor.index = scanner.adjacent))) then scanner.fetchValue
  else if c = '*' ∨ c = '&' ∨ c = '!' then scanner.fetchProperty
  else if (c = '|' ∨ c = '>') ∧ ¬ inFlow then scanner.fetchBlock
  else if c = '\'' ∨ c = '"' then scanner.fetchQuoted
  else if c = '%' ∨ c = '@' ∨ c = '\x60' then .error .unexpectedCharacter
  else scanner.fetchPlain

/-- The next token. -/
def fetch (scanner : Scanner) : Except Error Scanner := do
  let scanner := scanner.skipGap (scanner.cursor.left + 1)
  let scanner ← scanner.dropStaleKeys
  (scanner.unroll scanner.cursor.column).fetchHere

/-- The tokens from here to the end of the document. -/
def run : Nat → Scanner → Except Error (List Token)
  | 0, _ => .error .unexpectedCharacter
  | fuel + 1, scanner => do
    let scanner ← scanner.fetch
    if scanner.tokens.head? = some .streamEnd then .ok scanner.tokens.reverse
    else run fuel scanner

end Scanner

/-- The tokens of a text. -/
def tokens (text : Text) : Except Error (List Token) :=
  Scanner.run (text.length + 2) { cursor := .start text }

end Synopsis.Yaml
