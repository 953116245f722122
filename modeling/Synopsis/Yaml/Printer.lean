import Synopsis.Json.Value
import Synopsis.Yaml.Node

/-!
# Writing YAML

Containers are written as blocks, with two spaces for each level, and a list stands one level
deeper than its key. A text is written plain unless a reader could take it for something else.
-/

namespace Synopsis.Yaml

/-! ## Scalars -/

/-- A character that cannot start a plain scalar. -/
def isLeadingIndicator (c : Char) : Bool := "&*?|-<>=!%@.".toList.contains c

/-- A character that cannot stand in a plain scalar. -/
def needsQuotesAnywhere (c : Char) : Bool :=
  ":\x7b\x7d[],#`\"'\\".toList.contains c || c.toNat ≤ 6 || c == '\t' || c == '\n' || c == '\r'
    || (0x0e ≤ c.toNat && c.toNat ≤ 0x1a) || (0x1c ≤ c.toNat && c.toNat ≤ 0x1f)

/-- Words that readers take for a truth value or for nothing. -/
def reservedWords : List Text :=
  ["yes", "Yes", "YES", "no", "No", "NO", "true", "True", "TRUE", "false", "False", "FALSE",
   "on", "On", "ON", "off", "Off", "OFF", "null", "Null", "NULL", "~"]

/-- The text without one sign at its start. -/
def dropSign : Text → Text
  | '+' :: text => text
  | '-' :: text => text
  | text => text

/-- Digits with an exponent: nothing, or an `e`, a sign if there is one, and digits. -/
def isExponent : Text → Bool
  | [] => true
  | c :: text =>
    (c == 'e' || c == 'E') && !(dropSign text).isEmpty && (dropSign text).all Char.isDigit

/-- Decimal digits, with or without a point, and an exponent if there is one. -/
def isDecimal (text : Text) : Bool :=
  let whole := text.takeWhile Char.isDigit
  match text.dropWhile Char.isDigit with
  | '.' :: rest =>
    let fraction := rest.takeWhile Char.isDigit
    (!whole.isEmpty || !fraction.isEmpty) && isExponent (rest.dropWhile Char.isDigit)
  | rest => !whole.isEmpty && isExponent rest

/-- Whether a text reads as a number, infinity and the undefined number included. -/
def isNumeric (text : Text) : Bool :=
  let unsigned := dropSign text
  isDecimal unsigned
    || (["inf", "infinity", "nan"] : List Text).contains (unsigned.map Char.toLower)

/-- Whether a text must be quoted to be read back as the same text. -/
def needsQuotes (text : Text) : Bool :=
  text.isEmpty || text.head? == some ' ' || text.getLast? == some ' '
    || text.head?.any isLeadingIndicator || text.startsWith "0x"
    || text.any needsQuotesAnywhere || reservedWords.contains text || isNumeric text

/-- The scalar of a text, quoted if it must be. -/
def Node.ofText (text : Text) : Node :=
  .scalar text (if needsQuotes text then .quoted else .plain) none

/-- A character between double quotes, as it is written. -/
def escaped (c : Char) : Text :=
  if c = '"' then "\\\""
  else if c = '\\' then "\\\\"
  else if c = '\x08' then "\\b"
  else if c = '\t' then "\\t"
  else if c = '\n' then "\\n"
  else if c = '\x0c' then "\\f"
  else if c = '\r' then "\\r"
  else if c.toNat < 0x20 ∨ c.toNat = 0x7f then
    let digits := Nat.toDigits 16 c.toNat
    "\\u" ++ List.replicate (4 - digits.length) '0' ++ digits
  else [c]

/-- The text of a scalar. -/
def scalarText (text : Text) : Style → Text
  | .plain => text
  | .quoted => '"' :: Text.substitute escaped text ++ ['"']

/-! ## Blocks -/

/-- The start of a line at that depth. -/
def newLine (depth : Nat) : Text := '\n' :: List.replicate (2 * depth) ' '

mutual

/-- The text of a node that stands at that depth and whose first line is already indented. -/
def printAt (depth : Nat) : Node → Text
  | .scalar text style _ => scalarText text style
  | .sequence [] => "[]"
  | .sequence (item :: items) => (newLine depth).intercalate (printItems depth (item :: items))
  | .mapping [] => "\x7b\x7d"
  | .mapping (entry :: entries) =>
    (newLine depth).intercalate (printEntries depth (entry :: entries))
  | .reference anchor => '*' :: Text.ofNat anchor

/-- The items of a sequence at that depth, each behind its dash. -/
def printItems (depth : Nat) : List Node → List Text
  | [] => []
  | item :: items => ("- " ++ printAt (depth + 1) item) :: printItems depth items

/-- The entries of a mapping at that depth. A container that is not empty starts on a line of its
own, one level deeper. A key that is such a container is announced by a question mark. -/
def printEntries (depth : Nat) : List (Node × Node) → List Text
  | [] => []
  | (key, value) :: entries =>
    (if key.isBlock then
      "? " ++ printAt (depth + 1) key ++ newLine depth ++ ": " ++ printAt (depth + 1) value
    else
      printAt (depth + 1) key ++ ':' ::
        ((if value.isBlock then newLine (depth + 1) else [' ']) ++ printAt (depth + 1) value))
      :: printEntries depth entries

end

/-- The document of a node. -/
def print (node : Node) : Text := "---\n" ++ printAt 0 node ++ ['\n']

end Synopsis.Yaml
