import Synopsis.Json.Value

/-!
# Writing JSON

Two styles: everything on one line without spaces, or one item a line with two spaces for each
level. In a string only the quote, the backslash and the control characters are escaped.
-/

namespace Synopsis.Json

/-- How the parts of a value are laid out. -/
inductive Style where
  | compact
  | pretty

/-- What separates the items of a container that stands at that depth. -/
def Style.separator (depth : Nat) : Style → Text
  | compact => []
  | pretty => '\n' :: List.replicate (2 * depth) ' '

/-- What separates a member's name from its value. -/
def Style.colon : Style → Text
  | compact => ":"
  | pretty => ": "

/-- A control character as four hexadecimal digits. -/
def unicodeEscape (c : Char) : Text :=
  let digits := Nat.toDigits 16 c.toNat
  "\\u" ++ List.replicate (4 - digits.length) '0' ++ digits

/-- A character of a string, as it is written. -/
def escaped (c : Char) : Text :=
  if c = '"' then "\\\""
  else if c = '\\' then "\\\\"
  else if c = '\x08' then "\\b"
  else if c = '\x0c' then "\\f"
  else if c = '\n' then "\\n"
  else if c = '\r' then "\\r"
  else if c = '\t' then "\\t"
  else if c.toNat < 0x20 then unicodeEscape c
  else [c]

/-- A string between quotes. -/
def quoted (text : Text) : Text := '"' :: Text.substitute escaped text ++ ['"']

/-- The items of a container between its brackets, which stand at that depth. -/
def bracketed (style : Style) (depth : Nat) (first last : Char) (items : List Text) : Text :=
  if items.isEmpty then [first, last]
  else first :: [','].intercalate (items.map (style.separator (depth + 1) ++ ·))
    ++ style.separator depth ++ [last]

mutual

/-- The text of a value that stands at that depth. -/
def printAt (style : Style) (depth : Nat) : Json → Text
  | null => "null"
  | bool true => "true"
  | bool false => "false"
  | number value => value.text
  | string text => quoted text
  | array items => bracketed style depth '[' ']' (printItems style (depth + 1) items)
  | object members => bracketed style depth '\x7b' '\x7d' (printMembers style (depth + 1) members)

/-- The texts of the items of an array. -/
def printItems (style : Style) (depth : Nat) : List Json → List Text
  | [] => []
  | item :: items => printAt style depth item :: printItems style depth items

/-- The texts of the members of an object. -/
def printMembers (style : Style) (depth : Nat) : List (Text × Json) → List Text
  | [] => []
  | (name, value) :: members =>
    (quoted name ++ style.colon ++ printAt style depth value) :: printMembers style depth members

end

/-- The text of a value. -/
def print (style : Style) (value : Json) : Text := printAt style 0 value

end Synopsis.Json
