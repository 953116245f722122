import Synopsis.Text.Basic

/-!
# Blank characters

The characters with the Unicode property `White_Space`, trimming and splitting at them.
-/

namespace Synopsis.Text

/-- The Unicode property `White_Space`. -/
def isBlank (c : Char) : Bool :=
  let n := c.toNat
  (9 ≤ n && n ≤ 13) || n == 0x20 || n == 0x85 || n == 0xA0 || n == 0x1680
    || (0x2000 ≤ n && n ≤ 0x200A) || n == 0x2028 || n == 0x2029 || n == 0x202F || n == 0x205F
    || n == 0x3000

/-- The text without the blanks that it starts with. -/
def trimStart (text : Text) : Text := text.dropWhile isBlank

/-- The text without the blanks that it ends with. -/
def trimEnd (text : Text) : Text := (text.reverse.dropWhile isBlank).reverse

/-- The text without the blanks at its ends. -/
def trim (text : Text) : Text := trimEnd (trimStart text)

/-- The word that the text starts with, empty before a blank, and the words after it. -/
def firstWord : Text → Text × List Text
  | [] => ([], [])
  | c :: text =>
    let (word, others) := firstWord text
    if isBlank c then ([], if word.isEmpty then others else word :: others)
    else (c :: word, others)

/-- The maximal runs of characters that are not blank, in order. -/
def words (text : Text) : List Text :=
  let (word, others) := firstWord text
  if word.isEmpty then others else word :: others

end Synopsis.Text
