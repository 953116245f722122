import Synopsis.Json.Value

/-!
# Reading JSON

A value is read from the start of a text and returned with the text after it. The recursion is
bounded by the length of the text, since every step takes at least one character.

- `readCharacter?`: one character of a string, escaped or not.
- `read?`: a whole text, which must hold one value and nothing else but blanks.
-/

namespace Synopsis.Json

/-- The blanks between tokens. -/
def isBlank (c : Char) : Bool := c == ' ' || c == '\t' || c == '\n' || c == '\r'

/-- The text without the blanks that it starts with. -/
def skipBlanks (text : Text) : Text := text.dropWhile isBlank

/-! ## Strings -/

/-- The value of a hexadecimal digit. -/
def hexDigit? (c : Char) : Option Nat :=
  if c.isDigit then some (c.toNat - '0'.toNat)
  else if 'a' ≤ c ∧ c ≤ 'f' then some (c.toNat - 'a'.toNat + 10)
  else if 'A' ≤ c ∧ c ≤ 'F' then some (c.toNat - 'A'.toNat + 10)
  else none

/-- The value of four hexadecimal digits, and the text after them. -/
def hexUnit? : Text → Option (Nat × Text)
  | a :: b :: c :: d :: text => do
    let a ← hexDigit? a
    let b ← hexDigit? b
    let c ← hexDigit? c
    let d ← hexDigit? d
    some (((a * 16 + b) * 16 + c) * 16 + d, text)
  | _ => none

/-- The character of one code unit, or of two that form a pair. A lone half of a pair is none. -/
def unicodeCharacter? (text : Text) : Option (Char × Text) := do
  let (high, text) ← hexUnit? text
  if 0xD800 ≤ high ∧ high < 0xDC00 then
    let text ← Text.after? "\\u" text
    let (low, text) ← hexUnit? text
    if 0xDC00 ≤ low ∧ low < 0xE000 then
      some (Char.ofNat (0x10000 + (high - 0xD800) * 0x400 + (low - 0xDC00)), text)
    else none
  else if 0xDC00 ≤ high ∧ high < 0xE000 then none
  else some (Char.ofNat high, text)

/-- The character that a letter stands for after a backslash. -/
def simpleEscape? : Char → Option Char
  | '"' => some '"'
  | '\\' => some '\\'
  | '/' => some '/'
  | 'b' => some '\x08'
  | 'f' => some '\x0c'
  | 'n' => some '\n'
  | 'r' => some '\r'
  | 't' => some '\t'
  | _ => none

/-- One character of a string, and the text after it. -/
def readCharacter? : Text → Option (Char × Text)
  | '\\' :: 'u' :: text => unicodeCharacter? text
  | '\\' :: c :: text => (simpleEscape? c).map fun character => (character, text)
  | c :: text => if c = '\\' ∨ c.toNat < 0x20 then none else some (c, text)
  | [] => none

/-- The characters up to the closing quote, and the text after it. -/
def readString? : Nat → Text → Option (Text × Text)
  | 0, _ => none
  | _ + 1, '"' :: text => some ([], text)
  | fuel + 1, text => do
    let (c, text) ← readCharacter? text
    let (content, text) ← readString? fuel text
    some (c :: content, text)

/-! ## Numbers

A real number is read as a significand and a power of ten. Both are rounded, then their product
or quotient is. A significand of more than 64 bits is cut off after its last digit that fits.
-/

/-- Significand and exponent of ten, as far as they are read. -/
structure Scale where
  significand : Nat
  exponent : Int

/-- One more digit would no longer fit into 64 bits. -/
def overflows (significand digit : Nat) : Bool := Nat.pow 2 64 ≤ significand * 10 + digit

/-- The digits at the start of a text, and the text after them. -/
def digits (text : Text) : List Nat × Text :=
  ((text.takeWhile Char.isDigit).map fun c => c.toNat - '0'.toNat, text.dropWhile Char.isDigit)

/-- The digits before the point. Those that no longer fit count as zeros. -/
def Scale.integral (scale : Scale) : List Nat → Scale
  | [] => scale
  | digit :: rest =>
    if overflows scale.significand digit then
      ⟨scale.significand, scale.exponent + (rest.length + 1 : Nat)⟩
    else Scale.integral ⟨scale.significand * 10 + digit, 0⟩ rest

/-- The digits after the point. Those that no longer fit are left out. -/
def Scale.fractional (scale : Scale) : List Nat → Scale
  | [] => scale
  | digit :: rest =>
    if overflows scale.significand digit then scale
    else Scale.fractional ⟨scale.significand * 10 + digit, scale.exponent - 1⟩ rest

/-- Divides by `10 ^ 308` while the exponent is below the table of powers. -/
def lower (number : Binary64) (exponent : Int) : Nat → Binary64
  | 0 => number
  | fuel + 1 =>
    if number.mantissa = 0 then number
    else if exponent < -308 then
      lower (number.div (Binary64.ofNat (Nat.pow 10 308))) (exponent + 308) fuel
    else number.div (Binary64.ofNat (Nat.pow 10 exponent.natAbs))

/-- The number of a significand and an exponent, unless it is too large. -/
def Scale.toBinary? (scale : Scale) : Option Binary64 :=
  let number := Binary64.ofNat scale.significand
  if scale.significand = 0 then some number
  else if scale.exponent < 0 then some (lower number scale.exponent 8)
  else if 308 < scale.exponent then none
  else
    let product := number.mul (Binary64.ofNat (Nat.pow 10 scale.exponent.natAbs))
    if product.isFinite then some product else none

/-- The exponent after an `e`, and the text after it. -/
def readExponent? (text : Text) : Option (Int × Text) :=
  let (negative, text) := match text with
    | '-' :: text => (true, text)
    | '+' :: text => (false, text)
    | text => (false, text)
  let (ds, text) := digits text
  if ds.isEmpty then none
  else
    let n : Nat := ds.foldl (fun n d => n * 10 + d) 0
    some (if negative then -(n : Int) else n, text)

/-- The digits before the point: a zero alone, or digits that do not start with one. -/
def readIntegral? (text : Text) : Option (List Nat × Text) :=
  match digits text with
  | ([], _) => none
  | (0 :: _ :: _, _) => none
  | (ds, text) => some (ds, text)

/-- The digits after the point, if there is a point. -/
def readFraction? : Text → Option (List Nat × Text)
  | '.' :: text =>
    match digits text with
    | ([], _) => none
    | (ds, text) => some (ds, text)
  | text => some ([], text)

/-- The exponent, if there is one. -/
def readScale? : Text → Option (Option Int × Text)
  | c :: text =>
    if c = 'e' ∨ c = 'E' then (readExponent? text).map fun (n, text) => (some n, text)
    else some (none, c :: text)
  | [] => some (none, [])

/-- The number of an integer literal: an integer if it fits into 64 bits, and real otherwise. -/
def integerNumber? (negative : Bool) (ds : List Nat) : Option Number :=
  let n : Nat := ds.foldl (fun n d => n * 10 + d) 0
  if negative = false ∧ n < Nat.pow 2 64 then some (.integer n)
  else if negative = true ∧ 0 < n ∧ n ≤ Nat.pow 2 63 then some (.integer (-n))
  else ((Scale.mk 0 0).integral ds).toBinary?.map (.real negative)

/-- A number, and the text after it. -/
def readNumber? (text : Text) : Option (Number × Text) := do
  let (negative, text) := match text with
    | '-' :: text => (true, text)
    | text => (false, text)
  let (whole, text) ← readIntegral? text
  let isReal := text.head?.any fun c => c == '.' || c == 'e' || c == 'E'
  let (fraction, text) ← readFraction? text
  let (exponent, text) ← readScale? text
  if isReal then
    let scale := ((Scale.mk 0 0).integral whole).fractional fraction
    let number ← Scale.toBinary? ⟨scale.significand, scale.exponent + exponent.getD 0⟩
    some (.real negative number, text)
  else
    let number ← integerNumber? negative whole
    some (number, text)

/-! ## Values -/

/-- The names of the three constants. -/
def readConstant? (text : Text) : Option (Json × Text) :=
  match Text.after? "null" text with
  | some rest => some (null, rest)
  | none =>
    match Text.after? "true" text with
    | some rest => some (bool true, rest)
    | none => (Text.after? "false" text).map fun rest => (bool false, rest)

mutual

/-- A value at the start of a text, and the text after it. -/
def readValue? : Nat → Text → Option (Json × Text)
  | 0, _ => none
  | fuel + 1, text =>
    match skipBlanks text with
    | [] => none
    | '"' :: text =>
      (readString? (text.length + 1) text).map fun (content, text) => (string content, text)
    | '[' :: text =>
      match skipBlanks text with
      | ']' :: text => some (array [], text)
      | text => (readItems? fuel text).map fun (items, text) => (array items, text)
    | '\x7b' :: text =>
      match skipBlanks text with
      | '\x7d' :: text => some (object [], text)
      | text => (readMembers? fuel text).map fun (members, text) => (object members, text)
    | c :: text =>
      if c = '-' ∨ c.isDigit then
        (readNumber? (c :: text)).map fun (value, text) => (number value, text)
      else readConstant? (c :: text)

/-- The items of an array up to its closing bracket, and the text after it. -/
def readItems? : Nat → Text → Option (List Json × Text)
  | 0, _ => none
  | fuel + 1, text => do
    let (item, text) ← readValue? fuel text
    match skipBlanks text with
    | ',' :: text =>
      let (items, text) ← readItems? fuel text
      some (item :: items, text)
    | ']' :: text => some ([item], text)
    | _ => none

/-- The members of an object up to its closing brace, and the text after it. -/
def readMembers? : Nat → Text → Option (List (Text × Json) × Text)
  | 0, _ => none
  | fuel + 1, text =>
    match skipBlanks text with
    | '"' :: text => do
      let (name, text) ← readString? (text.length + 1) text
      match skipBlanks text with
      | ':' :: text =>
        let (value, text) ← readValue? fuel text
        match skipBlanks text with
        | ',' :: text =>
          let (members, text) ← readMembers? fuel text
          some ((name, value) :: members, text)
        | '\x7d' :: text => some ([(name, value)], text)
        | _ => none
      | _ => none
    | _ => none

end

/-- The value that a text holds, if it holds one and nothing else. -/
def read? (text : Text) : Option Json :=
  match readValue? (2 * text.length + 2) text with
  | some (value, rest) => if (skipBlanks rest).isEmpty then some value else none
  | none => none

end Synopsis.Json
