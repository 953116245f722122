import Synopsis.Number.Binary64
import Synopsis.Text.Basic

/-!
# Decimal text of binary numbers

A number is written with the fewest digits that read back as it, and with the nearest of these:
positionally from `1e-5` on and below `1e16`, and otherwise with a signed exponent.
-/

namespace Synopsis

/-- The number `digits * 10 ^ exponent`. -/
structure Decimal where
  digits : Nat
  exponent : Int
  deriving DecidableEq, Repr

namespace Decimal

/-- The number is the quotient of these two. -/
def fraction (decimal : Decimal) : Nat × Nat :=
  if decimal.exponent < 0 then (decimal.digits, Nat.pow 10 decimal.exponent.natAbs)
  else (decimal.digits * Nat.pow 10 decimal.exponent.natAbs, 1)

/-- The binary number nearest to a decimal one. -/
def toBinary (decimal : Decimal) : Binary64 :=
  Binary64.ofRatio decimal.fraction.1 decimal.fraction.2

/-- The number of zeros after the point before the first digit of a quotient below one. -/
def leadingZeros (num den : Nat) : Nat → Nat
  | 0 => 0
  | fuel + 1 => if den ≤ num * 10 then 0 else leadingZeros (num * 10) den fuel + 1

/-- The position of the first digit of a quotient: one if it is the digit of the units. -/
def magnitude (num den : Nat) : Int :=
  if den ≤ num then (Text.ofNat (num / den)).length else -(leadingZeros num den 400)

/-- The two decimals next to a number on the grid of `10 ^ exponent`, the nearer one first. -/
def neighbours (number : Binary64) (exponent : Int) : List Decimal :=
  let (num, den) := number.fraction
  let (n, d) := if exponent < 0 then (num * Nat.pow 10 exponent.natAbs, den)
    else (num, den * Nat.pow 10 exponent.natAbs)
  let low := n / d
  if roundHalfEven n d = low then [⟨low, exponent⟩, ⟨low + 1, exponent⟩]
  else [⟨low + 1, exponent⟩, ⟨low, exponent⟩]

/-- The first decimal with at least `17 - fuel` digits that reads back as the number. -/
def shortestFrom (number : Binary64) (top : Int) : Nat → Decimal
  | 0 => ⟨number.fraction.1 / number.fraction.2, 0⟩
  | fuel + 1 =>
    match (neighbours number (top - (17 - fuel : Nat))).find? (·.toBinary = number) with
    | some decimal => decimal
    | none => shortestFrom number top fuel

/-- The decimal without zeros at its end. -/
def strip (decimal : Decimal) : Nat → Decimal
  | 0 => decimal
  | fuel + 1 =>
    if decimal.digits % 10 = 0 ∧ decimal.digits ≠ 0 then
      strip ⟨decimal.digits / 10, decimal.exponent + 1⟩ fuel
    else decimal

/-- The decimal of the fewest digits that reads back as the number. -/
def shortest (number : Binary64) : Decimal :=
  if number.mantissa = 0 then ⟨0, 0⟩
  else (shortestFrom number (magnitude number.fraction.1 number.fraction.2) 17).strip 20

/-! ## Layout -/

/-- Whether a number is written positionally, by the number of its digits in front of the point. -/
def isPositional (point : Int) : Bool := -4 ≤ point && point ≤ 16

/-- The text of a decimal. There is always a digit after the point, unless an exponent follows. -/
def layOut (decimal : Decimal) : Text :=
  let digits := Text.ofNat decimal.digits
  let zeros := fun (n : Int) => List.replicate n.toNat '0'
  let point : Int := digits.length + decimal.exponent
  if decimal.digits = 0 then "0.0"
  else if isPositional point then
    if 0 ≤ decimal.exponent then digits ++ zeros decimal.exponent ++ ".0"
    else if 0 < point then digits.take point.toNat ++ '.' :: digits.drop point.toNat
    else "0." ++ zeros (-point) ++ digits
  else
    let exponent := point - 1
    digits.take 1 ++ (if digits.length = 1 then [] else '.' :: digits.drop 1) ++ 'e' ::
      (if exponent < 0 then '-' else '+') :: Text.ofNat exponent.natAbs

end Decimal

/-- The shortest text of a binary number. -/
def Binary64.text (number : Binary64) : Text := (Decimal.shortest number).layOut

end Synopsis
