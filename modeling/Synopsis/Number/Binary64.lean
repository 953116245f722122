/-!
# Binary numbers of 53 digits

The nonnegative finite numbers of the usual double-precision format, as a mantissa and an
exponent of two, and rounding to them. All arithmetic is exact on natural numbers.

- `roundHalfEven_mul`: a quotient without remainder is not rounded.
-/

namespace Synopsis

/-- The quotient rounded to the nearest natural number, a half to the even one. -/
def roundHalfEven (num den : Nat) : Nat :=
  let quotient := num / den
  let twice := 2 * (num % den)
  if twice < den then quotient
  else if den < twice then quotient + 1
  else if quotient % 2 = 0 then quotient else quotient + 1

theorem roundHalfEven_mul (n : Nat) {den : Nat} (h : 0 < den) :
    roundHalfEven (n * den) den = n := by
  simp [roundHalfEven, Nat.mul_div_cancel n h, Nat.mul_mod_left, h]

/-- The number `mantissa * 2 ^ exponent`. -/
structure Binary64 where
  mantissa : Nat
  exponent : Int
  deriving DecidableEq, Repr

namespace Binary64

/-- The least exponent. -/
def leastExponent : Int := -1074

/-- The greatest exponent of a finite number whose mantissa has all its digits. -/
def greatestExponent : Int := 971

/-- The number is the quotient of these two. -/
def fraction (number : Binary64) : Nat × Nat :=
  if number.exponent < 0 then (number.mantissa, Nat.pow 2 number.exponent.natAbs)
  else (number.mantissa * Nat.pow 2 number.exponent.natAbs, 1)

/-- Not so large that the format has no place for it. -/
def isFinite (number : Binary64) : Bool :=
  number.mantissa < Nat.pow 2 53 && number.exponent ≤ greatestExponent

/-- The quotient over `2 ^ exponent`, as a fraction. -/
def scaled (num den : Nat) (exponent : Int) : Nat × Nat :=
  if exponent < 0 then (num * Nat.pow 2 exponent.natAbs, den)
  else (num, den * Nat.pow 2 exponent.natAbs)

/-- The number nearest to a quotient, of two equally near ones that with the even mantissa. -/
def ofRatio (num den : Nat) : Binary64 :=
  if num = 0 then ⟨0, leastExponent⟩
  else
    let low : Int := num.log2 - den.log2 - 53
    let (n, d) := scaled num den low
    let exponent := max (if Nat.pow 2 53 ≤ n / d then low + 1 else low) leastExponent
    let (n, d) := scaled num den exponent
    let mantissa := roundHalfEven n d
    if mantissa = Nat.pow 2 53 then ⟨Nat.pow 2 52, exponent + 1⟩ else ⟨mantissa, exponent⟩

/-- The number nearest to a natural number. -/
def ofNat (n : Nat) : Binary64 := ofRatio n 1

/-- The product, rounded. -/
def mul (a b : Binary64) : Binary64 :=
  ofRatio (a.fraction.1 * b.fraction.1) (a.fraction.2 * b.fraction.2)

/-- The quotient, rounded. -/
def div (a b : Binary64) : Binary64 :=
  ofRatio (a.fraction.1 * b.fraction.2) (a.fraction.2 * b.fraction.1)

/-- The nearest natural number, a half to the even one. -/
def round (number : Binary64) : Nat := roundHalfEven number.fraction.1 number.fraction.2

end Binary64

end Synopsis
