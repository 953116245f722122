import Synopsis.Dictionary
import Synopsis.Number.Decimal

/-!
# JSON values

A number is an integer when it is written as one and fits into 64 bits; any other is real. The
members of an object keep the order and the repeats of the text that they come from, until the
value is brought into its canonical form.
-/

namespace Synopsis

/-- A number. -/
inductive Json.Number where
  | integer (value : Int)
  | real (negative : Bool) (magnitude : Binary64)
  deriving DecidableEq

/-- A JSON value. -/
inductive Json where
  | null
  | bool (value : Bool)
  | number (value : Json.Number)
  | string (value : Text)
  | array (items : List Json)
  | object (members : List (Text × Json))
  deriving Inhabited

namespace Json

/-- The members of an object in increasing order of their names. Of two members with one name
the later counts. -/
def sortedMembers (members : List (Text × Json)) : List (Text × Json) :=
  (Dictionary.ofEntries members).entries

mutual

/-- The value with the members of every object in increasing order, each name once. -/
def canonical : Json → Json
  | array items => array (canonicalItems items)
  | object members => object (sortedMembers (canonicalMembers members))
  | value => value

/-- The canonical form of some values. -/
def canonicalItems : List Json → List Json
  | [] => []
  | item :: items => canonical item :: canonicalItems items

/-- The canonical form of the values of some members. -/
def canonicalMembers : List (Text × Json) → List (Text × Json)
  | [] => []
  | (name, value) :: members => (name, canonical value) :: canonicalMembers members

end

/-- The member of that name. -/
def member? (name : Text) : Json → Option Json
  | object members => members.lookup name
  | _ => none

/-- The number for a count. -/
def ofNat (n : Nat) : Json := number (.integer n)

/-- The array of some texts. -/
def ofTexts (texts : List Text) : Json := array (texts.map string)

namespace Number

/-- The digits of an integer with its sign. -/
def integerText (value : Int) : Text :=
  (if value < 0 then ['-'] else []) ++ Text.ofNat value.natAbs

/-- The text of a number. -/
def text : Number → Text
  | integer value => integerText value
  | real negative magnitude => (if negative then ['-'] else []) ++ magnitude.text

end Number

end Json

end Synopsis
