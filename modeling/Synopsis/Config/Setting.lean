import Synopsis.Json.Value
import Synopsis.Yaml.Node

/-!
# Settings

What a configuration file says, whatever its format: a tree of scalars, lists and records. The
two formats differ in which scalars are texts and which stand for nothing, and only YAML refers
from one place to another.

- `ofJson`: only strings are texts, and only null is nothing.
- `ofNode`: every scalar is a text, and a plain `~` or `null` is also nothing.

What is asked for decides how far references are followed, so a setting may hold itself as long as
no reader needs all of it. A reading that follows too many references fails.
-/

namespace Synopsis

/-- Whether a scalar stands for something. -/
inductive Presence where
  | absent
  | present
  /-- It is tagged as nothing, but its text is something else. -/
  | mistagged
  deriving DecidableEq

/-- A tree of settings. -/
inductive Setting where
  /-- A scalar with its text, if it can be read as one, and the variant that its tag names. -/
  | scalar (text : Option Text) (presence : Presence) (variant : Option Text)
  | list (items : List Setting)
  /-- Members in order. Their names are settings too, because a name may be a reference. -/
  | record (members : List (Setting × Setting))
  /-- What stands in another place. -/
  | reference (place : Nat)

namespace Setting

/-- Why a setting does not have the form that is asked for. -/
inductive Error where
  | mismatch (expected : Text)
  | missing (field : Text)
  | repeated (field : Text)
  | unknownVariant
  | surplus
  | dangling
  | tooManyReferences
  deriving DecidableEq

/-- The message for the user. -/
def Error.message : Error → Text
  | mismatch expected => "invalid type, expected " ++ expected
  | missing field => "missing field " ++ field
  | repeated field => "duplicate field " ++ field
  | unknownVariant => "unknown variant"
  | surplus => "invalid length"
  | dangling => "unknown anchor"
  | tooManyReferences => "repetition limit exceeded"

/-! ## From the formats -/

/-- What a plain scalar with a tag stands for. -/
def presenceOf (text : Text) : Option Yaml.Tag → Presence
  | none => if text = "~" ∨ text = "null" then .absent else .present
  | some tag =>
    if tag = ⟨"!!", "null"⟩ then
      if text = "~" ∨ text = "null" then .absent else .mistagged
    else .present

mutual

/-- The setting of a YAML node. -/
def ofNode : Yaml.Node → Setting
  | .scalar text style tag =>
    scalar (some text) (if style = .quoted then .present else presenceOf text tag)
      (tag.bind fun tag => if tag.handle = ['!'] then some tag.suffix else none)
  | .sequence items => list (ofNodes items)
  | .mapping entries => record (ofEntries entries)
  | .reference anchor => reference anchor

/-- The settings of some nodes. -/
def ofNodes : List Yaml.Node → List Setting
  | [] => []
  | node :: nodes => ofNode node :: ofNodes nodes

/-- The members of the entries of a mapping. -/
def ofEntries : List (Yaml.Node × Yaml.Node) → List (Setting × Setting)
  | [] => []
  | (key, value) :: entries => (ofNode key, ofNode value) :: ofEntries entries

end

mutual

/-- The setting of a JSON value. -/
def ofJson : Json → Setting
  | .null => scalar none .absent none
  | .bool _ => scalar none .present none
  | .number _ => scalar none .present none
  | .string text => scalar (some text) .present none
  | .array items => list (ofItems items)
  | .object members => record (ofMembers members)

/-- The settings of some values. -/
def ofItems : List Json → List Setting
  | [] => []
  | item :: items => ofJson item :: ofItems items

/-- The settings of the members of an object. -/
def ofMembers : List (Text × Json) → List (Setting × Setting)
  | [] => []
  | (name, value) :: members =>
    (scalar (some name) .present none, ofJson value) :: ofMembers members

end

/-! ## Readings -/

/-- The settings that others refer to, by their places. -/
abbrev References := List (Nat × Setting)

/-- A reading of settings. Its state is the number of references that it may still follow. -/
abbrev Read := ReaderT References (StateT Nat (Except Error))

/-- The result of a reading that may follow that many references. -/
def Read.within {α : Type} (references : References) (limit : Nat) (reading : Read α) :
    Except Error α :=
  (reading.run references).run' limit

/-- The result of a reading of settings without references. -/
def Read.alone {α : Type} (reading : Read α) : Except Error α := reading.within [] 0

/-- The setting itself, or what it refers to. -/
def follow : Setting → Read Setting
  | reference place => do
    match ← get with
    | 0 => throw .tooManyReferences
    | limit + 1 =>
      set limit
      match (← read).lookup place with
      | some setting => return setting
      | none => throw .dangling
  | setting => return setting

/-- A text. -/
def text (setting : Setting) : Read Text := do
  match ← setting.follow with
  | scalar (some text) _ _ => return text
  | _ => throw (.mismatch "a string")

/-- One character. -/
def character (setting : Setting) : Read Char := do
  match ← setting.follow with
  | scalar (some [c]) _ _ => return c
  | _ => throw (.mismatch "a character")

/-- A setting that may stand for nothing. -/
def optional {α : Type} (read : Setting → Read α) (setting : Setting) : Read (Option α) := do
  match ← setting.follow with
  | scalar _ .absent _ => return none
  | scalar _ .mistagged _ => throw (.mismatch "null")
  | setting => some <$> read setting

/-- A list. -/
def listOf {α : Type} (read : Setting → Read α) (setting : Setting) : Read (List α) := do
  match ← setting.follow with
  | list items => items.mapM read
  | _ => throw (.mismatch "a sequence")

/-- The members with one of the fields' names. Each field may occur once, and every name must be
a text. -/
def knownMembers (fields : List Text) : List (Setting × Setting) → Read (List (Text × Setting))
  | [] => return []
  | (name, value) :: members => do
    let name ← name.text
    let known ← knownMembers fields members
    if fields.contains name then
      if known.any (·.1 = name) then throw (.repeated name) else return (name, value) :: known
    else return known

/-- The fields of a structure: by name from a record, by position from a list. -/
def fields (names : List Text) (setting : Setting) : Read (List (Text × Setting)) := do
  match ← setting.follow with
  | record members => knownMembers names members
  | list items => if names.length < items.length then throw .surplus else return names.zip items
  | _ => throw (.mismatch "a map")

/-- The value of a field, or its default if the field is not there. -/
def field {α : Type} (fields : List (Text × Setting)) (name : Text) (read : Setting → Read α)
    (default : α) : Read α :=
  match fields.lookup name with
  | some setting => read setting
  | none => return default

/-- The value of a field that must be there. -/
def required {α : Type} (fields : List (Text × Setting)) (name : Text)
    (read : Setting → Read α) : Read α :=
  match fields.lookup name with
  | some setting => read setting
  | none => throw (.missing name)

/-- The name of a variant and its value: a record of one member whose name is no reference, or a
scalar whose tag names the variant. -/
def variant (setting : Setting) : Read (Text × Setting) := do
  match ← setting.follow with
  | record [(scalar (some name) _ _, value)] => return (name, value)
  | scalar text presence (some name) => return (name, scalar text presence none)
  | _ => throw (.mismatch "a variant")

end Setting

end Synopsis
