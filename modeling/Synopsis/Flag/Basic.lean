import Synopsis.Text.Basic

/-!
# Flags

A flag is short (`-f`) or long (`--force`). It is stored as its kind and its name; the literal
is computed. Reading a literal either gives the flag whose literal it is, or one of three errors.

- `parse_literal`: the literal of a flag reads as that flag.
- `literal_of_parse`: a literal that reads as a flag is the literal of that flag.
-/

namespace Synopsis

/-- The two shapes of a flag, short before long. -/
inductive FlagKind where
  | short
  | long
  deriving DecidableEq, Repr

namespace FlagKind

/-- The dashes in front of the name. -/
def dashes : FlagKind → Text
  | short => "-"
  | long => "--"

/-- A character of a long name: a lowercase letter or a hyphen. -/
def isLongChar (c : Char) : Bool := c.isLower || c == '-'

/-- A short name is one letter or digit. A long name starts with a lowercase letter and goes on
with lowercase letters and hyphens. -/
def admits : FlagKind → Text → Bool
  | short, [c] => c.isAlphanum
  | short, _ => false
  | long, [] => false
  | long, c :: name => c.isLower && name.all isLongChar

/-- The word for the kind. -/
def label : FlagKind → Text
  | short => "short"
  | long => "long"

end FlagKind

/-- A flag: its kind, and a name that the kind admits. -/
structure Flag where
  kind : FlagKind
  name : Text
  admitted : kind.admits name = true
  deriving DecidableEq

/-- Why a literal is no flag. -/
inductive FlagError where
  /-- One dash, but not one letter or digit after it. -/
  | invalidShort (literal : Text)
  /-- Two dashes, but no long name after them. -/
  | invalidLong (literal : Text)
  /-- No dash at the start. -/
  | missingDash (literal : Text)
  deriving DecidableEq

/-- The message for the user. -/
def FlagError.message : FlagError → Text
  | .invalidShort literal => "invalid short flag format: " ++ literal
  | .invalidLong literal => "invalid long flag format: " ++ literal
  | .missingDash literal => "flag must start with '-': " ++ literal

namespace Flag

/-- The flag as it is written, dashes included. -/
def literal (flag : Flag) : Text := flag.kind.dashes ++ flag.name

/-- The flag of that kind and name, or the error if the kind does not admit the name. -/
def make (kind : FlagKind) (name : Text) (error : FlagError) : Except FlagError Flag :=
  if h : kind.admits name then .ok ⟨kind, name, h⟩ else .error error

/-- Reads a literal. Two dashes announce a long flag, one dash a short one. -/
def parse : Text → Except FlagError Flag
  | '-' :: '-' :: name => make .long name (.invalidLong ('-' :: '-' :: name))
  | '-' :: name => make .short name (.invalidShort ('-' :: name))
  | literal => .error (.missingDash literal)

theorem parse_literal (flag : Flag) : parse flag.literal = .ok flag := by
  obtain ⟨kind, name, h⟩ := flag
  cases kind with
  | long => simp [literal, FlagKind.dashes, parse, make, h]
  | short =>
    match name, h with
    | [c], h =>
      have hc : c ≠ '-' := by rintro rfl; exact absurd h (by decide)
      simp [literal, FlagKind.dashes, parse, make, h, hc]

theorem literal_of_parse {literal : Text} {flag : Flag} (h : parse literal = .ok flag) :
    flag.literal = literal := by
  unfold parse at h
  split at h
  · unfold make at h
    split at h <;> cases h
    rfl
  · unfold make at h
    split at h <;> cases h
    rfl
  · cases h

theorem literal_injective {a b : Flag} (h : a.literal = b.literal) : a = b := by
  have := parse_literal a
  rw [h, parse_literal] at this
  exact (Except.ok.inj this).symm

end Flag

end Synopsis
