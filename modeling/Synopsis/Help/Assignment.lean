import Synopsis.Text.Basic

/-!
# Assignments

A tool carries its help text in its own source as `NAME="…"`, over as many lines as it takes. A
backslash makes the next character part of the text whatever it is, and the text is returned as
it is written. The name stands at the start of the source or after a character that cannot
belong to a name, so a longer name that ends in this one is no assignment to it.
-/

namespace Synopsis.Help

/-- A letter, a digit or an underscore: a character of a variable name. -/
def isNameChar (c : Char) : Bool := c.isAlphanum || c == '_'

/-- The text up to the first double quote that is not escaped. -/
def quoted? : Text → Option Text
  | [] => none
  | '"' :: _ => some []
  | '\\' :: c :: text => (quoted? text).map fun content => '\\' :: c :: content
  | '\\' :: [] => none
  | c :: text => (quoted? text).map (c :: ·)

/-- The content of an assignment to `name` that starts here. -/
def assigned? (name text : Text) : Option Text :=
  (Text.after? (name ++ "=\"") text).bind quoted?

/-- The first assignment in a text, of which `isOpen` says whether a name may start here. -/
def search (name : Text) : Bool → Text → Option Text
  | _, [] => none
  | isOpen, c :: text =>
    match if isOpen then assigned? name (c :: text) else none with
    | some content => some content
    | none => search name (!isNameChar c) text

/-- The content of the first assignment to `name` in the source. -/
def extract (name source : Text) : Option Text := search name true source

/-- The variable that holds the help text unless a configuration says otherwise. -/
def defaultName : Text := "HELP_TEXT"

end Synopsis.Help
