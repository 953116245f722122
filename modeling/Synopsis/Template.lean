import Synopsis.Text.Basic

/-!
# Templates

A template is a text in which `{key}`, with a key of lowercase letters and underscores, stands
for a value. Every other brace is literal text: shell expansions need no escaping.

- `source_parse`: writing the segments back gives the text that was read.
- `render_nil`: with nothing bound, rendering gives the text that was read.
-/

namespace Synopsis

/-- A piece of a template. -/
inductive Segment where
  | literal (text : Text)
  | placeholder (key : Text)
  deriving DecidableEq

/-- A template is the list of its pieces. -/
abbrev Template := List Segment

/-- Values bound to keys, the latest binding first. -/
abbrev Bindings := List (Text × Text)

/-- The bindings with one more, which hides an earlier one of the same key. -/
def Bindings.bind (bindings : Bindings) (key value : Text) : Bindings := (key, value) :: bindings

namespace Segment

/-- The piece as it is written. -/
def source : Segment → Text
  | literal text => text
  | placeholder key => '{' :: key ++ ['}']

/-- The piece with its value in place. A placeholder without a value stays as it is written. -/
def render (bindings : Bindings) : Segment → Text
  | literal text => text
  | placeholder key => (bindings.lookup key).getD (placeholder key).source

end Segment

namespace Template

/-- A character of a key. -/
def isKeyChar (c : Char) : Bool := c.isLower || c == '_'

/-- The key at the start of a text, when a closing brace follows it, and what follows the brace. -/
def key? (text : Text) : Option (Text × Text) :=
  match text.takeWhile isKeyChar, text.dropWhile isKeyChar with
  | c :: key, '}' :: rest => some (c :: key, rest)
  | _, _ => none

/-- One more literal character in front of the segments. -/
def consChar (c : Char) : Template → Template
  | .literal text :: segments => .literal (c :: text) :: segments
  | segments => .literal [c] :: segments

theorem eq_append_of_key? {text key rest : Text} (h : key? text = some (key, rest)) :
    text = key ++ '}' :: rest := by
  have split := List.takeWhile_append_dropWhile (p := isKeyChar) (l := text)
  unfold key? at h
  split at h
  · next hk hr =>
    simp only [Option.some.injEq, Prod.mk.injEq] at h
    obtain ⟨rfl, rfl⟩ := h
    rw [hk, hr] at split
    exact split.symm
  · cases h

theorem length_lt_of_key? {text key rest : Text} (h : key? text = some (key, rest)) :
    rest.length < text.length := by
  rw [eq_append_of_key? h]
  simp only [List.length_append, List.length_cons]
  omega

/-- Reads a template. -/
def parse : Text → Template
  | [] => []
  | c :: text =>
    if c = '{' then
      match _h : key? text with
      | some (key, rest) => .placeholder key :: parse rest
      | none => consChar c (parse text)
    else consChar c (parse text)
termination_by text => text.length
decreasing_by
  · have := length_lt_of_key? _h
    simp only [List.length_cons]
    omega
  all_goals simp

/-- The template as it is written. -/
def source (template : Template) : Text := template.flatMap Segment.source

/-- The template with every bound value in place. Values are not read again. -/
def render (bindings : Bindings) (template : Template) : Text :=
  template.flatMap (Segment.render bindings)

/-- The keys in order of appearance. -/
def placeholders (template : Template) : List Text :=
  template.filterMap fun
    | .placeholder key => some key
    | .literal _ => none

theorem source_consChar (c : Char) (template : Template) :
    source (consChar c template) = c :: source template := by
  unfold consChar
  split <;> simp [source, Segment.source]

theorem source_parse (text : Text) : source (parse text) = text := by
  induction text using parse.induct with
  | case1 => simp [parse, source]
  | case2 text key rest h ih =>
    rw [parse]
    simp only [if_true]
    split
    · next h' =>
      rw [h] at h'
      simp only [Option.some.injEq, Prod.mk.injEq] at h'
      obtain ⟨rfl, rfl⟩ := h'
      have : source (.placeholder key :: parse rest) =
          '{' :: key ++ ['}'] ++ source (parse rest) := by simp [source, Segment.source]
      rw [this, ih, eq_append_of_key? h]
      simp
    · next h' => rw [h] at h'; cases h'
  | case3 text h ih =>
    rw [parse]
    simp only [if_true]
    split
    · next h' => rw [h] at h'; cases h'
    · rw [source_consChar, ih]
  | case4 c text hc ih =>
    rw [parse]
    simp only [hc, if_false]
    rw [source_consChar, ih]

theorem render_nil (text : Text) : render [] (parse text) = text := by
  have : Segment.render [] = Segment.source := by
    funext segment
    cases segment <;> rfl
  rw [render, this]
  exact source_parse text

end Template

end Synopsis
