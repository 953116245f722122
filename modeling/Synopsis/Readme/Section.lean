import Synopsis.Text.Basic

/-!
# Sections

A section of a document starts with its heading and the rule under it, if it has one, and ends
with a literal that belongs to it or before one that does not. Replacing a section replaces all
of this, heading included, wherever it occurs; a start without an end stops the search and stays.
-/

namespace Synopsis.Readme

/-- Where a section ends. -/
inductive SectionEnd where
  /-- After the first occurrence of the literal. -/
  | through (literal : Text)
  /-- Before the first occurrence of the literal. -/
  | before (literal : Text)
  deriving DecidableEq

/-- The boundaries of a section. -/
structure Markers where
  heading : Text
  /-- The character of the rule under the heading. -/
  underline : Option Char
  ending : SectionEnd
  deriving DecidableEq

/-- The text that opens the section: the heading, and a rule of the same length under it. -/
def Markers.start (markers : Markers) : Text :=
  match markers.underline with
  | some c => markers.heading ++ '\n' :: List.replicate markers.heading.length c
  | none => markers.heading

/-- What follows the end of the section in the text after its start marker. -/
def SectionEnd.rest? (ending : SectionEnd) (text : Text) : Option Text :=
  match ending with
  | .through literal => (Text.splitAtFirst? literal text).map Prod.snd
  | .before literal => (Text.splitAtFirst? literal text).map fun (_, rest) => literal ++ rest

/-- A document cut at its first section: what stands before the section, and what after it. -/
def cut? (start : Text) (ending : SectionEnd) (document : Text) : Option (Text × Text) := do
  let (before, rest) ← Text.splitAtFirst? start document
  let rest ← ending.rest? rest
  some (before, rest)

theorem SectionEnd.length_le_of_rest? {ending : SectionEnd} {text rest : Text}
    (h : ending.rest? text = some rest) : rest.length ≤ text.length := by
  cases ending <;>
  · simp only [rest?, Option.map_eq_some_iff, Prod.exists] at h
    obtain ⟨before, after, h, rfl⟩ := h
    rw [Text.splitAtFirst?_eq_some_append h]
    simp only [List.length_append]
    omega

theorem length_lt_of_cut? {start : Text} {ending : SectionEnd} {document before rest : Text}
    (hs : start ≠ []) (h : cut? start ending document = some (before, rest)) :
    rest.length < document.length := by
  simp only [cut?, bind, Option.bind] at h
  split at h
  · cases h
  · next p hp =>
    obtain ⟨before', after⟩ := p
    simp only at h
    split at h
    · cases h
    · next rest' hr =>
      simp only [Option.some.injEq, Prod.mk.injEq] at h
      obtain ⟨rfl, rfl⟩ := h
      have h1 := SectionEnd.length_le_of_rest? hr
      have h2 := congrArg List.length (Text.splitAtFirst?_eq_some_append hp)
      have h3 := List.length_pos_iff.2 hs
      simp only [List.length_append] at h2
      omega

/-- The pieces of a document between its sections, in order: the document is these pieces with a
section between each two. -/
def pieces (start : Text) (ending : SectionEnd) (hs : start ≠ []) (document : Text) :
    List Text :=
  match _h : cut? start ending document with
  | some (before, rest) => before :: pieces start ending hs rest
  | none => [document]
termination_by document.length
decreasing_by exact length_lt_of_cut? hs _h

/-- The pieces of a document between the sections of some boundaries. An empty start marker opens
no section. -/
def Markers.pieces (markers : Markers) (document : Text) : List Text :=
  if hs : markers.start ≠ [] then Readme.pieces markers.start markers.ending hs document
  else [document]

/-- The document with every section replaced. -/
def replaceSection (markers : Markers) (replacement document : Text) : Text :=
  replacement.intercalate (markers.pieces document)

/-- Whether a document has a section of these boundaries. -/
def hasSection (markers : Markers) (document : Text) : Bool := 1 < (markers.pieces document).length

theorem pieces_of_cut?_eq_none {start : Text} {ending : SectionEnd} (hs : start ≠ [])
    {document : Text} (h : cut? start ending document = none) :
    pieces start ending hs document = [document] := by
  rw [pieces]
  split
  · next h' => rw [h] at h'; cases h'
  · rfl

end Synopsis.Readme
