/-!
# Texts

A text is the list of its characters, so that every function on texts is a recursion on a list
and every law about texts is a law about lists. Literals are written as strings and coerced.

- `Text.joinWords`: words with one space between them.
- `Text.splitAtFirst?`: what stands before and after the first occurrence of a pattern.
- `Text.splitAtFirst?_eq_some_append`: the two parts and the pattern make up the text again.
-/

namespace Synopsis

/-- A text is the list of its characters. -/
abbrev Text := List Char

instance : Coe String Text := ⟨String.toList⟩

namespace Text

/-- The words with one space between each two. -/
def joinWords (words : List Text) : Text := [' '].intercalate words

/-- The lines, each closed by a line feed. -/
def unlines (lines : List Text) : Text := lines.flatMap (· ++ ['\n'])

/-- The text of lines that are given as string literals. -/
def ofLines (lines : List String) : Text := unlines (lines.map String.toList)

/-! ## Order -/

/-- The first text is the second or stands before it, in the order of the characters. -/
def isAtMost (a b : Text) : Bool := !decide (b < a)

/-- The texts in increasing order. -/
def sorted (texts : List Text) : List Text := texts.mergeSort isAtMost

/-! ## Searching -/

/-- What follows the pattern when the text starts with it. -/
def after? : Text → Text → Option Text
  | [], text => some text
  | _ :: _, [] => none
  | p :: pattern, c :: text => if p = c then after? pattern text else none

/-- Whether the text starts with `pattern`. -/
def startsWith (text pattern : Text) : Bool := (after? pattern text).isSome

/-- The parts before and after the first occurrence of `pattern`. -/
def splitAtFirst? (pattern : Text) : Text → Option (Text × Text)
  | [] => (after? pattern []).map fun rest => ([], rest)
  | c :: text =>
    match after? pattern (c :: text) with
    | some rest => some ([], rest)
    | none => (splitAtFirst? pattern text).map fun (before, rest) => (c :: before, rest)

theorem after?_eq_some_iff {pattern text rest : Text} :
    after? pattern text = some rest ↔ text = pattern ++ rest := by
  induction pattern generalizing text with
  | nil => simp [after?]
  | cons p pattern ih =>
    cases text with
    | nil => simp [after?]
    | cons c text =>
      by_cases h : p = c
      · subst h; simp [after?, ih]
      · simp only [after?, h, if_false, List.cons_append, List.cons.injEq]
        exact ⟨fun h => by simp at h, fun h' => absurd h'.1.symm h⟩

theorem splitAtFirst?_eq_some_append {pattern text before rest : Text}
    (h : splitAtFirst? pattern text = some (before, rest)) : text = before ++ pattern ++ rest := by
  induction text generalizing before with
  | nil =>
    simp only [splitAtFirst?, Option.map_eq_some_iff, Prod.mk.injEq] at h
    obtain ⟨_, h, rfl, rfl⟩ := h
    simpa using after?_eq_some_iff.1 h
  | cons c text ih =>
    simp only [splitAtFirst?] at h
    split at h
    · next rest' h' =>
      simp only [Option.some.injEq, Prod.mk.injEq] at h
      obtain ⟨rfl, rfl⟩ := h
      simpa using after?_eq_some_iff.1 h'
    · simp only [Option.map_eq_some_iff, Prod.exists, Prod.mk.injEq] at h
      obtain ⟨before', _, h, rfl, rfl⟩ := h
      simp [ih h]

/-- Each character replaced by a text of its own. -/
def substitute (image : Char → Text) (text : Text) : Text := text.flatMap image

theorem substitute_cons (image : Char → Text) (c : Char) (text : Text) :
    substitute image (c :: text) = image c ++ substitute image text := rfl

theorem length_le_length_substitute {image : Char → Text} (h : ∀ c, 0 < (image c).length)
    (text : Text) : text.length ≤ (substitute image text).length := by
  induction text with
  | nil => exact Nat.le_refl _
  | cons c text ih =>
    have hpos := h c
    rw [substitute_cons, List.length_append, List.length_cons]
    omega

/-! ## Classes of characters -/

/-- Whether one of the ranges holds the number. -/
def inRanges (ranges : List (Nat × Nat)) (n : Nat) : Bool :=
  ranges.any fun (low, high) => low ≤ n && n ≤ high

/-! ## Widths -/

/-- The text, padded on the right with spaces to at least `width` characters. -/
def padRight (width : Nat) (text : Text) : Text :=
  text ++ List.replicate (width - text.length) ' '

/-- The length of the text in bytes of its UTF-8 form. -/
def byteLength (text : Text) : Nat := text.foldr (fun c n => c.utf8Size + n) 0

/-- The digits of a number in base ten. -/
def ofNat (n : Nat) : Text := Nat.toDigits 10 n

end Text

end Synopsis
