import Synopsis.FlagList
import Synopsis.Text.Blank
import Synopsis.Text.Word

/-!
# Flag mentions

The body of a flag line names flags and then describes them. Two spaces start the description.
Before it, a mention stands at the start of the region or after a blank, a bracket, a parenthesis
or a bar, and ends at a word boundary. It is a short flag and a long flag joined by a comma, a
long flag, or a short flag, in this order of preference; a long name gives up characters at its
end until it ends at a word boundary.

- `token?_length_lt`: a mention takes at least one character.
- `eq_append_of_token?`: a mention and the text after it make up the text it was read from.
-/

namespace Synopsis.Help

namespace Mention

/-- The rest of a long name whose last character is `last`, as long as it can be while it ends at
a word boundary, and the text after it. -/
def longTail? (last : Char) : Text → Option (Text × Text)
  | [] => if Text.isBoundary last none then some ([], []) else none
  | c :: text =>
    let stop := if Text.isBoundary last (some c) then some ([], c :: text) else none
    if FlagKind.isLongChar c then
      match longTail? c text with
      | some (name, rest) => some (c :: name, rest)
      | none => stop
    else stop

/-- A long flag: two dashes and a name. -/
def long? : Text → Option (Text × Text)
  | '-' :: '-' :: c :: text =>
    if c.isLower then (longTail? c text).map fun (name, rest) => ('-' :: '-' :: c :: name, rest)
    else none
  | _ => none

/-- A dash with one letter or digit, whatever follows. -/
def dashed? : Text → Option (Text × Text)
  | '-' :: c :: text => if c.isAlphanum then some (['-', c], text) else none
  | _ => none

/-- A short flag that ends at a word boundary. -/
def short? (text : Text) : Option (Text × Text) :=
  match dashed? text with
  | some (flag, rest) =>
    if Text.isBoundary (flag.getLastD '-') rest.head? then some (flag, rest) else none
  | none => none

/-- The blanks at the start of a text, and the text after them. -/
def blanks (text : Text) : Text × Text :=
  (text.takeWhile Text.isBlank, text.dropWhile Text.isBlank)

/-- A short and a long flag with a comma between them, blanks around the comma allowed. -/
def pair? (text : Text) : Option (Text × Text) :=
  match dashed? text with
  | none => none
  | some (short, rest) =>
    match blanks rest with
    | (left, ',' :: rest) =>
      let (right, rest) := blanks rest
      (long? rest).map fun (long, rest) => (short ++ left ++ ',' :: right ++ long, rest)
    | _ => none

/-- The mention at the start of a text, and the text after it. -/
def token? (text : Text) : Option (Text × Text) :=
  (pair? text).or ((long? text).or (short? text))

/-- A character after which a mention may start. -/
def isOpener (c : Char) : Bool := Text.isBlank c || c == '[' || c == '(' || c == '|'

/-! ## Every mention takes some text and leaves the rest -/

theorem eq_append_of_longTail? {last : Char} {text name rest : Text}
    (h : longTail? last text = some (name, rest)) : text = name ++ rest := by
  induction text generalizing last name with
  | nil =>
    simp only [longTail?] at h
    split at h <;> simp_all
  | cons c text ih =>
    simp only [longTail?] at h
    split at h
    · split at h
      · next name' rest' h' =>
        simp only [Option.some.injEq, Prod.mk.injEq] at h
        obtain ⟨rfl, rfl⟩ := h
        simp [ih h']
      · split at h <;> simp_all
    · split at h <;> simp_all

theorem eq_append_of_long? {text token rest : Text} (h : long? text = some (token, rest)) :
    text = token ++ rest ∧ token ≠ [] := by
  unfold long? at h
  split at h
  · next c text' =>
    split at h
    · simp only [Option.map_eq_some_iff, Prod.exists, Prod.mk.injEq] at h
      obtain ⟨name, _, h, rfl, rfl⟩ := h
      simp [eq_append_of_longTail? h]
    · cases h
  · cases h

theorem eq_append_of_dashed? {text token rest : Text} (h : dashed? text = some (token, rest)) :
    text = token ++ rest ∧ token ≠ [] := by
  unfold dashed? at h
  split at h
  · split at h
    · simp only [Option.some.injEq, Prod.mk.injEq] at h
      obtain ⟨rfl, rfl⟩ := h
      simp
    · cases h
  · cases h

theorem eq_append_of_short? {text token rest : Text} (h : short? text = some (token, rest)) :
    text = token ++ rest ∧ token ≠ [] := by
  unfold short? at h
  split at h
  · next h' =>
    split at h
    · simp only [Option.some.injEq, Prod.mk.injEq] at h
      obtain ⟨rfl, rfl⟩ := h
      exact eq_append_of_dashed? h'
    · cases h
  · cases h

theorem eq_append_of_pair? {text token rest : Text} (h : pair? text = some (token, rest)) :
    text = token ++ rest ∧ token ≠ [] := by
  unfold pair? at h
  split at h
  · cases h
  · next short after hd =>
    split at h
    · next left after' hb =>
      simp only [Option.map_eq_some_iff, Prod.exists, Prod.mk.injEq] at h
      obtain ⟨long, _, hl, rfl, rfl⟩ := h
      have h1 := (eq_append_of_dashed? hd).1
      have h2 := (eq_append_of_long? hl).1
      have h3 : after = left ++ ',' :: after' := by
        rw [← List.takeWhile_append_dropWhile (p := Text.isBlank) (l := after)]
        simp only [blanks, Prod.mk.injEq] at hb
        rw [hb.1, hb.2]
      have h4 : after' = (blanks after').1 ++ (blanks after').2 :=
        (List.takeWhile_append_dropWhile (p := Text.isBlank) (l := after')).symm
      refine ⟨?_, by simp⟩
      rw [h1, h3]
      simp only [List.append_assoc, List.cons_append, List.append_cancel_left_eq,
        List.cons.injEq, true_and]
      rw [← h2, ← h4]
    · cases h

theorem eq_append_of_token? {text token rest : Text} (h : token? text = some (token, rest)) :
    text = token ++ rest ∧ token ≠ [] := by
  simp only [token?, Option.or_eq_some_iff] at h
  rcases h with h | ⟨_, h | ⟨_, h⟩⟩
  · exact eq_append_of_pair? h
  · exact eq_append_of_long? h
  · exact eq_append_of_short? h

theorem token?_length_lt {text token rest : Text} (h : token? text = some (token, rest)) :
    rest.length < text.length := by
  obtain ⟨rfl, hne⟩ := eq_append_of_token? h
  have := List.length_pos_iff.2 hne
  simp only [List.length_append]
  omega

/-! ## All mentions of a region -/

/-- The mention that starts at the first character, at the start of the region, or right after
it, if it is an opener; and the text after the mention. -/
def here? (atStart : Bool) (c : Char) (text : Text) : Option (Text × Text) :=
  (if atStart then token? (c :: text) else none).or (if isOpener c then token? text else none)

theorem here?_length_lt {atStart : Bool} {c : Char} {text token rest : Text}
    (h : here? atStart c text = some (token, rest)) : rest.length < (c :: text).length := by
  simp only [here?, Option.or_eq_some_iff] at h
  rcases h with h | ⟨_, h⟩
  · split at h
    · exact token?_length_lt h
    · cases h
  · split at h
    · exact Nat.lt_succ_of_lt (token?_length_lt h)
    · cases h

/-- The mentions of a region from left to right. The next one starts at or after the end of the
one before. -/
def tokens (atStart : Bool) : Text → List Text
  | [] => []
  | c :: text =>
    match _h : here? atStart c text with
    | some (token, rest) => token :: tokens false rest
    | none => tokens false text
termination_by text => text.length
decreasing_by
  · exact here?_length_lt _h
  · simp

theorem tokens_of_here? {atStart : Bool} {c : Char} {text token rest : Text}
    (h : here? atStart c text = some (token, rest)) :
    tokens atStart (c :: text) = token :: tokens false rest := by
  rw [tokens]
  split
  · next h' =>
    rw [h] at h'
    cases h'
    rfl
  · next h' =>
    rw [h] at h'
    cases h'

theorem tokens_of_here?_eq_none {atStart : Bool} {c : Char} {text : Text}
    (h : here? atStart c text = none) : tokens atStart (c :: text) = tokens false text := by
  rw [tokens]
  split
  · next h' =>
    rw [h] at h'
    cases h'
  · rfl

/-- The flags of a mention: its comma-separated pieces, trimmed and read. -/
def flags (token : Text) : List Flag :=
  (token.splitOn ',').filterMap fun piece => (Flag.parse (Text.trim piece)).toOption

end Mention

/-- The part of a body that names flags: up to the first two spaces after the leading blanks. -/
def flagRegion (body : Text) : Text :=
  match Text.splitAtFirst? "  " (Text.trimStart body) with
  | some (region, _) => region
  | none => Text.trimStart body

/-- The flags that the body of a flag line names, in order and with repeats. -/
def flagsOf (body : Text) : List Flag :=
  (Mention.tokens true (flagRegion body)).flatMap Mention.flags

end Synopsis.Help
