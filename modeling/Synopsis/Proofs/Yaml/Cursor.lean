import Synopsis.Yaml.Cursor

/-!
# Moving over known text

Where a cursor stands after a text without line breaks, and after a line break and the spaces that
indent the next line.

- `skip_along`, `skip_below`: the two moves.
- `Placed`: the cursor knows how many characters are left.
-/

namespace Synopsis.Yaml.Cursor

variable {cursor : Cursor} {text rest : Text} {k : Nat}

/-- The cursor after a text of the same line. -/
def along (cursor : Cursor) (text rest : Text) : Cursor :=
  ⟨rest, cursor.line, cursor.column + text.length, cursor.index + text.length, cursor.size⟩

/-- The cursor on the next line, after `k` spaces. -/
def below (cursor : Cursor) (k : Nat) (rest : Text) : Cursor :=
  ⟨rest, cursor.line + 1, k, cursor.index + (k + 1), cursor.size⟩

@[simp] theorem along_rest : (cursor.along text rest).rest = rest := rfl

@[simp] theorem along_line : (cursor.along text rest).line = cursor.line := rfl

@[simp] theorem along_column :
    (cursor.along text rest).column = cursor.column + text.length := rfl

@[simp] theorem along_index : (cursor.along text rest).index = cursor.index + text.length := rfl

@[simp] theorem below_rest : (cursor.below k rest).rest = rest := rfl

theorem along_nil (h : cursor.rest = rest) : cursor.along [] rest = cursor := by
  rw [← h]
  rfl

theorem along_along (first second middle rest : Text) :
    (cursor.along first middle).along second rest = cursor.along (first ++ second) rest := by
  simp only [along, List.length_append, Nat.add_assoc]

theorem head_of_rest {c : Char} (h : cursor.rest = c :: rest) : cursor.head = c := by
  rw [head, h]
  rfl

theorem head_eq (h : cursor.rest = rest) : cursor.head = rest.headD endMark := by
  rw [head, h]

theorem next_of_rest {c : Char} (hc : c ≠ '\n') (h : cursor.rest = c :: rest) :
    cursor.next = cursor.along [c] rest := by
  rw [next, h]
  exact if_neg hc

/-- Skipping a text without line breaks. -/
theorem skip_along (hn : '\n' ∉ text) (h : cursor.rest = text ++ rest) :
    cursor.skip text.length = cursor.along text rest := by
  induction text generalizing cursor with
  | nil => exact (along_nil h).symm
  | cons c text ih =>
    rw [List.mem_cons, not_or] at hn
    rw [List.length_cons, skip, next_of_rest (Ne.symm hn.1) h, ih hn.2 rfl, along_along]
    rfl

theorem skipBreak_of_rest (h : cursor.rest = '\n' :: rest) :
    cursor.skipBreak = cursor.below 0 rest := by
  rw [skipBreak, head_of_rest h, next, h]
  rfl

/-! ## What is left -/

/-- The cursor knows how long the rest of the document is. -/
def Placed (cursor : Cursor) : Prop := cursor.size = cursor.index + cursor.rest.length

theorem placed_start (text : Text) : (start text).Placed := (Nat.zero_add _).symm

theorem Placed.left_eq (h : cursor.Placed) : cursor.left = cursor.rest.length := by
  rw [left, h]
  exact Nat.add_sub_cancel_left _ _

theorem Placed.along (h : cursor.Placed) (hr : cursor.rest = text ++ rest) :
    (cursor.along text rest).Placed := by
  rw [Placed, hr, List.length_append, ← Nat.add_assoc] at h
  exact h

theorem Placed.after {c : Char} (h : cursor.Placed) (hr : cursor.rest = c :: rest) :
    (cursor.along [c] rest).Placed :=
  h.along (show cursor.rest = [c] ++ rest from hr)

theorem Placed.below (h : cursor.Placed)
    (hr : cursor.rest = '\n' :: (List.replicate k ' ' ++ rest)) :
    (cursor.below k rest).Placed := by
  rw [Placed, hr, List.length_cons, List.length_append, List.length_replicate] at h
  show cursor.size = cursor.index + (k + 1) + rest.length
  omega

end Synopsis.Yaml.Cursor
