import Synopsis.Text.Blank

/-!
# Trimming and splitting at blanks

What trimming leaves of a text whose first or last characters are known, and how a text is split
into words.

- `trim_of_blanks`: blanks around a text without blanks are taken away.
- `exists_trim_eq_cons`: after the blanks at its start, a trimmed text starts as before.
- `words_append_blank`: a blank ends a word, and what follows is split on its own.
- `words_joinWords`: words that are joined with spaces are found again.
-/

namespace Synopsis.Text

variable {left text right : Text}

theorem dropWhile_of_notBlank (h : ∀ c ∈ text, isBlank c = false) :
    text.dropWhile isBlank = text := by
  cases text with
  | nil => rfl
  | cons c text => rw [List.dropWhile_cons_of_neg (by simp [h c List.mem_cons_self])]

theorem trimStart_of_blanks (hl : ∀ c ∈ left, isBlank c = true) {c : Char}
    (hc : isBlank c = false) : trimStart (left ++ c :: text) = c :: text := by
  rw [trimStart, List.dropWhile_append_of_pos hl, List.dropWhile_cons_of_neg (by simp [hc])]

/-- Blanks around a text without blanks are taken away. -/
theorem trim_of_blanks (hl : ∀ c ∈ left, isBlank c = true) (hr : ∀ c ∈ right, isBlank c = true)
    (hn : text ≠ []) (ht : ∀ c ∈ text, isBlank c = false) :
    trim (left ++ text ++ right) = text := by
  have hstart : trimStart (left ++ text ++ right) = text ++ right := by
    cases text with
    | nil => exact absurd rfl hn
    | cons c text =>
      rw [List.append_assoc]
      exact trimStart_of_blanks hl (ht c List.mem_cons_self)
  rw [trim, hstart, trimEnd, List.reverse_append,
    List.dropWhile_append_of_pos fun c hc => hr c (List.mem_reverse.1 hc),
    dropWhile_of_notBlank fun c hc => ht c (List.mem_reverse.1 hc), List.reverse_reverse]

/-- After the blanks at its start, a trimmed text starts as before. -/
theorem exists_trim_eq_cons (hl : ∀ c ∈ left, isBlank c = true) {c : Char}
    (hc : isBlank c = false) (text : Text) : ∃ rest, trim (left ++ c :: text) = c :: rest := by
  rw [trim, trimStart_of_blanks hl hc, trimEnd, List.reverse_cons, List.dropWhile_append]
  split
  · exact ⟨[], by simp [hc]⟩
  · exact ⟨(text.reverse.dropWhile isBlank).reverse, by simp⟩

/-! ## Words -/

theorem firstWord_append (ht : ∀ c ∈ text, isBlank c = false) (right : Text) :
    firstWord (text ++ right) = (text ++ (firstWord right).1, (firstWord right).2) := by
  induction text with
  | nil => rfl
  | cons c text ih =>
    rw [List.forall_mem_cons] at ht
    rw [List.cons_append, firstWord, ih ht.2]
    simp [ht.1]

/-- A blank ends a word, and what follows is split on its own. -/
theorem words_append_blank {c : Char} (hn : text ≠ []) (ht : ∀ c ∈ text, isBlank c = false)
    (hc : isBlank c = true) (right : Text) : words (text ++ c :: right) = text :: words right := by
  have hfirst : firstWord (c :: right) = ([], words right) := by
    rw [firstWord, hc]
    rfl
  rw [words, firstWord_append ht, hfirst]
  simp [hn]

theorem words_of_notBlank (hn : text ≠ []) (ht : ∀ c ∈ text, isBlank c = false) :
    words text = [text] := by
  have hfirst := firstWord_append ht []
  rw [List.append_nil] at hfirst
  rw [words, hfirst]
  simp [hn, firstWord]

theorem joinWords_cons_cons (word next : Text) (list : List Text) :
    joinWords (word :: next :: list) = word ++ ' ' :: joinWords (next :: list) := by
  simp [joinWords]

theorem mem_of_mem_intercalate {separator : Text} {list : List Text} {c : Char}
    (h : c ∈ separator.intercalate list) : c ∈ separator ∨ ∃ word ∈ list, c ∈ word := by
  induction list with
  | nil => cases h
  | cons word list ih =>
    cases list with
    | nil => exact Or.inr ⟨word, List.mem_cons_self, by simpa using h⟩
    | cons next list =>
      rw [List.intercalate_cons_cons, List.append_assoc, List.mem_append, List.mem_append] at h
      rcases h with h | h | h
      · exact Or.inr ⟨word, List.mem_cons_self, h⟩
      · exact Or.inl h
      · rcases ih h with hs | ⟨other, ho, hc⟩
        · exact Or.inl hs
        · exact Or.inr ⟨other, List.mem_cons_of_mem word ho, hc⟩

theorem mem_of_mem_joinWords {list : List Text} {c : Char} (h : c ∈ joinWords list) :
    c = ' ' ∨ ∃ word ∈ list, c ∈ word :=
  (mem_of_mem_intercalate h).imp_left List.mem_singleton.1

/-- Words that are joined with spaces are found again. -/
theorem words_joinWords {list : List Text}
    (h : ∀ word ∈ list, word ≠ [] ∧ ∀ c ∈ word, isBlank c = false) :
    words (joinWords list) = list := by
  induction list with
  | nil => rfl
  | cons word list ih =>
    rw [List.forall_mem_cons] at h
    cases list with
    | nil =>
      have hjoin : joinWords [word] = word := by simp [joinWords]
      rw [hjoin, words_of_notBlank h.1.1 h.1.2]
    | cons next list =>
      rw [joinWords_cons_cons, words_append_blank h.1.1 h.1.2 (by decide), ih h.2]

end Synopsis.Text
