import Mathlib.Data.List.Forall2
import Mathlib.Data.List.Induction
import Synopsis.Text.Lines

/-!
# Lines that were written

The lines of a text that was written line by line are these lines, up to a carriage return at the
end of each. The last line feed may be missing. Cut at its line feeds alone, a text is its closed
lines and a rest.

- `ReadFor.of_append`: the front of a line that was read is the front that was written.
- `lines_written`: the lines of a text that was written.
- `splitOn_unlines_append`, `splitOn_append_of_notMem`: the cut of closed lines, and of a part of a
  line, in front of a text.
-/

namespace Synopsis.Text

variable {text line : Text} {written : List Text}

/-- A line that is read for one that was written: the same, or without a carriage return. -/
def ReadFor (line read : Text) : Prop := read = line ∨ line = read ++ ['\r']

theorem readFor_dropReturn (line : Text) : ReadFor line (dropReturn line) := by
  unfold dropReturn
  split
  · next h =>
    obtain ⟨init, rfl⟩ := List.getLast?_eq_some_iff.1 h
    exact Or.inr (by rw [List.dropLast_concat])
  · exact Or.inl rfl

/-- A carriage return is taken from the end of a line, so a front without one stays. -/
theorem ReadFor.of_append {front tail read : Text} (h : ReadFor (front ++ tail) read)
    (hf : '\r' ∉ front) :
    ∃ rest, read = front ++ rest ∧ ReadFor tail rest := by
  rcases h with rfl | h
  · exact ⟨tail, rfl, Or.inl rfl⟩
  · rcases List.eq_nil_or_concat tail with rfl | ⟨init, c, rfl⟩
    · rw [List.append_nil] at h
      exact absurd (by simp [h]) hf
    · rw [List.concat_eq_append, ← List.append_assoc] at h
      obtain ⟨rfl, hc⟩ := List.append_inj' h rfl
      exact ⟨init, rfl, Or.inr (by rw [List.concat_eq_append, hc])⟩

theorem closedLines_of_notMem (h : '\n' ∉ line) : closedLines line = ([], line) := by
  induction line with
  | nil => rfl
  | cons c line ih =>
    rw [List.mem_cons, not_or] at h
    rw [closedLines, ih h.2]
    simp [Ne.symm h.1]

theorem unlines_cons_append (line : Text) (written : List Text) (text : Text) :
    unlines (line :: written) ++ text = line ++ '\n' :: (unlines written ++ text) := by
  simp [unlines]

theorem lines_unlines_append (h : ∀ line ∈ written, '\n' ∉ line) (text : Text) :
    lines (unlines written ++ text) = written.map dropReturn ++ lines text := by
  induction written with
  | nil => rfl
  | cons line written ih =>
    rw [List.forall_mem_cons] at h
    rw [unlines_cons_append, lines_append h.1, ih h.2, List.map_cons, List.cons_append]

/-- The lines of a text that was written are read, whether or not a line feed ends the text. -/
theorem lines_written (h : ∀ line ∈ written, '\n' ∉ line ∧ line ≠ [])
    (ht : text = unlines written ∨ text ++ ['\n'] = unlines written) :
    List.Forall₂ ReadFor written (lines text) := by
  have dropped : ∀ {lines : List Text}, List.Forall₂ ReadFor lines (lines.map dropReturn) := by
    intro lines
    induction lines with
    | nil => exact .nil
    | cons line lines ih => exact .cons (readFor_dropReturn line) ih
  rcases ht with rfl | ht
  · have := lines_unlines_append (fun line hl => (h line hl).1) []
    rw [List.append_nil] at this
    rw [this]
    simpa [lines, closedLines] using dropped
  · rcases List.eq_nil_or_concat written with rfl | ⟨init, last, rfl⟩
    · simp [unlines] at ht
    · rw [List.concat_eq_append] at h ht ⊢
      have htext : text = unlines init ++ last := by
        have : text ++ ['\n'] = (unlines init ++ last) ++ ['\n'] := by
          rw [ht]
          simp [unlines]
        exact List.append_cancel_right this
      obtain ⟨hlast, hne⟩ := h last (by simp)
      have hlines : lines last = [last] := by simp [lines, closedLines_of_notMem hlast, hne]
      rw [htext, lines_unlines_append fun line hl => (h line (List.mem_append_left _ hl)).1, hlines]
      exact List.rel_append dropped (.cons (Or.inl rfl) .nil)

/-- Lines with a line feed between each two are read as they are. -/
theorem lines_intercalate (h : ∀ line ∈ written, '\n' ∉ line ∧ line ≠ [] ∧ dropReturn line = line) :
    lines (['\n'].intercalate written) = written := by
  induction written with
  | nil => rfl
  | cons line written ih =>
    rw [List.forall_mem_cons] at h
    obtain ⟨⟨hline, hne, hreturn⟩, hwritten⟩ := h
    cases written with
    | nil => simp [lines, closedLines_of_notMem hline, hne]
    | cons next written =>
      rw [List.intercalate_cons_cons, List.append_assoc, List.singleton_append, lines_append hline,
        hreturn, ih hwritten]

/-! ## Cutting at line feeds -/

/-- A text is closed lines and a rest of one more line. -/
theorem exists_unlines_append (text : Text) : ∃ closed rest,
    text = unlines closed ++ rest ∧ (∀ line ∈ closed, '\n' ∉ line) ∧ '\n' ∉ rest := by
  induction text using List.reverseRecOn with
  | nil => exact ⟨[], [], rfl, by simp, by simp⟩
  | append_singleton text c ih =>
    obtain ⟨closed, rest, rfl, hc, hr⟩ := ih
    by_cases h : c = '\n'
    · subst h
      refine ⟨closed ++ [rest], [], by simp [unlines], ?_, by simp⟩
      rw [List.forall_mem_append]
      exact ⟨hc, by simpa using hr⟩
    · exact ⟨closed, rest ++ [c], by rw [List.append_assoc], hc, by simp [hr, Ne.symm h]⟩

theorem splitOn_unlines_append (h : ∀ line ∈ written, '\n' ∉ line) (text : Text) :
    (unlines written ++ text).splitOn '\n' = written ++ text.splitOn '\n' := by
  induction written with
  | nil => rfl
  | cons line written ih =>
    rw [List.forall_mem_cons] at h
    rw [unlines_cons_append, List.splitOn_append_cons_self_of_not_mem h.1, ih h.2, List.cons_append]

theorem notMem_of_mem_splitOn (h : line ∈ text.splitOn '\n') : '\n' ∉ line := by
  obtain ⟨closed, rest, rfl, hc, hr⟩ := exists_unlines_append text
  rw [splitOn_unlines_append hc, List.splitOn_eq_singleton hr, List.mem_append,
    List.mem_singleton] at h
  rcases h with h | rfl
  · exact hc line h
  · exact hr

/-- A part of a line in front of a text belongs to the first line of the text. -/
theorem splitOn_append_of_notMem (h : '\n' ∉ line) (text : Text) : ∃ first others,
    text.splitOn '\n' = first :: others ∧
      (line ++ text).splitOn '\n' = (line ++ first) :: others := by
  obtain ⟨first, others, hs⟩ := List.exists_cons_of_ne_nil (List.splitOn_ne_nil '\n' text)
  refine ⟨first, others, hs, ?_⟩
  induction line with
  | nil => exact hs
  | cons c line ih =>
    rw [List.mem_cons, not_or] at h
    rw [List.cons_append, List.splitOn_cons_eq_if_modifyHead, ih h.2,
      if_neg (by simpa using Ne.symm h.1), List.modifyHead_cons, List.cons_append]

/-- Lines and the start of another line are read off a text in one way only. -/
theorem unlines_append_inj {other : List Text} {rest : Text} (hw : ∀ line ∈ written, '\n' ∉ line)
    (ho : ∀ line ∈ other, '\n' ∉ line) (ht : '\n' ∉ text) (hr : '\n' ∉ rest)
    (h : unlines written ++ text = unlines other ++ rest) : written = other ∧ text = rest := by
  have hs := congrArg (List.splitOn '\n') h
  rw [splitOn_unlines_append hw, splitOn_unlines_append ho, List.splitOn_eq_singleton ht,
    List.splitOn_eq_singleton hr] at hs
  obtain ⟨rfl, hlast⟩ := List.append_inj' hs rfl
  exact ⟨rfl, List.singleton_inj.1 hlast⟩

end Synopsis.Text
