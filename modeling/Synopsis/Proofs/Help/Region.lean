import Synopsis.Help.Reading

/-!
# The capture region

A help text is read from the line after the first start header to the line before the next end
header. What stands before and after this region only tells in which phase the reading ends.

- `captured`: every list of lines has a region, which is missing, open or closed.
- `read_eq`: reading a help text is reading the lines of its region, apart from the phase.
-/

namespace Synopsis.Help

open Reading

variable {policy : Policy}

/-- The lines after the first start header, up to the next end header. -/
def regionOf (policy : Policy) (lines : List Text) : List Text :=
  ((lines.dropWhile fun line => Line.classify policy line ≠ .startHeader).drop 1).takeWhile
    fun line => Line.classify policy line ≠ .endHeader

/-- The lines of the capture region of a help text. -/
def region (policy : Policy) (help : Text) : List Text := regionOf policy (Text.lines help)

/-- Lines with the region that they have, and the phase in which their reading ends. -/
inductive Captured (policy : Policy) : List Text → List Text → Phase → Prop
  | missing {lines : List Text} :
      (∀ line ∈ lines, Line.classify policy line ≠ .startHeader) →
      Captured policy lines [] .seeking
  | opened {before region : List Text} {start : Text} :
      (∀ line ∈ before, Line.classify policy line ≠ .startHeader) →
      Line.classify policy start = .startHeader →
      (∀ line ∈ region, Line.classify policy line ≠ .endHeader) →
      Captured policy (before ++ start :: region) region .inOptions
  | closed {before region after : List Text} {start stop : Text} :
      (∀ line ∈ before, Line.classify policy line ≠ .startHeader) →
      Line.classify policy start = .startHeader →
      (∀ line ∈ region, Line.classify policy line ≠ .endHeader) →
      Line.classify policy stop = .endHeader →
      Captured policy (before ++ start :: (region ++ stop :: after)) region .done

/-- A list has the property throughout, or up to a first element that lacks it. -/
theorem span_cases {α : Type} (p : α → Bool) (list : List α) :
    ((∀ a ∈ list, p a = true) ∧ list.takeWhile p = list ∧ list.dropWhile p = []) ∨
      ∃ before a after, list = before ++ a :: after ∧ (∀ b ∈ before, p b = true) ∧ p a = false ∧
        list.takeWhile p = before ∧ list.dropWhile p = a :: after := by
  induction list with
  | nil => simp
  | cons a list ih =>
    cases ha : p a with
    | false => exact Or.inr ⟨[], a, list, rfl, by simp, ha, by simp [ha], by simp [ha]⟩
    | true =>
      rcases ih with ⟨hall, ht, hd⟩ | ⟨before, b, after, rfl, hbefore, hb, ht, hd⟩
      · exact Or.inl ⟨by simpa [ha] using hall, by simp [ha, ht], by simp [ha, hd]⟩
      · exact Or.inr ⟨a :: before, b, after, rfl, by simpa [ha] using hbefore, hb,
          by simp [ha, ht], by simp [ha, hd]⟩

/-- Every list of lines has a region. -/
theorem captured (policy : Policy) (lines : List Text) :
    ∃ phase, Captured policy lines (regionOf policy lines) phase := by
  unfold regionOf
  rcases span_cases (fun line => Line.classify policy line ≠ .startHeader) lines with
    ⟨hall, -, hd⟩ | ⟨before, start, rest, rfl, hbefore, hstart, -, hd⟩
  · rw [hd]
    exact ⟨.seeking, .missing (by simpa using hall)⟩
  · rw [hd, List.drop_one, List.tail_cons]
    rcases span_cases (fun line => Line.classify policy line ≠ .endHeader) rest with
      ⟨hall, ht, -⟩ | ⟨region, stop, after, rfl, hregion, hstop, ht, -⟩
    · rw [ht]
      exact ⟨.inOptions, .opened (by simpa using hbefore) (by simpa using hstart)
        (by simpa using hall)⟩
    · rw [ht]
      exact ⟨.done, .closed (by simpa using hbefore) (by simpa using hstart)
        (by simpa using hregion) (by simpa using hstop)⟩

/-! ## Reading the lines -/

namespace Reading.State

variable {state : State} {lines inside : List Text} {line : Text} {phase : Phase}

/-- The state in which the first line of a region is read. -/
def opened : State := ({} : State).note fun d => { d with phase := .inOptions }

theorem foldl_step_seeking (hs : state.reading.diagnostics.phase = .seeking)
    (hl : ∀ line ∈ lines, Line.classify policy line ≠ .startHeader) :
    lines.foldl (·.step policy ·) state = state := by
  induction lines with
  | nil => rfl
  | cons line lines ih =>
    rw [List.forall_mem_cons] at hl
    rw [List.foldl_cons, step_seeking hs hl.1]
    exact ih hl.2

theorem foldl_step_done (hs : state.reading.diagnostics.phase = .done) (lines : List Text) :
    lines.foldl (·.step policy ·) state = state := by
  induction lines with
  | nil => rfl
  | cons line lines ih =>
    rw [List.foldl_cons, step_done line hs]
    exact ih

theorem phase_stepInside (hl : Line.classify policy line ≠ .endHeader) :
    (state.stepInside policy line).reading.diagnostics.phase = state.reading.diagnostics.phase := by
  unfold stepInside
  split
  · contradiction
  · rfl
  · rfl
  · unfold declare
    split <;> rfl
  · unfold addFlags
    split
    · split <;> rfl
    · rfl
  · rfl

theorem foldl_step_inside (hs : state.reading.diagnostics.phase = .inOptions)
    (hl : ∀ line ∈ lines, Line.classify policy line ≠ .endHeader) :
    lines.foldl (·.step policy ·) state = lines.foldl (·.stepInside policy ·) state ∧
      (lines.foldl (·.stepInside policy ·) state).reading.diagnostics.phase = .inOptions := by
  induction lines generalizing state with
  | nil => exact ⟨rfl, hs⟩
  | cons line lines ih =>
    rw [List.forall_mem_cons] at hl
    have hstep : state.step policy line = state.stepInside policy line := by
      rw [step, hs]
    rw [List.foldl_cons, List.foldl_cons, hstep]
    exact ih ((phase_stepInside hl.1).trans hs) hl.2

theorem note_phase (hs : state.reading.diagnostics.phase = phase) :
    state.note (fun d => { d with phase := phase }) = state := by
  rw [← hs]
  rfl

/-- Reading all lines is reading those of the region, apart from the phase. -/
theorem foldl_step (h : Captured policy lines inside phase) :
    lines.foldl (·.step policy ·) {} = (inside.foldl (·.stepInside policy ·) opened).note
      fun d => { d with phase := phase } := by
  have hopen : ∀ start, Line.classify policy start = .startHeader →
      ({} : State).step policy start = opened := by
    intro start hstart
    simp only [step, hstart, if_true]
    rfl
  cases h with
  | missing hl =>
    rw [foldl_step_seeking rfl hl]
    rfl
  | opened hbefore hstart hregion =>
    rw [List.foldl_append, foldl_step_seeking rfl hbefore, List.foldl_cons, hopen _ hstart]
    have hopened : opened.reading.diagnostics.phase = .inOptions := rfl
    obtain ⟨hfold, hphase⟩ := foldl_step_inside hopened hregion
    rw [hfold, note_phase hphase]
  | @closed _ region after _ stop hbefore hstart hregion hstop =>
    rw [List.foldl_append, foldl_step_seeking rfl hbefore, List.foldl_cons, hopen _ hstart]
    have hopened : opened.reading.diagnostics.phase = .inOptions := rfl
    obtain ⟨hfold, hphase⟩ := foldl_step_inside hopened hregion
    have hclose : ∀ state : State, state.reading.diagnostics.phase = .inOptions →
        state.step policy stop = state.note fun d => { d with phase := .done } := by
      intro state hs
      simp only [step, hs, stepInside, hstop]
    rw [List.foldl_append, hfold, List.foldl_cons, hclose _ hphase, foldl_step_done rfl]

end Reading.State

/-- What is read from a help text is what is read from its region, apart from the phase. -/
theorem read_eq (policy : Policy) (help : Text) :
    ∃ phase, Captured policy (Text.lines help) (region policy help) phase ∧
      read policy help = (((region policy help).foldl (·.stepInside policy ·) State.opened).note
        fun d => { d with phase := phase }).finish := by
  obtain ⟨phase, hc⟩ := captured policy (Text.lines help)
  exact ⟨phase, hc, congrArg State.finish (State.foldl_step hc)⟩

end Synopsis.Help
