import Synopsis.Help.Report
import Synopsis.Proofs.Help.Table
import Synopsis.Proofs.Number.Binary64

/-!
# The account of a capture region

The diagnostics of a help text account for every line of its region: a line is relevant or not, and
a relevant line is recognized or unresolved. What a line counts as depends on the line and on the
command lines above it alone.

- `Reading.State.Accounts.step`, `Reading.State.Accounts.foldl`: the account of the lines so far.
- `coverage_le_one`: a coverage is at most one.
- `phase_read_eq_seeking`, `phase_read_eq_done`: where a reading ends.
- `read_diagnostics`: the diagnostics of a help text.
-/

namespace Synopsis.Help

open Reading

variable {policy : Policy} {help line : Text} {above lines : List Text}

/-! ## Kinds of lines -/

/-- The line is neither blank nor a header. -/
def isRelevant (policy : Policy) (line : Text) : Bool :=
  match Line.classify policy line with
  | .blank | .startHeader | .endHeader => false
  | _ => true

/-- The line tells nothing below this command: it has no meaning, or its flags are those of another
command. -/
def isUnresolved (policy : Policy) (latest : Option Text) (line : Text) : Bool :=
  match Line.classify policy line with
  | .other => true
  | .flagLine owner _ => latest ≠ some owner
  | _ => false

/-- The lines that tell nothing, when some other lines stand above them. -/
def unresolvedLines (policy : Policy) : List Text → List Text → List Text
  | _, [] => []
  | above, line :: lines =>
    (if isUnresolved policy (commandNames policy above).getLast? line then [line] else []) ++
      unresolvedLines policy (above ++ [line]) lines

theorem isRelevant_of_isUnresolved {latest : Option Text} (h : isUnresolved policy latest line) :
    isRelevant policy line = true := by
  unfold isUnresolved at h
  unfold isRelevant
  split at h <;> simp_all

theorem unresolvedLines_append (policy : Policy) (above lines more : List Text) :
    unresolvedLines policy above (lines ++ more) =
      unresolvedLines policy above lines ++ unresolvedLines policy (above ++ lines) more := by
  induction lines generalizing above with
  | nil => simp [unresolvedLines]
  | cons line lines ih => simp [unresolvedLines, ih]

theorem commandNames_append (policy : Policy) (lines more : List Text) :
    commandNames policy (lines ++ more) = commandNames policy lines ++ commandNames policy more :=
  List.filterMap_append

namespace Reading.State

variable {state : State}

/-! ## The account of a reading -/

/-- The latest command is that of the line, if it is a command line. -/
theorem latest_stepInside (state : State) (line : Text) : (state.stepInside policy line).latest =
    (commandNames policy [line]).getLast?.or state.latest := by
  cases hc : isCommandLine policy line with
  | true =>
    obtain ⟨name, hn⟩ := classify_of_isCommandLine hc
    have hnames : commandNames policy [line] = [name] := by simp [commandNames, hn]
    rw [(stepInside_command state name hn).1, hnames]
    rfl
  | false =>
    have hnames : commandNames policy [line] = [] := by
      refine List.eq_nil_iff_forall_not_mem.2 fun name hm => ?_
      obtain ⟨_, hl, hn⟩ := mem_commandNames.1 hm
      rw [List.mem_singleton.1 hl] at hn
      rw [isCommandLine_of_classify hn] at hc
      cases hc
    rw [(stepInside_of_not_command state [] hc).1, hnames]
    rfl

/-- What a line adds to the diagnostics. -/
theorem diagnostics_stepInside (state : State) (line : Text) :
    (state.stepInside policy line).reading.diagnostics =
      { relevant := state.reading.diagnostics.relevant + if isRelevant policy line then 1 else 0
        recognized := state.reading.diagnostics.recognized +
          if isRelevant policy line && !isUnresolved policy state.latest line then 1 else 0
        unresolved := (if isUnresolved policy state.latest line then [line] else []) ++
          state.reading.diagnostics.unresolved
        excluded := ((commandNames policy [line]).filter policy.excludes).reverse ++
          state.reading.diagnostics.excluded
        phase := if Line.classify policy line = .endHeader then .done
          else state.reading.diagnostics.phase } := by
  cases hc : Line.classify policy line with
  | startHeader | endHeader | blank | other =>
    simp [stepInside, hc, isRelevant, isUnresolved, commandNames, leaveOut, note]
  | command name =>
    cases he : policy.excludes name <;>
      simp [stepInside, hc, isRelevant, isUnresolved, commandNames, declare, note, he]
  | flagLine owner body =>
    by_cases ho : state.latest = some owner
    · cases he : policy.excludes owner <;>
        simp [stepInside, hc, isRelevant, isUnresolved, commandNames, addFlags, note, ho, he]
    · simp [stepInside, hc, isRelevant, isUnresolved, commandNames, addFlags, leaveOut, note, ho]

/-- The latest command and the diagnostics are those of the lines so far. -/
structure Accounts (policy : Policy) (above : List Text) (state : State) : Prop where
  latest : state.latest = (commandNames policy above).getLast?
  relevant : state.reading.diagnostics.relevant = above.countP (isRelevant policy)
  sum : state.reading.diagnostics.relevant =
    state.reading.diagnostics.recognized + state.reading.diagnostics.unresolved.length
  unresolved : state.reading.diagnostics.unresolved = (unresolvedLines policy [] above).reverse
  excluded : state.reading.diagnostics.excluded =
    ((commandNames policy above).filter policy.excludes).reverse

theorem accounts_opened (policy : Policy) : Accounts policy [] opened := by
  constructor <;> rfl

/-- One more line is accounted for. -/
theorem Accounts.step (h : Accounts policy above state) (line : Text) :
    Accounts policy (above ++ [line]) (state.stepInside policy line) where
  latest := by
    rw [latest_stepInside, commandNames_append, List.getLast?_append, h.latest]
  relevant := by
    rw [diagnostics_stepInside, List.countP_append, List.countP_singleton, h.relevant]
  sum := by
    rw [diagnostics_stepInside]
    show state.reading.diagnostics.relevant + _ = state.reading.diagnostics.recognized + _ + _
    rw [h.sum, List.length_append]
    cases hu : isUnresolved policy state.latest line with
    | true =>
      simp only [isRelevant_of_isUnresolved hu]
      simp
      omega
    | false =>
      simp
      omega
  unresolved := by
    have hone : unresolvedLines policy above [line] =
        if isUnresolved policy state.latest line then [line] else [] := by
      rw [unresolvedLines, ← h.latest, unresolvedLines, List.append_nil]
    have hreverse : (unresolvedLines policy above [line]).reverse =
        if isUnresolved policy state.latest line then [line] else [] := by
      rw [hone]
      split <;> rfl
    rw [diagnostics_stepInside, unresolvedLines_append, List.nil_append, List.reverse_append,
      hreverse, ← h.unresolved]
  excluded := by
    rw [diagnostics_stepInside, commandNames_append, List.filter_append, List.reverse_append,
      ← h.excluded]

/-- So are all lines of a region. -/
theorem Accounts.foldl (h : Accounts policy above state) (lines : List Text) :
    Accounts policy (above ++ lines) (lines.foldl (·.stepInside policy ·) state) := by
  induction lines generalizing above state with
  | nil => rwa [List.append_nil]
  | cons line lines ih =>
    rw [List.append_cons, List.foldl_cons]
    exact ih (h.step line)

end Reading.State

/-! ## Where a reading ends -/

/-- An end header stands below the region, which is the one of the first start header. -/
def IsClosed (policy : Policy) (help : Text) : Prop :=
  ∃ before start stop after,
    Text.lines help = before ++ start :: (region policy help ++ stop :: after) ∧
      (∀ line ∈ before, Line.classify policy line ≠ .startHeader) ∧
      Line.classify policy start = .startHeader ∧ Line.classify policy stop = .endHeader

theorem captured_read (policy : Policy) (help : Text) :
    Captured policy (Text.lines help) (region policy help)
      (read policy help).diagnostics.phase := by
  obtain ⟨phase, hc, hr⟩ := read_eq policy help
  rw [hr]
  exact hc

theorem phase_read_eq_seeking : (read policy help).diagnostics.phase = .seeking ↔
    ∀ line ∈ Text.lines help, Line.classify policy line ≠ .startHeader := by
  have hc := captured_read policy help
  generalize Text.lines help = lines, region policy help = inside,
    (read policy help).diagnostics.phase = phase at hc ⊢
  cases hc with
  | missing hnone => exact ⟨fun _ => hnone, fun _ => rfl⟩
  | opened _ hstart _ | closed _ hstart _ _ =>
    refine ⟨fun h => (by cases h), fun h => ?_⟩
    exact absurd hstart (h _ (by simp))

theorem phase_read_eq_done : (read policy help).diagnostics.phase = .done ↔
    IsClosed policy help := by
  have hc := captured_read policy help
  unfold IsClosed
  generalize Text.lines help = lines, region policy help = inside,
    (read policy help).diagnostics.phase = phase at hc ⊢
  cases hc with
  | missing hnone =>
    refine ⟨fun h => (by cases h), fun h => ?_⟩
    obtain ⟨before, start, stop, after, rfl, -, hstart, -⟩ := h
    exact absurd hstart (hnone _ (by simp))
  | @opened before _ start hbefore _ _ =>
    refine ⟨fun h => (by cases h), fun h => ?_⟩
    obtain ⟨front, first, stop, after, hlines, -, hfirst, -⟩ := h
    -- Behind the same region stands one line more, so the other start header comes earlier.
    have hlength := congrArg List.length hlines
    simp only [List.length_append, List.length_cons] at hlength
    rcases List.append_eq_append_iff.1 hlines with ⟨more, rfl, -⟩ | ⟨more, rfl, hm⟩
    · rw [List.length_append] at hlength
      omega
    · cases more with
      | nil =>
        rw [List.append_nil] at hlength
        omega
      | cons line more =>
        obtain ⟨rfl, -⟩ := List.cons.inj hm
        exact absurd hfirst (hbefore first (by simp))
  | closed hbefore hstart _ hstop =>
    exact ⟨fun _ => ⟨_, _, _, _, rfl, hbefore, hstart, hstop⟩, fun _ => rfl⟩

/-! ## The diagnostics -/

theorem accounts_read (policy : Policy) (help : Text) :
    State.Accounts policy (region policy help)
      ((region policy help).foldl (·.stepInside policy ·) State.opened) :=
  (State.accounts_opened policy).foldl (region policy help)

theorem relevant_read (policy : Policy) (help : Text) : (read policy help).diagnostics.relevant =
    (region policy help).countP (isRelevant policy) := by
  rw [diagnostics_read]
  exact (accounts_read policy help).relevant

/-- A relevant line is recognized or unresolved. -/
theorem relevant_eq_add (policy : Policy) (help : Text) : (read policy help).diagnostics.relevant =
    (read policy help).diagnostics.recognized +
      (read policy help).diagnostics.unresolved.length := by
  rw [diagnostics_read]
  show _ = _ + (List.reverse _).length
  rw [List.length_reverse]
  exact (accounts_read policy help).sum

theorem unresolved_read (policy : Policy) (help : Text) :
    (read policy help).diagnostics.unresolved =
      unresolvedLines policy [] (region policy help) := by
  rw [diagnostics_read]
  show List.reverse _ = _
  rw [(accounts_read policy help).unresolved, List.reverse_reverse]

theorem excluded_read (policy : Policy) (help : Text) : (read policy help).diagnostics.excluded =
    (commandNames policy (region policy help)).filter policy.excludes := by
  rw [diagnostics_read]
  show List.reverse _ = _
  rw [(accounts_read policy help).excluded, List.reverse_reverse]

/-- A coverage is at most one. -/
theorem coverage_le_one {diagnostics : Diagnostics}
    (h : diagnostics.recognized ≤ diagnostics.relevant) : diagnostics.coverage.value ≤ 1 := by
  unfold Diagnostics.coverage
  split
  · rw [Binary64.value_ofNat_zero]
    exact zero_le_one
  · next hr =>
    exact Binary64.value_div_le_one (Binary64.value_ofNat_pos hr) (Binary64.value_ofNat_mono h)

/-- The diagnostics of a help text account for every line of its region. The relevant lines are
those that are neither blank nor headers, and each is recognized or unresolved, so the coverage is a
number from zero to one. The unresolved lines are those without a meaning and the flag lines of
another command than the last one above, in their order; the excluded commands are those of the
command lines, in their order. The reading ends before the region if no line is a start header, and
after it if an end header closes the region. -/
theorem read_diagnostics (policy : Policy) (help : Text) :
    (read policy help).diagnostics.relevant =
      (region policy help).countP (isRelevant policy) ∧
    (read policy help).diagnostics.relevant = (read policy help).diagnostics.recognized +
      (read policy help).diagnostics.unresolved.length ∧
    0 ≤ (read policy help).diagnostics.coverage.value ∧
    (read policy help).diagnostics.coverage.value ≤ 1 ∧
    ((read policy help).diagnostics.relevant = 0 →
      (read policy help).diagnostics.coverage.value = 0) ∧
    (read policy help).diagnostics.unresolved =
      unresolvedLines policy [] (region policy help) ∧
    (read policy help).diagnostics.excluded =
      (commandNames policy (region policy help)).filter policy.excludes ∧
    ((read policy help).diagnostics.phase = .seeking ↔
      ∀ line ∈ Text.lines help, Line.classify policy line ≠ .startHeader) ∧
    ((read policy help).diagnostics.phase = .done ↔ IsClosed policy help) := by
  have hsum := relevant_eq_add policy help
  refine ⟨relevant_read policy help, hsum, Binary64.value_nonneg _, ?_, ?_,
    unresolved_read policy help, excluded_read policy help, phase_read_eq_seeking,
    phase_read_eq_done⟩
  · exact coverage_le_one (Nat.le.intro hsum.symm)
  · intro hnone
    rw [Diagnostics.coverage_of_relevant_eq_zero hnone, Binary64.value_ofNat_zero]

end Synopsis.Help
