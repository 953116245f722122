import Synopsis.Project.Sync
import Synopsis.Proofs.Files.Write

/-!
# Runs that succeed

What a step of a run does when it succeeds, in terms of the files and events before and after it.

- `Run.bind_eq_ok`: two steps succeed if both do, one after the other.
- `Run.write_eq_ok`: a step that writes a file stores it and tells nothing.
- `RenderedFile.Stored.spec`: a file that was stored is the only one that changes.
- `RenderedFile.Stored.again`: it can be stored again, and then nothing changes.
-/

namespace Synopsis

/-- Later files with the text of a rendered file stored, and the directories above it made. -/
def RenderedFile.Stored (rendered : RenderedFile) (files later : FileSystem) : Prop :=
  ∃ middle : FileSystem,
    (∀ parent, rendered.path.parent? = some parent →
      files.makeDirectories parent = (middle, .ok ())) ∧
    (rendered.path.parent? = none → middle = files) ∧
    middle.writeText rendered.path rendered.content = .ok later

/-- Later files with the directories above a rendered file made, if it is below any. -/
def RenderedFile.Prepared (rendered : RenderedFile) (files later : FileSystem) : Prop :=
  (∀ parent, rendered.path.parent? = some parent →
    files.makeDirectories parent = (later, .ok ())) ∧
  (rendered.path.parent? = none → later = files)

theorem RenderedFile.Prepared.keepsExcept {rendered : RenderedFile} {files later : FileSystem}
    (h : rendered.Prepared files later) : later.KeepsExcept files [] := by
  obtain ⟨hp, hn⟩ := h
  cases hr : rendered.path.parent? with
  | none =>
    rw [hn hr]
    exact .refl files
  | some parent =>
    have := FileSystem.keepsExcept_makeDirectories files parent
    rwa [hp parent hr] at this

namespace RenderedFile.Stored

variable {rendered : RenderedFile} {files later : FileSystem}

theorem spec (h : rendered.Stored files later) :
    ∃ location, later.locate rendered.path = some location ∧
      later.KeepsExcept files [location] ∧
      later.bytes? rendered.path = some (FileSystem.encode rendered.content) := by
  obtain ⟨middle, hp, hn, hw⟩ := h
  have made : rendered.Prepared files middle := ⟨hp, hn⟩
  obtain ⟨location, hl, hk, hb⟩ := FileSystem.writeText_spec hw
  exact ⟨location, hl, hk.trans made.keepsExcept, hb⟩

/-- What was stored can be stored again as long as it is there. -/
theorem again {last : FileSystem} {changed : List Location} (h : rendered.Stored files later)
    (hk : last.KeepsExcept later changed)
    (hb : last.bytes? rendered.path = some (FileSystem.encode rendered.content)) :
    rendered.Stored last last := by
  obtain ⟨middle, hp, -, hw⟩ := h
  refine ⟨last, fun parent hr => ?_, fun _ => rfl, FileSystem.writeText_again hw hk hb⟩
  obtain ⟨location, -, hk', -⟩ := FileSystem.writeText_spec hw
  refine FileSystem.makeDirectories_again ?_
  have found : parent.text = [] ∨ (files.makeDirectories parent).1.find parent = .ok .directory :=
    FileSystem.find_of_makeDirectories (by rw [hp parent hr])
  rw [hp parent hr] at found
  exact found.imp_right fun hf => (hk.trans hk').find_directory hf

end RenderedFile.Stored

namespace Run

variable {α β : Type} {before after : Progress}

/-! ## One step after the other -/

theorem run_bind (step : Run α) (next : α → Run β) (before : Progress) :
    (step >>= next).run before =
      match step.run before with
      | (.ok a, middle) => (next a).run middle
      | (.error error, middle) => (.error error, middle) := by
  rw [ExceptT.run_bind]
  show StateT.bind _ _ _ = _
  unfold StateT.bind
  show (match step.run before with | (a, s) => _) = _
  rcases step.run before with ⟨error | a, middle⟩ <;> rfl

theorem bind_eq_ok {step : Run α} {next : α → Run β} {b : β} :
    (step >>= next).run before = (.ok b, after) ↔
      ∃ a middle, step.run before = (.ok a, middle) ∧ (next a).run middle = (.ok b, after) := by
  rw [run_bind]
  rcases step.run before with ⟨error | a, middle⟩
  · constructor
    · intro h
      cases h
    · intro h'
      obtain ⟨a, last, h, -⟩ := h'
      cases h
  · constructor
    · intro h
      exact ⟨a, middle, rfl, h⟩
    · intro h'
      obtain ⟨a, last, h, hn⟩ := h'
      cases h
      exact hn

theorem pure_eq_ok {a b : α} :
    (pure a : Run α).run before = (.ok b, after) ↔ b = a ∧ after = before := by
  show (Except.ok a, before) = (.ok b, after) ↔ _
  simp [eq_comm]

theorem attempt_eq_ok {result : Except RunError α} {a : α} :
    (attempt result).run before = (.ok a, after) ↔ result = .ok a ∧ after = before := by
  cases result with
  | error error =>
    show (Except.error error, before) = (.ok a, after) ↔ _
    simp
  | ok value =>
    show (Except.ok value, before) = (.ok a, after) ↔ _
    simp [eq_comm]

theorem files_eq_ok {files : FileSystem} :
    Run.files.run before = (.ok files, after) ↔ files = before.files ∧ after = before := by
  show (Except.ok before.files, before) = (.ok files, after) ↔ _
  simp [eq_comm]

theorem tell_eq_ok {event : Event} {u : Unit} :
    (tell event).run before = (.ok u, after) ↔
      after = { before with events := before.events ++ [event] } := by
  show (Except.ok (), { before with events := before.events ++ [event] }) = (.ok u, after) ↔ _
  simp [eq_comm]

theorem setFiles_eq_ok {files : FileSystem} {u : Unit} :
    (setFiles files).run before = (.ok u, after) ↔ after = { before with files := files } := by
  show (Except.ok (), { before with files := files }) = (.ok u, after) ↔ _
  simp [eq_comm]

theorem mapM_cons_eq_ok {step : α → Run β} {a : α} {as : List α} {bs : List β} :
    ((a :: as).mapM step).run before = (.ok bs, after) ↔
      ∃ b middle rest, (step a).run before = (.ok b, middle) ∧
        (as.mapM step).run middle = (.ok rest, after) ∧ bs = b :: rest := by
  simp only [List.mapM_cons, bind_eq_ok, pure_eq_ok]
  constructor
  · intro h'
    obtain ⟨b, middle, hb, rest, last, hr, rfl, rfl⟩ := h'
    exact ⟨b, middle, rest, hb, hr, rfl⟩
  · intro h'
    obtain ⟨b, middle, rest, hb, hr, rfl⟩ := h'
    exact ⟨b, middle, hb, rest, after, hr, rfl, rfl⟩

/-! ## Writing -/

theorem makeDirectories_eq_ok {path : Path} {u : Unit} :
    (makeDirectories path).run before = (.ok u, after) ↔
      before.files.makeDirectories path = (after.files, .ok ()) ∧
        after.events = before.events := by
  unfold makeDirectories
  simp only [bind_eq_ok, files_eq_ok, setFiles_eq_ok, attempt_eq_ok]
  rcases hm : before.files.makeDirectories path with ⟨middle, error | ⟨⟩⟩
  · simp [hm, FileAction.attempt, Except.mapError]
  · rcases after with ⟨files, events⟩
    simp [hm, FileAction.attempt, Except.mapError, eq_comm]

theorem attempt_file_eq_ok {action : FileAction} {path : Path} {result : Except FileError α}
    {a : α} : action.attempt path result = .ok a ↔ result = .ok a := by
  cases result <;> simp [FileAction.attempt, Except.mapError]

theorem writeText_eq_ok {path : Path} {content : Text} {u : Unit} :
    (do setFiles (← attempt (FileAction.write.attempt path
      ((← Run.files).writeText path content))) : Run Unit).run before = (.ok u, after) ↔
      before.files.writeText path content = .ok after.files ∧ after.events = before.events := by
  simp only [bind_eq_ok, files_eq_ok, setFiles_eq_ok, attempt_eq_ok, attempt_file_eq_ok]
  constructor
  · intro h'
    obtain ⟨_, _, ⟨rfl, rfl⟩, files, _, ⟨hw, rfl⟩, rfl⟩ := h'
    exact ⟨hw, rfl⟩
  · intro h'
    obtain ⟨hw, he⟩ := h'
    refine ⟨_, _, ⟨rfl, rfl⟩, after.files, _, ⟨hw, rfl⟩, ?_⟩
    rw [← he]

/-- Writing a rendered file stores it and tells nothing. -/
theorem write_eq_ok {rendered : RenderedFile} {u : Unit} :
    (write rendered.path rendered.content).run before = (.ok u, after) ↔
      rendered.Stored before.files after.files ∧ after.events = before.events := by
  unfold write RenderedFile.Stored
  cases hr : rendered.path.parent? with
  | none =>
    refine writeText_eq_ok.trans ?_
    constructor
    · intro h'
      obtain ⟨hw, he⟩ := h'
      exact ⟨⟨before.files, fun _ h => (by cases h), fun _ => rfl, hw⟩, he⟩
    · intro h'
      obtain ⟨⟨middle, -, hn, hw⟩, he⟩ := h'
      rw [hn rfl] at hw
      exact ⟨hw, he⟩
  | some parent =>
    refine bind_eq_ok.trans ?_
    constructor
    · intro h'
      obtain ⟨_, middle, hm, h⟩ := h'
      obtain ⟨hm, hs⟩ := makeDirectories_eq_ok.1 hm
      obtain ⟨hw, he⟩ := writeText_eq_ok.1 h
      exact ⟨⟨middle.files, fun _ h => Option.some.inj h ▸ hm, fun h => (by cases h), hw⟩,
        he.trans hs⟩
    · intro h'
      obtain ⟨⟨middle, hp, -, hw⟩, he⟩ := h'
      exact ⟨(), ⟨middle, before.events⟩, makeDirectories_eq_ok.2 ⟨hp parent rfl, rfl⟩,
        writeText_eq_ok.2 ⟨hw, he⟩⟩

end Run

end Synopsis
