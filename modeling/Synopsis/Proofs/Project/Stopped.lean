import Synopsis.Proofs.Project.Inputs

/-!
# Synchronizations that stop

A step that stops leaves what the steps before it have done. Storing a file stops before its text
is written, so at most directories have been made then. A synchronization stops at the analysis,
or at the first output that cannot be rendered or stored.

- `Run.bind_eq_error`: two steps stop if the first one does, or the second one after it.
- `Run.write_eq_error`: a step that writes a file stops if it cannot be stored, and tells nothing.
- `sync_eq_error`: when a synchronization stops, and what it leaves and tells then.
-/

namespace Synopsis

/-! ## Files that cannot be stored -/

namespace RenderedFile

variable {rendered : RenderedFile} {files later : FileSystem} {error : RunError}

/-- A rendered file that cannot be stored, with the files that the attempt leaves. Either not all
directories above it can be made, or they are there and its text cannot be written. -/
inductive Refused (rendered : RenderedFile) (files : FileSystem) : RunError → FileSystem → Prop
  | directory {parent : Path} {cause : FileError} {later : FileSystem} :
      rendered.path.parent? = some parent →
      files.makeDirectories parent = (later, .error cause) →
      Refused rendered files (.file .createDirectory parent cause) later
  | text {cause : FileError} {later : FileSystem} :
      rendered.Prepared files later →
      later.writeText rendered.path rendered.content = .error cause →
      Refused rendered files (.file .write rendered.path cause) later

theorem Refused.keepsExcept (h : rendered.Refused files error later) :
    later.KeepsExcept files [] := by
  cases h with
  | @directory parent cause _ hp hm =>
    have := FileSystem.keepsExcept_makeDirectories files parent
    rwa [hm] at this
  | text hp => exact hp.keepsExcept

end RenderedFile

namespace Run

variable {α β : Type} {before after : Progress} {error : RunError}

/-! ## One step after the other -/

theorem bind_eq_error {step : Run α} {next : α → Run β} :
    (step >>= next).run before = (.error error, after) ↔
      step.run before = (.error error, after) ∨
      ∃ a middle, step.run before = (.ok a, middle) ∧
        (next a).run middle = (.error error, after) := by
  rw [run_bind]
  rcases step.run before with ⟨cause | a, middle⟩
  · constructor
    · intro h
      cases h
      exact Or.inl rfl
    · rintro (h | ⟨a, last, h, -⟩)
      · cases h
        rfl
      · cases h
  · constructor
    · intro h
      exact Or.inr ⟨a, middle, rfl, h⟩
    · rintro (h | ⟨a, last, h, hn⟩)
      · cases h
      · cases h
        exact hn

theorem pure_ne_error {a : α} : (pure a : Run α).run before ≠ (.error error, after) := by
  show (Except.ok a, before) ≠ (.error error, after)
  simp

theorem attempt_eq_error {result : Except RunError α} :
    (attempt result).run before = (.error error, after) ↔
      result = .error error ∧ after = before := by
  cases result with
  | error cause =>
    show (Except.error cause, before) = (.error error, after) ↔ _
    simp [eq_comm]
  | ok value =>
    show (Except.ok value, before) = (.error error, after) ↔ _
    simp

theorem files_ne_error : Run.files.run before ≠ (.error error, after) := by
  show (Except.ok before.files, before) ≠ (.error error, after)
  simp

theorem tell_ne_error {event : Event} : (tell event).run before ≠ (.error error, after) := by
  show (Except.ok (), { before with events := before.events ++ [event] }) ≠ (.error error, after)
  simp

theorem setFiles_ne_error {files : FileSystem} :
    (setFiles files).run before ≠ (.error error, after) := by
  show (Except.ok (), { before with files := files }) ≠ (.error error, after)
  simp

theorem mapM_cons_eq_error {step : α → Run β} {a : α} {as : List α} :
    ((a :: as).mapM step).run before = (.error error, after) ↔
      (step a).run before = (.error error, after) ∨
      ∃ b middle, (step a).run before = (.ok b, middle) ∧
        (as.mapM step).run middle = (.error error, after) := by
  simp only [List.mapM_cons, bind_eq_error, pure_ne_error, and_false, exists_false, or_false]

/-! ## Writing -/

theorem attempt_file_eq_error {action : FileAction} {path : Path} {result : Except FileError α} :
    action.attempt path result = .error error ↔
      ∃ cause, result = .error cause ∧ error = .file action path cause := by
  cases result <;> simp [FileAction.attempt, Except.mapError, eq_comm]

theorem makeDirectories_eq_error {path : Path} :
    (makeDirectories path).run before = (.error error, after) ↔
      ∃ cause, before.files.makeDirectories path = (after.files, .error cause) ∧
        error = .file .createDirectory path cause ∧ after.events = before.events := by
  unfold makeDirectories
  simp only [bind_eq_error, files_eq_ok, files_ne_error, setFiles_eq_ok, setFiles_ne_error,
    attempt_eq_error, attempt_file_eq_error]
  rcases hm : before.files.makeDirectories path with ⟨middle, cause | ⟨⟩⟩
  · rcases after with ⟨files, events⟩
    simp [hm, eq_comm, and_left_comm]
  · simp [hm]

theorem writeText_eq_error {path : Path} {content : Text} :
    (do setFiles (← attempt (FileAction.write.attempt path
      ((← Run.files).writeText path content))) : Run Unit).run before = (.error error, after) ↔
      ∃ cause, before.files.writeText path content = .error cause ∧
        error = .file .write path cause ∧ after = before := by
  simp only [bind_eq_error, files_eq_ok, files_ne_error, setFiles_ne_error, attempt_eq_error,
    attempt_file_eq_error, false_or, and_false, exists_false, or_false]
  constructor
  · intro h'
    obtain ⟨_, _, ⟨rfl, rfl⟩, ⟨cause, hw, rfl⟩, rfl⟩ := h'
    exact ⟨cause, hw, rfl, rfl⟩
  · intro h'
    obtain ⟨cause, hw, rfl, rfl⟩ := h'
    exact ⟨_, _, ⟨rfl, rfl⟩, ⟨cause, hw, rfl⟩, rfl⟩

/-- Writing a rendered file stops if it cannot be stored, and tells nothing. -/
theorem write_eq_error {rendered : RenderedFile} :
    (write rendered.path rendered.content).run before = (.error error, after) ↔
      rendered.Refused before.files error after.files ∧ after.events = before.events := by
  rcases before with ⟨files, events⟩
  rcases after with ⟨later, told⟩
  unfold write
  cases hr : rendered.path.parent? with
  | none =>
    refine writeText_eq_error.trans ?_
    constructor
    · intro h'
      obtain ⟨cause, hw, rfl, he⟩ := h'
      cases he
      exact ⟨.text ⟨fun _ h => by simp [hr] at h, fun _ => rfl⟩ hw, rfl⟩
    · rintro ⟨h, rfl⟩
      cases h with
      | directory hp => simp [hr] at hp
      | @text cause _ hp hw =>
        cases hp.2 hr
        exact ⟨cause, hw, rfl, rfl⟩
  | some parent =>
    refine bind_eq_error.trans ?_
    constructor
    · rintro (h | ⟨_, ⟨middle, between⟩, hm, h⟩)
      · obtain ⟨cause, hm, rfl, he⟩ := makeDirectories_eq_error.1 h
        exact ⟨.directory hr hm, he⟩
      · obtain ⟨hm, hs⟩ := makeDirectories_eq_ok.1 hm
        obtain ⟨cause, hw, rfl, he⟩ := writeText_eq_error.1 h
        cases he
        refine ⟨.text ⟨fun _ hp => ?_, fun hn => by simp [hr] at hn⟩ hw, hs⟩
        rw [hr] at hp
        exact Option.some.inj hp ▸ hm
    · rintro ⟨h, rfl⟩
      cases h with
      | @directory _ cause _ hp hm =>
        rw [hr] at hp
        cases hp
        exact Or.inl (makeDirectories_eq_error.2 ⟨cause, hm, rfl, rfl⟩)
      | @text cause _ hp hw =>
        exact Or.inr ⟨(), ⟨later, told⟩, makeDirectories_eq_ok.2 ⟨hp.1 parent hr, rfl⟩,
          writeText_eq_error.2 ⟨cause, hw, rfl, rfl⟩⟩

end Run

/-! ## The outputs of a synchronization -/

/-- A file that a synchronization writes. -/
inductive Output where
  | script (dialect : Dialect)
  | readme

/-- The outputs in the order in which they are written. -/
def Output.all : List Output := Dialect.all.map .script ++ [.readme]

/-- After the scripts of some dialects comes the next script, or the README if they were all. -/
theorem Output.next_cases {done : List Dialect} {next : Output} {left : List Output}
    (h : Output.all = done.map .script ++ next :: left) :
    (∃ dialect rest, next = .script dialect ∧ Dialect.all = done ++ dialect :: rest) ∨
      (next = .readme ∧ done = Dialect.all) := by
  have inj : Function.Injective Output.script := fun _ _ => Output.script.inj
  rcases List.append_eq_append_iff.1 h with ⟨others, hd, hr⟩ | ⟨scripts, hd, hr⟩
  · cases others with
    | nil =>
      cases hr
      rw [List.append_nil] at hd
      exact Or.inr ⟨rfl, inj.list_map hd⟩
    | cons other others => simp at hr
  · cases scripts with
    | nil =>
      cases hr
      rw [List.append_nil] at hd
      exact Or.inr ⟨rfl, (inj.list_map hd).symm⟩
    | cons script scripts =>
      cases hr
      obtain ⟨front, back, hall, hf, hb⟩ := List.map_eq_append_iff.1 hd
      obtain rfl := inj.list_map hf
      obtain ⟨dialect, rest, rfl, rfl, -⟩ := List.map_eq_cons_iff.1 hb
      exact Or.inl ⟨dialect, rest, rfl, hall⟩

namespace Project

open Run

variable {project : Project} {analysis : Analysis} {before after : Progress} {error : RunError}

/-- The event that announces an output before it is written. -/
def announcement (project : Project) : Output → Event
  | .script dialect => .updatingScript dialect (project.scriptPath dialect)
  | .readme => .updatingReadme project.readmePath

/-- The output as it should be. A README that is missing is none. -/
def renderOutput (project : Project) (files : FileSystem) (analysis : Analysis) :
    Output → Except RunError (Option RenderedFile)
  | .script dialect => some <$> project.renderScript files analysis dialect
  | .readme => project.renderReadme files analysis

/-- An output that cannot be brought up to date, with the outputs announced for it and the files
that it leaves. It cannot be rendered, or it is announced and cannot be stored. -/
inductive StopsAt (project : Project) (analysis : Analysis) (output : Output)
    (files : FileSystem) : RunError → List Output → FileSystem → Prop
  | unrendered {error : RunError} :
      project.renderOutput files analysis output = .error error →
      StopsAt project analysis output files error [] files
  | refused {rendered : RenderedFile} {error : RunError} {later : FileSystem} :
      project.renderOutput files analysis output = .ok (some rendered) →
      (output = .readme → rendered.isCurrent files = false) →
      rendered.Refused files error later →
      StopsAt project analysis output files error [output] later

/-! ## The steps of a synchronization -/

theorem syncScript_eq_error {dialect : Dialect} :
    (project.syncScript analysis dialect).run before = (.error error, after) ↔
      ∃ announced, project.StopsAt analysis (.script dialect) before.files error announced
          after.files ∧
        after.events = before.events ++ announced.map project.announcement := by
  unfold syncScript
  simp only [Run.bind_eq_error, files_eq_ok, files_ne_error, attempt_eq_error, attempt_eq_ok,
    tell_eq_ok, tell_ne_error, write_eq_error, pure_ne_error, false_or, and_false, exists_false,
    or_false]
  constructor
  · intro h'
    obtain ⟨_, _, ⟨rfl, rfl⟩, ⟨hr, rfl⟩ | ⟨rendered, _, ⟨hr, rfl⟩, _, _, rfl, hs, he⟩⟩ := h'
    · exact ⟨[], .unrendered (map_eq_error.2 hr), by simp⟩
    · refine ⟨[.script dialect], .refused (map_eq_ok.2 ⟨rendered, hr, rfl⟩) (by simp) hs, ?_⟩
      rw [he, path_of_renderScript hr]
      rfl
  · rcases before with ⟨files, events⟩
    rcases after with ⟨later, told⟩
    rintro ⟨announced, hs, rfl⟩
    cases hs with
    | unrendered hr =>
      exact ⟨_, _, ⟨rfl, rfl⟩, Or.inl ⟨map_eq_error.1 hr, by simp⟩⟩
    | refused hr _ hs =>
      obtain ⟨rendered, hr, he⟩ := map_eq_ok.1 hr
      cases he
      refine ⟨_, _, ⟨rfl, rfl⟩, Or.inr ⟨_, _, ⟨hr, rfl⟩, (), _, rfl, hs, ?_⟩⟩
      rw [path_of_renderScript hr]
      rfl

theorem syncScripts_eq_error {dialects : List Dialect} :
    (dialects.mapM (project.syncScript analysis)).run before = (.error error, after) ↔
      ∃ done next left scripts middle announced, dialects = done ++ next :: left ∧
        project.Scripted analysis done before.files scripts middle ∧
        project.StopsAt analysis (.script next) middle error announced after.files ∧
        after.events = before.events ++
          (done.map Output.script ++ announced).map project.announcement := by
  induction dialects generalizing before with
  | nil =>
    rw [List.mapM_nil]
    refine iff_of_false pure_ne_error ?_
    simp
  | cons dialect dialects ih =>
    rw [mapM_cons_eq_error, syncScript_eq_error]
    constructor
    · rintro (⟨announced, hs, he⟩ | ⟨path, middle, hd, hr⟩)
      · exact ⟨[], dialect, dialects, [], _, announced, rfl, .nil _, hs, he⟩
      · obtain ⟨rendered, hp, hs, -, he⟩ := syncScript_eq_ok.1 hd
        obtain ⟨done, next, left, scripts, last, announced, rfl, hsc, ha, he'⟩ := ih.1 hr
        refine ⟨dialect :: done, next, left, rendered :: scripts, last, announced, rfl,
          .cons hp hs hsc, ha, ?_⟩
        rw [he', he, List.append_assoc]
        rfl
    · rintro ⟨done, next, left, scripts, last, announced, hd, hsc, ha, he⟩
      cases hsc with
      | nil =>
        cases hd
        exact Or.inl ⟨announced, ha, he⟩
      | @cons _ done _ middle _ rendered scripts hp hs hsc =>
        cases hd
        refine Or.inr ⟨_, ⟨middle, _⟩, syncScript_eq_ok.2 ⟨rendered, hp, hs, rfl, rfl⟩, ih.2
          ⟨done, next, left, scripts, last, announced, rfl, hsc, ha, ?_⟩⟩
        rw [he, List.append_assoc]
        rfl

theorem syncReadme_eq_error :
    (project.syncReadme analysis).run before = (.error error, after) ↔
      ∃ announced, project.StopsAt analysis .readme before.files error announced after.files ∧
        after.events = before.events ++ announced.map project.announcement := by
  unfold syncReadme
  simp only [Run.bind_eq_error, files_eq_ok, files_ne_error, attempt_eq_error, attempt_eq_ok,
    false_or]
  constructor
  · intro h'
    obtain ⟨_, _, ⟨rfl, rfl⟩, ⟨hr, rfl⟩ | ⟨readme, _, ⟨hr, rfl⟩, h⟩⟩ := h'
    · exact ⟨[], .unrendered hr, by simp⟩
    · cases readme with
      | none =>
        simp only [Run.bind_eq_error, tell_ne_error, pure_ne_error, and_false, exists_false,
          or_false] at h
      | some rendered =>
        simp only [Run.bind_eq_error, files_eq_ok, files_ne_error, false_or] at h
        obtain ⟨_, _, ⟨rfl, rfl⟩, h⟩ := h
        split at h
        · simp only [Run.bind_eq_error, tell_ne_error, pure_ne_error, and_false, exists_false,
            or_false] at h
        · next hc =>
          simp only [Run.bind_eq_error, tell_eq_ok, tell_ne_error, write_eq_error, pure_ne_error,
            false_or, and_false, exists_false, or_false] at h
          obtain ⟨_, _, rfl, hs, he⟩ := h
          refine ⟨[.readme], .refused hr (fun _ => Bool.eq_false_iff.2 hc) hs, ?_⟩
          rw [he, path_of_renderReadme hr]
          rfl
  · rcases before with ⟨files, events⟩
    rcases after with ⟨later, told⟩
    rintro ⟨announced, hs, rfl⟩
    cases hs with
    | unrendered hr => exact ⟨_, _, ⟨rfl, rfl⟩, Or.inl ⟨hr, by simp⟩⟩
    | @refused rendered _ _ hr hc hs =>
      refine ⟨_, _, ⟨rfl, rfl⟩, Or.inr ⟨some rendered, _, ⟨hr, rfl⟩, ?_⟩⟩
      refine Run.bind_eq_error.2 (Or.inr ⟨_, _, files_eq_ok.2 ⟨rfl, rfl⟩, ?_⟩)
      rw [if_neg (by simp [hc rfl])]
      refine Run.bind_eq_error.2 (Or.inr ⟨(), _, tell_eq_ok.2 rfl, ?_⟩)
      refine Run.bind_eq_error.2 (Or.inl (write_eq_error.2 ⟨hs, ?_⟩))
      rw [path_of_renderReadme hr]
      rfl

/-! ## The whole synchronization -/

/-- The events of a synchronization up to the announcement of these outputs. -/
def eventsUpTo (project : Project) (analysis : Analysis) (outputs : List Output) : List Event :=
  .detectedCommands analysis.commands :: outputs.map project.announcement

/-- When a synchronization stops, and what it leaves and tells then. -/
theorem sync_eq_error :
    project.sync.run before = (.error error, after) ↔
      (project.analyze before.files = .error error ∧ after = before) ∨
      ∃ analysis done next left scripts middle announced,
        project.analyze before.files = .ok analysis ∧
        Output.all = done.map .script ++ next :: left ∧
        project.Scripted analysis done before.files scripts middle ∧
        project.StopsAt analysis next middle error announced after.files ∧
        after.events =
          before.events ++ project.eventsUpTo analysis (done.map .script ++ announced) := by
  unfold sync
  simp only [Run.bind_eq_error, files_eq_ok, files_ne_error, attempt_eq_error, attempt_eq_ok,
    tell_eq_ok, tell_ne_error, syncScripts_eq_ok, syncScripts_eq_error, syncReadme_eq_error,
    pure_ne_error, false_or, and_false, exists_false, or_false]
  constructor
  · intro h'
    obtain ⟨_, _, ⟨rfl, rfl⟩, ⟨ha, rfl⟩ | ⟨analysis, _, ⟨ha, rfl⟩, _, _, rfl, h⟩⟩ := h'
    · exact Or.inl ⟨ha, rfl⟩
    · rcases h with ⟨done, next, left, scripts, middle, announced, hd, hs, hst, he⟩ |
        ⟨_, middle, ⟨scripts, hs, -, hm⟩, announced, hst, he⟩
      · refine Or.inr ⟨analysis, done, .script next, left.map .script ++ [.readme], scripts, middle,
          announced, ha, by simp [Output.all, hd], hs, hst, ?_⟩
        rw [he, List.append_assoc]
        rfl
      · refine Or.inr ⟨analysis, Dialect.all, .readme, [], scripts, middle.files, announced, ha,
          rfl, hs, hst, ?_⟩
        rw [he, hm]
        simp [eventsUpTo, announcement]
  · rcases before with ⟨files, events⟩
    rcases after with ⟨last, told⟩
    rintro (⟨ha, he⟩ | ⟨analysis, done, next, left, scripts, middle, announced, ha, hd, hs, hst,
      rfl⟩)
    · exact ⟨_, _, ⟨rfl, rfl⟩, Or.inl ⟨ha, he⟩⟩
    · refine ⟨_, _, ⟨rfl, rfl⟩, Or.inr ⟨analysis, _, ⟨ha, rfl⟩, (), _, rfl, ?_⟩⟩
      rcases Output.next_cases hd with ⟨dialect, rest, rfl, hall⟩ | ⟨rfl, rfl⟩
      · refine Or.inl ⟨done, dialect, rest, scripts, middle, announced, hall, hs, hst, ?_⟩
        simp [eventsUpTo]
      · refine Or.inr ⟨_, ⟨middle, _⟩, ⟨scripts, hs, rfl, rfl⟩, announced, hst, ?_⟩
        simp [eventsUpTo, announcement]

end Project

end Synopsis
