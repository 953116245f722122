import Synopsis.Proofs.Project.Run

/-!
# Synchronizations that succeed

A synchronization that succeeds has rendered and stored one script after the other, each from the
files as the earlier ones left them, and then the README unless it is missing or current. It has
told all of its events.

- `sync_eq_ok`: when a synchronization succeeds, and what it leaves and tells then.
-/

namespace Synopsis

namespace Project

open Run

variable {project : Project} {analysis : Analysis} {before after : Progress}

/-- The path of the script of a dialect. -/
def scriptPath (project : Project) (dialect : Dialect) : Path :=
  project.root.join (project.config.scripts.of dialect).output

/-- The scripts of some dialects, rendered and stored one after the other. -/
inductive Scripted (project : Project) (analysis : Analysis) :
    List Dialect → FileSystem → List RenderedFile → FileSystem → Prop
  | nil (files : FileSystem) : Scripted project analysis [] files [] files
  | cons {dialect : Dialect} {dialects : List Dialect} {files middle later : FileSystem}
      {rendered : RenderedFile} {rest : List RenderedFile} :
      project.renderScript files analysis dialect = .ok rendered →
      rendered.Stored files middle →
      Scripted project analysis dialects middle rest later →
      Scripted project analysis (dialect :: dialects) files (rendered :: rest) later

/-- The README as a synchronization leaves it, with the report on it. -/
inductive ReadmeSynced (project : Project) (analysis : Analysis) (files : FileSystem) :
    Option Bool → FileSystem → Prop
  | missing : project.renderReadme files analysis = .ok none →
      ReadmeSynced project analysis files none files
  | current {rendered : RenderedFile} :
      project.renderReadme files analysis = .ok (some rendered) →
      rendered.isCurrent files = true → ReadmeSynced project analysis files (some false) files
  | updated {rendered : RenderedFile} {later : FileSystem} :
      project.renderReadme files analysis = .ok (some rendered) →
      rendered.isCurrent files = false → rendered.Stored files later →
      ReadmeSynced project analysis files (some true) later

/-- The event that tells what becomes of the README. -/
def readmeEvent (project : Project) : Option Bool → Event
  | none => .readmeMissing project.readmePath
  | some false => .readmeUpToDate project.readmePath
  | some true => .updatingReadme project.readmePath

/-- The events of a synchronization that succeeds. -/
def eventsOf (project : Project) (analysis : Analysis) (readmeUpdated : Option Bool) : List Event :=
  .detectedCommands analysis.commands
    :: Dialect.all.map (fun dialect => .updatingScript dialect (project.scriptPath dialect))
    ++ [project.readmeEvent readmeUpdated, .finished]

/-! ## Paths -/

theorem renderScript_eq_ok {files : FileSystem} {dialect : Dialect} {rendered : RenderedFile} :
    project.renderScript files analysis dialect = .ok rendered ↔
      ∃ template, project.loadTemplate files (project.config.scripts.of dialect).template =
          .ok template ∧
        rendered = ⟨project.scriptPath dialect, Script.render dialect template
          (project.context analysis) (project.config.keysOf dialect)⟩ := by
  unfold renderScript
  rw [Synopsis.bind_eq_ok]
  simp [scriptPath, eq_comm]

theorem path_of_renderScript {files : FileSystem} {dialect : Dialect} {rendered : RenderedFile}
    (h : project.renderScript files analysis dialect = .ok rendered) :
    rendered.path = project.scriptPath dialect := by
  obtain ⟨template, -, rfl⟩ := renderScript_eq_ok.1 h
  rfl

theorem renderReadme_eq_ok {files : FileSystem} {readme : Option RenderedFile} :
    project.renderReadme files analysis = .ok readme ↔
      (files.has project.readmePath = false ∧ readme = none) ∨
      (files.has project.readmePath = true ∧ ∃ document content,
        files.readText project.readmePath = .ok document ∧
        project.replaceSections files (project.readmeBindings analysis)
          project.config.readme.sections document = .ok content ∧
        readme = some ⟨project.readmePath, content⟩) := by
  unfold renderReadme
  cases files.has project.readmePath with
  | false => simp [eq_comm]
  | true => simp [Synopsis.bind_eq_ok, attempt_file_eq_ok, @eq_comm _ readme]

theorem path_of_renderReadme {files : FileSystem} {rendered : RenderedFile}
    (h : project.renderReadme files analysis = .ok (some rendered)) :
    rendered.path = project.readmePath := by
  rcases renderReadme_eq_ok.1 h with ⟨-, hn⟩ | ⟨-, document, content, -, -, hs⟩
  · cases hn
  · cases hs
    rfl

/-! ## The steps of a synchronization -/

theorem syncScript_eq_ok {dialect : Dialect} {path : Path} :
    (project.syncScript analysis dialect).run before = (.ok path, after) ↔
      ∃ rendered, project.renderScript before.files analysis dialect = .ok rendered ∧
        rendered.Stored before.files after.files ∧ path = rendered.path ∧
        after.events = before.events ++ [.updatingScript dialect (project.scriptPath dialect)] := by
  unfold syncScript
  simp only [Run.bind_eq_ok, files_eq_ok, attempt_eq_ok, tell_eq_ok, write_eq_ok, pure_eq_ok]
  constructor
  · intro h'
    obtain ⟨_, _, ⟨rfl, rfl⟩, rendered, _, ⟨hr, rfl⟩, _, _, rfl, _, last, ⟨hs, he⟩, rfl, rfl⟩ := h'
    exact ⟨rendered, hr, hs, rfl, by rw [he, path_of_renderScript hr]⟩
  · intro h'
    obtain ⟨rendered, hr, hs, rfl, he⟩ := h'
    refine ⟨_, _, ⟨rfl, rfl⟩, rendered, _, ⟨hr, rfl⟩, (), _, rfl, (), after, ⟨hs, ?_⟩, rfl, rfl⟩
    rw [he, path_of_renderScript hr]

theorem syncScripts_eq_ok {dialects : List Dialect} {paths : List Path} :
    (dialects.mapM (project.syncScript analysis)).run before = (.ok paths, after) ↔
      ∃ rendered, project.Scripted analysis dialects before.files rendered after.files ∧
        paths = rendered.map RenderedFile.path ∧
        after.events = before.events ++
          dialects.map fun dialect => .updatingScript dialect (project.scriptPath dialect) := by
  induction dialects generalizing before paths with
  | nil =>
    rw [List.mapM_nil, pure_eq_ok]
    constructor
    · intro h'
      obtain ⟨rfl, rfl⟩ := h'
      exact ⟨[], .nil _, rfl, by simp⟩
    · intro h'
      obtain ⟨rendered, hs, rfl, he⟩ := h'
      rcases before with ⟨files, events⟩
      rcases after with ⟨last, told⟩
      cases hs
      simpa using he
  | cons dialect dialects ih =>
    rw [mapM_cons_eq_ok]
    constructor
    · intro h'
      obtain ⟨path, middle, rest, hd, hr, rfl⟩ := h'
      obtain ⟨rendered, hp, hs, rfl, he⟩ := syncScript_eq_ok.1 hd
      obtain ⟨others, ho, rfl, he'⟩ := ih.1 hr
      exact ⟨rendered :: others, .cons hp hs ho, rfl, by simp [he', he]⟩
    · intro h'
      obtain ⟨all, hs, rfl, he⟩ := h'
      cases hs with
      | cons hp hs ho =>
        next middle rendered others =>
        exact ⟨_, ⟨middle, _⟩, _, syncScript_eq_ok.2 ⟨rendered, hp, hs, rfl, rfl⟩,
          ih.2 ⟨others, ho, rfl, by simp [he]⟩, rfl⟩

theorem syncReadme_eq_ok {updated : Option Bool} :
    (project.syncReadme analysis).run before = (.ok updated, after) ↔
      project.ReadmeSynced analysis before.files updated after.files ∧
        after.events = before.events ++ [project.readmeEvent updated] := by
  unfold syncReadme
  simp only [Run.bind_eq_ok, files_eq_ok, attempt_eq_ok]
  constructor
  · intro h'
    obtain ⟨_, _, ⟨rfl, rfl⟩, readme, _, ⟨hr, rfl⟩, h⟩ := h'
    cases readme with
    | none =>
      simp only [Run.bind_eq_ok, tell_eq_ok, pure_eq_ok] at h
      obtain ⟨_, _, rfl, rfl, rfl⟩ := h
      exact ⟨.missing hr, rfl⟩
    | some rendered =>
      have hp := path_of_renderReadme hr
      simp only [Run.bind_eq_ok, files_eq_ok] at h
      obtain ⟨_, _, ⟨rfl, rfl⟩, h⟩ := h
      split at h
      · next hc =>
        simp only [Run.bind_eq_ok, tell_eq_ok, pure_eq_ok] at h
        obtain ⟨_, _, rfl, rfl, rfl⟩ := h
        exact ⟨.current hr hc, by simp [readmeEvent, hp]⟩
      · next hc =>
        simp only [Run.bind_eq_ok, tell_eq_ok, write_eq_ok, pure_eq_ok] at h
        obtain ⟨_, _, rfl, _, _, ⟨hs, he⟩, rfl, rfl⟩ := h
        exact ⟨.updated hr (Bool.eq_false_iff.2 hc) hs, by simp [readmeEvent, hp, he]⟩
  · rcases before with ⟨files, events⟩
    rcases after with ⟨last, told⟩
    intro h'
    obtain ⟨hs, he⟩ := h'
    cases he
    cases hs with
    | missing hr =>
      exact ⟨_, _, ⟨rfl, rfl⟩, none, _, ⟨hr, rfl⟩,
        Run.bind_eq_ok.2 ⟨(), _, tell_eq_ok.2 rfl, pure_eq_ok.2 ⟨rfl, rfl⟩⟩⟩
    | @current rendered hr hc =>
      refine ⟨_, _, ⟨rfl, rfl⟩, some rendered, _, ⟨hr, rfl⟩, ?_⟩
      refine Run.bind_eq_ok.2 ⟨_, _, files_eq_ok.2 ⟨rfl, rfl⟩, ?_⟩
      rw [if_pos hc, path_of_renderReadme hr]
      exact Run.bind_eq_ok.2 ⟨(), _, tell_eq_ok.2 rfl, pure_eq_ok.2 ⟨rfl, rfl⟩⟩
    | @updated rendered _ hr hc hs =>
      refine ⟨_, _, ⟨rfl, rfl⟩, some rendered, _, ⟨hr, rfl⟩, ?_⟩
      refine Run.bind_eq_ok.2 ⟨_, _, files_eq_ok.2 ⟨rfl, rfl⟩, ?_⟩
      rw [if_neg (by simp [hc])]
      refine Run.bind_eq_ok.2 ⟨(), _, tell_eq_ok.2 rfl, ?_⟩
      refine Run.bind_eq_ok.2 ⟨(), ⟨last, _⟩, write_eq_ok.2 ⟨hs, ?_⟩, pure_eq_ok.2 ⟨rfl, rfl⟩⟩
      rw [path_of_renderReadme hr]
      rfl

/-- When a synchronization succeeds, and what it leaves and tells then. -/
theorem sync_eq_ok {report : Report} :
    project.sync.run before = (.ok report, after) ↔
      ∃ analysis scripts middle, project.analyze before.files = .ok analysis ∧
        project.Scripted analysis Dialect.all before.files scripts middle ∧
        project.ReadmeSynced analysis middle report.readmeUpdated after.files ∧
        report.commands = analysis.commands ∧ report.scripts = scripts.map RenderedFile.path ∧
        after.events = before.events ++ project.eventsOf analysis report.readmeUpdated := by
  unfold sync
  simp only [Run.bind_eq_ok, files_eq_ok, attempt_eq_ok, tell_eq_ok, syncScripts_eq_ok,
    syncReadme_eq_ok, pure_eq_ok]
  constructor
  · intro h'
    obtain ⟨_, _, ⟨rfl, rfl⟩, analysis, _, ⟨ha, rfl⟩, _, _, rfl, _, middle,
      ⟨scripts, hs, rfl, he⟩, updated, last, ⟨hr, he'⟩, _, _, rfl, rfl, rfl⟩ := h'
    exact ⟨analysis, scripts, middle.files, ha, hs, hr, rfl, rfl, by simp [he', he, eventsOf]⟩
  · intro h'
    obtain ⟨analysis, scripts, middle, ha, hs, hr, hc, hp, he⟩ := h'
    rcases report with ⟨commands, paths, updated⟩
    rcases after with ⟨last, told⟩
    cases hc
    cases hp
    cases he
    let detected := before.events ++ [.detectedCommands analysis.commands]
    let written := detected ++
      Dialect.all.map fun dialect => .updatingScript dialect (project.scriptPath dialect)
    refine ⟨_, _, ⟨rfl, rfl⟩, analysis, _, ⟨ha, rfl⟩, (), ⟨before.files, detected⟩, rfl, _,
      ⟨middle, written⟩, ⟨scripts, hs, rfl, rfl⟩, updated,
      ⟨last, written ++ [project.readmeEvent updated]⟩, ⟨hr, rfl⟩, (), _, rfl, rfl, ?_⟩
    simp [eventsOf, written, detected]

end Project

end Synopsis
