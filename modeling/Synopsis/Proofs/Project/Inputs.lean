import Synopsis.Proofs.Project.Sync

/-!
# What a rendering depends on

A synchronization reads the source and the templates, and besides them only the README. Two file
systems that agree on these files give the same scripts and the same README.

- `analyze_congr`, `renderScript_congr`: analysis and scripts depend on the inputs alone.
- `replaceSections_eq_ok`: the sections are replaced once all of their templates are loaded.
- `renderReadme_of_keepsExcept`: what a later file system renders, an earlier one renders too.
-/

namespace Synopsis

open FileSystem

theorem FileSystem.has_eq_true {files : FileSystem} {path : Path} :
    files.has path = true ↔ ∃ entry, files.find path = .ok entry := by
  unfold has
  cases files.find path <;> simp [Except.isOk, Except.toBool]

theorem FileSystem.has_of_readText {files : FileSystem} {path : Path} {text : Text}
    (h : files.readText path = .ok text) : files.has path = true :=
  has_eq_true.2 ⟨_, bytes?_eq_some.1 (readText_eq_ok.1 h)⟩

theorem RenderedFile.isCurrent_eq_true {rendered : RenderedFile} {files : FileSystem} :
    rendered.isCurrent files = true ↔
      files.bytes? rendered.path = some (encode rendered.content) := by
  rw [← readText_eq_ok]
  unfold isCurrent
  cases files.readText rendered.path <;> simp

namespace Project

variable {project : Project} {files later : FileSystem} {analysis : Analysis}

/-- The path of a template. -/
def templatePath (project : Project) (template : Path) : Path :=
  project.config.templatePath project.root template

/-- The path of the source. -/
def sourcePath (project : Project) : Path := project.root.join project.config.source.path

/-- The templates of the scripts and of the README's sections. -/
def templates (project : Project) : List Path :=
  Dialect.all.map (fun dialect => (project.config.scripts.of dialect).template)
    ++ project.config.readme.sections.map SectionConfig.template

/-- The paths of the files that are only read: the source and the templates. -/
def inputs (project : Project) : List Path :=
  project.sourcePath :: project.templates.map project.templatePath

/-- The paths of the files that are written, in the order in which they are: the scripts and the
README. -/
def outputs (project : Project) : List Path :=
  Dialect.all.map project.scriptPath ++ [project.readmePath]

/-- The inputs hold the same bytes. -/
def SameInputs (project : Project) (later files : FileSystem) : Prop :=
  ∀ path ∈ project.inputs, later.bytes? path = files.bytes? path

theorem SameInputs.symm (h : project.SameInputs later files) : project.SameInputs files later :=
  fun path hp => (h path hp).symm

/-! ## The analysis -/

theorem readHelp_eq_ok {help : Text} : project.readHelp files = .ok help ↔
    ∃ source, files.readText project.sourcePath = .ok source ∧
      Help.extract project.config.source.name source = some help := by
  unfold readHelp
  simp only [bind_eq_ok, Run.attempt_file_eq_ok]
  refine exists_congr fun source => and_congr_right fun _ => ?_
  cases Help.extract project.config.source.name source <;> simp

theorem analyze_eq_ok : project.analyze files = .ok analysis ↔
    ∃ help, project.readHelp files = .ok help ∧ project.config.analyze help = analysis := map_eq_ok

theorem analyze_congr (h : project.SameInputs later files)
    (ha : project.analyze files = .ok analysis) : project.analyze later = .ok analysis := by
  obtain ⟨help, hh, he⟩ := analyze_eq_ok.1 ha
  obtain ⟨source, hs, hx⟩ := readHelp_eq_ok.1 hh
  have hs' := readText_congr (h project.sourcePath List.mem_cons_self) hs
  exact analyze_eq_ok.2 ⟨help, readHelp_eq_ok.2 ⟨source, hs', hx⟩, he⟩

/-! ## Templates -/

theorem isFile_of_readText {path : Path} {text : Text} (h : files.readText path = .ok text) :
    files.isFile path = true := by
  unfold isFile
  rw [bytes?_eq_some.1 (readText_eq_ok.1 h)]

theorem loadTemplate_eq_ok {name : Path} {template : Template} :
    project.loadTemplate files name = .ok template ↔
      ∃ text, files.readText (project.templatePath name) = .ok text ∧
        Template.parse text = template := by
  unfold loadTemplate
  constructor
  · intro h
    dsimp only at h
    split at h
    · obtain ⟨text, ht, hp⟩ := map_eq_ok.1 h
      exact ⟨text, Run.attempt_file_eq_ok.1 ht, hp⟩
    · cases h
  · intro h'
    obtain ⟨text, ht, hp⟩ := h'
    exact (if_pos (isFile_of_readText ht)).trans
      (map_eq_ok.2 ⟨text, Run.attempt_file_eq_ok.2 ht, hp⟩)

theorem loadTemplate_congr (h : project.SameInputs later files) {name : Path}
    (hn : name ∈ project.templates) {template : Template}
    (ht : project.loadTemplate files name = .ok template) :
    project.loadTemplate later name = .ok template := by
  obtain ⟨text, hr, hp⟩ := loadTemplate_eq_ok.1 ht
  have hb := h _ (List.mem_cons_of_mem _ (List.mem_map_of_mem hn))
  exact loadTemplate_eq_ok.2 ⟨text, readText_congr hb hr, hp⟩

theorem renderScript_congr (h : project.SameInputs later files) {dialect : Dialect}
    {rendered : RenderedFile} (hr : project.renderScript files analysis dialect = .ok rendered) :
    project.renderScript later analysis dialect = .ok rendered := by
  obtain ⟨template, ht, he⟩ := renderScript_eq_ok.1 hr
  have hm : (project.config.scripts.of dialect).template ∈ project.templates :=
    List.mem_append_left _ (List.mem_map_of_mem (Dialect.mem_all dialect))
  exact renderScript_eq_ok.2 ⟨template, loadTemplate_congr h hm ht, he⟩

/-! ## The README -/

/-- A document with each section replaced by the text of its template, one after the other. -/
def replaceAll (bindings : Bindings) (sections : List (SectionConfig × Template))
    (document : Text) : Text :=
  sections.foldl (fun document (config, template) =>
    Readme.replaceSection config.markers (template.render bindings) document) document

/-- The templates of some sections, loaded. -/
def Loaded (project : Project) (files : FileSystem) (configs : List SectionConfig)
    (templates : List Template) : Prop :=
  List.Forall₂ (fun config template => project.loadTemplate files config.template = .ok template)
    configs templates

theorem replaceSections_eq_ok {bindings : Bindings} {configs : List SectionConfig}
    {document content : Text} :
    project.replaceSections files bindings configs document = .ok content ↔
      ∃ templates, project.Loaded files configs templates ∧
        replaceAll bindings (configs.zip templates) document = content := by
  unfold Loaded
  induction configs generalizing document with
  | nil => simp [replaceSections, replaceAll]
  | cons config configs ih =>
    simp only [replaceSections, bind_eq_ok, ih, List.forall₂_cons_left_iff]
    constructor
    · intro h'
      obtain ⟨template, ht, templates, hts, rfl⟩ := h'
      exact ⟨template :: templates, ⟨template, templates, ht, hts, rfl⟩, rfl⟩
    · intro h'
      obtain ⟨_, ⟨template, templates, ht, hts, rfl⟩, rfl⟩ := h'
      exact ⟨template, ht, templates, hts, rfl⟩

theorem Loaded.congr (h : project.SameInputs later files) {templates : List Template}
    (hl : project.Loaded files project.config.readme.sections templates) :
    project.Loaded later project.config.readme.sections templates := by
  refine (List.forall₂_iff_zip.2 ⟨hl.length_eq, fun {config template} hm => ?_⟩)
  refine loadTemplate_congr h ?_ ((List.forall₂_iff_zip.1 hl).2 hm)
  exact List.mem_append_right _ (List.mem_map_of_mem (List.of_mem_zip hm).1)

/-- The README of a file system that has one. -/
theorem renderReadme_of_loaded {templates : List Template} {document : Text}
    (hd : files.readText project.readmePath = .ok document)
    (hl : project.Loaded files project.config.readme.sections templates) :
    project.renderReadme files analysis = .ok (some ⟨project.readmePath,
      replaceAll (project.readmeBindings analysis)
        (project.config.readme.sections.zip templates) document⟩) :=
  renderReadme_eq_ok.2 (Or.inr ⟨has_of_readText hd, document, _, hd,
    replaceSections_eq_ok.2 ⟨templates, hl, rfl⟩, rfl⟩)

/-- What a later file system renders, an earlier one renders too, if neither the inputs nor the
README are among the files that have changed. -/
theorem renderReadme_of_keepsExcept {changed : List Location} {location : Location}
    {readme : Option RenderedFile} (hk : later.KeepsExcept files changed)
    (hs : project.SameInputs later files) (hl : files.locate project.readmePath = some location)
    (hn : location ∉ changed) (hr : project.renderReadme later analysis = .ok readme) :
    project.renderReadme files analysis = .ok readme := by
  have same := hk.bytes? hl hn
  rcases renderReadme_eq_ok.1 hr with ⟨hh, rfl⟩ | ⟨-, document, content, hd, hc, rfl⟩
  · refine renderReadme_eq_ok.2 (Or.inl ⟨?_, rfl⟩)
    rw [Bool.eq_false_iff] at hh ⊢
    refine fun hf => hh (has_eq_true.2 ?_)
    obtain ⟨entry, he⟩ := has_eq_true.1 hf
    cases entry with
    | directory => exact ⟨_, hk.find_directory he⟩
    | file bytes => exact ⟨_, bytes?_eq_some.1 (same.trans (bytes?_eq_some.2 he))⟩
  · obtain ⟨templates, ht, rfl⟩ := replaceSections_eq_ok.1 hc
    exact renderReadme_of_loaded (readText_congr same.symm hd) (ht.congr hs.symm)

/-! ## Checks -/

theorem check_eq_ok {stale : List Path} : project.check files = .ok stale ↔
    ∃ analysis scripts readme, project.analyze files = .ok analysis ∧
      List.Forall₂ (fun dialect rendered =>
        project.renderScript files analysis dialect = .ok rendered) Dialect.all scripts ∧
      project.renderReadme files analysis = .ok readme ∧
      stale = ((scripts ++ readme.toList).filter fun file => !file.isCurrent files).map
        RenderedFile.path := by
  unfold check renderAll
  simp only [bind_eq_ok, mapM_eq_ok, Except.ok.injEq]
  constructor
  · intro h'
    obtain ⟨_, ⟨analysis, ha, scripts, hs, readme, hr, rfl⟩, rfl⟩ := h'
    exact ⟨analysis, scripts, readme, ha, hs, hr, rfl⟩
  · intro h'
    obtain ⟨analysis, scripts, readme, ha, hs, hr, rfl⟩ := h'
    exact ⟨_, ⟨analysis, ha, scripts, hs, readme, hr, rfl⟩, rfl⟩

end Project

end Synopsis
