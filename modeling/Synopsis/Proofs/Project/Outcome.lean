import Synopsis.Proofs.Project.Check
import Synopsis.Proofs.Project.Stopped

/-!
# What every synchronization leaves

Whether a synchronization succeeds or stops, it has told a beginning of its events, and only files
at announced paths have changed. When it stops, the outputs before the one where it stopped have
been stored, and that one is announced exactly if it could be rendered and not stored.

- `FileSystem.ChangedAt`: every file that has changed is at the location of one of some paths.
- `Scripted.changedAt`, `Scripted.holds`: what storing scripts changes, and what they hold then.
- `StopsAt.spec`: what an output leaves that cannot be brought up to date.
- `sync_outcome`: what a synchronization leaves and tells, whether it succeeds or stops.
-/

namespace Synopsis

open FileSystem

/-! ## Changed paths -/

namespace FileSystem

variable {files middle later : FileSystem} {path : Path} {paths more : List Path}

/-- Every file that has changed is at the location of one of the paths. -/
def ChangedAt (later files : FileSystem) (paths : List Path) : Prop :=
  ∃ changed : List Location, later.KeepsExcept files changed ∧
    ∀ location ∈ changed, ∃ path ∈ paths, later.locate path = some location

/-- The paths do not lead to the same file. -/
def Apart (files : FileSystem) (first second : Path) : Prop :=
  ∀ location, files.locate first = some location → files.locate second ≠ some location

theorem pairwise_apart (h : (paths.map files.locate).Nodup) : paths.Pairwise files.Apart :=
  (List.pairwise_map.1 h).imp fun hne _ hf hs => hne (hf.trans hs.symm)

theorem KeepsExcept.changedAt (h : later.KeepsExcept files []) (paths : List Path) :
    later.ChangedAt files paths :=
  ⟨[], h, fun _ hl => absurd hl List.not_mem_nil⟩

namespace ChangedAt

theorem mono (h : later.ChangedAt files paths) (hs : paths ⊆ more) :
    later.ChangedAt files more := by
  obtain ⟨changed, hk, hc⟩ := h
  refine ⟨changed, hk, fun location hl => ?_⟩
  obtain ⟨path, hp, hloc⟩ := hc location hl
  exact ⟨path, hs hp, hloc⟩

theorem trans (h' : later.ChangedAt middle paths) (h : middle.ChangedAt files paths) :
    later.ChangedAt files paths := by
  obtain ⟨changed, hk, hc⟩ := h
  obtain ⟨changed', hk', hc'⟩ := h'
  refine ⟨changed ++ changed', hk'.trans hk, fun location hl => ?_⟩
  rcases List.mem_append.1 hl with hl | hl
  · obtain ⟨path, hp, hloc⟩ := hc location hl
    exact ⟨path, hp, hk'.locate hloc⟩
  · exact hc' location hl

theorem exists_locate (h : later.ChangedAt files paths) {location : Location}
    (hne : later.fileAt location ≠ files.fileAt location) :
    ∃ path ∈ paths, later.locate path = some location := by
  obtain ⟨changed, hk, hc⟩ := h
  refine hc location ?_
  by_contra hl
  exact hne (hk.file hl)

/-- A path that leads to none of the files that have changed reads the same. -/
theorem bytes? (h : later.ChangedAt files paths) {location : Location}
    (hl : files.locate path = some location) (ha : ∀ other ∈ paths, later.Apart path other) :
    later.bytes? path = files.bytes? path := by
  obtain ⟨changed, hk, hc⟩ := h
  refine hk.bytes? hl fun hm => ?_
  obtain ⟨other, ho, hloc⟩ := hc location hm
  exact ha other ho location (hk.locate hl) hloc

end ChangedAt

end FileSystem

theorem RenderedFile.Stored.changedAt {rendered : RenderedFile} {files later : FileSystem}
    (h : rendered.Stored files later) : later.ChangedAt files [rendered.path] := by
  obtain ⟨location, hl, hk, -⟩ := h.spec
  refine ⟨[location], hk, fun other ho => ?_⟩
  cases List.mem_singleton.1 ho
  exact ⟨rendered.path, List.mem_singleton_self _, hl⟩

/-! ## Errors -/

/-- Whether a file could not be stored: a directory above it could not be made, or its text not be
written. -/
def RunError.ofStoring : RunError → Bool
  | .file .createDirectory _ _ => true
  | .file .write _ _ => true
  | _ => false

/-- The path of the output that an event announces. -/
def Event.output? : Event → Option Path
  | .updatingScript _ path => some path
  | .updatingReadme path => some path
  | _ => none

namespace Project

variable {project : Project} {analysis : Analysis} {files middle later : FileSystem}
  {error : RunError}

theorem ofStoring_of_loadTemplate {template : Path}
    (h : project.loadTemplate files template = .error error) : error.ofStoring = false := by
  unfold loadTemplate at h
  dsimp only at h
  split at h
  · obtain ⟨cause, -, rfl⟩ := Run.attempt_file_eq_error.1 (map_eq_error.1 h)
    rfl
  · cases h
    rfl

theorem ofStoring_of_replaceSections {bindings : Bindings} {configs : List SectionConfig}
    {document : Text} (h : project.replaceSections files bindings configs document = .error error) :
    error.ofStoring = false := by
  induction configs generalizing document with
  | nil => cases h
  | cons config configs ih =>
    rcases bind_eq_error.1 h with h | ⟨template, -, h⟩
    · exact ofStoring_of_loadTemplate h
    · exact ih h

/-- Rendering stores nothing. -/
theorem ofStoring_of_renderOutput {output : Output}
    (h : project.renderOutput files analysis output = .error error) : error.ofStoring = false := by
  cases output with
  | script dialect =>
    rcases bind_eq_error.1 (map_eq_error.1 h) with h | ⟨template, -, h⟩
    · exact ofStoring_of_loadTemplate h
    · cases h
  | readme =>
    unfold renderOutput renderReadme at h
    dsimp only at h
    split at h
    · rcases bind_eq_error.1 h with h | ⟨document, -, h⟩
      · obtain ⟨cause, -, rfl⟩ := Run.attempt_file_eq_error.1 h
        rfl
      · rcases bind_eq_error.1 h with h | ⟨content, -, h⟩
        · exact ofStoring_of_replaceSections h
        · cases h
    · cases h

theorem ofStoring_of_refused {rendered : RenderedFile} (h : rendered.Refused files error later) :
    error.ofStoring = true := by
  cases h <;> rfl

/-- An output that cannot be rendered changes nothing and is not announced. One that cannot be
stored is announced, and still no file changes. -/
theorem StopsAt.spec {output : Output} {announced : List Output}
    (h : project.StopsAt analysis output files error announced later) :
    later.KeepsExcept files [] ∧
    (error.ofStoring = false → announced = [] ∧ later = files ∧
      project.renderOutput files analysis output = .error error) ∧
    (error.ofStoring = true → announced = [output] ∧ ∃ rendered,
      project.renderOutput files analysis output = .ok (some rendered) ∧
        rendered.Refused files error later) := by
  cases h with
  | unrendered hr =>
    have hn := ofStoring_of_renderOutput hr
    exact ⟨.refl files, fun _ => ⟨rfl, rfl, hr⟩, fun hs => by simp [hn] at hs⟩
  | @refused rendered _ _ hr _ hs =>
    have hn := ofStoring_of_refused hs
    exact ⟨hs.keepsExcept, fun hs => by simp [hn] at hs, fun _ => ⟨rfl, rendered, hr, hs⟩⟩

theorem StopsAt.prefix_of_announced {output : Output} {announced : List Output}
    (h : project.StopsAt analysis output files error announced later) : announced <+: [output] := by
  cases h with
  | unrendered => exact List.nil_prefix
  | refused => exact List.prefix_refl _

/-! ## Outputs that are stored -/

/-- Storing scripts changes no file but theirs. -/
theorem Scripted.changedAt {dialects : List Dialect} {scripts : List RenderedFile}
    (h : project.Scripted analysis dialects files scripts later) :
    later.ChangedAt files (dialects.map project.scriptPath) := by
  induction h with
  | nil files => exact (KeepsExcept.refl files).changedAt _
  | cons hr hs _ ih =>
    have hfirst := hs.changedAt
    rw [path_of_renderScript hr] at hfirst
    exact (ih.mono (List.subset_cons_self _ _)).trans (hfirst.mono (by simp))

/-- As long as their paths lead to different files, each script holds its text in the end. -/
theorem Scripted.holds {last : FileSystem} {dialects : List Dialect} {scripts : List RenderedFile}
    (h : project.Scripted analysis dialects files scripts later) (hk : last.KeepsExcept later [])
    (hd : (dialects.map project.scriptPath).Pairwise last.Apart) :
    ∀ script ∈ scripts, last.bytes? script.path = some (encode script.content) := by
  induction h with
  | nil files => simp
  | @cons dialect dialects files middle later file rest hr hs hrest ih =>
    rw [List.map_cons, List.pairwise_cons] at hd
    rw [List.forall_mem_cons]
    refine ⟨?_, ih hk hd.2⟩
    obtain ⟨location, hl, -, hb⟩ := hs.spec
    have hc : last.ChangedAt middle (dialects.map project.scriptPath) :=
      (hk.changedAt _).trans hrest.changedAt
    refine (hc.bytes? hl fun other ho => ?_).trans hb
    rw [path_of_renderScript hr]
    exact hd.1 other ho

theorem ReadmeSynced.changedAt {updated : Option Bool}
    (h : project.ReadmeSynced analysis files updated later) :
    later.ChangedAt files ([project.readmeEvent updated].filterMap Event.output?) := by
  cases h with
  | missing => exact (KeepsExcept.refl files).changedAt _
  | current => exact (KeepsExcept.refl files).changedAt _
  | updated hr _ hs =>
    have hc := hs.changedAt
    rw [path_of_renderReadme hr] at hc
    exact hc

/-! ## Events -/

/-- The path of an output. -/
def outputPath (project : Project) : Output → Path
  | .script dialect => project.scriptPath dialect
  | .readme => project.readmePath

theorem output?_announcement (project : Project) (output : Output) :
    (project.announcement output).output? = some (project.outputPath output) := by
  cases output <;> rfl

theorem announcement_injective (project : Project) : Function.Injective project.announcement := by
  intro first second h
  cases first <;> cases second <;> cases h <;> rfl

theorem filterMap_eventsUpTo (project : Project) (analysis : Analysis) (outputs : List Output) :
    (project.eventsUpTo analysis outputs).filterMap Event.output? =
      outputs.map project.outputPath := by
  rw [eventsUpTo, List.filterMap_cons_none rfl, List.filterMap_map, ← List.filterMap_eq_map]
  exact congrArg (List.filterMap · outputs) (funext project.output?_announcement)

theorem eventsOf_eq (project : Project) (analysis : Analysis) (updated : Option Bool) :
    project.eventsOf analysis updated =
      project.eventsUpTo analysis (Dialect.all.map .script) ++
        [project.readmeEvent updated, .finished] := by
  simp [eventsOf, eventsUpTo, announcement]

theorem prefix_eventsOf (project : Project) (analysis : Analysis) {outputs : List Output}
    (h : outputs <+: Output.all) :
    project.eventsUpTo analysis outputs <+: project.eventsOf analysis (some true) := by
  obtain ⟨others, ho⟩ := h
  have hall : project.eventsOf analysis (some true) =
      project.eventsUpTo analysis Output.all ++ [.finished] := by
    simp [eventsOf_eq, eventsUpTo, Output.all, announcement, readmeEvent]
  refine ⟨others.map project.announcement ++ [.finished], ?_⟩
  rw [hall, ← ho]
  simp [eventsUpTo]

/-- The last event is told by synchronizations that succeed only. -/
theorem eventsUpTo_ne_eventsOf (project : Project) (analysis : Analysis) (outputs : List Output)
    (updated : Option Bool) :
    project.eventsUpTo analysis outputs ≠ project.eventsOf analysis updated := by
  intro h
  have hm : Event.finished ∈ project.eventsUpTo analysis outputs := by simp [h, eventsOf]
  rcases List.mem_cons.1 hm with hm | hm
  · cases hm
  · obtain ⟨output, -, ho⟩ := List.mem_map.1 hm
    cases output <;> cases ho

/-! ## What a synchronization leaves and tells -/

/-- The scripts that are done when a synchronization stops are the first ones. -/
theorem prefix_of_done {done : List Dialect} {next : Output} {left : List Output}
    (h : Output.all = done.map .script ++ next :: left) : done <+: Dialect.all := by
  rcases Output.next_cases h with ⟨dialect, rest, -, hall⟩ | ⟨-, rfl⟩
  · exact ⟨dialect :: rest, hall.symm⟩
  · exact List.prefix_refl _

/-- Scripts that are stored hold their texts in the end if no two outputs are the same file. -/
theorem Scripted.holds_of_outputs {done : List Dialect} {scripts : List RenderedFile}
    (hd : done <+: Dialect.all) (h : project.Scripted analysis done files scripts middle)
    (hk : later.KeepsExcept middle []) (hp : project.outputs.Pairwise later.Apart) :
    ∀ script ∈ scripts, later.bytes? script.path = some (encode script.content) := by
  refine h.holds hk (hp.sublist ?_)
  exact (hd.sublist.map project.scriptPath).trans (List.sublist_append_left _ _)

/-- A synchronization that succeeds changes files at the announced paths only. -/
theorem changedAt_of_synced {scripts : List RenderedFile} {updated : Option Bool}
    (hs : project.Scripted analysis Dialect.all files scripts middle)
    (hr : project.ReadmeSynced analysis middle updated later) :
    later.ChangedAt files ((project.eventsOf analysis updated).filterMap Event.output?) := by
  have hpaths : (project.eventsOf analysis updated).filterMap Event.output? =
      Dialect.all.map project.scriptPath ++
        [project.readmeEvent updated].filterMap Event.output? := by
    rw [eventsOf_eq, List.filterMap_append, filterMap_eventsUpTo, List.map_map]
    rfl
  rw [hpaths]
  exact (hr.changedAt.mono (List.subset_append_right _ _)).trans
    (hs.changedAt.mono (List.subset_append_left _ _))

/-- A synchronization tells a beginning of its events, and all of them exactly if it succeeds; only
files at announced paths change. If the analysis fails, nothing is told or changed. If it stops
later, the scripts before the output where it stops have been stored, and they hold their texts if
no two outputs are the same file. An output that cannot be rendered is not announced, and nothing
changes for it and those after it; one that cannot be stored is announced last. -/
theorem sync_outcome {before after : Progress} {result : Except RunError Report}
    (h : project.sync.run before = (result, after)) :
    ∃ told, after.events = before.events ++ told ∧
      (∀ location, after.files.fileAt location ≠ before.files.fileAt location →
        ∃ path ∈ told.filterMap Event.output?, after.files.locate path = some location) ∧
      (∀ error, project.analyze before.files = .error error →
        result = .error error ∧ told = [] ∧ after.files = before.files) ∧
      ∀ analysis, project.analyze before.files = .ok analysis →
        (∃ updated, told <+: project.eventsOf analysis updated) ∧
        ((∃ report, result = .ok report) ↔ ∃ updated, told = project.eventsOf analysis updated) ∧
        ∀ error, result = .error error → ∃ done next left scripts middle,
          Output.all = done.map .script ++ next :: left ∧
          project.Scripted analysis done before.files scripts middle ∧
          (error.ofStoring = false → told = project.eventsUpTo analysis (done.map .script) ∧
            after.files = middle ∧
            project.renderOutput middle analysis next = .error error) ∧
          (error.ofStoring = true →
            told = project.eventsUpTo analysis (done.map .script ++ [next]) ∧
            ∃ rendered, project.renderOutput middle analysis next = .ok (some rendered) ∧
              rendered.Refused middle error after.files) ∧
          (project.outputs.Pairwise after.files.Apart → ∀ script ∈ scripts,
            after.files.bytes? script.path = some (encode script.content)) := by
  rcases result with error | report
  · rcases sync_eq_error.1 h with ⟨ha, rfl⟩ |
      ⟨analysis, done, next, left, scripts, middle, announced, ha, hd, hs, hst, he⟩
    · refine ⟨[], by simp, fun location hne => absurd rfl hne, fun cause hc => ?_,
        fun analysis hok => ?_⟩
      · rw [ha] at hc
        cases hc
        exact ⟨rfl, rfl, rfl⟩
      · rw [ha] at hok
        cases hok
    · obtain ⟨hk, hunrendered, hrefused⟩ := hst.spec
      refine ⟨_, he, fun location hne => ?_, fun cause hc => ?_, fun analysis' hok => ?_⟩
      · have hc : after.files.ChangedAt before.files (done.map project.scriptPath) :=
          (hk.changedAt _).trans hs.changedAt
        refine (hc.mono ?_).exists_locate hne
        rw [filterMap_eventsUpTo, List.map_append, List.map_map]
        exact List.subset_append_left _ _
      · rw [ha] at hc
        cases hc
      · rw [ha] at hok
        cases hok
        refine ⟨⟨some true, project.prefix_eventsOf analysis ?_⟩, ?_, fun cause hc => ?_⟩
        · rw [hd, List.prefix_append_right_inj]
          exact hst.prefix_of_announced.trans (List.prefix_append [next] left)
        · refine iff_of_false (by simp) ?_
          rintro ⟨updated, ht⟩
          exact project.eventsUpTo_ne_eventsOf analysis _ updated ht
        · cases hc
          refine ⟨done, next, left, scripts, middle, hd, hs, fun hn => ?_, fun hn => ?_,
            hs.holds_of_outputs (prefix_of_done hd) hk⟩
          · obtain ⟨rfl, hm, hr⟩ := hunrendered hn
            exact ⟨by rw [List.append_nil], hm, hr⟩
          · obtain ⟨rfl, hr⟩ := hrefused hn
            exact ⟨rfl, hr⟩
  · obtain ⟨analysis, scripts, middle, ha, hs, hr, -, -, he⟩ := sync_eq_ok.1 h
    refine ⟨_, he, fun location hne => (changedAt_of_synced hs hr).exists_locate hne,
      fun cause hc => ?_, fun analysis' hok => ?_⟩
    · rw [ha] at hc
      cases hc
    · rw [ha] at hok
      cases hok
      refine ⟨⟨_, List.prefix_refl _⟩, iff_of_true ⟨report, rfl⟩ ⟨_, rfl⟩, fun cause hc => ?_⟩
      cases hc

/-- Files of the plain project in which the template of the first script is the only one. -/
def bashFiles (scripts : List (Text × Tree)) : FileSystem where
  trees := [
    ("git-remote-gcrypt", .file (encode "HELP_TEXT=\"Options:\n  clean\n    clean -f\"")),
    ("completions", .directory (
      ("templates", .directory [("bash.in", .file (encode []))]) :: scripts))]

/-- The synchronization stops at the second script. The first one is announced and stored, and no
other file changes. -/
theorem sync_plain_stopped : ∃ error after analysis, ∃ script : RenderedFile,
    plain.sync.run ⟨bashFiles [], []⟩ = (.error error, after) ∧
    after.events = plain.eventsUpTo analysis [.script .bash] ∧
    (∀ location, after.files.fileAt location ≠ (bashFiles []).fileAt location →
      after.files.locate (plain.scriptPath .bash) = some location) ∧
    plain.renderScript (bashFiles []) analysis .bash = .ok script ∧
    after.files.bytes? (plain.scriptPath .bash) = some (encode script.content) := by
  obtain ⟨analysis, ha⟩ : ∃ analysis, plain.analyze (bashFiles []) = .ok analysis :=
    ⟨_, analyze_eq_ok.2 ⟨_, readHelp_eq_ok.2 ⟨_, readText_of_find rfl, rfl⟩, rfl⟩⟩
  let script : RenderedFile :=
    ⟨plain.scriptPath .bash, Script.render .bash (Template.parse []) (plain.context analysis)
      (plain.config.keysOf .bash)⟩
  let bash : Text × Tree :=
    ("bash", .directory [("git-remote-gcrypt", .file (encode script.content))])
  have rendered : plain.renderScript (bashFiles []) analysis .bash = .ok script :=
    renderScript_eq_ok.2 ⟨_, loadTemplate_eq_ok.2 ⟨[], readText_of_find rfl, rfl⟩, rfl⟩
  have stored : script.Stored (bashFiles []) (bashFiles [bash]) :=
    ⟨_, by rintro _ ⟨⟩; rfl, by rintro ⟨⟩, rfl⟩
  have missing : plain.renderOutput (bashFiles [bash]) analysis (.script .zsh) =
      .error (.templateNotFound (plain.templatePath (plain.config.scripts.of .zsh).template)) :=
    map_eq_error.2 (bind_eq_error.2 (Or.inl rfl))
  have stopped : plain.sync.run ⟨bashFiles [], []⟩ =
      (.error _, ⟨bashFiles [bash], plain.eventsUpTo analysis [.script .bash]⟩) :=
    sync_eq_error.2 (Or.inr ⟨analysis, [.bash], .script .zsh, [.script .fish, .readme], [script], _,
      [], ha, rfl, .cons rendered stored (.nil _), .unrendered missing, rfl⟩)
  have locations : plain.outputs.map (bashFiles [bash]).locate =
      plain.outputs.map (bashFiles []).locate := rfl
  have apart : plain.outputs.Pairwise (bashFiles [bash]).Apart :=
    pairwise_apart (by rw [locations]; decide +kernel)
  obtain ⟨told, rfl, hc, -, hs⟩ := sync_outcome stopped
  obtain ⟨-, -, hstop⟩ := hs analysis ha
  obtain ⟨done, next, left, scripts, middle, -, hsc, hn, -, hold⟩ := hstop _ rfl
  refine ⟨_, _, analysis, script, stopped, rfl, fun location hne => ?_, rendered, ?_⟩
  · obtain ⟨path, hp, hl⟩ := hc location hne
    rwa [List.mem_singleton.1 hp] at hl
  · have hmap := plain.announcement_injective.list_map (List.cons.inj (hn rfl).1).2
    obtain rfl : [Dialect.bash] = done :=
      List.map_injective_iff.2 (fun _ _ => Output.script.inj) hmap
    cases hsc with
    | cons hr _ hrest =>
      cases hrest
      rw [rendered] at hr
      cases hr
      exact hold apart script (List.mem_singleton_self _)

end Project

end Synopsis
