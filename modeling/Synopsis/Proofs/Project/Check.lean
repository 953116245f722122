import Synopsis.Proofs.Project.Plain

/-!
# Checks and synchronizations

A check renders everything from the files as they are, a synchronization each script from the
files as the earlier ones left them. As long as the written files are different ones and none of
them is an input, both render the same, so a check names exactly the files that a synchronization
changes.

- `Separate`: inputs and outputs lead to different files.
- `Scripted.spec`: what the scripts of a synchronization leave, in terms of the first files.
- `check_eq_changed_of_sync`: a check names the files that a synchronization changes.
-/

namespace Synopsis

open FileSystem

namespace Project

variable {project : Project} {files middle later : FileSystem} {analysis : Analysis}

/-- Every input and output leads somewhere, the outputs to different files, and none of them to
an input. A path without two dots always leads somewhere; one with two dots does if they lead up
from directories that are there. -/
structure Separate (project : Project) (files : FileSystem) : Prop where
  resolved : ∀ path ∈ project.inputs ++ project.outputs, (files.locate path).isSome = true
  distinct : (project.outputs.map files.locate).Nodup
  apart : ∀ input ∈ project.inputs, ∀ output ∈ project.outputs,
    files.locate input ≠ files.locate output

/-- Both file systems have the same bytes at the path, or both have no file there. -/
def sameBytes (first last : FileSystem) (path : Path) : Bool :=
  (first.bytes? path).map ByteArray.data = (last.bytes? path).map ByteArray.data

/-- The outputs whose bytes differ, in the order in which they are written. A file that is there in
one of the file systems only differs. -/
def changedOutputs (project : Project) (first last : FileSystem) : List Path :=
  project.outputs.filter fun path => !sameBytes first last path

theorem sameBytes_iff {first last : FileSystem} {path : Path} :
    sameBytes first last path = true ↔ first.bytes? path = last.bytes? path := by
  rw [sameBytes, decide_eq_true_eq]
  exact (Option.map_injective fun _ _ h => ByteArray.ext h).eq_iff

theorem scriptPath_mem_outputs (project : Project) (dialect : Dialect) :
    project.scriptPath dialect ∈ project.outputs :=
  List.mem_append_left _ (List.mem_map_of_mem (Dialect.mem_all dialect))

theorem readmePath_mem_outputs (project : Project) : project.readmePath ∈ project.outputs :=
  List.mem_append_right _ (List.mem_singleton_self _)

/-- The outputs are the scripts of all dialects and the README. -/
theorem forall_mem_outputs {p : Path → Prop} : (∀ path ∈ project.outputs, p path) ↔
    (∀ dialect, p (project.scriptPath dialect)) ∧ p project.readmePath := by
  rw [outputs, List.forall_mem_append, List.forall_mem_map, List.forall_mem_singleton]
  simp [Dialect.mem_all]

/-- Locations of outputs. -/
def Separate.Changed (project : Project) (files : FileSystem) (changed : List Location) : Prop :=
  ∀ location ∈ changed, ∃ output ∈ project.outputs, files.locate output = some location

namespace Separate

/-- Paths without two dots need only lead to different files. -/
theorem of_notMem
    (hp : ∀ path ∈ project.inputs ++ project.outputs, ['.', '.'] ∉ path.text.splitOn '/')
    (hd : (project.outputs.map files.locate).Nodup)
    (ha : ∀ input ∈ project.inputs, ∀ output ∈ project.outputs,
      files.locate input ≠ files.locate output) : project.Separate files :=
  ⟨fun path hm => isSome_locate (hp path hm) files, hd, ha⟩

theorem exists_locate (hs : project.Separate files) {path : Path}
    (hp : path ∈ project.inputs ∨ path ∈ project.outputs) :
    ∃ location, files.locate path = some location :=
  Option.isSome_iff_exists.1 (hs.resolved path (List.mem_append.2 hp))

/-- Files that differ in outputs only have the same inputs. -/
theorem sameInputs (hs : project.Separate files) {changed : List Location}
    (hk : later.KeepsExcept files changed) (hc : Changed project files changed) :
    project.SameInputs later files := by
  intro path hp
  obtain ⟨location, hl⟩ := hs.exists_locate (Or.inl hp)
  refine hk.bytes? hl fun hm => ?_
  obtain ⟨output, ho, hlo⟩ := hc location hm
  exact hs.apart path hp output ho (hl.trans hlo.symm)

theorem nodup_scripts (hs : project.Separate files) :
    (Dialect.all.map fun dialect => files.locate (project.scriptPath dialect)).Nodup := by
  have := hs.distinct
  rw [outputs, List.map_append, List.map_map] at this
  exact (List.nodup_append.1 this).1

theorem script_ne_readme (hs : project.Separate files) (dialect : Dialect) :
    files.locate (project.scriptPath dialect) ≠ files.locate project.readmePath := by
  have := hs.distinct
  rw [outputs, List.map_append, List.map_map, List.nodup_append] at this
  exact this.2.2 _ (List.mem_map_of_mem (Dialect.mem_all dialect)) _ (by simp)

end Separate

/-! ## What the scripts of a synchronization leave -/

/-- The scripts are those that the first files give, each holds its text in the end, and no other
file has changed. -/
theorem Scripted.spec {first : FileSystem} (hs : project.Separate first) {done : List Location}
    (hd : Separate.Changed project first done) (hk : files.KeepsExcept first done)
    {dialects : List Dialect} {rendered : List RenderedFile}
    (hn : (dialects.map fun dialect => first.locate (project.scriptPath dialect)).Nodup)
    (h : project.Scripted analysis dialects files rendered later) :
    ∃ changed : List Location,
      changed.map some = dialects.map (fun dialect => first.locate (project.scriptPath dialect)) ∧
      later.KeepsExcept files changed ∧
      List.Forall₂ (fun dialect file => project.renderScript first analysis dialect = .ok file)
        dialects rendered ∧
      ∀ file ∈ rendered, later.bytes? file.path = some (encode file.content) ∧
        ∃ before after : FileSystem, ∃ kept : List Location,
          file.Stored before after ∧ later.KeepsExcept after kept := by
  induction h generalizing done with
  | nil files => exact ⟨[], rfl, .refl files, .nil, by simp⟩
  | @cons dialect dialects files middle later file rest hr hw _ ih =>
    have hp := path_of_renderScript hr
    obtain ⟨location, hl, hkw, hb⟩ := hw.spec
    have hout := scriptPath_mem_outputs project dialect
    obtain ⟨place, hfirst⟩ := hs.exists_locate (Or.inr hout)
    -- The place of the script is the same before and after its directories are made.
    have hplace : middle.locate file.path = some place := by
      rw [hp]
      exact (hkw.trans hk).locate hfirst
    rw [hl] at hplace
    cases hplace
    rw [List.map_cons, List.nodup_cons] at hn
    have hd' : Separate.Changed project first (done ++ [location]) := by
      intro other ho
      rcases List.mem_append.1 ho with ho | ho
      · exact hd other ho
      · rw [List.mem_singleton.1 ho]
        exact ⟨_, hout, hfirst⟩
    obtain ⟨changed, hc, hkr, hrs, hbs⟩ := ih hd' (hkw.trans hk) hn.2
    refine ⟨location :: changed, by simp [hc, hfirst], hkr.trans hkw,
      .cons (renderScript_congr (hs.sameInputs hk hd).symm hr) hrs, ?_⟩
    intro other ho
    rcases List.mem_cons.1 ho with rfl | ho
    · refine ⟨(hkr.bytes? hl fun hm => hn.1 ?_).trans hb, files, middle, changed, hw, hkr⟩
      rw [hfirst, ← hc]
      exact List.mem_map_of_mem hm
    · exact hbs other ho

/-! ## What a synchronization leaves -/

/-- The last files hold what the first ones give, and differ from them in nothing else. -/
structure Synced (project : Project) (analysis : Analysis) (first last : FileSystem)
    (scripts : List RenderedFile) (readme : Option RenderedFile) : Prop where
  analyzed : project.analyze first = .ok analysis
  rendered : List.Forall₂ (fun dialect file =>
    project.renderScript first analysis dialect = .ok file) Dialect.all scripts
  readmeRendered : project.renderReadme first analysis = .ok readme
  readmeAbsent : readme = none → project.renderReadme last analysis = .ok none
  inputs : project.SameInputs last first
  kept : ∃ changed : List Location, last.KeepsExcept first changed ∧
    ∀ location ∈ changed, ∃ file ∈ scripts ++ readme.toList,
      last.locate file.path = some location
  holds : ∀ file ∈ scripts ++ readme.toList,
    last.bytes? file.path = some (encode file.content)
  again : ∀ file ∈ scripts, file.Stored last last

theorem map_path_of_rendered {first : FileSystem} {dialects : List Dialect}
    {scripts : List RenderedFile}
    (h : List.Forall₂ (fun dialect file =>
      project.renderScript first analysis dialect = .ok file) dialects scripts) :
    scripts.map RenderedFile.path = dialects.map project.scriptPath := by
  induction h with
  | nil => rfl
  | cons hr _ ih => rw [List.map_cons, List.map_cons, ih, path_of_renderScript hr]

/-- Every rendered script has the path of a dialect. -/
theorem exists_dialect_of_rendered {first : FileSystem} {scripts : List RenderedFile}
    (h : List.Forall₂ (fun dialect file =>
      project.renderScript first analysis dialect = .ok file) Dialect.all scripts)
    {file : RenderedFile} (hf : file ∈ scripts) :
    ∃ dialect, file.path = project.scriptPath dialect := by
  have hp : file.path ∈ Dialect.all.map project.scriptPath :=
    map_path_of_rendered h ▸ List.mem_map_of_mem hf
  obtain ⟨dialect, -, hd⟩ := List.mem_map.1 hp
  exact ⟨dialect, hd.symm⟩

/-- And every dialect has a script. -/
theorem exists_rendered {first : FileSystem} {scripts : List RenderedFile}
    (h : List.Forall₂ (fun dialect file =>
      project.renderScript first analysis dialect = .ok file) Dialect.all scripts)
    (dialect : Dialect) : ∃ file ∈ scripts, file.path = project.scriptPath dialect := by
  have hp : project.scriptPath dialect ∈ scripts.map RenderedFile.path :=
    map_path_of_rendered h ▸ List.mem_map_of_mem (Dialect.mem_all dialect)
  exact List.mem_map.1 hp

/-- The locations of the scripts, once they are listed. -/
theorem mem_changed {changed : List Location} {location : Location}
    (hc : changed.map some = Dialect.all.map fun dialect =>
      files.locate (project.scriptPath dialect)) :
    location ∈ changed ↔ ∃ dialect, files.locate (project.scriptPath dialect) = some location := by
  have : location ∈ changed ↔ some location ∈ changed.map some := by simp
  rw [this, hc, List.mem_map]
  exact exists_congr fun dialect => and_iff_right (Dialect.mem_all dialect)

/-- The README that a synchronization reports on is the one that the first files give. -/
theorem ReadmeSynced.spec {first : FileSystem} {updated : Option Bool} {changed : List Location}
    {location : Location} (hk : middle.KeepsExcept first changed)
    (hi : project.SameInputs middle first)
    (hl : first.locate project.readmePath = some location) (hn : location ∉ changed)
    (h : project.ReadmeSynced analysis middle updated later) :
    ∃ readme, project.renderReadme first analysis = .ok readme ∧
      updated = readme.map (fun file => !file.isCurrent first) ∧
      later.KeepsExcept middle (readme.toList.map fun _ => location) ∧
      (readme = none → project.renderReadme later analysis = .ok none) ∧
      ∀ file, readme = some file → later.bytes? file.path = some (encode file.content) := by
  have back : ∀ {readme}, project.renderReadme middle analysis = .ok readme →
      project.renderReadme first analysis = .ok readme :=
    renderReadme_of_keepsExcept hk hi hl hn
  have same : middle.bytes? project.readmePath = first.bytes? project.readmePath := hk.bytes? hl hn
  have current : ∀ {file : RenderedFile}, file.path = project.readmePath →
      file.isCurrent first = file.isCurrent middle := by
    intro file hp
    rw [Bool.eq_iff_iff, RenderedFile.isCurrent_eq_true, RenderedFile.isCurrent_eq_true, hp, same]
  cases h with
  | missing hr => exact ⟨none, back hr, rfl, .refl _, fun _ => hr, by simp⟩
  | @current file hr hc =>
    refine ⟨some file, back hr, ?_, (KeepsExcept.refl _).mono (List.nil_subset _),
      by simp, ?_⟩
    · simp [current (path_of_renderReadme hr), hc]
    · intro _ h
      cases h
      exact RenderedFile.isCurrent_eq_true.1 hc
  | @updated file _ hr hc hw =>
    have hp := path_of_renderReadme hr
    obtain ⟨place, hplace, hkw, hb⟩ := hw.spec
    have hsame : later.locate file.path = some location := by
      rw [hp]
      exact (hkw.trans hk).locate hl
    rw [hplace] at hsame
    cases hsame
    refine ⟨some file, back hr, ?_, hkw, by simp, ?_⟩
    · simp [current hp, hc]
    · intro _ h
      cases h
      exact hb

theorem sync_synced {before after : Progress} {report : Report}
    (hs : project.Separate before.files)
    (h : project.sync.run before = (.ok report, after)) :
    ∃ analysis scripts readme, project.Synced analysis before.files after.files scripts readme ∧
      report.readmeUpdated = readme.map fun file => !file.isCurrent before.files := by
  obtain ⟨analysis, scripts, middle, ha, hsc, hr, -, -, -⟩ := sync_eq_ok.1 h
  have nothing : Separate.Changed project before.files [] := by
    intro _ hm
    cases hm
  obtain ⟨changed, hc, hk, hrs, hbs⟩ := hsc.spec hs nothing (.refl _) hs.nodup_scripts
  obtain ⟨location, hl⟩ := hs.exists_locate (Or.inr (readmePath_mem_outputs project))
  have hchanged : Separate.Changed project before.files changed := by
    intro place hm
    obtain ⟨dialect, hd⟩ := (mem_changed hc).1 hm
    exact ⟨_, scriptPath_mem_outputs project dialect, hd⟩
  have hnot : location ∉ changed := by
    intro hm
    obtain ⟨dialect, hd⟩ := (mem_changed hc).1 hm
    exact hs.script_ne_readme dialect (hd.trans hl.symm)
  obtain ⟨readme, hreadme, hu, hkr, hab, hbr⟩ := hr.spec hk (hs.sameInputs hk hchanged) hl hnot
  have hk' := hkr.trans hk
  -- Storing the README changes no script.
  have hold : ∀ file ∈ scripts, after.files.bytes? file.path = some (encode file.content) := by
    intro file hf
    obtain ⟨dialect, hp⟩ := exists_dialect_of_rendered hrs hf
    obtain ⟨place, hplace⟩ := hs.exists_locate (Or.inr (scriptPath_mem_outputs project dialect))
    refine (hkr.bytes? (hk.locate (hp ▸ hplace)) fun hm => ?_).trans (hbs file hf).1
    obtain ⟨_, -, rfl⟩ := List.mem_map.1 hm
    exact hnot ((mem_changed hc).2 ⟨dialect, hplace⟩)
  refine ⟨analysis, scripts, readme, ⟨ha, hrs, hreadme, hab, ?_, ⟨_, hk', ?_⟩, ?_, ?_⟩, hu⟩
  · refine hs.sameInputs hk' fun place hm => ?_
    rcases List.mem_append.1 hm with hm | hm
    · exact hchanged place hm
    · obtain ⟨_, -, rfl⟩ := List.mem_map.1 hm
      exact ⟨_, readmePath_mem_outputs project, hl⟩
  · intro place hm
    rcases List.mem_append.1 hm with hm | hm
    · obtain ⟨dialect, hd⟩ := (mem_changed hc).1 hm
      obtain ⟨file, hf, he⟩ := exists_rendered hrs dialect
      exact ⟨file, List.mem_append_left _ hf, he ▸ hk'.locate hd⟩
    · obtain ⟨file, hf, rfl⟩ := List.mem_map.1 hm
      have hp := path_of_renderReadme (Option.mem_toList.1 hf ▸ hreadme)
      exact ⟨file, List.mem_append_right _ hf, hp ▸ hk'.locate hl⟩
  · intro file hf
    rcases List.mem_append.1 hf with hf | hf
    · exact hold file hf
    · exact hbr file (Option.mem_toList.1 hf)
  · intro file hf
    obtain ⟨-, first, last, kept, hw, hkl⟩ := hbs file hf
    exact hw.again (hkr.trans hkl) (hold file hf)

namespace Synced

variable {first last : FileSystem} {scripts : List RenderedFile} {readme : Option RenderedFile}

/-- A rendered file is current in the first files exactly if its bytes do not change. -/
theorem isCurrent_iff (h : project.Synced analysis first last scripts readme)
    {file : RenderedFile} (hf : file ∈ scripts ++ readme.toList) :
    file.isCurrent first = true ↔ first.bytes? file.path = last.bytes? file.path := by
  rw [RenderedFile.isCurrent_eq_true, h.holds file hf]

/-- Without a README before there is none afterwards. -/
theorem readme_same (h : project.Synced analysis first last scripts none)
    (hs : project.Separate first) :
    first.bytes? project.readmePath = last.bytes? project.readmePath := by
  obtain ⟨location, hl⟩ := hs.exists_locate (Or.inr (readmePath_mem_outputs project))
  obtain ⟨changed, hk, hc⟩ := h.kept
  refine (hk.bytes? hl fun hm => ?_).symm
  obtain ⟨file, hf, hp⟩ := hc location hm
  rw [Option.toList_none, List.append_nil] at hf
  obtain ⟨dialect, hd⟩ := exists_dialect_of_rendered h.rendered hf
  obtain ⟨place, hplace⟩ := hs.exists_locate (Or.inr (scriptPath_mem_outputs project dialect))
  have hsame := hk.locate hplace
  rw [← hd, hp] at hsame
  cases hsame
  exact hs.script_ne_readme dialect (hplace.trans hl.symm)

/-- The rendered files that are not current are the outputs whose bytes change. -/
theorem stale_eq (h : project.Synced analysis first last scripts readme)
    (hs : project.Separate first) :
    ((scripts ++ readme.toList).filter fun file => !file.isCurrent first).map RenderedFile.path =
      project.changedOutputs first last := by
  have hfilter : ((scripts ++ readme.toList).filter fun file => !file.isCurrent first) =
      (scripts ++ readme.toList).filter
        ((fun path => !sameBytes first last path) ∘ RenderedFile.path) := by
    refine List.filter_congr fun file hf => ?_
    rw [Function.comp_apply, Bool.eq_iff_iff.2 ((h.isCurrent_iff hf).trans sameBytes_iff.symm)]
  rw [hfilter, ← List.filter_map, List.map_append, map_path_of_rendered h.rendered,
    changedOutputs, outputs]
  cases readme with
  | none => simp [List.filter_append, sameBytes_iff.2 (h.readme_same hs)]
  | some file => simp [path_of_renderReadme h.readmeRendered]

/-- Every file that changes is at the location of an output that changes. -/
theorem exists_changedOutput (h : project.Synced analysis first last scripts readme)
    (hs : project.Separate first) {location : Location}
    (hne : last.fileAt location ≠ first.fileAt location) :
    ∃ path ∈ project.changedOutputs first last, last.locate path = some location := by
  obtain ⟨changed, hk, hc⟩ := h.kept
  have hm : location ∈ changed := by
    by_contra hm
    exact hne (hk.file hm)
  obtain ⟨file, hf, hp⟩ := hc location hm
  refine ⟨file.path, h.stale_eq hs ▸ List.mem_map_of_mem (List.mem_filter.2 ⟨hf, ?_⟩), hp⟩
  rw [Bool.not_eq_true', Bool.eq_false_iff]
  intro hcur
  -- Were the file current, both file systems would hold its text at the location.
  obtain ⟨place, hplace, hat⟩ := fileAt_of_bytes? (h.holds file hf)
  obtain ⟨place', hplace', hat'⟩ := fileAt_of_bytes? (RenderedFile.isCurrent_eq_true.1 hcur)
  have hsame := hk.locate hplace'
  rw [hp] at hplace hsame
  cases hplace
  cases hsame
  exact hne (hat.trans hat'.symm)

/-- The README is rewritten exactly if its bytes change. -/
theorem readme_changed_iff (h : project.Synced analysis first last scripts readme)
    (hs : project.Separate first) :
    readme.map (fun file => !file.isCurrent first) = some true ↔
      project.readmePath ∈ project.changedOutputs first last := by
  rw [changedOutputs, List.mem_filter, and_iff_right (readmePath_mem_outputs project)]
  cases readme with
  | none => simp [sameBytes_iff.2 (h.readme_same hs)]
  | some file =>
    have hm : file ∈ scripts ++ (some file).toList := by simp
    have hc := (h.isCurrent_iff hm).trans sameBytes_iff.symm
    rw [path_of_renderReadme h.readmeRendered] at hc
    simp [Bool.eq_iff_iff.2 hc]

/-- The README of the last files, if there is one, has the text that was rendered. -/
theorem readText_last (h : project.Synced analysis first last scripts readme) {document : Text} :
    last.readText project.readmePath = .ok document ↔
      ∃ file, readme = some file ∧ file.content = document := by
  cases readme with
  | none =>
    refine iff_of_false (fun hd => ?_) (by simp)
    rcases renderReadme_eq_ok.1 (h.readmeAbsent rfl) with ⟨hh, -⟩ | ⟨-, _, _, -, -, hn⟩
    · rw [has_of_readText hd] at hh
      cases hh
    · cases hn
  | some file =>
    have hb := h.holds file (by simp)
    rw [path_of_renderReadme h.readmeRendered] at hb
    rw [readText_eq_ok, hb, Option.some.injEq]
    constructor
    · intro he
      exact ⟨file, rfl, encode_injective he⟩
    · intro h'
      obtain ⟨_, hf, rfl⟩ := h'
      cases hf
      rfl

/-- The README of the last files is rendered by replacing the sections once more. -/
theorem renderReadme_last {file : RenderedFile}
    (h : project.Synced analysis first last scripts (some file)) :
    ∃ content, project.renderReadme last analysis = .ok (some ⟨project.readmePath, content⟩) ∧
      project.replaceSections last (project.readmeBindings analysis)
        project.config.readme.sections file.content = .ok content := by
  have hd : last.readText project.readmePath = .ok file.content :=
    h.readText_last.2 ⟨file, rfl, rfl⟩
  rcases renderReadme_eq_ok.1 h.readmeRendered with ⟨-, hn⟩ | ⟨-, _, _, -, hc, -⟩
  · cases hn
  · obtain ⟨templates, ht, -⟩ := replaceSections_eq_ok.1 hc
    have loaded := ht.congr h.inputs
    exact ⟨_, renderReadme_of_loaded hd loaded, replaceSections_eq_ok.2 ⟨templates, loaded, rfl⟩⟩

/-- A check of the last files names at most the README, and it only if replacing its sections once
more would change it. -/
theorem check_last (h : project.Synced analysis first last scripts readme) :
    ∃ again, project.check last = .ok again ∧ (∀ path ∈ again, path = project.readmePath) ∧
      (project.readmePath ∈ again ↔ ∃ document content,
        last.readText project.readmePath = .ok document ∧
        project.replaceSections last (project.readmeBindings analysis)
          project.config.readme.sections document = .ok content ∧
        content ≠ document) := by
  have rendered : List.Forall₂ (fun dialect file =>
      project.renderScript last analysis dialect = .ok file) Dialect.all scripts :=
    h.rendered.imp fun _ _ hr => renderScript_congr h.inputs hr
  have current : (scripts.filter fun file => !file.isCurrent last) = [] := by
    refine List.filter_eq_nil_iff.2 fun file hf => ?_
    simp [RenderedFile.isCurrent_eq_true.2 (h.holds file (List.mem_append_left _ hf))]
  have checked : ∀ {next}, project.renderReadme last analysis = .ok next →
      project.check last = .ok ((next.toList.filter fun file => !file.isCurrent last).map
        RenderedFile.path) := by
    intro next hr
    refine check_eq_ok.2 ⟨analysis, scripts, next, analyze_congr h.inputs h.analyzed, rendered,
      hr, ?_⟩
    rw [List.filter_append, current, List.nil_append]
  cases readme with
  | none =>
    refine ⟨_, checked (h.readmeAbsent rfl), by simp, iff_of_false (by simp) ?_⟩
    intro hchanged
    obtain ⟨document, _, hd, -⟩ := hchanged
    obtain ⟨_, hf, -⟩ := h.readText_last.1 hd
    cases hf
  | some file =>
    obtain ⟨content, hr, hnew⟩ := h.renderReadme_last
    have hd : last.readText project.readmePath = .ok file.content :=
      h.readText_last.2 ⟨file, rfl, rfl⟩
    have hcur : RenderedFile.isCurrent ⟨project.readmePath, content⟩ last = true ↔
        content = file.content := by
      rw [RenderedFile.isCurrent_eq_true, readText_eq_ok.1 hd, Option.some.injEq]
      exact ⟨fun he => (encode_injective he).symm, fun he => by rw [he]⟩
    refine ⟨_, checked hr, fun path hp => ?_, ?_⟩
    · obtain ⟨other, ho, rfl⟩ := List.mem_map.1 hp
      rw [List.mem_filter, Option.mem_toList] at ho
      cases ho.1
      rfl
    · by_cases he : content = file.content
      · have hc := hcur.2 he
        rw [he] at hc hnew
        simp [hc, hd, hnew, he]
      · simp [mt hcur.1 he, hd, hnew, he]

end Synced

/-! ## A check names what a synchronization changes -/

/-- If a synchronization succeeds, then a check of the same files succeeds and names, in their
order, the outputs whose bytes the synchronization changes; no other file changes, and the README
is reported as rewritten exactly if it is among them. A check afterwards names no script, and the
README exactly if replacing its sections once more would change it. -/
theorem check_eq_changed_of_sync {before after : Progress} {report : Report}
    (hs : project.Separate before.files)
    (h : project.sync.run before = (.ok report, after)) :
    project.check before.files = .ok (project.changedOutputs before.files after.files) ∧
    (∀ location, after.files.fileAt location ≠ before.files.fileAt location →
      ∃ path ∈ project.changedOutputs before.files after.files,
        after.files.locate path = some location) ∧
    (report.readmeUpdated = some true ↔
      project.readmePath ∈ project.changedOutputs before.files after.files) ∧
    ∃ again, project.check after.files = .ok again ∧
      (∀ dialect, project.scriptPath dialect ∉ again) ∧
      (project.readmePath ∈ again ↔ ∃ analysis document content,
        project.analyze before.files = .ok analysis ∧
        after.files.readText project.readmePath = .ok document ∧
        project.replaceSections after.files (project.readmeBindings analysis)
          project.config.readme.sections document = .ok content ∧
        content ≠ document) := by
  obtain ⟨analysis, scripts, readme, hsync, hu⟩ := sync_synced hs h
  obtain ⟨again, hagain, honly, hreadme⟩ := hsync.check_last
  have checked : project.check before.files = .ok _ :=
    check_eq_ok.2 ⟨analysis, scripts, readme, hsync.analyzed, hsync.rendered,
      hsync.readmeRendered, rfl⟩
  rw [hsync.stale_eq hs] at checked
  refine ⟨checked, fun location hne => hsync.exists_changedOutput hs hne, ?_, again, hagain,
    fun dialect hm => ?_, hreadme.trans ?_⟩
  · rw [hu]
    exact hsync.readme_changed_iff hs
  · exact hs.script_ne_readme dialect (congrArg _ (honly _ hm))
  · simp [hsync.analyzed]

/-- Inputs and outputs of the plain project are different files, also before its scripts are there. -/
theorem separate_plain : plain.Separate (plainFiles plainDocument []) :=
  .of_notMem (by decide +kernel) (by decide +kernel) (by decide +kernel)

/-- All four outputs change, the README among them, and a check afterwards names none of them. -/
theorem check_plain : plain.Separate (plainFiles plainDocument []) ∧ ∃ report after again,
    plain.sync.run ⟨plainFiles plainDocument [], []⟩ = (.ok report, after) ∧
    plain.check (plainFiles plainDocument []) =
      .ok (plain.changedOutputs (plainFiles plainDocument []) after.files) ∧
    plain.changedOutputs (plainFiles plainDocument []) after.files = plain.outputs ∧
    report.readmeUpdated = some true ∧
    plain.check after.files = .ok again ∧ ∀ path ∈ plain.outputs, path ∉ again := by
  obtain ⟨report, scripts, events, h, hscripts, hu⟩ := sync_plain plainDocument
  rw [decide_eq_true replaceBundled_plainDocument_ne] at hu
  obtain ⟨checked, -, hreadme, again, hagain, honly, hstale⟩ :=
    check_eq_changed_of_sync separate_plain h
  have changed : plain.changedOutputs (plainFiles plainDocument [])
      (plainFiles (Readme.replaceBundled plainDocument) scripts) = plain.outputs := by
    refine List.filter_eq_self.2 (forall_mem_outputs.2 ⟨fun dialect => ?_, ?_⟩)
    · obtain ⟨script, hs⟩ := hscripts dialect
      have missing : (plainFiles plainDocument []).bytes? (plain.scriptPath dialect) = none := by
        cases dialect <;> rfl
      rw [Bool.not_eq_true', Bool.eq_false_iff, Ne, sameBytes_iff, missing, readText_eq_ok.1 hs]
      simp
    · exact (List.mem_filter.1 (hreadme.1 hu)).2
  have current : plain.readmePath ∉ again := by
    rw [hstale]
    rintro ⟨analysis, document, content, -, hd, hc, hne⟩
    cases hd.symm.trans (readText_of_find rfl)
    cases hc.symm.trans (replaceSections_standard (readText_of_find rfl) (readText_of_find rfl) _ _)
    exact hne (Readme.replaceBundled_idem plainDocument)
  exact ⟨separate_plain, report, _, again, h, checked, changed, hu, hagain,
    forall_mem_outputs.2 ⟨honly, current⟩⟩

end Project

end Synopsis
