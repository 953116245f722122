import Synopsis.Proofs.Files.Join
import Synopsis.Proofs.Project.Check

/-!
# The standard configuration

The paths of the standard configuration lie below one root, so its inputs and outputs are
different files wherever the root is. With the bundled section templates, its README is replaced
for good, and a synchronization leaves nothing for the next one to do.

- `separate_standard`: inputs and outputs of the standard configuration are different files.
- `Synced.sync_again`: where a check names nothing, a synchronization changes nothing.
- `sync_standard_again`: a second synchronization of the standard configuration changes nothing.
-/

namespace Synopsis

open FileSystem

namespace Project

variable {project : Project} {files first last : FileSystem} {analysis : Analysis}

/-! ## Where the files are -/

/-- The inputs of the standard configuration, as seen from the root. -/
def standardInputs : List Path :=
  ({} : SourceConfig).path :: (plain.templates.map (Path.of "completions/templates").join)

/-- Its outputs, as seen from the root. -/
def standardOutputs : List Path :=
  Dialect.all.map (fun dialect => (({} : ScriptsConfig).of dialect).output)
    ++ [({} : ReadmeConfig).path]

theorem inputs_standard (root : Path) :
    (standard root).inputs = standardInputs.map root.join := by
  have relative : ∀ template ∈ plain.templates, template.isAbsolute = false := by decide +kernel
  rw [inputs, standardInputs, List.map_cons, List.map_map]
  refine congrArg₂ _ rfl (List.map_congr_left fun template ht => ?_)
  have below : (Path.of "completions/templates").text ≠ [] := by decide
  exact Path.join_join below (by decide) (relative template ht) root

theorem outputs_standard (root : Path) :
    (standard root).outputs = standardOutputs.map root.join := rfl

/-- The inputs and outputs of the standard configuration are different files, wherever its root
is, if its source is there. -/
theorem separate_standard {root : Path} (ha : (standard root).analyze files = .ok analysis) :
    (standard root).Separate files := by
  obtain ⟨help, hh, -⟩ := analyze_eq_ok.1 ha
  obtain ⟨text, hr, -⟩ := readHelp_eq_ok.1 hh
  have found : files.find (root.join ({} : SourceConfig).path) = .ok _ :=
    bytes?_eq_some.1 (readText_eq_ok.1 hr)
  obtain ⟨base, hb⟩ := locate_join (by decide) found
  have plainPaths : ∀ path ∈ standardInputs ++ standardOutputs, path.isAbsolute = false ∧
      (path.text.splitOn '/').all Path.isPlain = true := by decide +kernel
  have located : ∀ path ∈ standardInputs ++ standardOutputs,
      files.locate (root.join path) = some (base ++ path.text.splitOn '/') :=
    fun path hp => hb path (plainPaths path hp).1 (plainPaths path hp).2
  have nodup : (standardOutputs.map fun path => path.text.splitOn '/').Nodup := by decide +kernel
  have disjoint : ∀ input ∈ standardInputs, ∀ output ∈ standardOutputs,
      input.text.splitOn '/' ≠ output.text.splitOn '/' := by decide +kernel
  refine ⟨?_, ?_, ?_⟩
  · rw [inputs_standard, outputs_standard, ← List.map_append]
    intro path hp
    obtain ⟨below, hm, rfl⟩ := List.mem_map.1 hp
    rw [located below hm]
    rfl
  · rw [outputs_standard, List.map_map]
    have same : standardOutputs.map (files.locate ∘ root.join) =
        (standardOutputs.map fun path => path.text.splitOn '/').map fun pieces =>
          some (base ++ pieces) := by
      rw [List.map_map]
      exact List.map_congr_left fun path hp => located path (List.mem_append_right _ hp)
    rw [same]
    exact List.Pairwise.map _ (fun pieces other hn he => hn (by simpa using he)) nodup
  · rw [inputs_standard, outputs_standard]
    intro input hi output ho
    obtain ⟨source, hf, rfl⟩ := List.mem_map.1 hi
    obtain ⟨target, ht, rfl⟩ := List.mem_map.1 ho
    rw [located source (List.mem_append_left _ hf), located target (List.mem_append_right _ ht)]
    simpa using disjoint source hf target ht

/-! ## What a second synchronization does -/

/-- Scripts that hold their texts are stored again, and nothing changes. -/
theorem scripted_of_stored {dialects : List Dialect} {scripts : List RenderedFile}
    (hr : List.Forall₂ (fun dialect file =>
      project.renderScript files analysis dialect = .ok file) dialects scripts)
    (hs : ∀ file ∈ scripts, file.Stored files files) :
    project.Scripted analysis dialects files scripts files := by
  induction hr with
  | nil => exact .nil files
  | cons hd _ ih =>
    rw [List.forall_mem_cons] at hs
    exact .cons hd hs.1 (ih hs.2)

/-- A synchronization that leaves a README for which a check names nothing can be run again. It
reports that the README is up to date, and changes no file. -/
theorem Synced.sync_again {scripts : List RenderedFile} {readme : RenderedFile}
    (h : project.Synced analysis first last scripts (some readme))
    (hc : project.check last = .ok []) (told : List Event) :
    project.sync.run ⟨last, told⟩ =
      (.ok ⟨analysis.commands, scripts.map RenderedFile.path, some false⟩,
        ⟨last, told ++ project.eventsOf analysis (some false)⟩) := by
  have analyzed := analyze_congr h.inputs h.analyzed
  have scripted := scripted_of_stored
    (h.rendered.imp fun _ _ hr => renderScript_congr h.inputs hr) h.again
  obtain ⟨other, rendered, next, ha, -, hr, hn⟩ := check_eq_ok.1 hc
  rw [analyzed] at ha
  cases ha
  have there := has_of_readText (h.readText_last.2 ⟨readme, rfl, rfl⟩)
  refine sync_eq_ok.2 ⟨analysis, scripts, last, analyzed, scripted, ?_, rfl, rfl, rfl⟩
  cases next with
  | none =>
    rcases renderReadme_eq_ok.1 hr with ⟨hh, -⟩ | ⟨-, _, _, -, -, hs⟩
    · rw [hh] at there
      cases there
    · cases hs
  | some file =>
    refine .current hr ?_
    have := List.filter_eq_nil_iff.1 (List.map_eq_nil_iff.1 hn.symm) file (by simp)
    simpa using this

/-! ## The standard configuration -/

theorem mem_inputs_standard {root template : Path} (ht : template ∈ plain.templates) :
    (standard root).templatePath template ∈ (standard root).inputs :=
  List.mem_cons_of_mem _ (List.mem_map_of_mem ht)

/-- With the bundled section templates and a README, a synchronization of the standard
configuration that succeeds leaves nothing to do: a second one changes no file and reports that the
README is up to date, and a check names no file. -/
theorem sync_standard_again {root : Path} {before after : Progress} {report : Report}
    {document : Text}
    (hd : before.files.readText ((standard root).templatePath (.of "readme-detect.rst.in")) =
      .ok Readme.detectTemplate)
    (hc : before.files.readText ((standard root).templatePath (.of "readme-clean.rst.in")) =
      .ok Readme.cleanTemplate)
    (hr : before.files.readText (standard root).readmePath = .ok document)
    (h : (standard root).sync.run before = (.ok report, after)) :
    (∃ again events, (standard root).sync.run ⟨after.files, []⟩ =
        (.ok again, ⟨after.files, events⟩) ∧
      again.readmeUpdated = some false ∧
      Event.readmeUpToDate (standard root).readmePath ∈ events) ∧
    (standard root).check after.files = .ok [] ∧
    ∀ document, Readme.replaceBundled (Readme.replaceBundled document) =
      Readme.replaceBundled document := by
  obtain ⟨_, _, _, ha, -⟩ := sync_eq_ok.1 h
  have hs := separate_standard ha
  obtain ⟨analysis, scripts, readme, hsync, -⟩ := sync_synced hs h
  have first := renderReadme_standard hd hc hr analysis
  rw [hsync.readmeRendered] at first
  cases first
  have hd' := readText_congr (hsync.inputs _ (mem_inputs_standard (by decide +kernel))) hd
  have hc' := readText_congr (hsync.inputs _ (mem_inputs_standard (by decide +kernel))) hc
  obtain ⟨again, hagain, honly, hreadme⟩ := hsync.check_last
  have clean : again = [] := by
    refine List.eq_nil_iff_forall_not_mem.2 fun path hp => ?_
    obtain rfl := honly path hp
    obtain ⟨_, content, hdoc, hcontent, hne⟩ := hreadme.1 hp
    obtain ⟨_, hf, rfl⟩ := hsync.readText_last.1 hdoc
    cases hf
    rw [replaceSections_standard hd' hc'] at hcontent
    cases hcontent
    exact hne (Readme.replaceBundled_idem document)
  rw [clean] at hagain
  refine ⟨⟨_, _, hsync.sync_again hagain [], rfl, ?_⟩, hagain, Readme.replaceBundled_idem⟩
  simp [eventsOf, readmeEvent]

/-- The first synchronization of the plain project replaces both sections of its README, and the
second one nothing. -/
theorem sync_plain_again : ∃ report after again events,
    (standard (.of "")).sync.run ⟨plainFiles plainDocument [], []⟩ = (.ok report, after) ∧
    report.readmeUpdated = some true ∧
    after.files.readText (standard (.of "")).readmePath =
      .ok (Readme.cleanTemplate ++ ("\nKnown issues\n\n" ++ Readme.detectTemplate ++
        " or 100.\n\nDetecting gcrypt repos\n======================\n")) ∧
    (standard (.of "")).sync.run ⟨after.files, []⟩ = (.ok again, ⟨after.files, events⟩) ∧
    again.readmeUpdated = some false ∧
    Event.readmeUpToDate (standard (.of "")).readmePath ∈ events ∧
    (standard (.of "")).check after.files = .ok [] := by
  obtain ⟨report, scripts, told, h, -, hu⟩ := sync_plain plainDocument
  rw [decide_eq_true replaceBundled_plainDocument_ne] at hu
  obtain ⟨⟨again, events, second, hup, htold⟩, hc, -⟩ := sync_standard_again (readText_of_find rfl)
    (readText_of_find rfl) (readText_of_find rfl) h
  rw [replaceBundled_plainDocument] at h second hc
  exact ⟨report, _, again, events, h, hu, readText_of_find rfl, second, hup, htold, hc⟩

end Project

end Synopsis
