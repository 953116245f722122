import Synopsis.Project.Install
import Synopsis.Proofs.Files.Join
import Synopsis.Proofs.Project.Outcome

/-!
# Installed templates

Templates are installed one after the other, and each is looked for among the files as the earlier
ones left them. Whether the installation succeeds or stops, only files of templates change, and
unless they are to be overwritten, no file that was there does. What was installed is there, so
another installation has nothing to write.

- `FileSystem.Grown`: no file is gone, and unless files are overwritten, none has changed.
- `installEach_eq_ok`, `exists_of_installEach_error`: installations that succeed and that stop.
- `Installed.grown`, `Installed.has`, `Installed.holds`: what an installation leaves.
- `installTemplates_outcome`: what it leaves and reports, whether it succeeds or stops.
-/

namespace Synopsis

open FileSystem

/-! ## Files that are there -/

namespace FileSystem

variable {files middle later : FileSystem} {path other : Path} {paths more : List Path}
  {location : Location} {bytes : ByteArray} {force : Bool}

/-- Paths to something at the same location read the same. -/
theorem bytes?_of_locate_eq (hh : files.has path = true)
    (hl : files.locate path = files.locate other)
    (hb : files.bytes? other = some bytes) : files.bytes? path = some bytes := by
  obtain ⟨entry, hf⟩ := has_eq_true.1 hh
  obtain ⟨location, hr, -⟩ := find_eq_ok.1 hf
  obtain ⟨place, ho, ha⟩ := fileAt_of_bytes? hb
  rw [locate_of_resolve hr, ho] at hl
  cases hl
  exact bytes?_eq_some.2 (find_eq_ok.2 ⟨location, hr, fileAt_eq_some.1 ha⟩)

/-- Later files of which none is gone. Those that have changed are at some paths, and unless files
are overwritten, they are new. -/
structure Grown (force : Bool) (paths : List Path) (later files : FileSystem) : Prop where
  changedAt : later.ChangedAt files paths
  file : ∀ {location bytes}, files.fileAt location = some bytes →
    ∃ now, later.fileAt location = some now ∧ (force = false → now = bytes)

namespace Grown

theorem of_keepsExcept (h : later.KeepsExcept files []) : Grown force paths later files :=
  ⟨h.changedAt paths, fun ha => ⟨_, (h.file List.not_mem_nil).trans ha, fun _ => rfl⟩⟩

theorem mono (h : Grown force paths later files) (hs : paths ⊆ more) :
    Grown force more later files :=
  ⟨h.changedAt.mono hs, h.file⟩

theorem trans (h' : Grown force paths later middle) (h : Grown force paths middle files) :
    Grown force paths later files := by
  refine ⟨h'.changedAt.trans h.changedAt, fun ha => ?_⟩
  obtain ⟨bytes, hm, he⟩ := h.file ha
  obtain ⟨now, hl, he'⟩ := h'.file hm
  exact ⟨now, hl, fun hf => (he' hf).trans (he hf)⟩

/-- What a path leads to does not go away. -/
theorem has (h : Grown force paths later files) (hp : files.has path = true) :
    later.has path = true := by
  obtain ⟨entry, hf⟩ := has_eq_true.1 hp
  obtain ⟨location, hr, hl⟩ := find_eq_ok.1 hf
  obtain ⟨changed, hk, -⟩ := h.changedAt
  cases entry with
  | directory => exact has_eq_true.2 ⟨_, hk.find_directory hf⟩
  | file bytes =>
    obtain ⟨now, hn, -⟩ := h.file (fileAt_eq_some.2 hl)
    exact has_eq_true.2 ⟨_, find_eq_ok.2 ⟨location, hk.resolve hr, fileAt_eq_some.1 hn⟩⟩

/-- A file that changes was not there, unless files are overwritten. -/
theorem fileAt_eq_none (h : Grown false paths later files)
    (hne : later.fileAt location ≠ files.fileAt location) : files.fileAt location = none := by
  cases ha : files.fileAt location with
  | none => rfl
  | some bytes =>
    obtain ⟨now, hn, he⟩ := h.file ha
    rw [ha, hn, he rfl] at hne
    exact absurd rfl hne

end Grown

end FileSystem

namespace RenderedFile.Stored

variable {rendered : RenderedFile} {files later : FileSystem} {location : Location}
  {bytes : ByteArray} {force : Bool}

/-- If a file is stored where one was before, then its path led there. -/
theorem has_of_fileAt (h : rendered.Stored files later)
    (hl : files.locate rendered.path = some location) (ha : files.fileAt location = some bytes) :
    files.has rendered.path = true := by
  obtain ⟨middle, hp, hn, hw⟩ := h
  have made : middle.KeepsExcept files [] := Prepared.keepsExcept ⟨hp, hn⟩
  obtain ⟨place, ht, -⟩ := writeText_eq_ok.1 hw
  have hr := resolve_of_target ht
  have hm : middle.locate rendered.path = some location := made.locate hl
  rw [locate_of_resolve hr] at hm
  cases hm
  have hb : middle.bytes? rendered.path = some bytes := by
    refine bytes?_eq_some.2 (find_eq_ok.2 ⟨location, hr, fileAt_eq_some.1 ?_⟩)
    rw [made.file List.not_mem_nil, ha]
  rw [made.bytes? hl List.not_mem_nil] at hb
  exact has_eq_true.2 ⟨_, bytes?_eq_some.1 hb⟩

/-- Storing a file takes none away, and changes none if the path led nowhere. -/
theorem grown (h : rendered.Stored files later) (hd : rendered.path.Downward)
    (hf : force = false → files.has rendered.path = false) :
    Grown force [rendered.path] later files := by
  refine ⟨h.changedAt, @fun place bytes ha => ?_⟩
  obtain ⟨location, hl, hk, hb⟩ := h.spec
  by_cases hp : place = location
  · obtain ⟨found, hfound, hstored⟩ := fileAt_of_bytes? hb
    rw [hl] at hfound
    cases hfound
    rw [hp]
    refine ⟨_, hstored, fun hforce => ?_⟩
    obtain ⟨first, hfirst⟩ := Option.isSome_iff_exists.1 (isSome_locate hd files)
    have hsame : first = place := by
      rw [hk.locate hfirst, ← hp] at hl
      exact Option.some.inj hl
    have hhas := h.has_of_fileAt (hsame ▸ hfirst) ha
    rw [hf hforce] at hhas
    cases hhas
  · refine ⟨bytes, ?_, fun _ => rfl⟩
    rw [hk.file (by simpa using hp), ha]

end RenderedFile.Stored

namespace Project

open Run

variable {project : Project} {force : Bool} {entries done left : List (Path × Text)}
  {entry : Path × Text} {installations : List Installation} {files middle later : FileSystem}
  {before after : Progress} {error : RunError}

/-! ## One template after the other -/

/-- Installs some templates, one after the other. -/
def installEach (force : Bool) (entries : List (Path × Text)) : Run (List Installation) :=
  entries.mapM fun entry => installTemplate force entry.1 entry.2

theorem installTemplates_eq (project : Project) (force : Bool) :
    project.installTemplates force = installEach force project.templateTexts := rfl

theorem downward_templateTexts (hr : project.root.Downward)
    (hp : project.config.templates.Downward)
    (hs : ∀ dialect, (project.config.scripts.of dialect).template.Downward)
    (hc : ∀ config ∈ project.config.readme.sections, config.template.Downward) :
    ∀ entry ∈ project.templateTexts, entry.1.Downward := by
  intro entry he
  rcases List.mem_append.1 he with he | he
  · obtain ⟨dialect, -, rfl⟩ := List.mem_map.1 he
    exact (hr.join hp).join (hs dialect)
  · obtain ⟨pair, hm, rfl⟩ := List.mem_map.1 he
    exact (hr.join hp).join (hc pair.1 (List.of_mem_zip hm).1)

/-- Some templates installed one after the other, with the reports on them. -/
inductive Installed (force : Bool) :
    List (Path × Text) → FileSystem → List Installation → FileSystem → Prop
  | nil (files : FileSystem) : Installed force [] files [] files
  | kept {entry : Path × Text} {entries : List (Path × Text)} {files later : FileSystem}
      {rest : List Installation} :
      force = false → files.has entry.1 = true →
      Installed force entries files rest later →
      Installed force (entry :: entries) files (⟨entry.1, false⟩ :: rest) later
  | written {entry : Path × Text} {entries : List (Path × Text)} {files middle later : FileSystem}
      {rest : List Installation} :
      (force = false → files.has entry.1 = false) →
      (RenderedFile.mk entry.1 entry.2).Stored files middle →
      Installed force entries middle rest later →
      Installed force (entry :: entries) files (⟨entry.1, true⟩ :: rest) later

/-- A template is kept as it is, or written. -/
theorem run_installTemplate (force : Bool) (path : Path) (text : Text) (before : Progress) :
    (installTemplate force path text).run before =
      (if force = false ∧ before.files.has path = true then pure ⟨path, false⟩
        else do write path text; return ⟨path, true⟩ : Run Installation).run before := by
  unfold installTemplate
  rw [run_bind]
  show (if (!force && before.files.has path) = true then _ else _ : Run Installation).run before = _
  by_cases hk : force = false ∧ before.files.has path = true
  · rw [if_pos hk, if_pos (by simp [hk])]
  · rw [if_neg hk, if_neg (by simpa using hk)]

theorem installTemplate_eq_ok {installation : Installation} :
    (installTemplate force entry.1 entry.2).run before = (.ok installation, after) ↔
      (force = false ∧ before.files.has entry.1 = true ∧ installation = ⟨entry.1, false⟩ ∧
        after = before) ∨
      ((force = false → before.files.has entry.1 = false) ∧ installation = ⟨entry.1, true⟩ ∧
        (RenderedFile.mk entry.1 entry.2).Stored before.files after.files ∧
        after.events = before.events) := by
  rw [run_installTemplate]
  split
  · next hk =>
    rw [pure_eq_ok]
    simp [hk]
  · next hk =>
    rw [Run.bind_eq_ok]
    constructor
    · intro h'
      obtain ⟨_, middle, hw, hp⟩ := h'
      obtain ⟨rfl, rfl⟩ := pure_eq_ok.1 hp
      have hs := (@write_eq_ok before after ⟨entry.1, entry.2⟩ ()).1 hw
      exact Or.inr ⟨by simpa using hk, rfl, hs⟩
    · rintro (⟨hf, hh, -⟩ | ⟨-, rfl, hs⟩)
      · exact absurd ⟨hf, hh⟩ hk
      · exact ⟨(), after, (@write_eq_ok before after ⟨entry.1, entry.2⟩ ()).2 hs,
          pure_eq_ok.2 ⟨rfl, rfl⟩⟩

theorem installTemplate_eq_error :
    (installTemplate force entry.1 entry.2).run before = (.error error, after) ↔
      (force = false → before.files.has entry.1 = false) ∧
      (RenderedFile.mk entry.1 entry.2).Refused before.files error after.files ∧
        after.events = before.events := by
  have hwrite : (write entry.1 entry.2).run before = (.error error, after) ↔
      (RenderedFile.mk entry.1 entry.2).Refused before.files error after.files ∧
        after.events = before.events :=
    @write_eq_error before after error ⟨entry.1, entry.2⟩
  rw [run_installTemplate]
  split
  · next hk =>
    refine iff_of_false pure_ne_error fun h => ?_
    rw [h.1 hk.1] at hk
    cases hk.2
  · next hk =>
    have hn : force = false → before.files.has entry.1 = false := by simpa using hk
    simp only [Run.bind_eq_error, pure_ne_error, and_false, exists_false, or_false, hwrite]
    exact (and_iff_right hn).symm

/-- When an installation succeeds, and what it leaves and reports then. -/
theorem installEach_eq_ok :
    (installEach force entries).run before = (.ok installations, after) ↔
      Installed force entries before.files installations after.files ∧
        after.events = before.events := by
  induction entries generalizing before installations with
  | nil =>
    rw [installEach, List.mapM_nil, pure_eq_ok]
    rcases before with ⟨files, events⟩
    rcases after with ⟨later, told⟩
    constructor
    · intro h'
      obtain ⟨rfl, he⟩ := h'
      cases he
      exact ⟨.nil _, rfl⟩
    · rintro ⟨h, rfl⟩
      cases h
      exact ⟨rfl, rfl⟩
  | cons entry entries ih =>
    rw [installEach, mapM_cons_eq_ok]
    constructor
    · intro h'
      obtain ⟨installation, middle, rest, hi, hr, rfl⟩ := h'
      obtain ⟨hrest, he⟩ := ih.1 hr
      rcases installTemplate_eq_ok.1 hi with ⟨hf, hh, rfl, rfl⟩ | ⟨hn, rfl, hs, he'⟩
      · exact ⟨.kept hf hh hrest, he⟩
      · exact ⟨.written hn hs hrest, he.trans he'⟩
    · intro h'
      obtain ⟨h, he⟩ := h'
      cases h with
      | kept hf hh hrest =>
        exact ⟨_, before, _, installTemplate_eq_ok.2 (Or.inl ⟨hf, hh, rfl, rfl⟩),
          ih.2 ⟨hrest, he⟩, rfl⟩
      | @written _ _ _ middle _ _ hn hs hrest =>
        exact ⟨_, ⟨middle, before.events⟩, _,
          installTemplate_eq_ok.2 (Or.inr ⟨hn, rfl, hs, rfl⟩), ih.2 ⟨hrest, he⟩, rfl⟩

/-- When an installation stops, and what it leaves then. -/
theorem exists_of_installEach_error
    (h : (installEach force entries).run before = (.error error, after)) :
    ∃ done entry left reported middle, entries = done ++ entry :: left ∧
      Installed force done before.files reported middle ∧
      (RenderedFile.mk entry.1 entry.2).Refused middle error after.files := by
  induction entries generalizing before with
  | nil => exact absurd h pure_ne_error
  | cons entry entries ih =>
    rcases mapM_cons_eq_error.1 h with hi | ⟨installation, middle, hi, hr⟩
    · obtain ⟨-, hs, -⟩ := installTemplate_eq_error.1 hi
      exact ⟨[], entry, entries, [], _, rfl, .nil _, hs⟩
    · obtain ⟨done, next, left, reported, last, rfl, hd, hs⟩ := ih hr
      rcases installTemplate_eq_ok.1 hi with ⟨hf, hh, rfl, rfl⟩ | ⟨hn, rfl, hst, -⟩
      · exact ⟨entry :: done, next, left, _, last, rfl, .kept hf hh hd, hs⟩
      · exact ⟨entry :: done, next, left, _, last, rfl, .written hn hst hd, hs⟩

/-! ## What an installation leaves -/

namespace Installed

theorem paths (h : Installed force entries files installations later) :
    installations.map Installation.path = entries.map Prod.fst := by
  induction h with
  | nil => rfl
  | kept _ _ _ ih => rw [List.map_cons, List.map_cons, ih]
  | written _ _ _ ih => rw [List.map_cons, List.map_cons, ih]

theorem split (h : Installed force (done ++ entries) files installations later) :
    ∃ reported middle rest, installations = reported ++ rest ∧
      Installed force done files reported middle ∧
      Installed force entries middle rest later := by
  induction done generalizing files installations with
  | nil => exact ⟨[], files, installations, rfl, .nil _, h⟩
  | cons entry done ih =>
    cases h with
    | kept hf hh hrest =>
      obtain ⟨reported, middle, rest, rfl, hd, hr⟩ := ih hrest
      exact ⟨_ :: reported, middle, rest, rfl, .kept hf hh hd, hr⟩
    | written hn hs hrest =>
      obtain ⟨reported, middle, rest, rfl, hd, hr⟩ := ih hrest
      exact ⟨_ :: reported, middle, rest, rfl, .written hn hs hd, hr⟩

/-- Files of the templates change, and none is gone. -/
theorem grown (h : Installed force entries files installations later)
    (hd : ∀ entry ∈ entries, entry.1.Downward) :
    Grown force (entries.map Prod.fst) later files := by
  induction h with
  | nil files => exact .of_keepsExcept (.refl files)
  | kept _ _ _ ih =>
    rw [List.forall_mem_cons] at hd
    exact (ih hd.2).mono (List.subset_cons_self _ _)
  | written hn hs _ ih =>
    rw [List.forall_mem_cons] at hd
    exact ((ih hd.2).mono (List.subset_cons_self _ _)).trans
      ((hs.grown hd.1 hn).mono (by simp))

/-- Every template is there in the end. -/
theorem has (h : Installed force entries files installations later)
    (hd : ∀ entry ∈ entries, entry.1.Downward) :
    ∀ entry ∈ entries, later.has entry.1 = true := by
  induction h with
  | nil => simp
  | kept _ hh hrest ih =>
    rw [List.forall_mem_cons] at hd ⊢
    exact ⟨(hrest.grown hd.2).has hh, ih hd.2⟩
  | written _ hs hrest ih =>
    rw [List.forall_mem_cons] at hd ⊢
    obtain ⟨location, -, -, hb⟩ := hs.spec
    exact ⟨(hrest.grown hd.2).has (has_eq_true.2 ⟨_, bytes?_eq_some.1 hb⟩), ih hd.2⟩

/-- Where all templates are there, nothing is written. -/
theorem of_has (h : ∀ entry ∈ entries, files.has entry.1 = true) :
    Installed false entries files (entries.map fun entry => ⟨entry.1, false⟩) files := by
  induction entries with
  | nil => exact .nil files
  | cons entry entries ih =>
    rw [List.forall_mem_cons] at h
    exact .kept rfl h.1 (ih h.2)

/-- A template is written unless it was there among the files that the earlier ones left. -/
theorem report (h : Installed force (entry :: entries) files installations later) :
    installations.head? = some ⟨entry.1, force || !files.has entry.1⟩ := by
  cases h with
  | kept hf hh => simp [hf, hh]
  | written hn => cases force <;> simp_all

/-- A template that is overwritten holds its text, unless a later one has the same file. -/
theorem holds (h : Installed true (entry :: left) files installations later)
    (ha : ∀ other ∈ left, later.Apart entry.1 other.1) (hd : ∀ other ∈ left, other.1.Downward) :
    later.bytes? entry.1 = some (encode entry.2) := by
  cases h with
  | kept hf => cases hf
  | written _ hs hrest =>
    obtain ⟨location, hl, -, hb⟩ := hs.spec
    refine ((hrest.grown hd).changedAt.bytes? hl fun other ho => ?_).trans hb
    obtain ⟨template, ht, rfl⟩ := List.mem_map.1 ho
    exact ha template ht

end Installed

/-- Whether templates are installed or the installation stops, the only files that change are those
of templates, and unless they are to be overwritten, no file that was there does. An installation
that succeeds reports every template, as written if nothing was at its path when it was its turn,
or if files are overwritten. All templates are there then, and another installation keeps them and
changes nothing. Of the templates that were overwritten at one file, the last one is there. -/
theorem installTemplates_outcome {result : Except RunError (List Installation)}
    (hd : ∀ entry ∈ project.templateTexts, entry.1.Downward)
    (h : (project.installTemplates force).run before = (result, after)) :
    (∀ location, after.files.fileAt location ≠ before.files.fileAt location →
      (force = false → before.files.fileAt location = none) ∧
      ∃ entry ∈ project.templateTexts, after.files.locate entry.1 = some location) ∧
    ∀ installations, result = .ok installations →
      installations.map Installation.path = project.templateTexts.map Prod.fst ∧
      (∀ done entry left, project.templateTexts = done ++ entry :: left →
        ∃ reported middle rest, (installEach force done).run before = (.ok reported, middle) ∧
          installations = reported ++ ⟨entry.1, force || !middle.files.has entry.1⟩ :: rest) ∧
      (∀ entry ∈ project.templateTexts, after.files.has entry.1 = true) ∧
      (project.installTemplates false).run after =
        (.ok (project.templateTexts.map fun entry => ⟨entry.1, false⟩), after) ∧
      (force = true → ∀ done last left, project.templateTexts = done ++ last :: left →
        (∀ other ∈ left, after.files.Apart last.1 other.1) →
        ∀ entry ∈ project.templateTexts, after.files.locate entry.1 = after.files.locate last.1 →
          after.files.bytes? entry.1 = some (encode last.2)) := by
  rw [installTemplates_eq] at h ⊢
  have hgrown : Grown force (project.templateTexts.map Prod.fst) after.files before.files := by
    cases result with
    | ok installations => exact (installEach_eq_ok.1 h).1.grown hd
    | error error =>
      obtain ⟨done, entry, left, _, middle, hsplit, hdone, hs⟩ := exists_of_installEach_error h
      rw [hsplit] at hd ⊢
      have hfirst := hdone.grown fun entry he => hd entry (List.mem_append_left _ he)
      exact (Grown.of_keepsExcept hs.keepsExcept).trans (hfirst.mono (by simp))
  refine ⟨fun location hne => ⟨?_, ?_⟩, ?_⟩
  · rintro rfl
    exact hgrown.fileAt_eq_none hne
  · obtain ⟨path, hp, hl⟩ := hgrown.changedAt.exists_locate hne
    obtain ⟨entry, he, rfl⟩ := List.mem_map.1 hp
    exact ⟨entry, he, hl⟩
  · rintro installations rfl
    obtain ⟨hi, -⟩ := installEach_eq_ok.1 h
    have hhas := hi.has hd
    refine ⟨hi.paths, fun done entry left hsplit => ?_, hhas,
      installEach_eq_ok.2 ⟨.of_has hhas, rfl⟩, ?_⟩
    · rw [hsplit] at hi
      obtain ⟨reported, middle, rest, rfl, hdone, hrest⟩ := hi.split
      obtain ⟨others, ho⟩ := List.head?_eq_some_iff.1 hrest.report
      exact ⟨reported, ⟨middle, before.events⟩, others, installEach_eq_ok.2 ⟨hdone, rfl⟩,
        by rw [ho]⟩
    · rintro rfl done last left hsplit ha entry he hl
      refine bytes?_of_locate_eq (hhas entry he) hl ?_
      rw [hsplit] at hi hd
      obtain ⟨_, _, _, -, -, hrest⟩ := hi.split
      exact hrest.holds ha fun other ho => hd other (by simp [ho])

/-- Two dialects with one template, and a template of the user. -/
def shared : Project where
  root := .of ""
  config := {
    templates := .of "templates"
    scripts := {
      bash := ⟨.of "script.in", .of "bash", none⟩
      zsh := ⟨.of "script.in", .of "zsh", none⟩ }
    readme := { sections := [] } }

/-- Files of that project: the template of the user, and further ones. -/
def sharedFiles (fish : Text) (others : List (Text × Tree)) : FileSystem where
  trees := [("templates", .directory (("fish.in", .file (encode fish)) :: others))]

/-- The template of the user is kept, or overwritten. Of the templates of the two dialects the one
that comes first is installed, or the one that comes last. -/
theorem installTemplates_shared : (∀ entry ∈ shared.templateTexts, entry.1.Downward) ∧
    (∃ after, (shared.installTemplates false).run ⟨sharedFiles "fish" [], []⟩ =
      (.ok [⟨.of "templates/script.in", true⟩, ⟨.of "templates/script.in", false⟩,
        ⟨.of "templates/fish.in", false⟩], after) ∧
      ∀ location bytes, (sharedFiles "fish" []).fileAt location = some bytes →
        after.files.fileAt location = some bytes) ∧
    ∃ installations after, (shared.installTemplates true).run ⟨sharedFiles "fish" [], []⟩ =
      (.ok installations, after) ∧
      after.files.bytes? (.of "templates/script.in") =
        some (encode (Script.bundledTemplate .zsh)) := by
  have hd : ∀ entry ∈ shared.templateTexts, entry.1.Downward := by
    refine downward_templateTexts (by decide +kernel) (by decide +kernel) (fun dialect => ?_)
      (fun _ h => absurd h List.not_mem_nil)
    cases dialect <;> decide +kernel
  let script (dialect : Dialect) : Text × Tree :=
    ("script.in", .file (encode (Script.bundledTemplate dialect)))
  have made : (RenderedFile.mk (.of "templates/script.in") (Script.bundledTemplate .bash)).Stored
      (sharedFiles "fish" []) (sharedFiles "fish" [script .bash]) :=
    ⟨_, by rintro _ ⟨⟩; rfl, by rintro ⟨⟩, rfl⟩
  have remade : (RenderedFile.mk (.of "templates/script.in") (Script.bundledTemplate .zsh)).Stored
      (sharedFiles "fish" [script .bash]) (sharedFiles "fish" [script .zsh]) :=
    ⟨_, by rintro _ ⟨⟩; rfl, by rintro ⟨⟩, rfl⟩
  have overwritten :
      (RenderedFile.mk (.of "templates/fish.in") (Script.bundledTemplate .fish)).Stored
        (sharedFiles "fish" [script .zsh])
        (sharedFiles (Script.bundledTemplate .fish) [script .zsh]) :=
    ⟨_, by rintro _ ⟨⟩; rfl, by rintro ⟨⟩, rfl⟩
  have kept : (shared.installTemplates false).run ⟨sharedFiles "fish" [], []⟩ =
      (.ok _, ⟨sharedFiles "fish" [script .bash], []⟩) :=
    installEach_eq_ok.2 ⟨.written (fun _ => rfl) made (.kept rfl rfl (.kept rfl rfl (.nil _))), rfl⟩
  have forced : (shared.installTemplates true).run ⟨sharedFiles "fish" [], []⟩ =
      (.ok _, ⟨sharedFiles (Script.bundledTemplate .fish) [script .zsh], []⟩) :=
    installEach_eq_ok.2 ⟨.written (by rintro ⟨⟩) made (.written (by rintro ⟨⟩) remade
      (.written (by rintro ⟨⟩) overwritten (.nil _))), rfl⟩
  refine ⟨hd, ⟨_, kept, fun location bytes ha => ?_⟩, _, _, forced, ?_⟩
  · by_contra hne
    have hnone := ((installTemplates_outcome hd kept).1 location fun he => hne (he.trans ha)).1 rfl
    rw [ha] at hnone
    cases hnone
  · obtain ⟨-, -, -, -, hholds⟩ := (installTemplates_outcome hd forced).2 _ rfl
    refine hholds rfl [_] _ [_] rfl (fun other ho => ?_) _ List.mem_cons_self rfl
    cases List.mem_singleton.1 ho
    rintro location ⟨⟩ ⟨⟩

end Project

end Synopsis
