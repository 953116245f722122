import Synopsis.Proofs.Project.Inputs
import Synopsis.Proofs.Readme.Bundled
import Synopsis.Proofs.Readme.Outline
import Synopsis.Proofs.Template
import Synopsis.Script.Bundled

/-!
# A plain project

With the bundled section templates, rendering the README of the standard configuration replaces
both bundled sections. The plain project has this configuration, all of the bundled templates and
a source with one command, and its synchronization succeeds whatever its README holds.

- `renderReadme_standard`: the README of the standard configuration.
- `sync_plain`: what a first synchronization of the plain project leaves.
- `replaceBundled_plainDocument`: a README with both sections, and with one that does not end.
-/

namespace Synopsis

open FileSystem

namespace Project

variable {files : FileSystem}

/-! ## The standard configuration -/

/-- The standard configuration, from a root on. -/
def standard (root : Path) : Project := ⟨root, {}⟩

/-- The standard configuration in the working directory. -/
def plain : Project := standard (.of "")

/-- With the bundled templates, the sections of the standard configuration are those that are
bundled. -/
theorem replaceSections_standard {root : Path}
    (hd : files.readText ((standard root).templatePath (.of "readme-detect.rst.in")) =
      .ok Readme.detectTemplate)
    (hc : files.readText ((standard root).templatePath (.of "readme-clean.rst.in")) =
      .ok Readme.cleanTemplate) (bindings : Bindings) (document : Text) :
    (standard root).replaceSections files bindings (standard root).config.readme.sections
      document = .ok (Readme.replaceBundled document) := by
  have loaded : (standard root).Loaded files (standard root).config.readme.sections
      [Template.parse Readme.detectTemplate, Template.parse Readme.cleanTemplate] :=
    .cons (loadTemplate_eq_ok.2 ⟨_, hd, rfl⟩) (.cons (loadTemplate_eq_ok.2 ⟨_, hc, rfl⟩) .nil)
  refine replaceSections_eq_ok.2 ⟨_, loaded, ?_⟩
  show Readme.replaceSection Readme.cleanMarkers _
    (Readme.replaceSection Readme.detectMarkers _ document) = _
  rw [Template.render_parse_of_notMem Readme.notMem_detectTemplate.2.2,
    Template.render_parse_of_notMem Readme.notMem_cleanTemplate.2.2.2.2]
  rfl

/-- The README of the standard configuration, if there is one. -/
theorem renderReadme_standard {root : Path} {document : Text}
    (hd : files.readText ((standard root).templatePath (.of "readme-detect.rst.in")) =
      .ok Readme.detectTemplate)
    (hc : files.readText ((standard root).templatePath (.of "readme-clean.rst.in")) =
      .ok Readme.cleanTemplate)
    (hr : files.readText (standard root).readmePath = .ok document) (analysis : Analysis) :
    (standard root).renderReadme files analysis =
      .ok (some ⟨(standard root).readmePath, Readme.replaceBundled document⟩) :=
  renderReadme_eq_ok.2 (Or.inr ⟨has_of_readText hr, document, _, hr,
    replaceSections_standard hd hc _ document, rfl⟩)

/-! ## Its plain files -/

/-- Files of the plain project: its source, its README, the bundled templates, and the directories
of scripts that are there. -/
def plainFiles (document : Text) (scripts : List (Text × Tree)) : FileSystem where
  trees := [
    ("git-remote-gcrypt", .file (encode "HELP_TEXT=\"Options:\n  clean\n    clean -f\"")),
    ("README.rst", .file (encode document)),
    ("completions", .directory (
      ("templates", .directory [
        ("bash.in", .file (encode Script.bashTemplate)),
        ("zsh.in", .file (encode Script.zshTemplate)),
        ("fish.in", .file (encode Script.fishTemplate)),
        ("readme-detect.rst.in", .file (encode Readme.detectTemplate)),
        ("readme-clean.rst.in", .file (encode Readme.cleanTemplate))]) :: scripts))]

theorem readText_of_find {path : Path} {text : Text}
    (h : files.find path = .ok (.file (encode text))) : files.readText path = .ok text :=
  readText_eq_ok.2 (bytes?_eq_some.2 h)

/-- The script of a dialect, from its bundled template. -/
def plainScript (analysis : Analysis) (dialect : Dialect) : RenderedFile where
  path := plain.scriptPath dialect
  content := Script.render dialect (Template.parse (Script.bundledTemplate dialect))
    (plain.context analysis) (plain.config.keysOf dialect)

/-- A directory of scripts with the script of its dialect under the name. -/
def plainDirectory (analysis : Analysis) (dialect : Dialect) (name : Text) : Text × Tree :=
  (dialect.name, .directory [(name, .file (encode (plainScript analysis dialect).content))])

/-- The directories of the scripts of all dialects. -/
def plainScripts (analysis : Analysis) : List (Text × Tree) :=
  [plainDirectory analysis .bash "git-remote-gcrypt",
   plainDirectory analysis .zsh "_git-remote-gcrypt",
   plainDirectory analysis .fish "git-remote-gcrypt.fish"]

variable (document : Text) (scripts : List (Text × Tree)) (analysis : Analysis)

theorem renderScript_plain (dialect : Dialect) :
    plain.renderScript (plainFiles document scripts) analysis dialect =
      .ok (plainScript analysis dialect) := by
  refine renderScript_eq_ok.2 ⟨_, loadTemplate_eq_ok.2 ⟨_, readText_of_find ?_, rfl⟩, rfl⟩
  cases dialect <;> rfl

theorem renderReadme_plain : plain.renderReadme (plainFiles document scripts) analysis =
    .ok (some ⟨plain.readmePath, Readme.replaceBundled document⟩) :=
  renderReadme_standard (readText_of_find rfl) (readText_of_find rfl) (readText_of_find rfl) _

/-! ## Its synchronization -/

/-- Each script is stored in a directory of its own, which is made for it. -/
theorem scripted_plain : plain.Scripted analysis Dialect.all (plainFiles document [])
    (Dialect.all.map (plainScript analysis)) (plainFiles document (plainScripts analysis)) := by
  let bash := plainDirectory analysis .bash "git-remote-gcrypt"
  let zsh := plainDirectory analysis .zsh "_git-remote-gcrypt"
  have first : (plainScript analysis .bash).Stored (plainFiles document [])
      (plainFiles document [bash]) := ⟨_, by rintro _ ⟨⟩; rfl, by rintro ⟨⟩, rfl⟩
  have second : (plainScript analysis .zsh).Stored (plainFiles document [bash])
      (plainFiles document [bash, zsh]) := ⟨_, by rintro _ ⟨⟩; rfl, by rintro ⟨⟩, rfl⟩
  have third : (plainScript analysis .fish).Stored (plainFiles document [bash, zsh])
      (plainFiles document (plainScripts analysis)) :=
    ⟨_, by rintro _ ⟨⟩; rfl, by rintro ⟨⟩, rfl⟩
  exact .cons (renderScript_plain _ _ _ _) first <| .cons (renderScript_plain _ _ _ _) second <|
    .cons (renderScript_plain _ _ _ _) third (.nil _)

/-- The README is written unless its sections are current. -/
theorem readmeSynced_plain : plain.ReadmeSynced analysis (plainFiles document scripts)
    (some (decide (Readme.replaceBundled document ≠ document)))
    (plainFiles (Readme.replaceBundled document) scripts) := by
  let readme : RenderedFile := ⟨plain.readmePath, Readme.replaceBundled document⟩
  have rendered : plain.renderReadme (plainFiles document scripts) analysis = .ok (some readme) :=
    renderReadme_plain document scripts analysis
  have there : (plainFiles document scripts).bytes? plain.readmePath = some (encode document) :=
    bytes?_eq_some.2 rfl
  have current : readme.isCurrent (plainFiles document scripts) = true ↔
      Readme.replaceBundled document = document := by
    rw [RenderedFile.isCurrent_eq_true, there, Option.some.injEq, eq_comm]
    exact ⟨fun he => encode_injective he, congrArg encode⟩
  by_cases h : Readme.replaceBundled document = document
  · have same := ReadmeSynced.current rendered (current.2 h)
    simpa [h] using same
  · have written : readme.Stored (plainFiles document scripts)
        (plainFiles (Readme.replaceBundled document) scripts) :=
      ⟨_, by rintro _ ⟨⟩; rfl, by rintro ⟨⟩, rfl⟩
    have updated := ReadmeSynced.updated rendered (Bool.eq_false_iff.2 (mt current.1 h)) written
    simpa [h] using updated

/-- A first synchronization of the plain project writes its scripts, and its README unless the
sections in it are current. -/
theorem sync_plain : ∃ report scripts events,
    plain.sync.run ⟨plainFiles document [], []⟩ =
      (.ok report, ⟨plainFiles (Readme.replaceBundled document) scripts, events⟩) ∧
    (∀ dialect, ∃ script, (plainFiles (Readme.replaceBundled document) scripts).readText
      (plain.scriptPath dialect) = .ok script) ∧
    report.readmeUpdated = some (decide (Readme.replaceBundled document ≠ document)) := by
  obtain ⟨analysis, ha⟩ : ∃ analysis, plain.analyze (plainFiles document []) = .ok analysis :=
    ⟨_, analyze_eq_ok.2 ⟨_, readHelp_eq_ok.2 ⟨_, readText_of_find rfl, rfl⟩, rfl⟩⟩
  refine ⟨⟨_, _, _⟩, plainScripts analysis, _, sync_eq_ok.2 ⟨analysis, _, _, ha,
    scripted_plain document analysis, readmeSynced_plain document _ analysis, rfl, rfl, rfl⟩,
    fun dialect => ?_, rfl⟩
  exact ⟨(plainScript analysis dialect).content, readText_of_find (by cases dialect <;> rfl)⟩

/-! ## A README with sections -/

/-- The bundled sections with old texts and in reverse order, and a heading of the first one without
an end after it. -/
def plainDocument : Text :=
  "Cleaning gcrypt repos\n=====================\n\nOld.\n\nKnown issues\n\n" ++
  "Detecting gcrypt repos\n======================\n\nOld.\n\nExit status is 0 or 100.\n\n" ++
  "Detecting gcrypt repos\n======================\n"

theorem replaceBundled_plainDocument : Readme.replaceBundled plainDocument =
    Readme.cleanTemplate ++ ("\nKnown issues\n\n" ++ Readme.detectTemplate ++
      " or 100.\n\nDetecting gcrypt repos\n======================\n") := by
  let detect : Readme.Outline :=
    .cons "Cleaning gcrypt repos\n=====================\n\nOld.\n\nKnown issues\n\n"
      "Detecting gcrypt repos\n======================\n\nOld.\n\nExit status is 0"
      (.last " or 100.\n\nDetecting gcrypt repos\n======================\n")
  let clean : Readme.Outline :=
    .cons [] "Cleaning gcrypt repos\n=====================\n\nOld.\n"
      (.last ("\nKnown issues\n\n" ++ Readme.detectTemplate ++
        " or 100.\n\nDetecting gcrypt repos\n======================\n"))
  have hd : detect.Exact Readme.detectMarkers := by decide +kernel
  have hc : clean.Exact Readme.cleanMarkers := by decide +kernel
  have before : plainDocument = detect.document := by decide +kernel
  -- Once the section on detecting is replaced, the rest of it is the last piece.
  have between : (detect.fill Readme.detectTemplate).document = clean.document := by
    decide +kernel
  rw [Readme.replaceBundled, before, hd.replaceSection (by decide), between,
    hc.replaceSection (by decide)]
  exact congrArg (· ++ _) (List.nil_append _)

theorem replaceBundled_plainDocument_ne : Readme.replaceBundled plainDocument ≠ plainDocument := by
  rw [replaceBundled_plainDocument]
  decide +kernel

end Project

end Synopsis
