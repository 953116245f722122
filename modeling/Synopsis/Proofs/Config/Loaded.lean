import Synopsis.Project.ConfigFile
import Synopsis.Proofs.Config.Document
import Synopsis.Proofs.Config.Omitted
import Synopsis.Proofs.Except
import Synopsis.Proofs.Files.Write

/-!
# Configurations that are saved and loaded

A configuration is loaded from its document, with or without the members that have their defaults.
The document is read back from the text that is printed for it, so a configuration that was saved is
loaded as it was.

- `ofYaml_of_read`: a text that holds the document.
- `load_save`: saving and loading, and files from which members were deleted.
-/

namespace Synopsis.Config

open Json (Step)

variable {config : Config} {deleted : List Step → Bool} {files later : FileSystem} {path : Path}
  {text : Text}

/-- The document of a configuration without some members. -/
def nodeWithout (config : Config) (deleted : List Step → Bool) : Yaml.Node :=
  .ofJson (config.toJson.without deleted [])

/-- A configuration is saved with all its members. -/
theorem toYaml_eq (config : Config) :
    config.toYaml = Yaml.print (config.nodeWithout fun _ => false) := by
  rw [toYaml, nodeWithout, Json.without_nothing]

/-- The document is read back from its text. -/
theorem read_print (config : Config) (deleted : List Step → Bool) :
    Yaml.read (Yaml.print (config.nodeWithout deleted)) =
      .ok ⟨config.nodeWithout deleted, []⟩ :=
  Yaml.read_print (Yaml.printable_ofJson (config.keyed.without deleted [])) rfl

/-- A text that holds the document without members that have their defaults is the
configuration. -/
theorem ofYaml_of_read (h : ∀ place, deleted place = true → config.AtDefault place)
    (hread : Yaml.read text = .ok ⟨config.nodeWithout deleted, []⟩) : ofYaml text = .ok config := by
  have hconfig : (Setting.ofNode (config.nodeWithout deleted)).config = pure config :=
    config_without h
  rw [ofYaml, hread]
  show (ofDocument ⟨config.nodeWithout deleted, []⟩).mapError _ = _
  rw [ofDocument, hconfig]
  rfl

/-- A file whose text is a configuration is loaded as this configuration. -/
theorem load_of_bytes (hb : files.bytes? path = some (FileSystem.encode text))
    (hc : ofYaml text = .ok config) : load files path = .ok config := by
  have hfind := FileSystem.bytes?_eq_some.1 hb
  have htext := FileSystem.readText_eq_ok.2 hb
  rw [load, hfind, htext]
  show (ofYaml text).mapError _ = _
  rw [hc]
  rfl

theorem bytes_of_save (h : config.save files path = .ok later) :
    later.bytes? path = some (FileSystem.encode config.toYaml) := by
  rw [save, FileAction.attempt] at h
  cases hw : files.writeText path config.toYaml with
  | error error =>
    rw [hw] at h
    cases h
  | ok written =>
    rw [hw] at h
    cases h
    obtain ⟨-, -, -, hb⟩ := FileSystem.writeText_spec hw
    exact hb

/-- A configuration that was saved is loaded as it was. Any members with their defaults may be
deleted from its document: what is printed then holds the rest of the document, and a file that
holds it, printed or not, is still loaded as the configuration. -/
theorem load_save (config : Config) :
    (∀ files path later, config.save files path = .ok later → load later path = .ok config) ∧
    ∀ deleted, (∀ place, deleted place = true → config.AtDefault place) →
      Yaml.read (Yaml.print (config.nodeWithout deleted)) =
        .ok ⟨config.nodeWithout deleted, []⟩ ∧
      ∀ text, Yaml.read text = .ok ⟨config.nodeWithout deleted, []⟩ →
        ∀ files path, files.bytes? path = some (FileSystem.encode text) →
          load files path = .ok config := by
  refine ⟨fun files path later hsave => ?_, fun deleted hdefault => ⟨config.read_print deleted,
    fun text hread files path hbytes => load_of_bytes hbytes (ofYaml_of_read hdefault hread)⟩⟩
  have hnone : ∀ place : List Step, false = true → config.AtDefault place :=
    fun _ h => absurd h Bool.false_ne_true
  refine load_of_bytes (bytes_of_save hsave) ?_
  rw [toYaml_eq]
  exact ofYaml_of_read hnone (config.read_print _)

/-- Two sections, the first one without an underline, and a script with keys of its own. -/
def sections : Config where
  scripts := { bash := { ScriptConfig.standard .bash with keys := some ⟨"COMMANDS", "FLAGS"⟩ } }
  readme := {
    sections := [
      { heading := "First", underline := none, ending := .through "end", template := .of "a.in" },
      { heading := "Second", ending := .before "next", template := .of "b.in" }] }

/-- Members of that configuration that have their defaults. -/
def sectionsDeleted : List (List Step) :=
  [[.member "version"], [.member "source"], [.member "flag_group", .member "description"],
    [.member "completions", .member "zsh", .member "keys"],
    [.member "readme", .member "sections", .item 1, .member "underline"]]

/-- The underline that is missing stays missing, and the one that is deleted comes back. -/
theorem load_save_shown : ∃ later : FileSystem,
    sections.save {} (.of "config.yaml") = .ok later ∧
    load later (.of "config.yaml") = .ok sections ∧
    sections.readme.sections.map SectionConfig.underline = [none, some '='] ∧
    sections.scripts.zsh.keys = none ∧
    (∀ place, decide (place ∈ sectionsDeleted) = true → sections.AtDefault place) ∧
    ∃ shortened : FileSystem, shortened.bytes? (.of "config.yaml") = some (FileSystem.encode
        (Yaml.print (sections.nodeWithout fun place => decide (place ∈ sectionsDeleted)))) ∧
      load shortened (.of "config.yaml") = .ok sections := by
  have hsave : sections.save {} (.of "config.yaml") = .ok _ := rfl
  have hdefault : ∀ place, decide (place ∈ sectionsDeleted) = true →
      sections.AtDefault place := by
    intro place h
    rw [decide_eq_true_eq] at h
    simp only [sectionsDeleted, List.mem_cons, List.not_mem_nil, or_false] at h
    rcases h with rfl | rfl | rfl | rfl | rfl
    · exact .member (by decide) rfl
    · exact .member (by decide) rfl
    · exact .member (by decide) rfl
    · exact .keys rfl
    · exact .underline rfl
  obtain ⟨hread, hload⟩ := (load_save sections).2 _ hdefault
  let shortened : FileSystem := {
    trees := [("config.yaml", .file (FileSystem.encode
      (Yaml.print (sections.nodeWithout fun place => decide (place ∈ sectionsDeleted)))))] }
  have hbytes : shortened.bytes? (.of "config.yaml") = some _ := rfl
  exact ⟨_, hsave, (load_save sections).1 _ _ _ hsave, rfl, rfl, hdefault, shortened, hbytes,
    hload _ hread _ _ hbytes⟩

end Synopsis.Config
