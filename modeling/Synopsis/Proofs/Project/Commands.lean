import Synopsis.Proofs.Dictionary
import Synopsis.Proofs.Project.Check
import Synopsis.Proofs.Project.Stopped
import Synopsis.Proofs.Script.CommandList
import Synopsis.Proofs.Script.Render
import Synopsis.Proofs.Text.Bytes

/-!
# One command list for all outputs

The commands of an analysis are a set in the order of their bytes. Scripts put them in order again
and READMEs and events do not, so all of them show one text.

- `detected_of_sync`: a synchronization tells the commands first.
- `completionCommands_shown`: what the commands are, and that all outputs show them alike.
-/

namespace Synopsis

namespace Project

open Run Script Text

variable {project : Project} {analysis : Analysis} {before after : Progress}

theorem commands_of_analyze {files : FileSystem} (h : project.analyze files = .ok analysis) :
    analysis.commands = completionCommands analysis.reading.table project.config.protocol
      project.config.policy := by
  obtain ⟨help, -, rfl⟩ := analyze_eq_ok.1 h
  rfl

/-- A synchronization tells the commands first, whether it succeeds or stops later. -/
theorem detected_of_sync {result : Except RunError Report}
    (ha : project.analyze before.files = .ok analysis)
    (h : project.sync.run before = (result, after)) :
    before.events ++ [.detectedCommands analysis.commands] <+: after.events := by
  rcases result with error | report
  · rcases sync_eq_error.1 h with ⟨hn, -⟩ | ⟨found, _, _, _, _, _, _, hf, -, -, -, he⟩
    · rw [ha] at hn
      cases hn
    · rw [ha] at hf
      cases hf
      rw [he, List.prefix_append_right_inj]
      exact List.prefix_append [_] _
  · obtain ⟨found, _, _, hf, -, -, -, -, he⟩ := sync_eq_ok.1 h
    rw [ha] at hf
    cases hf
    rw [he, List.prefix_append_right_inj]
    exact List.prefix_append [_] _

theorem readmeBindings_commands (project : Project) (analysis : Analysis) :
    (project.readmeBindings analysis).lookup ("commands" : Text) =
      some (joinWords analysis.commands) := by
  have hprogram : ("commands".toList == "program".toList) = false := by decide
  have hflags : ("commands".toList == "clean_flags".toList) = false := by decide
  rw [readmeBindings, Bindings.bind, Bindings.bind, Bindings.bind, List.lookup_cons, hprogram,
    List.lookup_cons, hflags, List.lookup_cons_self]

/-- The commands are exactly those of the table and of the protocol that are not excluded, in the
order of their bytes and each once, however often and in whatever order the protocol lists them.
The scripts of all dialects, the README and the first event of a synchronization show them as one
text. A script whose flag block has the key of its command list shows the flags there. -/
theorem completionCommands_shown (table : Table) (protocol : List Text) (policy : Policy) :
    let commands := completionCommands table protocol policy
    commands.Pairwise (fun first second => bytes first < bytes second) ∧
    (∀ name, name ∈ commands ↔
      (table.contains name = true ∨ name ∈ protocol) ∧ policy.excludes name = false) ∧
    (∀ others : List Text, (∀ name, name ∈ others ↔ name ∈ protocol) →
      completionCommands table others policy = commands) ∧
    (∀ (project : Project) (analysis : Analysis), analysis.commands = commands →
      (∀ dialect (keys : Keys),
        (project.context analysis).bindings dialect keys =
          (Bindings.bind [] keys.commands (joinWords commands)).bind keys.flags
            ((project.context analysis).flagBlock dialect) ∧
        (keys.commands ≠ keys.flags →
          ((project.context analysis).bindings dialect keys).lookup keys.commands =
            some (joinWords commands))) ∧
      (project.readmeBindings analysis).lookup ("commands" : Text) = some (joinWords commands)) ∧
    (Event.detectedCommands commands).message = "Detected commands: " ++ joinWords commands ∧
    ∀ (project : Project) before after result analysis,
      project.config.protocol = protocol → project.config.policy = policy →
      project.analyze before.files = .ok analysis → analysis.reading.table = table →
      project.sync.run before = (result, after) →
      analysis.commands = commands ∧
        before.events ++ [.detectedCommands commands] <+: after.events := by
  intro commands
  have hincreasing : commands.Pairwise (· < ·) :=
    increasing_completionCommands table protocol policy
  have hmem : ∀ {others : List Text} {name : Text},
      name ∈ completionCommands table others policy ↔
        (table.contains name = true ∨ name ∈ others) ∧ policy.excludes name = false := by
    intro others name
    rw [mem_completionCommands, Table.contains, Dictionary.isSome_lookup, Table.names]
  refine ⟨hincreasing.imp bytes_lt_bytes.2, fun name => hmem, fun others ho => ?_,
    fun project analysis hc => ⟨fun dialect keys => ?_, ?_⟩, rfl, ?_⟩
  · refine increasing_ext (increasing_completionCommands table others policy) hincreasing
      fun name => ?_
    rw [hmem, hmem, ho]
  · have hlist : commandList (project.context analysis).commands = joinWords commands := by
      show commandList analysis.commands = joinWords commands
      rw [hc, commandList_of_increasing hincreasing]
    refine ⟨by rw [Context.bindings, hlist], fun hk => ?_⟩
    rw [Context.lookup_commands _ dialect hk, hlist]
  · rw [readmeBindings_commands, hc]
  · rintro project before after result analysis rfl rfl ha rfl h
    have hc : analysis.commands = commands := commands_of_analyze ha
    refine ⟨hc, ?_⟩
    rw [← hc]
    exact detected_of_sync ha h

/-- A protocol that lists one command twice and an excluded one. -/
theorem completionCommands_shown_repeated : ∃ (project : Project) (analysis : Analysis),
    project.config.protocol = ["push", "fetch", "push", "help"] ∧
    project.analyze (plainFiles plainDocument []) = .ok analysis ∧
    analysis.commands = ["clean", "fetch", "push"] ∧
    (project.readmeBindings analysis).lookup ("commands" : Text) = some "clean fetch push" ∧
    (∀ dialect, ((project.context analysis).bindings dialect (Keys.standard dialect)).lookup
      (Keys.standard dialect).commands = some "clean fetch push") ∧
    [.detectedCommands ["clean", "fetch", "push"]] <+:
      (project.sync.run ⟨plainFiles plainDocument [], []⟩).2.events := by
  let project : Project :=
    ⟨plain.root, { plain.config with protocol := ["push", "fetch", "push", "help"] }⟩
  let names : List Text := ["clean", "fetch", "push"]
  obtain ⟨help, hh, hn⟩ : ∃ help, project.readHelp (plainFiles plainDocument []) = .ok help ∧
      (Help.read project.config.policy help).table.names = ["clean".toList] :=
    ⟨_, readHelp_eq_ok.2 ⟨_, readText_of_find rfl, rfl⟩, by decide +kernel⟩
  have ha : project.analyze (plainFiles plainDocument []) = .ok (project.config.analyze help) :=
    analyze_eq_ok.2 ⟨help, hh, rfl⟩
  obtain ⟨-, -, hothers, hshown, -, hsync⟩ := completionCommands_shown
    (Help.read project.config.policy help).table project.config.protocol project.config.policy
  -- The protocol in order and without the repetition gives the same commands.
  have hsame : ∀ name : Text, name ∈ ["fetch".toList, "push".toList, "help".toList] ↔
      name ∈ project.config.protocol := by
    intro name
    simp only [project, List.mem_cons, List.not_mem_nil, or_false]
    tauto
  have hkept : (["clean".toList] ++ ["fetch".toList, "push".toList, "help".toList]).filter
      (fun name => !project.config.policy.excludes name) = names := by decide
  have hnames : completionCommands (Help.read project.config.policy help).table
      project.config.protocol project.config.policy = names := by
    rw [← hothers _ hsame, completionCommands, hn, hkept]
    exact sortedSet_of_increasing (by decide)
  rw [hnames] at hshown hsync
  obtain ⟨hscripts, hreadme⟩ := hshown project (project.config.analyze help) hnames
  obtain ⟨-, hevents⟩ := hsync project ⟨plainFiles plainDocument [], []⟩ _ _ _ rfl rfl ha rfl
    (Prod.eta (project.sync.run ⟨plainFiles plainDocument [], []⟩)).symm
  exact ⟨project, _, rfl, ha, hnames, hreadme,
    fun dialect => (hscripts dialect (Keys.standard dialect)).2 (by cases dialect <;> decide),
    hevents⟩

end Project

end Synopsis
