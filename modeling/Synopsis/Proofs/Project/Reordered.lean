import Synopsis.Project.Render
import Synopsis.Proofs.Help.Reordered
import Synopsis.Proofs.Script.Render

/-!
# Projects and the order of help texts

Two help texts with the same entries in another order, each with its lines in another order, give
the same scripts and show the same values in a README.

- `render_reordered`: nothing that is rendered depends on the order.
-/

namespace Synopsis

open Help Script

variable {policy : Policy} {help other : Text} {inside : List Text}

/-- If each command of the region has one command line, neither the order of the entries nor that of
the lines below a command line matters to any script or to what a README can show. -/
theorem render_reordered (h : Reordered policy (region policy help) inside)
    (hd : (commandNames policy (region policy help)).Nodup)
    (ho : Text.lines other = withRegion policy (Text.lines help) inside) :
    (∀ dialect template keys protocol group,
      Script.render dialect template
          ⟨completionCommands (read policy help).table protocol policy, (read policy help).table,
            group⟩ keys =
        Script.render dialect template
          ⟨completionCommands (read policy other).table protocol policy, (read policy other).table,
            group⟩ keys) ∧
    ∀ project : Project, project.config.policy = policy →
      project.readmeBindings (project.config.analyze help) =
        project.readmeBindings (project.config.analyze other) := by
  have hr : region policy other = inside := region_withRegion h.perm ho
  rw [← hr] at h
  have hcommands : ∀ protocol, completionCommands (read policy help).table protocol policy =
      completionCommands (read policy other).table protocol policy := by
    intro protocol
    rw [completionCommands, completionCommands, names_reordered h.perm]
  refine ⟨fun dialect template keys protocol group => ?_, fun project hp => ?_⟩
  · apply render_eq_of_perm
    · exact hcommands protocol
    · rfl
    · exact flags?_reordered h hd group.command
  · subst hp
    have hflags := Flag.joined_eq_of_perm (flags?_reordered h hd project.config.flagGroup.command)
    simp only [Project.readmeBindings, Config.analyze, Project.context, Context.groupFlags]
    rw [hcommands, hflags]

/-- Two entries in the other order, and the flag lines of one of them too. -/
theorem render_reordered_swapped :
    let help : Text := "Options:\n  clean\n    clean -f\n    clean --init\n  check"
    let other : Text := "Options:\n  check\n  clean\n    clean --init\n    clean -f"
    let inside : List Text := ["  check".toList, "  clean".toList, "    clean --init".toList,
      "    clean -f".toList]
    let project : Project := ⟨.of ".", {}⟩
    Reordered {} (region {} help) inside ∧ (commandNames {} (region {} help)).Nodup ∧
      Text.lines other = withRegion {} (Text.lines help) inside ∧
      project.config.policy = {} ∧
      project.readmeBindings (project.config.analyze help) =
        project.readmeBindings (project.config.analyze other) := by
  intro help other inside project
  let check : Help.Entry := ⟨"  check", []⟩
  have hfirst : entries {} (region {} help) =
      [⟨"  clean", ["    clean -f".toList, "    clean --init".toList]⟩, check] := by
    decide +kernel
  have hsecond : entries {} inside =
      [check, ⟨"  clean", ["    clean --init".toList, "    clean -f".toList]⟩] := by
    decide +kernel
  have h : Reordered {} (region {} help) inside := by
    refine ⟨by decide +kernel, _, hfirst ▸ List.Perm.swap _ _ [], ?_⟩
    rw [hsecond]
    exact .cons ⟨rfl, List.Perm.refl _⟩ (.cons ⟨rfl, List.Perm.swap _ _ []⟩ .nil)
  have hd : (commandNames {} (region {} help)).Nodup := by decide +kernel
  have ho : Text.lines other = withRegion {} (Text.lines help) inside := by decide +kernel
  exact ⟨h, hd, ho, rfl, (render_reordered h hd ho).2 project rfl⟩

end Synopsis
