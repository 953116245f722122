import Synopsis.Proofs.Flag.Order
import Synopsis.Script.Render

/-!
# What scripts show

A script shows the flags of its group in render order, so the order in which they were found never
shows, and its command list under a key of its own.

- `flagBlock_eq_of_perm`: the same flags give the same block in every dialect.
- `render_eq_of_perm`: the same commands and flags give the same script, whatever its template is.
- `Context.lookup_commands`: what is bound to the key of the command list.
-/

namespace Synopsis

theorem Flag.joined_eq_of_perm {flags others : List Flag} (h : flags.Perm others) :
    Flag.joined flags = Flag.joined others := by
  rw [joined, joined, renderOrder_eq_of_perm h]

namespace Script

/-- The same flags give the same block in every dialect. -/
theorem flagBlock_eq_of_perm {flags others : List Flag} (h : flags.Perm others)
    (dialect : Dialect) (group : FlagGroup) :
    flagBlock dialect group flags = flagBlock dialect group others := by
  cases dialect with
  | bash => exact Flag.joined_eq_of_perm h
  | zsh => simp only [flagBlock, Flag.joined_eq_of_perm h, Flag.renderOrder_eq_of_perm h]
  | fish => simp only [flagBlock, Flag.renderOrder_eq_of_perm h]

/-- The same commands and flags give the same script, whatever its template is. -/
theorem render_eq_of_perm {context other : Context} (hc : context.commands = other.commands)
    (hg : context.group = other.group) (hf : context.groupFlags.Perm other.groupFlags)
    (dialect : Dialect) (template : Template) (keys : Keys) :
    render dialect template context keys = render dialect template other keys := by
  have hempty : context.groupFlags.isEmpty = other.groupFlags.isEmpty := by
    rw [Bool.eq_iff_iff, List.isEmpty_iff, List.isEmpty_iff]
    exact ⟨fun h => (h ▸ hf).nil_eq.symm, fun h => (h ▸ hf).eq_nil⟩
  have hblock : context.flagBlock dialect = other.flagBlock dialect := by
    rw [Context.flagBlock, Context.flagBlock, hempty, hg, flagBlock_eq_of_perm hf]
  rw [render, render, Context.bindings, Context.bindings, hc, hblock]

/-- Unless the flag block has the same key, the command list is bound. -/
theorem Context.lookup_commands (context : Context) (dialect : Dialect) {keys : Keys}
    (h : keys.commands ≠ keys.flags) :
    (context.bindings dialect keys).lookup keys.commands = some (commandList context.commands) := by
  rw [bindings, Bindings.bind, Bindings.bind, List.lookup_cons, beq_false_of_ne h,
    List.lookup_cons_self]

end Script

end Synopsis
