import Synopsis.Flag.Basic

/-!
# Flag lists

The flags of one command, in the order of their first appearance. Adding a flag that is already
there changes nothing, so a list built by `add` alone has no repeats; a list that is loaded keeps
the repeats that were written.

- `add_nodup`: adding to a list without repeats gives a list without repeats.
- `mem_add`: the list then holds what it held, and the flag.
-/

namespace Synopsis

/-- The flags of one command. -/
abbrev FlagList := List Flag

namespace FlagList

/-- Appends the flag unless it is there. -/
def add (flags : FlagList) (flag : Flag) : FlagList :=
  if flag ∈ flags then flags else flags ++ [flag]

/-- The flags in the order of their first appearance, each once. -/
def ofFlags (flags : List Flag) : FlagList := flags.foldl add []

/-- Whether some flag is written as `literal`. -/
def containsLiteral (flags : FlagList) (literal : Text) : Bool :=
  flags.any fun flag => flag.literal == literal

/-- The literals in list order. -/
def literals (flags : FlagList) : List Text := flags.map Flag.literal

theorem mem_add {flags : FlagList} {flag other : Flag} :
    other ∈ flags.add flag ↔ other ∈ flags ∨ other = flag := by
  unfold add
  split
  · exact ⟨Or.inl, fun h => h.elim id fun h => h ▸ ‹_›⟩
  · simp

theorem add_nodup {flags : FlagList} (h : flags.Nodup) (flag : Flag) :
    (flags.add flag).Nodup := by
  unfold add
  split
  · exact h
  · next hf => grind [List.nodup_append]

theorem foldl_add_nodup {flags : FlagList} (h : flags.Nodup) (more : List Flag) :
    (more.foldl add flags).Nodup := by
  induction more generalizing flags with
  | nil => exact h
  | cons flag more ih => exact ih (add_nodup h flag)

theorem ofFlags_nodup (flags : List Flag) : (ofFlags flags).Nodup :=
  foldl_add_nodup List.nodup_nil flags

end FlagList

end Synopsis
