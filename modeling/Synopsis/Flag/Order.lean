import Synopsis.Flag.Basic

/-!
# The order of flags

Flags are rendered by name, and of two flags with one name the short one comes first. The order
in which a help text lists them never shows.

- `renderOrder_perm`: ordering neither drops nor repeats a flag.
- `renderLE_antisymm`: two different flags never tie.
-/

namespace Synopsis.Flag

/-- The first flag may stand before the second: a smaller name, or one name and short first. -/
def renderLE (a b : Flag) : Bool :=
  a.name < b.name || (a.name = b.name && (a.kind = .short || b.kind = .long))

/-- The flags in the order in which every output lists them. -/
def renderOrder (flags : List Flag) : List Flag := flags.mergeSort renderLE

/-- The literals in render order, with a space between each two. -/
def joined (flags : List Flag) : Text := Text.joinWords ((renderOrder flags).map literal)

theorem renderOrder_perm (flags : List Flag) : (renderOrder flags).Perm flags :=
  List.mergeSort_perm _ _

theorem renderLE_antisymm {a b : Flag} (hab : renderLE a b = true) (hba : renderLE b a = true) :
    a = b := by
  obtain ⟨ka, na, ha⟩ := a
  obtain ⟨kb, nb, hb⟩ := b
  simp only [renderLE, Bool.or_eq_true, decide_eq_true_eq, Bool.and_eq_true] at hab hba
  have hn : na = nb := by
    rcases hab with h | h
    · rcases hba with h' | h'
      · exact absurd (List.lt_trans h h') (List.lt_irrefl _)
      · exact h'.1.symm
    · exact h.1
  subst hn
  have hk : ka = kb := by
    rcases hab with h | ⟨_, h⟩
    · exact absurd h (List.lt_irrefl _)
    · rcases hba with h' | ⟨_, h'⟩
      · exact absurd h' (List.lt_irrefl _)
      · cases ka <;> cases kb <;> simp_all
  subst hk
  rfl

/-- The flags ordered by their literals. -/
def sortedByLiteral (flags : List Flag) : List Flag :=
  flags.mergeSort fun a b => Text.isAtMost a.literal b.literal

/-- The flags with the short ones first, each kind in its old order. -/
def sortedByKind (flags : List Flag) : List Flag :=
  flags.filter (·.kind = .short) ++ flags.filter (·.kind = .long)

end Synopsis.Flag
