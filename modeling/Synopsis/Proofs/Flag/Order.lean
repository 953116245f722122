import Mathlib.Data.List.Perm.Basic
import Synopsis.Flag.Order

/-!
# Flags in render order

The order of flags is total and never ties, so the rendered list depends on the flags alone and not
on the order in which they were found.

- `renderOrder_pairwise`: the rendered list is in order.
- `renderOrder_eq_of_perm`: the same flags give the same rendered list.
-/

namespace Synopsis.Flag

theorem renderLE_iff {a b : Flag} : renderLE a b = true ↔
    a.name < b.name ∨ a.name = b.name ∧ (a.kind = .short ∨ b.kind = .long) := by
  simp only [renderLE, Bool.or_eq_true, Bool.and_eq_true, decide_eq_true_eq]

theorem renderLE_trans (a b c : Flag) (hab : renderLE a b = true) (hbc : renderLE b c = true) :
    renderLE a c = true := by
  rw [renderLE_iff] at hab hbc ⊢
  rcases hab with hab | ⟨hab, hk⟩
  · rcases hbc with hbc | ⟨hbc, -⟩
    · exact Or.inl (List.lt_trans hab hbc)
    · exact Or.inl (hbc ▸ hab)
  · rcases hbc with hbc | ⟨hbc, hk'⟩
    · exact Or.inl (hab ▸ hbc)
    · refine Or.inr ⟨hab.trans hbc, ?_⟩
      rcases hk with hk | hk
      · exact Or.inl hk
      · rcases hk' with hk' | hk'
        · rw [hk] at hk'
          cases hk'
        · exact Or.inr hk'

theorem renderLE_total (a b : Flag) : (renderLE a b || renderLE b a) = true := by
  rw [Bool.or_eq_true, renderLE_iff, renderLE_iff]
  rcases Std.lt_trichotomy a.name b.name with hlt | heq | hgt
  · exact Or.inl (Or.inl hlt)
  · cases hk : a.kind with
    | short => exact Or.inl (Or.inr ⟨heq, Or.inl rfl⟩)
    | long => exact Or.inr (Or.inr ⟨heq.symm, Or.inr rfl⟩)
  · exact Or.inr (Or.inl hgt)

theorem renderOrder_pairwise (flags : List Flag) :
    (renderOrder flags).Pairwise fun a b => renderLE a b = true :=
  List.pairwise_mergeSort renderLE_trans renderLE_total flags

/-- The same flags give the same rendered list. -/
theorem renderOrder_eq_of_perm {flags others : List Flag} (h : flags.Perm others) :
    renderOrder flags = renderOrder others := by
  have hperm : (renderOrder flags).Perm (renderOrder others) :=
    (renderOrder_perm flags).trans (h.trans (renderOrder_perm others).symm)
  refine hperm.eq_of_pairwise ?_ (renderOrder_pairwise flags) (renderOrder_pairwise others)
  intro a b _ _ hab hba
  exact renderLE_antisymm hab hba

/-- Flags that are in order stay as they are. -/
theorem renderOrder_of_pairwise {flags : List Flag}
    (h : flags.Pairwise fun a b => renderLE a b = true) : renderOrder flags = flags :=
  List.mergeSort_of_pairwise h

end Synopsis.Flag
