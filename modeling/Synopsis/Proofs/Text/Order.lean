import Mathlib.Data.List.Nodup
import Mathlib.Data.List.Perm.Basic
import Synopsis.Text.Basic

/-!
# Increasing lists of texts

The order on texts is total, so a list of texts in strictly increasing order is determined by what
it holds.

- `pairwise_sorted`: sorting puts the texts in order.
- `increasing_ext`: two increasing lists that hold the same texts are equal.
- `increasing_eraseReps`: a sorted list without its repeats is increasing.
-/

namespace Synopsis.Text

variable {a b c : Text} {texts others : List Text}

theorem isAtMost_iff : isAtMost a b = true ↔ a < b ∨ a = b := by
  rw [isAtMost, Bool.not_eq_true', decide_eq_false_iff_not]
  constructor
  · intro h
    rcases Std.lt_trichotomy a b with hlt | heq | hgt
    · exact Or.inl hlt
    · exact Or.inr heq
    · exact absurd hgt h
  · intro h' hba
    rcases h' with hab | rfl
    · exact List.lt_irrefl _ (List.lt_trans hab hba)
    · exact List.lt_irrefl _ hba

theorem isAtMost_trans (a b c : Text) (hab : isAtMost a b = true) (hbc : isAtMost b c = true) :
    isAtMost a c = true := by
  rw [isAtMost_iff] at hab hbc ⊢
  rcases hab with hab | rfl
  · rcases hbc with hbc | rfl
    · exact Or.inl (List.lt_trans hab hbc)
    · exact Or.inl hab
  · exact hbc

theorem isAtMost_total (a b : Text) : (isAtMost a b || isAtMost b a) = true := by
  rw [Bool.or_eq_true, isAtMost_iff, isAtMost_iff]
  rcases Std.lt_trichotomy a b with hlt | heq | hgt
  · exact Or.inl (Or.inl hlt)
  · exact Or.inl (Or.inr heq)
  · exact Or.inr (Or.inl hgt)

theorem pairwise_sorted (texts : List Text) :
    (sorted texts).Pairwise fun a b => isAtMost a b = true :=
  List.pairwise_mergeSort isAtMost_trans isAtMost_total texts

theorem mem_sorted : a ∈ sorted texts ↔ a ∈ texts := List.mem_mergeSort

/-! ## Strictly increasing lists -/

theorem nodup_of_increasing (h : texts.Pairwise (· < ·)) : texts.Nodup := by
  refine h.imp fun {first second} hlt he => ?_
  rw [he] at hlt
  exact List.lt_irrefl _ hlt

/-- Two increasing lists that hold the same texts are equal. -/
theorem increasing_ext (h : texts.Pairwise (· < ·)) (h' : others.Pairwise (· < ·))
    (hm : ∀ text, text ∈ texts ↔ text ∈ others) : texts = others := by
  have hperm : texts.Perm others :=
    (List.perm_ext_iff_of_nodup (nodup_of_increasing h) (nodup_of_increasing h')).2 hm
  refine hperm.eq_of_pairwise ?_ h h'
  intro first second _ _ hfirst hsecond
  exact absurd (List.lt_trans hfirst hsecond) (List.lt_irrefl _)

theorem eraseReps_loop (a : Text) (texts kept : List Text) :
    List.eraseRepsBy.loop (· == ·) a texts kept =
      kept.reverse ++ List.eraseRepsBy.loop (· == ·) a texts [] := by
  induction texts generalizing a kept with
  | nil => simp [List.eraseRepsBy.loop]
  | cons b texts ih =>
    rw [List.eraseRepsBy.loop, List.eraseRepsBy.loop]
    cases a == b with
    | true => exact ih a kept
    | false =>
      show List.eraseRepsBy.loop _ b texts (a :: kept) = _ ++ List.eraseRepsBy.loop _ b texts [a]
      rw [ih b (a :: kept), ih b [a]]
      simp

theorem eraseReps_cons_cons (a b : Text) (texts : List Text) :
    (a :: b :: texts).eraseReps =
      if a = b then (b :: texts).eraseReps else a :: (b :: texts).eraseReps := by
  show List.eraseRepsBy.loop (· == ·) a (b :: texts) [] =
    if a = b then List.eraseRepsBy.loop (· == ·) b texts []
      else a :: List.eraseRepsBy.loop (· == ·) b texts []
  rw [List.eraseRepsBy.loop]
  by_cases he : a = b
  · subst he
    simp
  · rw [beq_false_of_ne he, if_neg he]
    exact eraseReps_loop b texts [a]

theorem mem_eraseReps : a ∈ texts.eraseReps ↔ a ∈ texts := by
  induction texts with
  | nil => rfl
  | cons b texts ih =>
    cases texts with
    | nil => rfl
    | cons c texts =>
      rw [eraseReps_cons_cons]
      by_cases he : b = c
      · subst he
        rw [if_pos rfl, ih]
        simp
      · rw [if_neg he, List.mem_cons, ih]
        exact List.mem_cons.symm

/-- A sorted list without its repeats is strictly increasing. -/
theorem increasing_eraseReps (h : texts.Pairwise fun a b => isAtMost a b = true) :
    texts.eraseReps.Pairwise (· < ·) := by
  induction texts with
  | nil => exact List.Pairwise.nil
  | cons a texts ih =>
    cases texts with
    | nil => exact List.pairwise_singleton _ _
    | cons b texts =>
      obtain ⟨ha, hrest⟩ := List.pairwise_cons.1 h
      rw [eraseReps_cons_cons]
      by_cases he : a = b
      · rw [if_pos he]
        exact ih hrest
      · rw [if_neg he, List.pairwise_cons]
        refine ⟨fun text ht => ?_, ih hrest⟩
        have hab : a < b := (isAtMost_iff.1 (ha b List.mem_cons_self)).resolve_right he
        rw [mem_eraseReps, List.mem_cons] at ht
        rcases ht with rfl | ht
        · exact hab
        · rcases isAtMost_iff.1 ((List.pairwise_cons.1 hrest).1 text ht) with hb | rfl
          · exact List.lt_trans hab hb
          · exact hab

end Synopsis.Text
