import Mathlib.Data.List.Forall2

/-!
# Results in sequence

A sequence of steps that may fail succeeds exactly if every step does, and otherwise fails as the
first one that does.

- `bind_eq_ok`, `bind_eq_error`: two steps, the second one taking up the result of the first.
- `mapM_eq_ok`: one step for each item of a list.
-/

namespace Synopsis

variable {ε α β : Type}

theorem bind_eq_ok {result : Except ε α} {next : α → Except ε β} {b : β} :
    result >>= next = .ok b ↔ ∃ a, result = .ok a ∧ next a = .ok b := by
  cases result with
  | error error => simp [bind, Except.bind]
  | ok a => simp [bind, Except.bind]

theorem bind_eq_error {result : Except ε α} {next : α → Except ε β} {error : ε} :
    result >>= next = .error error ↔
      result = .error error ∨ ∃ a, result = .ok a ∧ next a = .error error := by
  cases result with
  | error cause => simp [bind, Except.bind]
  | ok a => simp [bind, Except.bind]

theorem map_eq_error {result : Except ε α} {f : α → β} {error : ε} :
    f <$> result = .error error ↔ result = .error error := by
  cases result with
  | error cause => simp [Functor.map, Except.map]
  | ok a => simp [Functor.map, Except.map]

theorem map_eq_ok {result : Except ε α} {f : α → β} {b : β} :
    f <$> result = .ok b ↔ ∃ a, result = .ok a ∧ f a = b := by
  cases result with
  | error error => simp [Functor.map, Except.map]
  | ok a => simp [Functor.map, Except.map]

theorem mapM_eq_ok {f : α → Except ε β} {as : List α} {bs : List β} :
    as.mapM f = .ok bs ↔ List.Forall₂ (fun a b => f a = .ok b) as bs := by
  induction as generalizing bs with
  | nil => simp [pure, Except.pure, eq_comm]
  | cons a as ih =>
    simp only [List.mapM_cons, bind_eq_ok, ih, List.forall₂_cons_left_iff]
    constructor
    · intro h'
      obtain ⟨b, hb, rest, hr, h⟩ := h'
      cases h
      exact ⟨b, rest, hb, hr, rfl⟩
    · intro h'
      obtain ⟨b, rest, hb, hr, rfl⟩ := h'
      exact ⟨b, hb, rest, hr, rfl⟩

end Synopsis
