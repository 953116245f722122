import Synopsis.Text.Basic

/-!
# Occurrences

Where a pattern occurs in a text. The first occurrence is the one before which no other starts,
and whether it is the first does not depend on what follows it.

- `splitAtFirst?_eq_some`: a text is split at the first occurrence of the pattern.
- `occurrence_append_cons`: an occurrence does not reach over a character that it lacks.
- `occurrence_append`: an occurrence does not start in a text without its first character.
-/

namespace Synopsis.Text

variable {pattern text before rest a b : Text}

/-- In the text followed by the pattern, the pattern occurs at the end only. -/
def FirstAfter (pattern before : Text) : Prop :=
  ∀ a b, before ++ pattern = a ++ pattern ++ b → b = []

/-! ## The first occurrence -/

theorem after?_append (pattern rest : Text) : after? pattern (pattern ++ rest) = some rest :=
  after?_eq_some_iff.2 rfl

theorem after?_eq_none : after? pattern text = none ↔ ¬ pattern <+: text := by
  rw [Option.eq_none_iff_forall_ne_some]
  constructor
  · intro h h'
    obtain ⟨rest, rfl⟩ := h'
    exact h rest (after?_append pattern rest)
  · intro h rest hr
    exact h ⟨rest, (after?_eq_some_iff.1 hr).symm⟩

theorem firstAfter_nil (pattern : Text) : FirstAfter pattern [] := by
  intro a b h
  have := congrArg List.length h
  simp only [List.nil_append, List.length_append] at this
  exact List.length_eq_zero_iff.1 (by omega)

theorem firstAfter_cons {c : Char} : FirstAfter pattern (c :: before) ↔
    ¬ pattern <+: c :: (before ++ pattern) ∧ FirstAfter pattern before := by
  constructor
  · intro h
    refine ⟨?_, fun a b hab => h (c :: a) b (by simp [hab])⟩
    intro h'
    obtain ⟨b, hb⟩ := h'
    obtain rfl := h [] b (by simp [hb])
    have := congrArg List.length hb
    simp only [List.append_nil, List.length_cons, List.length_append] at this
    omega
  · intro h' a b hab
    obtain ⟨hn, h⟩ := h'
    cases a with
    | nil => exact absurd ⟨b, by simpa using hab.symm⟩ hn
    | cons d a => exact h a b (by simpa using (List.cons.inj hab).2)

/-- The pattern is first where it stands if it does not end earlier. -/
theorem firstAfter_concat {c : Char} (h : ¬ pattern ++ [c] <:+: before ++ pattern) :
    FirstAfter (pattern ++ [c]) before := by
  intro a b hab
  rcases List.eq_nil_or_concat b with hb | ⟨b, d, rfl⟩
  · exact hb
  · rw [List.concat_eq_append, ← List.append_assoc, ← List.append_assoc] at hab
    exact absurd ⟨a, b, (List.append_inj' hab rfl).1.symm⟩ h

/-- Of two occurrences, the first one does not start later. -/
theorem FirstAfter.exists_append (h : FirstAfter pattern before)
    (he : before ++ pattern ++ rest = a ++ pattern ++ b) : ∃ c, a = before ++ c := by
  rw [List.append_assoc, List.append_assoc, List.append_eq_append_iff] at he
  rcases he with ⟨c, rfl, -⟩ | ⟨c, rfl, hc⟩
  · exact ⟨c, rfl⟩
  · obtain ⟨d, hd⟩ : pattern <+: c ++ pattern := by
      refine List.prefix_of_prefix_length_le ⟨b, rfl⟩ ⟨rest, ?_⟩ (by simp)
      rw [hc, List.append_assoc]
    obtain rfl := h a d (by rw [List.append_assoc, List.append_assoc, hd])
    have : c = [] := by simpa using congrArg List.length hd
    exact ⟨[], by simp [this]⟩

/-- The first occurrence is the one that no other starts before, whatever follows it. -/
theorem firstAfter_iff (rest : Text) : FirstAfter pattern before ↔
    ∀ a b, before ++ pattern ++ rest = a ++ pattern ++ b → before.length ≤ a.length := by
  constructor
  · intro h a b hab
    obtain ⟨c, rfl⟩ := h.exists_append hab
    simp
  · intro h a b hab
    have hle : before.length ≤ a.length := h a (b ++ rest) (by rw [hab]; simp)
    have hlen := congrArg List.length hab
    simp only [List.length_append] at hlen
    exact List.length_eq_zero_iff.1 (by omega)

theorem FirstAfter.of_append (front : Text) (h : FirstAfter pattern (front ++ before)) :
    FirstAfter pattern before := by
  intro a b hab
  exact h (front ++ a) b (by simp only [List.append_assoc, hab])

/-- The pattern does not start earlier. -/
theorem FirstAfter.not_isPrefix_append (h : FirstAfter pattern before) (hb : before ≠ [])
    (rest : Text) :
    ¬ pattern <+: before ++ pattern ++ rest := by
  intro hp
  obtain ⟨b, hb'⟩ := hp
  have hle := (firstAfter_iff rest).1 h [] b (by rw [← hb']; simp)
  exact hb (List.length_eq_zero_iff.1 (Nat.le_zero.1 hle))

/-- A text is split at the first occurrence of the pattern. -/
theorem splitAtFirst?_eq_some : splitAtFirst? pattern text = some (before, rest) ↔
    text = before ++ pattern ++ rest ∧ FirstAfter pattern before := by
  induction text generalizing before with
  | nil =>
    simp only [splitAtFirst?, Option.map_eq_some_iff, after?_eq_some_iff, Prod.mk.injEq]
    constructor
    · intro h'
      obtain ⟨_, h, rfl, rfl⟩ := h'
      exact ⟨by simpa using h, firstAfter_nil pattern⟩
    · intro h'
      obtain ⟨h, -⟩ := h'
      simp_all
  | cons c text ih =>
    simp only [splitAtFirst?]
    split
    · next found hf =>
      rw [after?_eq_some_iff] at hf
      simp only [Option.some.injEq, Prod.mk.injEq]
      constructor
      · intro h'
        obtain ⟨rfl, rfl⟩ := h'
        exact ⟨hf, firstAfter_nil pattern⟩
      · intro h'
        obtain ⟨ht, h⟩ := h'
        obtain ⟨d, hd⟩ := h.exists_append (a := []) (b := found) (by rw [← ht, hf, List.nil_append])
        obtain rfl : before = [] := by simp_all
        exact ⟨rfl, by simpa [hf] using ht⟩
    · next hn =>
      rw [after?_eq_none] at hn
      simp only [Option.map_eq_some_iff, Prod.exists, Prod.mk.injEq]
      constructor
      · intro h'
        obtain ⟨before', rest', h, rfl, rfl⟩ := h'
        obtain ⟨rfl, hf⟩ := ih.1 h
        refine ⟨rfl, firstAfter_cons.2 ⟨fun hp => hn (hp.trans ⟨rest', ?_⟩), hf⟩⟩
        simp
      · intro h'
        obtain ⟨ht, h⟩ := h'
        cases before with
        | nil => exact absurd ⟨rest, ht.symm⟩ hn
        | cons d before =>
          obtain ⟨rfl, rfl⟩ := List.cons.inj ht
          exact ⟨before, rest, ih.2 ⟨rfl, (firstAfter_cons.1 h).2⟩, rfl, rfl⟩

theorem splitAtFirst?_eq_none : splitAtFirst? pattern text = none ↔ ¬ pattern <:+: text := by
  induction text with
  | nil => simp [splitAtFirst?, after?_eq_none]
  | cons c text ih =>
    rw [List.infix_cons_iff, not_or, ← after?_eq_none, ← ih, splitAtFirst?]
    cases after? pattern (c :: text) <;> simp

/-- A text has one first occurrence at most. -/
theorem FirstAfter.unique {other more : Text} (h : FirstAfter pattern before)
    (h' : FirstAfter pattern other) (he : before ++ pattern ++ rest = other ++ pattern ++ more) :
    before = other ∧ rest = more := by
  have hs := splitAtFirst?_eq_some.2 ⟨Eq.refl (before ++ pattern ++ rest), h⟩
  rw [splitAtFirst?_eq_some.2 ⟨he, h'⟩] at hs
  cases hs
  exact ⟨rfl, rfl⟩

/-! ## Characters that an occurrence lacks -/

/-- An occurrence does not reach over a character that it lacks. -/
theorem occurrence_append_cons {c : Char} (hc : c ∉ pattern)
    (h : a ++ pattern ++ b = before ++ c :: rest) :
    (∃ more, before = a ++ pattern ++ more ∧ b = more ++ c :: rest) ∨
      ∃ more, a = before ++ c :: more ∧ rest = more ++ pattern ++ b := by
  rcases List.append_eq_append_iff.1 h with ⟨more, rfl, rfl⟩ | ⟨beyond, hl, hr⟩
  · exact Or.inl ⟨more, rfl, rfl⟩
  · cases beyond with
    | nil => exact Or.inl ⟨[], by simpa using hl.symm, by simpa using hr.symm⟩
    | cons d beyond =>
      obtain ⟨rfl, rfl⟩ := List.cons.inj hr
      rcases List.append_eq_append_iff.1 hl with ⟨more, rfl, rfl⟩ | ⟨more, rfl, hm⟩
      · exact absurd (by simp) hc
      · cases more with
        | nil =>
          obtain rfl : c :: beyond = pattern := by simpa using hm
          exact absurd List.mem_cons_self hc
        | cons d more =>
          obtain ⟨rfl, rfl⟩ := List.cons.inj hm
          exact Or.inr ⟨more, rfl, rfl⟩

/-- An occurrence does not start in a text without its first character. -/
theorem occurrence_append {c : Char} {other : Text} (hc : c ∉ other)
    (h : a ++ (c :: pattern) ++ b = other ++ rest) :
    ∃ more, a = other ++ more ∧ rest = more ++ (c :: pattern) ++ b := by
  rw [List.append_assoc] at h
  rcases List.append_eq_append_iff.1 h with ⟨more, rfl, hm⟩ | ⟨more, rfl, hm⟩
  · cases more with
    | nil => exact ⟨[], by simp, by simpa using hm.symm⟩
    | cons d more =>
      obtain ⟨rfl, -⟩ := List.cons.inj hm
      exact absurd (by simp) hc
  · exact ⟨more, rfl, by rw [hm, List.append_assoc]⟩

/-- A pattern is first behind a text without its first character. -/
theorem firstAfter_of_notMem {c : Char} (hc : c ∉ before) : FirstAfter (c :: pattern) before := by
  intro a b hab
  obtain ⟨more, rfl, hm⟩ := occurrence_append hc hab.symm
  have hlen := congrArg List.length hm
  simp only [List.length_append] at hlen
  exact List.length_eq_zero_iff.1 (by omega)

theorem splitAtFirst?_append {c : Char} (hc : c ∉ before) (rest : Text) :
    splitAtFirst? (c :: pattern) (before ++ (c :: pattern) ++ rest) = some (before, rest) :=
  splitAtFirst?_eq_some.2 ⟨rfl, firstAfter_of_notMem hc⟩

theorem prefix_append_cons {c : Char} (hc : c ∉ pattern) :
    pattern <+: before ++ c :: rest ↔ pattern <+: before := by
  constructor
  · intro h'
    obtain ⟨b, hb⟩ := h'
    rcases occurrence_append_cons (a := []) hc hb with ⟨more, rfl, -⟩ | ⟨more, h, -⟩
    · exact ⟨more, rfl⟩
    · simp at h
  · intro h
    exact h.trans (List.prefix_append _ _)

end Synopsis.Text
