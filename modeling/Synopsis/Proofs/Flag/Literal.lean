import Synopsis.Proofs.Flag.Order
import Synopsis.Proofs.Text.Bytes

/-!
# Literals and the order of flags

Reading a literal settles the kind and the name of its flag. Both can be told from the literal
alone: two dashes announce a long flag, and the name is what stands behind all dashes at the start,
since no name starts with one. So flags with one name and one kind are equal, and the order of
flags never ties.

- `announcedKind_literal`, `bareName_literal`: kind and name are told from the literal.
- `renderOrder_canonical`: what a literal announces, and the one list in render order.
-/

namespace Synopsis.Flag

/-- The kind that the dashes of a literal announce. -/
def announcedKind (literal : Text) : FlagKind := if literal.startsWith "--" then .long else .short

/-- The literal without any of the dashes that it starts with. -/
def bareName (literal : Text) : Text := literal.dropWhile (· == '-')

variable {a b : Flag} {c : Char}

/-! ## Names -/

theorem ne_dash_of_isAlphanum (h : c.isAlphanum = true) : c ≠ '-' := by
  rintro rfl
  exact absurd h (by decide)

/-- A name has a first character, and it is no dash. -/
theorem exists_name_eq_cons (flag : Flag) : ∃ c rest, flag.name = c :: rest ∧ c ≠ '-' := by
  obtain ⟨kind, name, h⟩ := flag
  cases kind with
  | short =>
    match name, h with
    | [c], h => exact ⟨c, [], rfl, ne_dash_of_isAlphanum h⟩
  | long =>
    match name, h with
    | c :: rest, h =>
      rw [FlagKind.admits, Bool.and_eq_true] at h
      refine ⟨c, rest, rfl, ne_dash_of_isAlphanum ?_⟩
      show (c.isUpper || c.isLower || c.isDigit) = true
      rw [h.1, Bool.or_true, Bool.true_or]

theorem literal_eq (flag : Flag) :
    (flag.kind = .short ∧ flag.literal = '-' :: flag.name) ∨
      (flag.kind = .long ∧ flag.literal = '-' :: '-' :: flag.name) := by
  obtain ⟨kind, name, h⟩ := flag
  cases kind with
  | short => exact Or.inl ⟨rfl, rfl⟩
  | long => exact Or.inr ⟨rfl, rfl⟩

/-- One dash in front of a name is not taken for two. -/
theorem announcedKind_literal (flag : Flag) : announcedKind flag.literal = flag.kind := by
  obtain ⟨c, rest, hn, hc⟩ := exists_name_eq_cons flag
  rcases literal_eq flag with ⟨hk, hl⟩ | ⟨hk, hl⟩
  · have hstart : Text.startsWith flag.literal "--" = false := by
      rw [hl, hn]
      simp [Text.startsWith, Text.after?, hc.symm]
    rw [announcedKind, hstart, hk]
    rfl
  · have hstart : Text.startsWith flag.literal "--" = true := by
      rw [hl]
      rfl
    rw [announcedKind, hstart, hk]
    rfl

theorem bareName_literal (flag : Flag) : bareName flag.literal = flag.name := by
  obtain ⟨c, rest, hn, hc⟩ := exists_name_eq_cons flag
  have hname : bareName flag.name = flag.name := by
    rw [hn]
    exact List.dropWhile_cons_of_neg (by simp [hc])
  rcases literal_eq flag with ⟨-, hl⟩ | ⟨-, hl⟩
  · rw [hl]
    exact hname
  · rw [hl]
    exact hname

/-! ## The order -/

/-- Of two different flags exactly one may stand before the other. -/
theorem renderLE_eq_not (h : a ≠ b) : renderLE a b = !renderLE b a := by
  have htotal := renderLE_total a b
  cases hab : renderLE a b with
  | false =>
    rw [hab, Bool.false_or] at htotal
    rw [htotal]
    rfl
  | true =>
    cases hba : renderLE b a with
    | false => rfl
    | true => exact absurd (renderLE_antisymm hab hba) h

/-- The kind and the name that reading a literal settles are those that the literal announces. Of
two different flags exactly one may stand before the other, so the same flags have one list in
render order: by the bytes of the name, and short before long. -/
theorem renderOrder_canonical :
    (∀ (literal : Text) (flag : Flag), parse literal = .ok flag →
      flag.kind = announcedKind literal ∧ flag.name = bareName literal ∧
        flag.name ≠ [] ∧ flag.name.head? ≠ some '-' ∧
        ((flag.kind = .short ∧ literal = '-' :: flag.name) ∨
          (flag.kind = .long ∧ literal = '-' :: '-' :: flag.name))) ∧
    (∀ a b : Flag, a ≠ b → renderLE a b = !renderLE b a) ∧
    ∀ flags : List Flag, (renderOrder flags).Perm flags ∧
      (renderOrder flags).Pairwise (fun a b => Text.bytes a.name < Text.bytes b.name ∨
        a.name = b.name ∧ (a.kind = .short ∨ b.kind = .long)) ∧
      ∀ others : List Flag, others.Perm flags → renderOrder others = renderOrder flags := by
  refine ⟨fun literal flag h => ?_, fun a b h => renderLE_eq_not h, fun flags => ?_⟩
  · obtain rfl := literal_of_parse h
    obtain ⟨c, rest, hn, hc⟩ := exists_name_eq_cons flag
    refine ⟨(announcedKind_literal flag).symm, (bareName_literal flag).symm, ?_, ?_,
      literal_eq flag⟩
    · rw [hn]
      exact List.cons_ne_nil c rest
    · rw [hn, List.head?_cons]
      exact fun he => hc (Option.some.inj he)
  · refine ⟨renderOrder_perm flags, (renderOrder_pairwise flags).imp fun {a b} hab => ?_,
      fun others h => renderOrder_eq_of_perm h⟩
    rw [Text.bytes_lt_bytes]
    exact renderLE_iff.1 hab

/-- A short and a long flag with one name, and a name with hyphens in it. -/
theorem renderOrder_canonical_shown : ∃ a b c : Flag,
    parse "-n" = .ok a ∧ parse "--n" = .ok b ∧ parse "--n-" = .ok c ∧
      b.name = bareName "--n" ∧ c.name = bareName "--n-" ∧ renderLE a b = !renderLE b a ∧
      renderOrder [c, b, a] = renderOrder [a, b, c] := by
  let a : Flag := ⟨.short, "n", rfl⟩
  let b : Flag := ⟨.long, "n", rfl⟩
  let c : Flag := ⟨.long, "n-", rfl⟩
  obtain ⟨announced, apart, listed⟩ := renderOrder_canonical
  refine ⟨a, b, c, rfl, rfl, rfl, (announced "--n" b rfl).2.1, (announced "--n-" c rfl).2.1,
    apart a b (by decide), (listed [a, b, c]).2.2 [c, b, a] (List.reverse_perm [a, b, c])⟩

end Synopsis.Flag
