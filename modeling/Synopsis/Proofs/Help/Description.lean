import Mathlib.Data.List.TakeWhile
import Synopsis.Help.Line
import Synopsis.Proofs.Help.Group

/-!
# Descriptions

Two spaces start the description, and it names no flags. A single space in front of them is the
last character of the region, and nothing is read differently without it. But the blanks at the
start of a body go first, so a description that nothing but blanks precede stands where the flags
would be.

- `Mention.tokens_concat_space`: a space behind a region changes none of its mentions.
- `flagsOf_append_description`: which of the two parts of a body its flags are read from.
- `flagsOf_description_alone`: a flag line with a description only.
-/

namespace Synopsis.Help

open Text

namespace Mention

variable {text : Text}

/-! ## A space behind a region -/

/-- What is read, with one more space left behind it. -/
def spaced (found : Text × Text) : Text × Text := (found.1, found.2 ++ [' '])

theorem isBoundary_head? (before : Char) (text : Text) :
    isBoundary before (text ++ [' ']).head? = isBoundary before text.head? := by
  have hspace : isWord ' ' = false := by decide +kernel
  cases text <;> simp [isBoundary, hspace]

theorem longTail?_concat_space (last : Char) (text : Text) :
    longTail? last (text ++ [' ']) = (longTail? last text).map spaced := by
  induction text generalizing last with
  | nil =>
    have hboundary := isBoundary_head? last []
    have hlong : FlagKind.isLongChar ' ' = false := by decide
    rw [List.nil_append, List.head?_cons, List.head?_nil] at hboundary
    simp only [List.nil_append, longTail?, hboundary, hlong, Bool.false_eq_true, if_false]
    split <;> rfl
  | cons c text ih =>
    simp only [List.cons_append, longTail?, ih]
    cases longTail? c text <;> split <;> split <;> simp_all [spaced]

theorem long?_concat_space (text : Text) : long? (text ++ [' ']) = (long? text).map spaced := by
  have hspace : Char.isLower ' ' = false := by decide
  unfold long?
  split
  · next c rest heq =>
    rcases text with _ | ⟨x, _ | ⟨y, _ | ⟨z, text⟩⟩⟩
    · simp at heq
    · simp at heq
    · obtain ⟨rfl, rfl, rfl, rfl⟩ : x = '-' ∧ y = '-' ∧ ' ' = c ∧ [] = rest := by simpa using heq
      simp [hspace]
    · obtain ⟨rfl, rfl, rfl, rfl⟩ : x = '-' ∧ y = '-' ∧ z = c ∧ text ++ [' '] = rest := by
        simpa using heq
      simp only [longTail?_concat_space]
      split
      · cases longTail? z text <;> rfl
      · rfl
  · next hother =>
    split
    · next c text => exact absurd rfl (hother c (text ++ [' ']))
    · rfl

theorem dashed?_concat_space (text : Text) :
    dashed? (text ++ [' ']) = (dashed? text).map spaced := by
  have hspace : Char.isAlphanum ' ' = false := by decide
  unfold dashed?
  split
  · next c rest heq =>
    rcases text with _ | ⟨x, _ | ⟨y, text⟩⟩
    · simp at heq
    · obtain ⟨rfl, rfl, rfl⟩ : x = '-' ∧ ' ' = c ∧ [] = rest := by simpa using heq
      simp [hspace]
    · obtain ⟨rfl, rfl, rfl⟩ : x = '-' ∧ y = c ∧ text ++ [' '] = rest := by simpa using heq
      by_cases hy : y.isAlphanum = true <;> simp [hy, spaced]
  · next hother =>
    split
    · next c text => exact absurd rfl (hother c (text ++ [' ']))
    · rfl

theorem short?_concat_space (text : Text) : short? (text ++ [' ']) = (short? text).map spaced := by
  unfold short?
  rw [dashed?_concat_space]
  cases dashed? text with
  | none => rfl
  | some found =>
    simp only [Option.map_some, spaced, isBoundary_head?]
    split <;> rfl

/-- The space belongs to the blanks of a text only if the text has no other character. -/
theorem blanks_concat_space (text : Text) :
    (blanks (text ++ [' ']) = (text ++ [' '], []) ∧ blanks text = (text, [])) ∨
      (blanks (text ++ [' ']) = spaced (blanks text) ∧ (blanks text).2 ≠ []) := by
  have hspace : isBlank ' ' = true := by decide
  induction text with
  | nil => exact Or.inl ⟨by simp [blanks, hspace], rfl⟩
  | cons c text ih =>
    cases hc : isBlank c with
    | false => exact Or.inr (by simp [blanks, spaced, hc])
    | true => simpa [blanks, spaced, hc] using ih

theorem pair?_concat_space (text : Text) : pair? (text ++ [' ']) = (pair? text).map spaced := by
  unfold pair?
  rw [dashed?_concat_space]
  cases dashed? text with
  | none => rfl
  | some found =>
    obtain ⟨short, after⟩ := found
    simp only [Option.map_some, spaced]
    rcases blanks_concat_space after with ⟨hblanks, hafter⟩ | ⟨hblanks, hne⟩
    · rw [hblanks, hafter]
      rfl
    · rw [hblanks]
      generalize blanks after = found at hne
      obtain ⟨left, rest⟩ := found
      cases rest with
      | nil => exact absurd rfl hne
      | cons c rest =>
        by_cases hc : c = ','
        · subst hc
          have hlong : long? (blanks (rest ++ [' '])).2 = (long? (blanks rest).2).map spaced ∧
              (long? (blanks rest).2 ≠ none → (blanks (rest ++ [' '])).1 = (blanks rest).1) := by
            rcases blanks_concat_space rest with ⟨hb, ha⟩ | ⟨hb, -⟩
            · rw [hb, ha]
              exact ⟨rfl, fun h => absurd rfl h⟩
            · rw [hb]
              exact ⟨long?_concat_space _, fun _ => rfl⟩
          simp only [spaced, List.cons_append]
          rw [hlong.1]
          cases hl : long? (blanks rest).2 with
          | none => rfl
          | some long =>
            rw [hlong.2 (by simp [hl])]
            rfl
        · simp [spaced, hc]

theorem token?_concat_space (text : Text) : token? (text ++ [' ']) = (token? text).map spaced := by
  rw [token?, token?, pair?_concat_space, long?_concat_space, short?_concat_space]
  cases pair? text <;> cases long? text <;> rfl

theorem here?_concat_space (atStart : Bool) (c : Char) (text : Text) :
    here? atStart c (text ++ [' ']) = (here? atStart c text).map spaced := by
  have hcons := token?_concat_space (c :: text)
  rw [List.cons_append] at hcons
  rw [here?, here?, hcons, token?_concat_space]
  cases atStart <;> cases isOpener c <;> cases token? (c :: text) <;> rfl

/-- A space behind a region changes none of its mentions. -/
theorem tokens_concat_space (atStart : Bool) (text : Text) :
    tokens atStart (text ++ [' ']) = tokens atStart text := by
  induction atStart, text using tokens.induct with
  | case1 atStart => cases atStart <;> decide +kernel
  | case2 atStart c text token rest hhere ih =>
    have hspaced := here?_concat_space atStart c text
    rw [hhere, Option.map_some, spaced] at hspaced
    rw [List.cons_append, tokens_of_here? hspaced, tokens_of_here? hhere, ih]
  | case3 atStart c text hhere ih =>
    have hspaced := here?_concat_space atStart c text
    rw [hhere, Option.map_none] at hspaced
    rw [List.cons_append, tokens_of_here?_eq_none hspaced, tokens_of_here?_eq_none hhere, ih]

end Mention

/-! ## The region of a body with a description -/

variable {before : Text}

theorem trimStart_append (h : before.all isBlank = false) (text : Text) :
    trimStart (before ++ text) = trimStart before ++ text := by
  have hne : ¬ (before.dropWhile isBlank).isEmpty = true := by
    intro he
    rw [List.isEmpty_iff, List.dropWhile_eq_nil_iff, ← List.all_eq_true, h] at he
    cases he
  rw [trimStart, trimStart, List.dropWhile_append, if_neg hne]

/-- Two spaces and a description leave the region as it is, or take the space that it ends in. -/
theorem flagRegion_append (h : before.all isBlank = false) (description : Text) :
    flagRegion (before ++ [' ', ' '] ++ description) = flagRegion before ∨
      flagRegion (before ++ [' ', ' '] ++ description) ++ [' '] = flagRegion before := by
  have hstart : trimStart (before ++ [' ', ' '] ++ description) =
      trimStart before ++ [' ', ' '] ++ description := by
    rw [List.append_assoc, trimStart_append h, List.append_assoc]
  cases hs : splitAtFirst? [' ', ' '] (trimStart before) with
  | some found =>
    obtain ⟨ht, hf⟩ := splitAtFirst?_eq_some.1 hs
    left
    rw [flagRegion_of_first ht hf]
    exact flagRegion_of_first (by rw [hstart, ht, List.append_assoc, List.append_assoc]) hf
  | none =>
    have hn := splitAtFirst?_eq_none.1 hs
    rw [flagRegion_eq_trimStart hn]
    by_cases hl : ∃ region, trimStart before = region ++ [' ']
    · obtain ⟨region, hr⟩ := hl
      right
      rw [hr] at hn hstart ⊢
      have hf : FirstAfter [' ', ' '] region := @firstAfter_concat [' '] region ' ' hn
      have hsplit : region ++ [' '] ++ [' ', ' '] ++ description =
          region ++ [' ', ' '] ++ ' ' :: description := by simp
      rw [flagRegion_of_first (hstart.trans hsplit) hf]
    · left
      refine flagRegion_of_first hstart (@firstAfter_concat [' '] _ ' ' fun hi => ?_)
      rcases List.infix_concat_iff.1 hi with ⟨front, hfront⟩ | hi
      · have hr : front ++ [' '] ++ [' '] = trimStart before ++ [' '] := by rw [← hfront]; simp
        exact hl ⟨front, (List.append_cancel_right hr).symm⟩
      · exact hn hi

/-- Blanks and two spaces in front of a text do not change its region. -/
theorem flagRegion_blanks (h : before.all isBlank = true) (description : Text) :
    flagRegion (before ++ [' ', ' '] ++ description) = flagRegion description := by
  have hstart : trimStart (before ++ [' ', ' '] ++ description) = trimStart description := by
    have hspaces : ∀ c ∈ before ++ [' ', ' '], isBlank c = true := by
      have hspace : isBlank ' ' = true := by decide
      simpa [hspace, or_imp, forall_and] using h
    exact List.dropWhile_append_of_pos hspaces
  rw [flagRegion, flagRegion, hstart]

/-- What two spaces set off from flags names no flags. But if nothing but blanks is in front of the
two spaces, the flags are read from what is behind them. -/
theorem flagsOf_append_description (before description : Text) :
    flagsOf (before ++ "  " ++ description) =
      if before.all isBlank then flagsOf description else flagsOf before := by
  have hpattern : ("  " : String).toList = [' ', ' '] := by decide
  rw [hpattern]
  cases h : before.all isBlank with
  | true => simp only [flagsOf, flagRegion_blanks h, if_true]
  | false =>
    simp only [flagsOf, Bool.false_eq_true, if_false]
    rcases flagRegion_append h description with hr | hr
    · rw [hr]
    · rw [← hr, Mention.tokens_concat_space]

/-- The flags that a description mentions are read if it stands alone on a flag line. -/
theorem flagsOf_description_alone :
    let description : Text := "same as -f, --yes"
    Line.classify {} "    clean  same as -f, --yes" = .flagLine "clean" ("  " ++ description) ∧
      flagsOf ("" ++ "  " ++ description) ≠ flagsOf "" := by
  decide +kernel

end Synopsis.Help
