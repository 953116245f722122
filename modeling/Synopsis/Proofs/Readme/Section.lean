import Synopsis.Proofs.Text.Search
import Synopsis.Readme.Section

/-!
# Replacing sections

A document is cut at its first section, and goes on after it. A document is settled if every
start marker that has an end after it starts a copy of the replacement: then replacing changes
nothing, and replacing settles every document.

- `cut?_eq_some`, `cut?_eq_none`: where a document is cut, and that otherwise no section is in it.
- `cut_induction`: induction over the sections of a document.
- `replaceSection_of_settled`: replacing changes no settled document.
- `settled_replaceSection`: after replacing, a document is settled.
-/

namespace Synopsis.Readme

open Text

variable {markers : Markers} {replacement document before rest : Text}

/-! ## Sections -/

namespace SectionEnd

/-- The literal that is searched. -/
def literal : SectionEnd → Text
  | .through text => text
  | .before text => text

/-- The part of the literal that belongs to the section. -/
def inside : SectionEnd → Text
  | .through text => text
  | .before _ => []

/-- The part of the literal that stands after the section. -/
def outside : SectionEnd → Text
  | .through _ => []
  | .before text => text

theorem inside_append_outside (ending : SectionEnd) :
    ending.inside ++ ending.outside = ending.literal := by
  cases ending with
  | through text => exact List.append_nil text
  | before text => rfl

theorem rest?_eq_some {ending : SectionEnd} {text : Text} : ending.rest? text = some rest ↔
    ∃ body, text = body ++ ending.inside ++ rest ∧ FirstAfter ending.literal body ∧
      ending.outside <+: rest := by
  cases ending with
  | through lit =>
    simp only [rest?, Option.map_eq_some_iff, Prod.exists, splitAtFirst?_eq_some, inside, outside,
      literal]
    constructor
    · intro h'
      obtain ⟨body, _, ⟨ht, hf⟩, rfl⟩ := h'
      exact ⟨body, ht, hf, List.nil_prefix⟩
    · intro h'
      obtain ⟨body, ht, hf, -⟩ := h'
      exact ⟨body, rest, ⟨ht, hf⟩, rfl⟩
  | before lit =>
    simp only [rest?, Option.map_eq_some_iff, Prod.exists, splitAtFirst?_eq_some, inside, outside,
      literal, List.append_nil]
    constructor
    · intro h'
      obtain ⟨body, after, ⟨ht, hf⟩, rfl⟩ := h'
      exact ⟨body, by rw [ht, List.append_assoc], hf, List.prefix_append _ _⟩
    · intro h'
      obtain ⟨body, ht, hf, after, rfl⟩ := h'
      exact ⟨body, after, ⟨by rw [ht, List.append_assoc], hf⟩, rfl⟩

theorem rest?_eq_none {ending : SectionEnd} {text : Text} :
    ending.rest? text = none ↔ ¬ ending.literal <:+: text := by
  cases ending <;> simp [rest?, splitAtFirst?_eq_none, literal]

end SectionEnd

/-- The text is a section, from its start marker to the first end. -/
def Markers.IsSection (markers : Markers) (text : Text) : Prop :=
  ∃ body, text = markers.start ++ body ++ markers.ending.inside ∧
    FirstAfter markers.ending.literal body

theorem Markers.IsSection.starts {part : Text} (h : markers.IsSection part) :
    markers.start <+: part := by
  obtain ⟨body, rfl, -⟩ := h
  exact ⟨body ++ markers.ending.inside, by rw [List.append_assoc]⟩

/-- A document is cut before the first start marker and after the section that starts there. -/
theorem cut?_eq_some : cut? markers.start markers.ending document = some (before, rest) ↔
    ∃ part, markers.IsSection part ∧ document = before ++ part ++ rest ∧
      FirstAfter markers.start before ∧ markers.ending.outside <+: rest := by
  unfold cut? Markers.IsSection
  simp only [bind, Option.bind_eq_some_iff, Prod.exists, splitAtFirst?_eq_some,
    SectionEnd.rest?_eq_some, Option.some.injEq, Prod.mk.injEq]
  constructor
  · intro h'
    obtain ⟨_, after, ⟨rfl, hb⟩, _, ⟨body, rfl, hf, ho⟩, rfl, rfl⟩ := h'
    exact ⟨_, ⟨body, rfl, hf⟩, by simp, hb, ho⟩
  · intro h'
    obtain ⟨_, ⟨body, rfl, hf⟩, rfl, hb, ho⟩ := h'
    exact ⟨before, _, ⟨by simp, hb⟩, rest, ⟨body, rfl, hf, ho⟩, rfl, rfl⟩

/-- Whether a text is a section can be computed. -/
theorem isSection_of_cut? {text : Text}
    (h : cut? markers.start markers.ending (text ++ markers.ending.outside) =
      some ([], markers.ending.outside)) : markers.IsSection text := by
  obtain ⟨part, hp, he, -, -⟩ := cut?_eq_some.1 h
  rw [List.nil_append, List.append_left_inj] at he
  exact he ▸ hp

/-- A document that is not cut has no start marker with an end anywhere after it. -/
theorem cut?_eq_none : cut? markers.start markers.ending document = none ↔
    ∀ a b, document = a ++ markers.start ++ b → ¬ markers.ending.literal <:+: b := by
  have here : cut? markers.start markers.ending document = none ↔
      ∀ before after, splitAtFirst? markers.start document = some (before, after) →
        ¬ markers.ending.literal <:+: after := by
    unfold cut?
    rcases splitAtFirst? markers.start document with _ | ⟨before, after⟩
    · simp
    · simp only [← SectionEnd.rest?_eq_none, bind, Option.bind]
      cases hr : markers.ending.rest? after <;> simp [hr]
  rw [here]
  constructor
  · intro h a b hab hl
    subst hab
    cases hs : splitAtFirst? markers.start (a ++ markers.start ++ b) with
    | none => exact splitAtFirst?_eq_none.1 hs (List.infix_append _ _ _)
    | some parts =>
      obtain ⟨he, hf⟩ := splitAtFirst?_eq_some.1 hs
      obtain ⟨c, rfl⟩ := hf.exists_append he.symm
      -- What follows the later start marker is the end of what follows the first one.
      have hb : b <:+ parts.2 := by
        simp only [List.append_assoc, List.append_cancel_left_eq] at he
        refine List.suffix_of_suffix_length_le ⟨c ++ markers.start, ?_⟩
          (List.suffix_append markers.start parts.2) ?_
        · simpa using he
        · have := congrArg List.length he
          simp only [List.length_append] at this
          omega
      exact h _ _ hs (hl.trans hb.isInfix)
  · intro h before after hs
    exact h before after (splitAtFirst?_eq_some.1 hs).1

/-! ## One section after the other -/

/-- Induction over the sections of a document. -/
theorem cut_induction {motive : Text → Prop} (markers : Markers) (hs : markers.start ≠ [])
    (missing : ∀ document, cut? markers.start markers.ending document = none → motive document)
    (present : ∀ before part rest, markers.IsSection part → FirstAfter markers.start before →
      markers.ending.outside <+: rest → motive rest → motive (before ++ part ++ rest))
    (document : Text) : motive document := by
  induction hn : document.length using Nat.strongRecOn generalizing document with
  | ind n ih =>
    cases hc : cut? markers.start markers.ending document with
    | none => exact missing document hc
    | some parts =>
      obtain ⟨part, hp, rfl, hb, ho⟩ := cut?_eq_some.1 hc
      exact present parts.1 part parts.2 hp hb ho (ih _ (hn ▸ length_lt_of_cut? hs hc) _ rfl)

theorem replaceSection_of_cut?_eq_none (replacement : Text)
    (h : cut? markers.start markers.ending document = none) :
    replaceSection markers replacement document = document := by
  unfold replaceSection Markers.pieces
  split
  · rw [pieces_of_cut?_eq_none _ h]
    simp
  · simp

theorem pieces_ne_nil {start : Text} {ending : SectionEnd} (hs : start ≠ []) (document : Text) :
    pieces start ending hs document ≠ [] := by
  rw [pieces]
  split <;> simp

/-- A document with sections is replaced up to its first section, and after it. -/
theorem replaceSection_of_section {part : Text} (hs : markers.start ≠ [])
    (hp : markers.IsSection part) (hb : FirstAfter markers.start before)
    (ho : markers.ending.outside <+: rest) (replacement : Text) :
    replaceSection markers replacement (before ++ part ++ rest) =
      before ++ replacement ++ replaceSection markers replacement rest := by
  have hc : cut? markers.start markers.ending (before ++ part ++ rest) = some (before, rest) :=
    cut?_eq_some.2 ⟨part, hp, rfl, hb, ho⟩
  have hne : pieces markers.start markers.ending hs rest ≠ [] := pieces_ne_nil hs rest
  simp only [replaceSection, Markers.pieces, dif_pos hs]
  rw [pieces]
  split
  · next hc' =>
    rw [hc] at hc'
    cases hc'
    rw [List.intercalate_cons_of_ne_nil hne]
  · next hc' =>
    rw [hc] at hc'
    cases hc'

/-! ## Settled documents -/

/-- Every start marker with an end after it starts a copy of the replacement. -/
def Markers.Settled (markers : Markers) (replacement document : Text) : Prop :=
  ∀ a b, document = a ++ markers.start ++ b → markers.ending.literal <:+: b →
    replacement ++ markers.ending.outside <+: markers.start ++ b

theorem Markers.Settled.of_append {front : Text}
    (h : markers.Settled replacement (front ++ document)) :
    markers.Settled replacement document := by
  intro a b hab
  exact h (front ++ a) b (by rw [hab]; simp only [List.append_assoc])

/-- Replacing changes no settled document. -/
theorem replaceSection_of_settled (hr : markers.IsSection replacement)
    (h : markers.Settled replacement document) :
    replaceSection markers replacement document = document := by
  by_cases hs : markers.start = []
  · simp [replaceSection, Markers.pieces, hs]
  induction document using cut_induction markers hs with
  | missing document hc => exact replaceSection_of_cut?_eq_none replacement hc
  | present before part rest hp hb ho ih =>
    obtain ⟨body, rfl, hf⟩ := hp
    obtain ⟨other, rfl, hf'⟩ := hr
    obtain ⟨more, rfl⟩ := ho
    have he : body ++ markers.ending.inside ++ (markers.ending.outside ++ more) =
        body ++ markers.ending.literal ++ more := by
      rw [← markers.ending.inside_append_outside]
      simp
    -- The copy at the start marker and the section there have the same body.
    obtain ⟨last, hl⟩ := h before _ (by simp only [List.append_assoc]) ⟨body, more, he.symm⟩
    have same : other ++ markers.ending.literal ++ last =
        body ++ markers.ending.literal ++ more := by
      rw [← markers.ending.inside_append_outside]
      simpa using hl
    obtain ⟨rfl, -⟩ := hf'.unique hf same
    rw [replaceSection_of_section hs ⟨other, rfl, hf⟩ hb ⟨more, rfl⟩, ih h.of_append]

/-- The text can stand for a section at the first start marker of the literal that follows sections:
the literal, and then this text, still starts with the literal. -/
def Markers.KeepsEnd (markers : Markers) (text : Text) : Prop :=
  ∀ front back, markers.ending.outside = front ++ markers.start ++ back →
    FirstAfter markers.start front →
    markers.ending.outside <+: front ++ text ++ markers.ending.outside

theorem Markers.keepsEnd_of_not_infix (hn : ¬ markers.start <:+: markers.ending.outside)
    (text : Text) : markers.KeepsEnd text := by
  intro front back ho
  exact absurd ⟨front, back, ho.symm⟩ hn

/-- Where the text after a section starts with the literal, it still does when its own sections
are replaced. -/
theorem outside_prefix_replaceSection (hs : markers.start ≠ [])
    (hr : markers.start <+: replacement) (hk : markers.KeepsEnd replacement)
    (ho : markers.ending.outside <+: document) :
    markers.ending.outside <+: replaceSection markers replacement document := by
  induction document using cut_induction markers hs with
  | missing document hc => rwa [replaceSection_of_cut?_eq_none replacement hc]
  | present before part rest hp hb ho' ih =>
    rw [replaceSection_of_section hs hp hb ho']
    have started : before ++ markers.start <+: before ++ part ++ rest :=
      (List.prefix_append_right_inj _).2 hp.starts |>.trans (List.prefix_append _ _)
    rcases List.prefix_or_prefix_of_prefix ho started with h | h
    · -- The literal ends before the start marker does.
      refine h.trans ?_
      rw [List.append_assoc, List.prefix_append_right_inj]
      exact hr.trans (List.prefix_append _ _)
    · -- The section starts within the literal.
      obtain ⟨back, hback⟩ := h
      refine (hk before back hback.symm hb).trans ?_
      rw [List.prefix_append_right_inj]
      exact ih ho'

/-- After replacing, a document is settled, if no start marker can start within a replacement. -/
theorem settled_replaceSection {c : Char} {name : Text} (hc : markers.start = c :: name)
    (hr : markers.IsSection replacement) (ht : c ∉ replacement.tail)
    (hn : ¬ markers.start <:+: markers.ending.outside) (document : Text) :
    markers.Settled replacement (replaceSection markers replacement document) := by
  have hs : markers.start ≠ [] := hc ▸ List.cons_ne_nil c name
  induction document using cut_induction markers hs with
  | missing document hm =>
    rw [replaceSection_of_cut?_eq_none replacement hm]
    intro a b hab hl
    exact absurd hl (cut?_eq_none.1 hm a b hab)
  | present before part rest hp hb ho ih =>
    rw [replaceSection_of_section hs hp hb ho]
    have after := outside_prefix_replaceSection hs hr.starts (markers.keepsEnd_of_not_infix hn _)
      ho
    generalize replaceSection markers replacement rest = last at ih after
    intro a b hab hl
    obtain ⟨tail, rfl⟩ := hr.starts
    have twice : before ++ markers.start ++ (tail ++ last) = a ++ markers.start ++ b := by
      rw [← hab]
      simp only [List.append_assoc]
    obtain ⟨d, rfl⟩ := hb.exists_append twice
    simp only [List.append_assoc, List.append_cancel_left_eq] at hab
    cases d with
    | nil =>
      rw [List.nil_append] at hab
      rw [← hab, List.append_assoc, List.prefix_append_right_inj, List.prefix_append_right_inj]
      exact after
    | cons x d =>
      -- The start marker would start within the replacement, so it starts after it.
      have hab' : x :: (d ++ (c :: name) ++ b) = c :: (name ++ tail ++ last) := by
        simpa [hc] using hab.symm
      rw [hc, List.cons_append, List.tail_cons] at ht
      obtain ⟨rfl, hd⟩ := List.cons.inj hab'
      obtain ⟨more, rfl, rfl⟩ := occurrence_append ht hd
      exact ih more b (by rw [hc]) hl

end Synopsis.Readme
