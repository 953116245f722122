import Mathlib.Logic.ExistsUnique
import Synopsis.Proofs.Template.Canonical

/-!
# Slots

The slots of a text are the placeholders in it that have a value. A text has exactly one cut into
its slots and the pieces around them, and rendering puts the values in the slots and changes no
piece.

- `Exact.unique`: a text has one cut at most, and `exists_exact` says that it has one.
- `Exact.at_iff`: the slots are all placeholders with a value that are written in the text.
- `parse_inverse`: reading and writing templates undo each other, and rendering fills the slots.
-/

namespace Synopsis.Template

variable {bindings : Bindings} {text piece key other front back rest more : Text}

/-- Pieces of a text, and the keys of the slots between them. -/
inductive Slots where
  /-- The piece after the last slot. -/
  | last (piece : Text)
  /-- A piece, the key of the slot after it, and what follows the slot. -/
  | cons (piece key : Text) (rest : Slots)

/-- No placeholder that has a value is written in the text. -/
def Free (bindings : Bindings) (text : Text) : Prop :=
  ∀ key, IsKey key → (bindings.lookup key).isSome = true →
    ¬ (Segment.placeholder key).source <:+: text

namespace Slots

/-- The pieces with a text in each slot. -/
def fill (value : Text → Text) : Slots → Text
  | last piece => piece
  | cons piece key rest => piece ++ value key ++ rest.fill value

/-- The text with its slots as they are written. -/
def source (slots : Slots) : Text := slots.fill fun key => (Segment.placeholder key).source

/-- Each slot has a key with a value, and the pieces are free. -/
def Exact (bindings : Bindings) : Slots → Prop
  | last piece => Free bindings piece
  | cons piece key rest => Free bindings piece ∧ IsKey key ∧
      (bindings.lookup key).isSome = true ∧ rest.Exact bindings

/-- A slot with that key stands right after `front`. -/
def At : Slots → Text → Text → Prop
  | last _, _, _ => False
  | cons piece first rest, front, key => (front = piece ∧ key = first) ∨
      ∃ more, front = piece ++ (Segment.placeholder first).source ++ more ∧ rest.At more key

end Slots

/-! ## Free texts -/

theorem free_iff : Free bindings text ↔
    ∀ key ∈ placeholders (parse text), bindings.lookup key = none := by
  simp only [Free, mem_placeholders_parse, ← Option.not_isSome_iff_eq_none]
  exact forall_congr' fun key => ⟨fun h hk hb => h hk.1 hb hk.2, fun h hk hb hi => h ⟨hk, hi⟩ hb⟩

theorem mem_placeholders {template : Template} :
    key ∈ placeholders template ↔ .placeholder key ∈ template := by
  rw [placeholders, List.mem_filterMap]
  constructor
  · intro h'
    obtain ⟨segment, hs, hk⟩ := h'
    cases segment with
    | literal text => cases hk
    | placeholder other =>
      cases hk
      exact hs
  · intro h
    exact ⟨_, h, rfl⟩

theorem render_of_free (h : Free bindings text) : render bindings (parse text) = text := by
  have hwritten : ∀ segment ∈ parse text, segment.render bindings = segment.source := by
    intro segment hs
    cases segment with
    | literal text => rfl
    | placeholder key =>
      rw [Segment.render, free_iff.1 h key (mem_placeholders.2 hs)]
      rfl
  calc render bindings (parse text)
      = source (parse text) := List.flatMap_congr hwritten
    _ = text := source_parse text

/-- Two items in a list: they are one, or the second one stands behind the first or in front of
it. -/
theorem append_cons_cases {α : Type} {x y : α} {a b c d : List α} (h : a ++ x :: b = c ++ y :: d) :
    (c = a ∧ y = x ∧ d = b) ∨ (∃ between, c = a ++ x :: between ∧ b = between ++ y :: d) ∨
      ∃ between, a = c ++ y :: between := by
  rcases List.append_eq_append_iff.1 h with ⟨between, rfl, hb⟩ | ⟨between, rfl, hd⟩
  · cases between with
    | nil =>
      obtain ⟨rfl, rfl⟩ := List.cons.inj hb
      exact Or.inl ⟨List.append_nil a, rfl, rfl⟩
    | cons z between =>
      obtain ⟨rfl, rfl⟩ := List.cons.inj hb
      exact Or.inr (Or.inl ⟨between, rfl, rfl⟩)
  · cases between with
    | nil =>
      obtain ⟨rfl, rfl⟩ := List.cons.inj hd
      exact Or.inl ⟨(List.append_nil c).symm, rfl, rfl⟩
    | cons z between =>
      obtain ⟨rfl, -⟩ := List.cons.inj hd
      exact Or.inr (Or.inr ⟨between, rfl⟩)

theorem parse_injective (h : parse front = parse back) : front = back := by
  rw [← source_parse front, h, source_parse]

/-- Two placeholders in a text: they are one, or the second one stands behind the first or in the
piece in front of it. -/
theorem occurrence_cases (hk : IsKey key) (ho : IsKey other)
    (h : piece ++ (Segment.placeholder key).source ++ rest =
      front ++ (Segment.placeholder other).source ++ back) :
    (front = piece ∧ other = key ∧ back = rest) ∨
      (∃ more, front = piece ++ (Segment.placeholder key).source ++ more ∧
        rest = more ++ (Segment.placeholder other).source ++ back) ∨
      (Segment.placeholder other).source <:+: piece := by
  have hread := congrArg parse h
  rw [parse_append_placeholder hk, parse_append_placeholder ho] at hread
  rcases append_cons_cases hread with ⟨hf, he, hb⟩ | ⟨between, hf, hr⟩ | ⟨between, hp⟩
  · cases he
    exact Or.inl ⟨parse_injective hf, rfl, parse_injective hb⟩
  · refine Or.inr (Or.inl ⟨source between, ?_, ?_⟩)
    · calc front
          = source (parse piece ++ .placeholder key :: between) := by rw [← hf, source_parse]
        _ = piece ++ (Segment.placeholder key).source ++ source between := by
          rw [source_append, source_parse, List.append_assoc]
          rfl
    · calc rest
          = source (between ++ .placeholder other :: parse back) := by rw [← hr, source_parse]
        _ = source between ++ (Segment.placeholder other).source ++ source (parse back) := by
          rw [source_append, List.append_assoc]
          rfl
        _ = _ := by rw [source_parse]
  · have hm : .placeholder other ∈ parse piece := hp ▸ List.mem_append_right _ List.mem_cons_self
    exact Or.inr (Or.inr (mem_placeholders_parse.1 (mem_placeholders.2 hm)).2)

/-! ## One cut for each text -/

namespace Slots

variable {slots cut : Slots}

/-- The slots are all placeholders with a value that are written in the text. -/
theorem Exact.at_iff (h : slots.Exact bindings) : slots.At front key ↔
    IsKey key ∧ (bindings.lookup key).isSome = true ∧
      ∃ back, slots.source = front ++ (Segment.placeholder key).source ++ back := by
  induction slots generalizing front with
  | last piece =>
    refine iff_of_false id fun h' => ?_
    obtain ⟨hk, hb, back, hs⟩ := h'
    exact h key hk hb ⟨front, back, hs.symm⟩
  | cons piece first rest ih =>
    obtain ⟨hfree, hfirst, hbound, hrest⟩ := h
    constructor
    · intro h'
      rcases h' with ⟨rfl, rfl⟩ | ⟨more, rfl, hat⟩
      · exact ⟨hfirst, hbound, rest.source, rfl⟩
      · obtain ⟨hk, hb, back, hs⟩ := (ih hrest).1 hat
        refine ⟨hk, hb, back, ?_⟩
        show piece ++ _ ++ rest.source = _
        rw [hs]
        simp only [List.append_assoc]
    · intro h'
      obtain ⟨hk, hb, back, hs⟩ := h'
      rcases occurrence_cases hfirst hk hs with ⟨rfl, rfl, -⟩ | ⟨more, rfl, hr⟩ | hi
      · exact Or.inl ⟨rfl, rfl⟩
      · exact Or.inr ⟨more, rfl, (ih hrest).2 ⟨hk, hb, back, hr⟩⟩
      · exact absurd hi (hfree key hk hb)

theorem Exact.unique (h : slots.Exact bindings) (h' : cut.Exact bindings)
    (hs : slots.source = cut.source) : slots = cut := by
  induction slots generalizing cut with
  | last piece =>
    cases cut with
    | last piece' => exact congrArg last hs
    | cons piece' key' rest' =>
      obtain ⟨-, hk, hb, -⟩ := h'
      exact absurd ⟨piece', rest'.source, hs.symm⟩ (h key' hk hb)
  | cons piece key rest ih =>
    obtain ⟨hfree, hk, hb, hrest⟩ := h
    cases cut with
    | last piece' => exact absurd ⟨piece, rest.source, hs⟩ (h' key hk hb)
    | cons piece' key' rest' =>
      obtain ⟨hfree', hk', hb', hrest'⟩ := h'
      rcases occurrence_cases hk hk' hs with ⟨rfl, rfl, hr⟩ | ⟨more, rfl, -⟩ | hi
      · rw [ih hrest hrest' hr.symm]
      · exact absurd ⟨piece, more, rfl⟩ (hfree' key hk hb)
      · exact absurd hi (hfree key' hk' hb')

/-- The cut of a template whose first pieces have no values. -/
theorem exists_exact_append {first template : Template} (hc : Canonical (first ++ template))
    (hu : ∀ key, .placeholder key ∈ first → bindings.lookup key = none) :
    ∃ slots : Slots, slots.Exact bindings ∧ slots.source = Template.source (first ++ template) := by
  induction template generalizing first with
  | nil =>
    rw [List.append_nil] at hc ⊢
    refine ⟨last (Template.source first), free_iff.2 fun key hk => hu key ?_, rfl⟩
    rw [parse_source hc] at hk
    exact mem_placeholders.1 hk
  | cons segment template ih =>
    by_cases hs : ∃ key, segment = .placeholder key ∧ (bindings.lookup key).isSome = true
    · obtain ⟨key, rfl, hb⟩ := hs
      obtain ⟨hfirst, hk, hrest⟩ := canonical_append_placeholder.1 hc
      obtain ⟨rest, he, hr⟩ := @ih [] hrest (by simp)
      refine ⟨cons (Template.source first) key rest, ⟨free_iff.2 fun other ho => hu other ?_, hk,
        hb, he⟩, ?_⟩
      · rw [parse_source hfirst] at ho
        exact mem_placeholders.1 ho
      · show Template.source first ++ _ ++ rest.source = _
        rw [hr, List.nil_append, List.append_assoc]
        exact (source_append first (.placeholder key :: template)).symm
    · rw [List.append_cons] at hc ⊢
      refine ih hc fun key hk => ?_
      rcases List.mem_append.1 hk with hk | hk
      · exact hu key hk
      · rw [List.mem_singleton] at hk
        rw [← Option.not_isSome_iff_eq_none]
        exact fun hb => hs ⟨key, hk.symm, hb⟩

theorem exists_exact (bindings : Bindings) (text : Text) :
    ∃ slots : Slots, slots.Exact bindings ∧ slots.source = text := by
  have hc : Canonical ([] ++ parse text) := canonical_parse text
  have hnone : ∀ key, .placeholder key ∈ ([] : Template) → bindings.lookup key = none := by simp
  obtain ⟨slots, he, hs⟩ := exists_exact_append hc hnone
  exact ⟨slots, he, hs.trans (source_parse text)⟩

/-- Rendering fills the slots, and changes nothing else. -/
theorem Exact.render (h : slots.Exact bindings) : render bindings (parse slots.source) =
    slots.fill fun key => (bindings.lookup key).getD [] := by
  induction slots with
  | last piece => exact render_of_free h
  | cons piece key rest ih =>
    obtain ⟨hfree, hk, hb, hrest⟩ := h
    obtain ⟨value, hv⟩ := Option.isSome_iff_exists.1 hb
    have hread : parse (cons piece key rest).source =
        parse piece ++ .placeholder key :: parse rest.source :=
      parse_append_placeholder hk piece rest.source
    calc Template.render bindings (parse (cons piece key rest).source)
        = Template.render bindings (parse piece) ++ (Segment.render bindings (.placeholder key) ++
            Template.render bindings (parse rest.source)) := by
          rw [hread]
          exact List.flatMap_append
      _ = piece ++ value ++ rest.fill fun key => (bindings.lookup key).getD [] := by
          rw [render_of_free hfree, ih hrest, Segment.render, hv, List.append_assoc]
          rfl
      _ = _ := by rw [fill, hv, Option.getD_some]

end Slots

/-! ## Reading, writing and rendering -/

/-- Reading a text and writing the pieces undo each other, and what is read is canonical. Rendering
puts its value in the place of each placeholder that has one, in one pass, and keeps the rest of
the text as it is. -/
theorem parse_inverse :
    (∀ text, source (parse text) = text ∧ render [] (parse text) = text ∧
      Canonical (parse text)) ∧
    (∀ template, Canonical template → parse (source template) = template) ∧
    ∀ (bindings : Bindings) (text : Text),
      (∃! slots : Slots, slots.Exact bindings ∧ slots.source = text) ∧
      ∀ slots : Slots, slots.Exact bindings → slots.source = text →
        (∀ front key, slots.At front key ↔
          IsKey key ∧ (bindings.lookup key).isSome = true ∧
            ∃ back, text = front ++ (Segment.placeholder key).source ++ back) ∧
        render bindings (parse text) = slots.fill fun key => (bindings.lookup key).getD [] := by
  refine ⟨fun text => ⟨source_parse text, render_nil text, canonical_parse text⟩,
    fun template h => parse_source h, fun bindings text => ⟨?_, ?_⟩⟩
  · obtain ⟨slots, he, hs⟩ := Slots.exists_exact bindings text
    exact ⟨slots, ⟨he, hs⟩, fun cut h => h.1.unique he (h.2.trans hs.symm)⟩
  · intro slots he hs
    subst hs
    exact ⟨fun front key => he.at_iff, he.render⟩

/-- Braces without a key between them stay, and a value with braces is not read again. -/
theorem parse_inverse_shown :
    let template : Template := [.literal "${X} ", .placeholder "a"]
    let slots : Slots := .cons "${X} " "a" (.last [])
    parse (source template) = template ∧ slots.Exact [("a", "{a}{a}")] ∧
      slots.source = "${X} {a}".toList ∧
      render [("a", "{a}{a}")] (parse "${X} {a}") = "${X} {a}{a}".toList := by
  intro template slots
  have hread : parse "${X} {a}" = template := by decide +kernel
  have hc : Canonical template := hread ▸ canonical_parse "${X} {a}"
  have hpiece : ∀ piece : Text, placeholders (parse piece) = [] →
      Free [("a", "{a}{a}".toList)] piece := by
    intro piece hp
    exact free_iff.2 fun key hk => absurd hk (by rw [hp]; exact List.not_mem_nil)
  have he : slots.Exact [("a", "{a}{a}")] :=
    ⟨hpiece _ (by decide +kernel), ⟨by decide, List.all_eq_true.1 (by decide)⟩, rfl,
      hpiece _ (by decide +kernel)⟩
  exact ⟨parse_inverse.2.1 template hc, he, rfl,
    ((parse_inverse.2.2 [("a", "{a}{a}")] "${X} {a}").2 slots he rfl).2⟩

end Synopsis.Template
