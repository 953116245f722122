import Mathlib.Data.List.Chain
import Synopsis.Proofs.Template

/-!
# Canonical templates

Many lists of pieces are written as the same text. Reading gives the canonical one: the keys of its
placeholders are keys, no placeholder is written in its literals, and its literals are as long as
they can be.

- `mem_placeholders_parse`: the placeholders that are read are all that are written.
- `canonical_parse`: every text is read as a canonical template.
- `parse_source`: a canonical template is read as it was.
- `parse_append_placeholder`: a text is read up to a placeholder, and after it.
-/

namespace Synopsis

/-- The piece is literal text. -/
def Segment.IsLiteral : Segment → Prop
  | literal _ => True
  | placeholder _ => False

namespace Template

variable {text key rest front back : Text} {template first second : Template} {c : Char}

/-- A word of lowercase letters and underscores. -/
def IsKey (key : Text) : Prop := key ≠ [] ∧ ∀ c ∈ key, isKeyChar c = true

/-- No placeholder is written in the text. -/
def Plain (text : Text) : Prop :=
  ∀ key, IsKey key → ¬ (Segment.placeholder key).source <:+: text

/-- The only list of pieces that is read from a text. -/
structure Canonical (template : Template) : Prop where
  keys : ∀ key, .placeholder key ∈ template → IsKey key
  literals : ∀ text, .literal text ∈ template → text ≠ [] ∧ Plain text
  apart : template.IsChain fun segment next => ¬ (segment.IsLiteral ∧ next.IsLiteral)

/-! ## Placeholders in a text -/

theorem source_prefix_cons (hk : IsKey key) : (Segment.placeholder key).source <+: c :: text ↔
    c = '{' ∧ ∃ rest, key? text = some (key, rest) := by
  simp only [key?_eq_some, Segment.source, List.cons_append, List.cons_prefix_cons]
  constructor
  · intro h'
    obtain ⟨hc, rest, rfl⟩ := h'
    exact ⟨hc.symm, rest, by simp, hk⟩
  · intro h'
    obtain ⟨hc, rest, rfl, -⟩ := h'
    exact ⟨hc.symm, rest, by simp⟩

theorem source_infix_cons (hk : IsKey key) : (Segment.placeholder key).source <:+: c :: text ↔
    (c = '{' ∧ ∃ rest, key? text = some (key, rest)) ∨
      (Segment.placeholder key).source <:+: text := by
  rw [List.infix_cons_iff, source_prefix_cons hk]

theorem not_source_infix_nil (key : Text) : ¬ (Segment.placeholder key).source <:+: [] := by
  simp [Segment.source]

/-- A placeholder behind another one does not start within it. -/
theorem source_infix_append_brace (hk : ∀ c ∈ key, isKeyChar c = true) {other : Text} :
    (Segment.placeholder other).source <:+: key ++ '}' :: rest ↔
      (Segment.placeholder other).source <:+: rest := by
  have hbrace : '{' ∉ key ++ ['}'] := by
    rw [List.mem_append, not_or]
    exact ⟨fun hm => absurd (hk _ hm) (by decide), by decide⟩
  constructor
  · intro h'
    obtain ⟨a, b, hab⟩ := h'
    have hab' : a ++ (Segment.placeholder other).source ++ b = (key ++ ['}']) ++ rest := by
      rw [hab, List.append_assoc]
      rfl
    obtain ⟨more, -, hm⟩ := Text.occurrence_append hbrace hab'
    exact ⟨more, b, hm.symm⟩
  · intro h
    exact h.trans ⟨key ++ ['}'], [], by simp⟩

/-- The placeholders that are read are all that are written. -/
theorem mem_placeholders_parse : key ∈ placeholders (parse text) ↔
    IsKey key ∧ (Segment.placeholder key).source <:+: text := by
  induction text using parse.induct with
  | case1 =>
    rw [parse]
    exact iff_of_false (List.not_mem_nil) fun h => not_source_infix_nil key h.2
  | case2 text first rest hk ih =>
    obtain ⟨rfl, hfirst⟩ := key?_eq_some.1 hk
    have hcons : placeholders (.placeholder first :: parse rest) =
        first :: placeholders (parse rest) := rfl
    rw [parse_cons_of_some hk, hcons, List.mem_cons, ih]
    constructor
    · intro h'
      rcases h' with rfl | ⟨hkey, hi⟩
      · exact ⟨hfirst, (source_infix_cons hfirst).2 (Or.inl ⟨rfl, rest, hk⟩)⟩
      · refine ⟨hkey, (source_infix_cons hkey).2 (Or.inr ?_)⟩
        exact (source_infix_append_brace hfirst.2).2 hi
    · intro h'
      obtain ⟨hkey, hi⟩ := h'
      rcases (source_infix_cons hkey).1 hi with ⟨-, more, hm⟩ | hi
      · rw [hk] at hm
        cases hm
        exact Or.inl rfl
      · exact Or.inr ⟨hkey, (source_infix_append_brace hfirst.2).1 hi⟩
  | case3 text hk ih =>
    rw [parse_cons_of_none hk, placeholders_consChar, ih]
    refine and_congr_right fun hkey => ?_
    simp [source_infix_cons hkey, hk]
  | case4 c text hc ih =>
    rw [parse_cons_of_ne hc, placeholders_consChar, ih]
    refine and_congr_right fun hkey => ?_
    simp [source_infix_cons hkey, hc]

theorem plain_iff : Plain text ↔ placeholders (parse text) = [] := by
  simp only [Plain, List.eq_nil_iff_forall_not_mem, mem_placeholders_parse, not_and]

theorem plain_cons (h : Plain text) (hc : c = '{' → key? text = none) : Plain (c :: text) := by
  intro key hkey hi
  rcases (source_infix_cons hkey).1 hi with ⟨he, rest, hk⟩ | hi
  · rw [hc he] at hk
    cases hk
  · exact h key hkey hi

/-! ## Reading gives a canonical template -/

theorem canonical_nil : Canonical [] := ⟨by simp, by simp, .nil⟩

theorem canonical_placeholder_cons :
    Canonical (.placeholder key :: template) ↔ IsKey key ∧ Canonical template := by
  constructor
  · intro h
    exact ⟨h.keys key List.mem_cons_self, fun k hk => h.keys k (List.mem_cons_of_mem _ hk),
      fun t ht => h.literals t (List.mem_cons_of_mem _ ht), h.apart.tail⟩
  · intro h'
    obtain ⟨hk, h⟩ := h'
    refine ⟨?_, ?_, List.isChain_cons.2 ⟨fun _ _ hl => hl.1, h.apart⟩⟩
    · intro other ho
      rcases List.mem_cons.1 ho with he | ho
      · cases he
        exact hk
      · exact h.keys other ho
    · intro text ht
      rcases List.mem_cons.1 ht with he | ht
      · cases he
      · exact h.literals text ht

theorem canonical_literal_cons : Canonical (.literal text :: template) ↔
    (text ≠ [] ∧ Plain text) ∧ (∀ segment ∈ template.head?, ¬ segment.IsLiteral) ∧
      Canonical template := by
  constructor
  · intro h
    obtain ⟨hhead, htail⟩ := List.isChain_cons.1 h.apart
    exact ⟨h.literals text List.mem_cons_self, fun segment hs hl => hhead segment hs ⟨trivial, hl⟩,
      fun k hk => h.keys k (List.mem_cons_of_mem _ hk),
      fun t ht => h.literals t (List.mem_cons_of_mem _ ht), htail⟩
  · intro h'
    obtain ⟨ht, hhead, h⟩ := h'
    refine ⟨?_, ?_, List.isChain_cons.2 ⟨fun segment hs hl => hhead segment hs hl.2, h.apart⟩⟩
    · intro key hk
      rcases List.mem_cons.1 hk with he | hk
      · cases he
      · exact h.keys key hk
    · intro other ho
      rcases List.mem_cons.1 ho with he | ho
      · cases he
        exact ht
      · exact h.literals other ho

/-- One more literal character starts no placeholder, if no key is read behind it. -/
theorem Canonical.consChar (h : Canonical template) (hc : c = '{' → key? (source template) = none) :
    Canonical (consChar c template) := by
  unfold Template.consChar
  split
  · next text rest =>
    obtain ⟨⟨-, hp⟩, hhead, hr⟩ := canonical_literal_cons.1 h
    refine canonical_literal_cons.2
      ⟨⟨List.cons_ne_nil c text, plain_cons hp fun he => ?_⟩, hhead, hr⟩
    -- A key that is read in the literal would be read in the whole text.
    rw [Option.eq_none_iff_forall_ne_some]
    intro found hk
    obtain ⟨ht, hkey⟩ := key?_eq_some.1 hk
    have hmore : key? (source (.literal text :: rest)) =
        some (found.1, found.2 ++ source rest) := by
      refine key?_eq_some.2 ⟨?_, hkey⟩
      show text ++ source rest = _
      rw [ht, List.append_assoc, List.cons_append]
    rw [hc he] at hmore
    cases hmore
  · next hl =>
    have hp : Plain [c] := plain_cons (fun key _ => not_source_infix_nil key) fun _ => rfl
    refine canonical_literal_cons.2 ⟨⟨List.cons_ne_nil c [], hp⟩, fun segment hs hlit => ?_, h⟩
    cases segment with
    | placeholder key => exact hlit
    | literal text =>
      cases template with
      | nil => cases hs
      | cons segment rest =>
        cases hs
        exact hl text rest rfl

/-- Every text is read as a canonical template. -/
theorem canonical_parse (text : Text) : Canonical (parse text) := by
  induction text using parse.induct with
  | case1 =>
    rw [parse]
    exact canonical_nil
  | case2 text key rest hk ih =>
    rw [parse_cons_of_some hk]
    exact canonical_placeholder_cons.2 ⟨(key?_eq_some.1 hk).2, ih⟩
  | case3 text hk ih =>
    rw [parse_cons_of_none hk]
    exact ih.consChar fun _ => by rwa [source_parse]
  | case4 c text hc ih =>
    rw [parse_cons_of_ne hc]
    exact ih.consChar fun he => absurd he hc

/-! ## A canonical template is read as it was -/

theorem foldr_consChar (ht : text ≠ []) (hl : ∀ segment ∈ template.head?, ¬ segment.IsLiteral) :
    text.foldr consChar template = .literal text :: template := by
  induction text with
  | nil => exact absurd rfl ht
  | cons c text ih =>
    cases text with
    | nil =>
      cases template with
      | nil => rfl
      | cons segment rest =>
        cases segment with
        | literal other => exact absurd trivial (hl (.literal other) rfl)
        | placeholder key => rfl
    | cons d text =>
      rw [List.foldr_cons, ih (List.cons_ne_nil d text)]
      rfl

theorem head?_source (hl : ∀ segment ∈ template.head?, ¬ segment.IsLiteral) :
    source template = [] ∨ ∃ rest, source template = '{' :: rest := by
  cases template with
  | nil => exact Or.inl rfl
  | cons segment rest =>
    cases segment with
    | literal text => exact absurd trivial (hl (.literal text) rfl)
    | placeholder key => exact Or.inr ⟨_, rfl⟩

/-- A canonical template is read as it was. -/
theorem parse_source (h : Canonical template) : parse (source template) = template := by
  induction template with
  | nil =>
    show parse [] = []
    rw [parse]
  | cons segment template ih =>
    cases segment with
    | placeholder key =>
      obtain ⟨hk, h⟩ := canonical_placeholder_cons.1 h
      have hkey : key? (key ++ '}' :: source template) = some (key, source template) :=
        key?_eq_some.2 ⟨rfl, hk⟩
      have hs : source (.placeholder key :: template) =
          '{' :: (key ++ '}' :: source template) := by simp [source, Segment.source]
      rw [hs, parse_cons_of_some hkey, ih h]
    | literal text =>
      obtain ⟨⟨ht, hp⟩, hl, h⟩ := canonical_literal_cons.1 h
      show parse (text ++ source template) = _
      rw [parse_append (plain_iff.1 hp) (head?_source hl), ih h, foldr_consChar ht hl]

/-! ## Reading around a placeholder -/

theorem source_append (first second : Template) :
    source (first ++ second) = source first ++ source second := List.flatMap_append

theorem canonical_append_placeholder :
    Canonical (first ++ .placeholder key :: second) ↔
      Canonical first ∧ IsKey key ∧ Canonical second := by
  constructor
  · intro h
    obtain ⟨hfirst, hrest, -⟩ := List.isChain_append.1 h.apart
    have hsecond : Canonical (.placeholder key :: second) :=
      ⟨fun k hk => h.keys k (List.mem_append_right _ hk),
        fun t ht => h.literals t (List.mem_append_right _ ht), hrest⟩
    exact ⟨⟨fun k hk => h.keys k (List.mem_append_left _ hk),
      fun t ht => h.literals t (List.mem_append_left _ ht), hfirst⟩,
      canonical_placeholder_cons.1 hsecond⟩
  · intro h'
    obtain ⟨hfirst, hrest⟩ := h'
    have hsecond := canonical_placeholder_cons.2 hrest
    refine ⟨fun k hk => ?_, fun t ht => ?_, ?_⟩
    · exact (List.mem_append.1 hk).elim (hfirst.keys k) (hsecond.keys k)
    · exact (List.mem_append.1 ht).elim (hfirst.literals t) (hsecond.literals t)
    · refine List.isChain_append.2 ⟨hfirst.apart, hsecond.apart, fun segment _ next hn hl => ?_⟩
      cases hn
      exact hl.2

/-- A text is read up to a placeholder, and after it. -/
theorem parse_append_placeholder (hk : IsKey key) (front back : Text) :
    parse (front ++ (Segment.placeholder key).source ++ back) =
      parse front ++ .placeholder key :: parse back := by
  have hc : Canonical (parse front ++ .placeholder key :: parse back) :=
    canonical_append_placeholder.2 ⟨canonical_parse front, hk, canonical_parse back⟩
  have hs : source (parse front ++ .placeholder key :: parse back) =
      front ++ (Segment.placeholder key).source ++ back := by
    rw [source_append, source_parse, List.append_assoc]
    show _ ++ ((Segment.placeholder key).source ++ source (parse back)) = _
    rw [source_parse]
  rw [← hs, parse_source hc]

end Template

end Synopsis
