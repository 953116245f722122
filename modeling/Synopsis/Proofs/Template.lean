import Mathlib.Data.List.TakeWhile
import Synopsis.Proofs.Text.Search
import Synopsis.Template

/-!
# Templates and literal text

A text in which no placeholder is read is literal: it gives itself, whatever is bound, also in
front of a text that starts with an opening brace.

- `parse_append`: a text without placeholders is read character by character.
- `render_parse_append`: what is literal stays in front of the rest.
- `render_parse_placeholder`: a placeholder gives its value, and the rest is read on its own.
- `render_parse_of_notMem`: a text without an opening brace gives itself.
-/

namespace Synopsis.Template

variable {bindings : Bindings} {text key rest : Text}

theorem render_consChar (bindings : Bindings) (c : Char) (template : Template) :
    render bindings (consChar c template) = c :: render bindings template := by
  unfold consChar
  split <;> simp [render, Segment.render]

theorem placeholders_consChar (c : Char) (template : Template) :
    placeholders (consChar c template) = placeholders template := by
  unfold consChar
  split <;> simp [placeholders]

theorem parse_cons_of_ne {c : Char} (h : c ≠ '{') (text : Text) :
    parse (c :: text) = consChar c (parse text) := by
  rw [parse]
  simp [h]

theorem parse_cons_of_none {c : Char} (h : key? text = none) :
    parse (c :: text) = consChar c (parse text) := by
  rw [parse]
  by_cases hc : c = '{'
  · rw [if_pos hc]
    split
    · next hk =>
      rw [h] at hk
      cases hk
    · rfl
  · rw [if_neg hc]

theorem parse_cons_of_some (h : key? text = some (key, rest)) :
    parse ('{' :: text) = .placeholder key :: parse rest := by
  rw [parse, if_pos rfl]
  split
  · next hk =>
    rw [h] at hk
    cases hk
    rfl
  · next hk =>
    rw [h] at hk
    cases hk

/-! ## Keys -/

theorem key?_eq_some : key? text = some (key, rest) ↔
    text = key ++ '}' :: rest ∧ key ≠ [] ∧ ∀ c ∈ key, isKeyChar c = true := by
  constructor
  · intro h
    refine ⟨eq_append_of_key? h, ?_⟩
    unfold key? at h
    split at h
    · next c name _ hk _ =>
      cases h
      refine ⟨List.cons_ne_nil c name, fun d hd => ?_⟩
      rw [← hk] at hd
      exact List.mem_takeWhile_imp hd
    · cases h
  · intro h'
    obtain ⟨rfl, hn, hk⟩ := h'
    have hbrace : isKeyChar '}' = false := by decide
    have htake : (key ++ '}' :: rest).takeWhile isKeyChar = key := by
      simp [List.takeWhile_append_of_pos hk, hbrace]
    have hdrop : (key ++ '}' :: rest).dropWhile isKeyChar = '}' :: rest := by
      simp [List.dropWhile_append_of_pos hk, hbrace]
    obtain ⟨c, name, rfl⟩ := List.exists_cons_of_ne_nil hn
    rw [key?, htake, hdrop]
    rfl

/-- An opening brace ends what could be a key. -/
theorem key?_append_of_none (h : key? text = none) (rest : Text) :
    key? (text ++ '{' :: rest) = none := by
  rw [Option.eq_none_iff_forall_ne_some] at h ⊢
  rintro ⟨key, after⟩ hk
  obtain ⟨he, hn, hkey⟩ := key?_eq_some.1 hk
  have hbrace : '{' ∉ key ++ ['}'] := by
    rw [List.mem_append, not_or]
    exact ⟨fun hm => absurd (hkey _ hm) (by decide), by decide⟩
  have written : [] ++ (key ++ ['}']) ++ after = text ++ '{' :: rest := by simp [he]
  rcases Text.occurrence_append_cons hbrace written with ⟨more, rfl, -⟩ | ⟨more, hnil, -⟩
  · exact h (key, more) (key?_eq_some.2 ⟨by simp, hn, hkey⟩)
  · simp at hnil

/-- A text without placeholders is read character by character, up to an opening brace. -/
theorem parse_append (h : placeholders (parse text) = [])
    (hr : rest = [] ∨ ∃ more, rest = '{' :: more) :
    parse (text ++ rest) = text.foldr consChar (parse rest) := by
  induction text using parse.induct with
  | case1 => rfl
  | case2 text key rest' hk ih =>
    rw [parse_cons_of_some hk] at h
    cases h
  | case3 text hk ih =>
    rw [parse_cons_of_none hk, placeholders_consChar] at h
    have hk' : key? (text ++ rest) = none := by
      rcases hr with rfl | ⟨more, rfl⟩
      · rwa [List.append_nil]
      · exact key?_append_of_none hk more
    rw [List.cons_append, parse_cons_of_none hk', ih h]
    rfl
  | case4 c text hc ih =>
    rw [parse_cons_of_ne hc, placeholders_consChar] at h
    rw [List.cons_append, parse_cons_of_ne hc, ih h]
    rfl

theorem render_foldr_consChar (bindings : Bindings) (text : Text) (template : Template) :
    render bindings (text.foldr consChar template) = text ++ render bindings template := by
  induction text with
  | nil => rfl
  | cons c text ih =>
    rw [List.foldr_cons, render_consChar, ih]
    rfl

/-- What is literal stays in front of the rest. -/
theorem render_parse_append (h : placeholders (parse text) = []) (bindings : Bindings)
    (rest : Text) : render bindings (parse (text ++ '{' :: rest)) =
      text ++ render bindings (parse ('{' :: rest)) := by
  rw [parse_append h (Or.inr ⟨rest, rfl⟩), render_foldr_consChar]

/-- A placeholder gives its value, and the rest is read on its own. -/
theorem render_parse_placeholder {value : Text} (hn : key ≠ [])
    (hk : ∀ c ∈ key, isKeyChar c = true) (hv : bindings.lookup key = some value) (rest : Text) :
    render bindings (parse ('{' :: (key ++ '}' :: rest))) =
      value ++ render bindings (parse rest) := by
  rw [parse_cons_of_some (key?_eq_some.2 ⟨rfl, hn, hk⟩), render, List.flatMap_cons, Segment.render,
    hv]
  rfl

/-- A text without an opening brace is literal, whatever follows it. -/
theorem render_parse_append_of_notMem (h : '{' ∉ text) (bindings : Bindings) (rest : Text) :
    render bindings (parse (text ++ rest)) = text ++ render bindings (parse rest) := by
  induction text with
  | nil => rfl
  | cons c text ih =>
    rw [List.mem_cons, not_or] at h
    rw [List.cons_append, parse_cons_of_ne (Ne.symm h.1), render_consChar, ih h.2]
    rfl

/-- A template without an opening brace gives the text that was read. -/
theorem render_parse_of_notMem {text : Text} (h : '{' ∉ text) (bindings : Bindings) :
    render bindings (parse text) = text := by
  have happend := render_parse_append_of_notMem h bindings []
  simpa [parse, render] using happend

end Synopsis.Template
