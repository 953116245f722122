import Mathlib.Data.Nat.Find
import Synopsis.Help.Assignment

/-!
# The first assignment decides

The search tries one position after the other, and goes on behind an assignment whose quotation is
never closed. It finds nothing there: a later assignment brings a quote of its own, and the equals
sign before that quote is no backslash, so the quote would have closed the earlier quotation.

- `quoted?_eq_some`, `quoted?_eq_none`: a text is quoted up to its first closing quote.
- `closes_of_assignment`: a later assignment closes the quotation of an earlier one.
- `search_cases`: the search finds nothing, or the first assignment and no other one.
- `extract_eq_first`: the first assignment alone decides what is extracted.
-/

namespace Synopsis.Help

variable {name source front text content : Text} {i j k : Nat}

/-! ## Closing quotes -/

/-- Whether a backslash escapes the character at this position. A backslash that is escaped itself
does not. -/
def isEscaped (text : Text) : Nat → Bool
  | 0 => false
  | k + 1 => text[k]? == some '\\' && !isEscaped text k

/-- At this position stands a double quote that is not escaped. -/
def Closes (text : Text) (k : Nat) : Prop := text[k]? = some '"' ∧ isEscaped text k = false

/-- The first double quote that is not escaped stands at this position. -/
def FirstClose (text : Text) (k : Nat) : Prop := Closes text k ∧ ∀ m < k, ¬ Closes text m

theorem isEscaped_cons {c : Char} (hc : c ≠ '\\') (text : Text) (k : Nat) :
    isEscaped (c :: text) (k + 1) = isEscaped text k := by
  induction k with
  | zero => simp [isEscaped, hc]
  | succ k ih => rw [isEscaped, ih, isEscaped, List.getElem?_cons_succ]

theorem isEscaped_escape (c : Char) (text : Text) (k : Nat) :
    isEscaped ('\\' :: c :: text) (k + 2) = isEscaped text k := by
  induction k with
  | zero => simp [isEscaped]
  | succ k ih => rw [isEscaped, ih, isEscaped, List.getElem?_cons_succ, List.getElem?_cons_succ]

theorem closes_cons {c : Char} (hc : c ≠ '\\') (text : Text) (k : Nat) :
    Closes (c :: text) (k + 1) ↔ Closes text k := by
  rw [Closes, Closes, isEscaped_cons hc, List.getElem?_cons_succ]

theorem closes_escape (c : Char) (text : Text) (k : Nat) :
    Closes ('\\' :: c :: text) (k + 2) ↔ Closes text k := by
  rw [Closes, Closes, isEscaped_escape, List.getElem?_cons_succ, List.getElem?_cons_succ]

theorem not_closes_zero {c : Char} (hc : c ≠ '"') (text : Text) : ¬ Closes (c :: text) 0 := by
  simp [Closes, hc]

theorem not_closes_one (c : Char) (text : Text) : ¬ Closes ('\\' :: c :: text) 1 := by
  simp [Closes, isEscaped]

theorem ne_backslash {c : Char}
    (hb : ∀ (d : Char) (rest : Text), c = '\\' → text = d :: rest → False)
    (hb' : c = '\\' → text = [] → False) : c ≠ '\\' := by
  intro hc
  cases text with
  | nil => exact hb' hc rfl
  | cons d rest => exact hb d rest hc rfl

theorem quoted?_cons {c : Char} (hq : c ≠ '"') (hb : c ≠ '\\') (text : Text) :
    quoted? (c :: text) = (quoted? text).map (c :: ·) := by
  rw [quoted?]
  · exact hq
  · simp [hb]
  · simp [hb]

/-- The first closing quote of a text is found where the text is read character by character. -/
theorem quoted?_of_firstClose (h : FirstClose text k) : quoted? text = some (text.take k) := by
  induction text using quoted?.induct generalizing k with
  | case1 => simp [FirstClose, Closes] at h
  | case2 text =>
    have h0 : k = 0 := by
      by_contra hk
      exact h.2 0 (Nat.pos_of_ne_zero hk) ⟨rfl, rfl⟩
    rw [h0, quoted?, List.take_zero]
  | case3 c text ih =>
    rcases k with _ | _ | k
    · exact absurd h.1 (not_closes_zero (by decide) _)
    · exact absurd h.1 (not_closes_one c text)
    · have hrest : FirstClose text k :=
        ⟨(closes_escape c text k).1 h.1,
          fun m hm hc => h.2 (m + 2) (by omega) ((closes_escape c text m).2 hc)⟩
      rw [quoted?, ih hrest]
      rfl
  | case4 =>
    cases k with
    | zero => exact absurd h.1 (not_closes_zero (by decide) _)
    | succ k => simp [FirstClose, Closes] at h
  | case5 c text hq hb hb' ih =>
    have hbackslash := ne_backslash hb hb'
    cases k with
    | zero => exact absurd h.1 (not_closes_zero hq _)
    | succ k =>
      have hrest : FirstClose text k :=
        ⟨(closes_cons hbackslash text k).1 h.1,
          fun m hm hc => h.2 (m + 1) (by omega) ((closes_cons hbackslash text m).2 hc)⟩
      rw [quoted?_cons hq hbackslash, ih hrest]
      rfl

theorem exists_firstClose (h : Closes text k) : ∃ m, FirstClose text m := by
  classical
  have hex : ∃ m, Closes text m := ⟨k, h⟩
  exact ⟨Nat.find hex, Nat.find_spec hex, fun m hm => Nat.find_min hex hm⟩

theorem quoted?_eq_none : quoted? text = none ↔ ∀ k, ¬ Closes text k := by
  constructor
  · intro h k hk
    obtain ⟨m, hm⟩ := exists_firstClose hk
    rw [quoted?_of_firstClose hm] at h
    cases h
  · intro h
    induction text using quoted?.induct with
    | case1 => rfl
    | case2 text => exact absurd ⟨rfl, rfl⟩ (h 0)
    | case3 c text ih =>
      rw [quoted?, ih fun k hk => h (k + 2) ((closes_escape c text k).2 hk)]
      rfl
    | case4 => rfl
    | case5 c text hq hb hb' ih =>
      have hbackslash := ne_backslash hb hb'
      have hrest : ∀ k, ¬ Closes text k :=
        fun k hk => h (k + 1) ((closes_cons hbackslash text k).2 hk)
      rw [quoted?_cons hq hbackslash, ih hrest]
      rfl

/-- A text is quoted up to its first closing quote. -/
theorem quoted?_eq_some :
    quoted? text = some content ↔ ∃ k, FirstClose text k ∧ content = text.take k := by
  constructor
  · intro h
    have hex : ∃ k, Closes text k := by
      by_contra hn
      rw [quoted?_eq_none.2 (not_exists.1 hn)] at h
      cases h
    obtain ⟨k, hk⟩ := hex
    obtain ⟨m, hm⟩ := exists_firstClose hk
    rw [quoted?_of_firstClose hm] at h
    exact ⟨m, hm, (Option.some.inj h).symm⟩
  · rintro ⟨k, hk, rfl⟩
    exact quoted?_of_firstClose hk

/-! ## Assignments -/

/-- At this position the source assigns a quoted text to the name, and the character before, if
there is one, does not belong to the name. -/
structure IsAssignment (name source : Text) (i : Nat) : Prop where
  starts : name ++ ['=', '"'] <+: source.drop i
  opens : ∀ c ∈ (source.take i).getLast?, isNameChar c = false

/-- No assignment stands before the one at this position. -/
def FirstAssignment (name source : Text) (i : Nat) : Prop :=
  IsAssignment name source i ∧ ∀ j < i, ¬ IsAssignment name source j

/-- The source behind the opening quote of an assignment at this position. -/
def quotation (name source : Text) (i : Nat) : Text := source.drop (i + name.length + 2)

theorem IsAssignment.drop_eq (h : IsAssignment name source i) :
    source.drop i = name ++ '=' :: '"' :: quotation name source i := by
  obtain ⟨rest, hrest⟩ := h.starts
  have hdrop : quotation name source i = rest := by
    rw [quotation, Nat.add_assoc, ← List.drop_drop, ← hrest]
    exact List.drop_left' (by simp)
  rw [hdrop, ← hrest]
  simp

/-- The equals sign and the opening quote of an assignment. -/
theorem IsAssignment.getElem? (h : IsAssignment name source i) :
    source[i + name.length]? = some '=' ∧ source[i + name.length + 1]? = some '"' := by
  rw [Nat.add_assoc, ← List.getElem?_drop, ← List.getElem?_drop, h.drop_eq]
  simp

/-- A later assignment closes the quotation of an earlier one: the quote that opens the later one
stands behind an equals sign, so no backslash escapes it. -/
theorem closes_of_assignment (hi : IsAssignment name source i) (hj : IsAssignment name source j)
    (hij : i < j) : ∃ k, Closes (quotation name source i) k := by
  obtain ⟨d, rfl⟩ := Nat.exists_eq_add_of_lt hij
  cases d with
  | zero =>
    -- The sign of the later assignment would be the quote of the earlier one.
    have hquote := hi.getElem?.2
    have hsign := hj.getElem?.1
    have hsame : i + 0 + 1 + name.length = i + name.length + 1 := by omega
    rw [hsame, hquote] at hsign
    cases hsign
  | succ d =>
    obtain ⟨hsign, hquote⟩ := hj.getElem?
    have hat : ∀ k, (quotation name source i)[k]? = source[i + name.length + 2 + k]? := fun k => by
      rw [quotation, List.getElem?_drop]
    refine ⟨d + 1, ?_, ?_⟩
    · rw [hat, ← hquote]
      congr 1
      omega
    · have hbefore : (quotation name source i)[d]? = some '=' := by
        rw [hat, ← hsign]
        congr 1
        omega
      rw [isEscaped, hbefore]
      rfl

/-! ## The search -/

theorem assigned?_of_assignment (h : IsAssignment name source i) :
    assigned? name (source.drop i) = quoted? (quotation name source i) := by
  have hafter : Text.after? (name ++ "=\"") (source.drop i) = some (quotation name source i) := by
    rw [Text.after?_eq_some_iff, h.drop_eq]
    simp
  rw [assigned?, hafter, Option.bind_some]

/-- Where the search goes on behind some text, it finds nothing, or the first assignment there and
no other one. -/
theorem search_cases (name front text : Text) :
    let found := search name (front.getLast?.all (!isNameChar ·)) text
    (found = none ∧ ∀ i, front.length ≤ i → ¬ IsAssignment name (front ++ text) i) ∨
      ∃ i, front.length ≤ i ∧ IsAssignment name (front ++ text) i ∧
        (∀ j, front.length ≤ j → j < i → ¬ IsAssignment name (front ++ text) j) ∧
        found = quoted? (quotation name (front ++ text) i) := by
  induction text generalizing front with
  | nil =>
    refine Or.inl ⟨rfl, fun i hi h => ?_⟩
    have hnil : (front ++ []).drop i = [] := by simpa using hi
    have hstarts := h.starts
    rw [hnil] at hstarts
    simp at hstarts
  | cons c text ih =>
    have hfront : (front ++ [c]) ++ text = front ++ c :: text := List.append_cons front c text ▸ rfl
    have hlast : (front ++ [c]).getLast?.all (!isNameChar ·) = !isNameChar c := by simp
    have hlater := ih (front ++ [c])
    rw [hlast, hfront, List.length_append, List.length_singleton] at hlater
    have hdrop : (front ++ c :: text).drop front.length = c :: text := List.drop_left
    have htake : (front ++ c :: text).take front.length = front := List.take_left
    by_cases h : IsAssignment name (front ++ c :: text) front.length
    · refine Or.inr ⟨front.length, le_rfl, h, fun j hj hj' => absurd hj' (by omega), ?_⟩
      have hopen : (front.getLast?.all (!isNameChar ·)) = true := by
        rw [Option.all_eq_true]
        intro d hd
        rw [h.opens d (by rwa [htake]), Bool.not_false]
      have hassigned := assigned?_of_assignment h
      rw [hdrop] at hassigned
      rw [search, if_pos hopen, hassigned]
      cases hquoted : quoted? (quotation name (front ++ c :: text) front.length) with
      | some content => rfl
      | none =>
        -- No assignment can follow, because it would close the quotation.
        rcases hlater with ⟨hnone, -⟩ | ⟨i, hi, hassign, -⟩
        · exact hnone
        · obtain ⟨k, hk⟩ := closes_of_assignment h hassign hi
          exact absurd hk (quoted?_eq_none.1 hquoted k)
    · have hhere : (if (front.getLast?.all (!isNameChar ·)) = true then assigned? name (c :: text)
          else none) = none := by
        split
        · next hopen =>
          rw [assigned?, Option.bind_eq_none_iff]
          intro rest hrest
          rw [Text.after?_eq_some_iff] at hrest
          refine absurd ⟨⟨rest, by rw [hdrop, hrest]; simp⟩, fun d hd => ?_⟩ h
          rw [htake] at hd
          simpa using (Option.all_eq_true _ _).1 hopen d hd
        · rfl
      rw [search, hhere]
      have hstep : ∀ j, front.length ≤ j → (front.length + 1 ≤ j ∨ j = front.length) := by omega
      rcases hlater with ⟨hnone, hnot⟩ | ⟨i, hi, hassign, hfirst, hfound⟩
      · refine Or.inl ⟨hnone, fun j hj => ?_⟩
        rcases hstep j hj with hj | rfl
        · exact hnot j hj
        · exact h
      · refine Or.inr ⟨i, by omega, hassign, fun j hj hji => ?_, hfound⟩
        rcases hstep j hj with hj | rfl
        · exact hfirst j hj hji
        · exact h

theorem FirstAssignment.unique (hi : FirstAssignment name source i)
    (hj : FirstAssignment name source j) : i = j := by
  rcases Nat.lt_trichotomy i j with h | h | h
  · exact absurd hi.1 (hj.2 i h)
  · exact h
  · exact absurd hj.1 (hi.2 j h)

/-- Nothing is extracted without an assignment, and otherwise what the first one has in quotes. -/
theorem extract_cases (name source : Text) :
    (extract name source = none ∧ ∀ i, ¬ IsAssignment name source i) ∨
      ∃ i, FirstAssignment name source i ∧
        extract name source = quoted? (quotation name source i) := by
  rcases search_cases name [] source with ⟨hnone, hnot⟩ | ⟨i, -, hassign, hfirst, hfound⟩
  · exact Or.inl ⟨hnone, fun i => hnot i (Nat.zero_le i)⟩
  · exact Or.inr ⟨i, ⟨hassign, fun j => hfirst j (Nat.zero_le j)⟩, hfound⟩

/-- The first assignment decides: nothing is extracted exactly if there is none or its quotation
has no closing quote, and what is extracted is its quotation up to the first such quote. -/
theorem extract_eq_first (name source : Text) :
    (extract name source = none ↔ (∀ i, ¬ IsAssignment name source i) ∨
      ∃ i, FirstAssignment name source i ∧ ∀ k, ¬ Closes (quotation name source i) k) ∧
    ∀ content, extract name source = some content ↔
      ∃ i k, FirstAssignment name source i ∧ FirstClose (quotation name source i) k ∧
        content = (quotation name source i).take k := by
  rcases extract_cases name source with ⟨hnone, hnot⟩ | ⟨i, hi, hextract⟩
  · refine ⟨⟨fun _ => Or.inl hnot, fun _ => hnone⟩, fun content => ⟨fun h => ?_, fun h => ?_⟩⟩
    · rw [hnone] at h
      cases h
    · obtain ⟨i, -, hi, -⟩ := h
      exact absurd hi.1 (hnot i)
  · rw [hextract, quoted?_eq_none]
    refine ⟨⟨fun h => Or.inr ⟨i, hi, h⟩, fun h => ?_⟩, fun content => ?_⟩
    · rcases h with hnot | ⟨j, hj, h⟩
      · exact absurd hi.1 (hnot i)
      · rwa [hi.unique hj]
    · rw [quoted?_eq_some]
      constructor
      · intro h
        obtain ⟨k, hk, hc⟩ := h
        exact ⟨i, k, hi, hk, hc⟩
      · intro h
        obtain ⟨j, k, hj, hk, hc⟩ := h
        rw [← hi.unique hj] at hk hc
        exact ⟨k, hk, hc⟩

/-- An assignment that is left open ends at the quote of the next one. -/
example : extract "H" "H=\"a\nH=\"b\"" = some "a\nH=".toList := by decide

end Synopsis.Help
