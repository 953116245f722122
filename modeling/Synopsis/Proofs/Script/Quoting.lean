import Synopsis.Proofs.Help.Group
import Synopsis.Script.FlagBlock

/-!
# Descriptions that are quoted

How a shell reads a word: outside of quotes a backslash makes the next character stand for itself,
between single quotes only fish has escapes, one for the quote and one for the backslash. A
description is quoted for a shell without escapes, and brackets in it are escaped but backslashes
are not. So a description comes back if its backslashes stand where they escape nothing.

- `word?_singleQuoted`: a shell reads what is quoted if no backslash in it is an escape.
- `word?_singleQuoted_iff`: in fish it reads nothing else as the same text.
- `readGroup?_iff`: which descriptions come back from between brackets.
- `flagBlock_description`: when the description of a flag block comes back, in zsh and in fish.
-/

namespace Synopsis

open Text

/-- Whether a backslash escapes this character, between single quotes or outside. -/
def Dialect.escapes : Dialect → Bool → Char → Bool
  | _, false, _ => true
  | .fish, true, c => c == '\'' || c == '\\'
  | _, true, _ => false

namespace Script

variable {dialect : Dialect} {text rest : Text} {c : Char}

/-! ## Reading a word -/

/-- Characters that end a word unless they are quoted: blanks and operators. -/
def isSeparator (c : Char) : Bool := isBlank c || [';', '&', '|', '<', '>', '(', ')'].contains c

/-- The text that a shell reads when all of it is one word, from between quotes or outside. -/
def word? (dialect : Dialect) : Bool → Text → Option Text
  | quoted, [] => if quoted then none else some []
  | _, ['\\'] => none
  | quoted, '\\' :: c :: text =>
    if dialect.escapes quoted c then (word? dialect quoted text).map (c :: ·)
    else (word? dialect quoted (c :: text)).map ('\\' :: ·)
  | quoted, c :: text =>
    if c = '\'' then word? dialect (!quoted) text
    else if !quoted && isSeparator c then none
    else (word? dialect quoted text).map (c :: ·)

/-- What a bracket group holds and what follows it. A backslash makes the next character stand for
itself. -/
def bracketBody? : Text → Option (Text × Text)
  | [] => none
  | ['\\'] => none
  | '\\' :: c :: text => (bracketBody? text).map fun found => (c :: found.1, found.2)
  | c :: text =>
    if c = ']' then some ([], text)
    else (bracketBody? text).map fun found => (c :: found.1, found.2)

/-- The bracket group at the start of a text, and what follows it. -/
def bracketGroup? : Text → Option (Text × Text)
  | '[' :: text => bracketBody? text
  | _ => none

theorem word?_quote (quoted : Bool) (text : Text) :
    word? dialect quoted ('\'' :: text) = word? dialect (!quoted) text := by
  rw [word?]
  · rfl
  · simp
  · simp

theorem word?_escape {quoted : Bool} (h : dialect.escapes quoted c = true) (text : Text) :
    word? dialect quoted ('\\' :: c :: text) = (word? dialect quoted text).map (c :: ·) := by
  rw [word?, if_pos h]

theorem word?_backslash {quoted : Bool} (h : dialect.escapes quoted c = false) (text : Text) :
    word? dialect quoted ('\\' :: c :: text) =
      (word? dialect quoted (c :: text)).map ('\\' :: ·) := by
  rw [word?, if_neg (by simp [h])]

theorem word?_cons {quoted : Bool} (hq : c ≠ '\'') (hb : c ≠ '\\')
    (hs : quoted = true ∨ isSeparator c = false) (text : Text) :
    word? dialect quoted (c :: text) = (word? dialect quoted text).map (c :: ·) := by
  have hend : ¬ (!quoted && isSeparator c) = true := by
    rcases hs with rfl | hs
    · simp
    · simp [hs]
  rw [word?, if_neg hq, if_neg hend]
  · simp [hb]
  · simp [hb]

/-- A character that a shell reads as itself outside of quotes. -/
def IsPlain (c : Char) : Prop := c ≠ '\'' ∧ c ≠ '\\' ∧ isSeparator c = false

theorem word?_plain (h : ∀ c ∈ text, IsPlain c) (rest : Text) :
    word? dialect false (text ++ rest) = (word? dialect false rest).map (text ++ ·) := by
  induction text with
  | nil => simp
  | cons c text ih =>
    rw [List.forall_mem_cons] at h
    obtain ⟨⟨hq, hb, hs⟩, htext⟩ := h
    rw [List.cons_append, word?_cons hq hb (Or.inr hs), ih htext, Option.map_map]
    rfl

theorem isPlain_of_mem_literal {flag : Flag} (h : c ∈ flag.literal) : IsPlain c := by
  have hother : (['\'', '\\', ';', '&', '|', '<', '>', '(', ')'].all fun d =>
      !(d.isAlphanum || d == '-')) = true := by decide
  have hne : ∀ d ∈ ['\'', '\\', ';', '&', '|', '<', '>', '(', ')'], c ≠ d := by
    rintro d hd rfl
    have hkind : (!(c.isAlphanum || c == '-')) = true := List.all_eq_true.1 hother c hd
    rw [Bool.not_eq_true'] at hkind
    exact Help.notMem_literal hkind h
  refine ⟨hne '\'' (by simp), hne '\\' (by simp), ?_⟩
  rw [isSeparator, (Help.plain_of_isAlphanum (Help.mem_literal h)).1, Bool.false_or,
    List.contains_eq_mem, decide_eq_false_iff_not]
  exact fun hm => hne c (List.mem_cons_of_mem _ (List.mem_cons_of_mem _ hm)) rfl

theorem notMem_joined {flags : List Flag} (hs : c ≠ ' ')
    (hc : (c.isAlphanum || c == '-') = false) : c ∉ Flag.joined flags := by
  intro h
  rcases mem_of_mem_joinWords h with he | ⟨literal, hl, hm⟩
  · exact hs he
  · obtain ⟨flag, -, rfl⟩ := List.mem_map.1 hl
    exact Help.notMem_literal hc hm

theorem isPlain_of_mem_alternatives {flags : List Flag}
    (h : c ∈ alternatives (flags.map Flag.literal)) : IsPlain c := by
  have hword : ∀ literal ∈ flags.map Flag.literal, c ∈ literal → IsPlain c := by
    intro literal hl hc
    obtain ⟨flag, -, rfl⟩ := List.mem_map.1 hl
    exact isPlain_of_mem_literal hc
  have hmark : IsPlain '\x7b' ∧ IsPlain ',' ∧ IsPlain '\x7d' := by
    unfold IsPlain
    decide
  unfold alternatives at h
  split at h
  · next literal heq => exact hword literal (by simp [heq]) h
  · rw [List.cons_append, List.mem_cons, List.mem_append] at h
    rcases h with rfl | h | h
    · exact hmark.1
    · rcases mem_of_mem_intercalate h with hc | ⟨literal, hl, hc⟩
      · rw [List.mem_singleton.1 hc]
        exact hmark.2.1
      · exact hword literal hl hc
    · rw [List.mem_singleton.1 h]
      exact hmark.2.2

/-! ## Quoted texts -/

/-- A text as it stands between the single quotes of a quotation. -/
def requoted (text : Text) : Text :=
  substitute (fun c => if c = '\'' then escapedQuote else [c]) text

/-- What stands behind each backslash of a text has this property; at the end it is nothing. -/
def AfterBackslash (p : Option Char → Prop) (text : Text) : Prop :=
  ∀ front rest, text = front ++ '\\' :: rest → p rest.head?

/-- Between quotes no backslash of the text is an escape. Behind the text stands a quote. -/
def Verbatim (dialect : Dialect) (text : Text) : Prop :=
  AfterBackslash (fun next => dialect.escapes true (next.getD '\'') = false) text

theorem afterBackslash_nil (p : Option Char → Prop) : AfterBackslash p [] :=
  fun front rest ht => by simp at ht

theorem afterBackslash_cons {p : Option Char → Prop} : AfterBackslash p (c :: text) ↔
    (c = '\\' → p text.head?) ∧ AfterBackslash p text := by
  constructor
  · intro h
    exact ⟨fun hc => h [] text (by rw [hc]; rfl),
      fun front rest ht => h (c :: front) rest (by rw [ht]; rfl)⟩
  · rintro ⟨hc, h⟩ front rest ht
    cases front with
    | nil =>
      obtain ⟨rfl, rfl⟩ := List.cons.inj ht
      exact hc rfl
    | cons d front => exact h front rest (List.cons.inj ht).2

theorem requoted_quote (text : Text) :
    requoted ('\'' :: text) = '\'' :: '\\' :: '\'' :: '\'' :: requoted text := by
  simp [requoted, substitute, escapedQuote]

theorem requoted_cons (hc : c ≠ '\'') (text : Text) :
    requoted (c :: text) = c :: requoted text := by
  simp [requoted, substitute, hc]

theorem requoted_append (text more : Text) :
    requoted (text ++ more) = requoted text ++ requoted more :=
  List.flatMap_append

theorem requoted_of_notMem (h : '\'' ∉ text) : requoted text = text := by
  induction text with
  | nil => rfl
  | cons c text ih =>
    rw [List.mem_cons, not_or] at h
    rw [requoted_cons (Ne.symm h.1), ih h.2]

/-- A text starts between its quotes as it is, or with a quote. -/
theorem requoted_append_quote (text rest : Text) :
    ∃ more, requoted text ++ '\'' :: rest = text.head?.getD '\'' :: more := by
  cases text with
  | nil => exact ⟨rest, rfl⟩
  | cons c text =>
    by_cases hc : c = '\''
    · subst hc
      exact ⟨_, by rw [requoted_quote]; rfl⟩
    · exact ⟨_, by rw [requoted_cons hc]; rfl⟩

/-- A shell reads what is quoted if no backslash in it is an escape. -/
theorem word?_requoted (h : Verbatim dialect text) (rest : Text) :
    word? dialect true (requoted text ++ '\'' :: rest) =
      (word? dialect false rest).map (text ++ ·) := by
  induction text with
  | nil =>
    rw [requoted, substitute, List.flatMap_nil, List.nil_append, word?_quote]
    simp
  | cons c text ih =>
    obtain ⟨hc, htext⟩ := afterBackslash_cons.1 h
    have hmap : ((word? dialect false rest).map (text ++ ·)).map (c :: ·) =
        (word? dialect false rest).map (c :: text ++ ·) := by
      rw [Option.map_map]
      rfl
    by_cases hq : c = '\''
    · subst hq
      rw [requoted_quote, ← hmap, ← ih htext]
      simp only [List.cons_append]
      rw [word?_quote, Bool.not_true, word?_escape rfl, word?_quote, Bool.not_false]
    · rw [requoted_cons hq, List.cons_append]
      by_cases hb : c = '\\'
      · subst hb
        obtain ⟨more, hm⟩ := requoted_append_quote text rest
        have hih := ih htext
        rw [hm] at hih ⊢
        rw [word?_backslash (hc rfl), hih, hmap]
      · rw [word?_cons hq hb (Or.inl rfl), ih htext, hmap]

theorem word?_singleQuoted (h : Verbatim dialect text) (rest : Text) :
    word? dialect false (singleQuoted text ++ rest) =
      (word? dialect false rest).map (text ++ ·) := by
  have hquoted : singleQuoted text ++ rest = '\'' :: (requoted text ++ '\'' :: rest) := by
    simp [singleQuoted, requoted]
  rw [hquoted, word?_quote, Bool.not_false, word?_requoted h]

/-! ## What fish reads -/

/-- What fish reads of a text and the quote behind it, between quotes or outside. -/
def readBack? (quoted : Bool) (text : Text) : Option Text :=
  word? .fish quoted (requoted text ++ ['\''])

theorem readBack?_nil (quoted : Bool) :
    readBack? quoted [] = if quoted then some [] else none := by
  cases quoted <;> rfl

theorem readBack?_quote (quoted : Bool) (text : Text) :
    readBack? quoted ('\'' :: text) = (readBack? quoted text).map ('\'' :: ·) := by
  rw [readBack?, requoted_quote]
  simp only [List.cons_append]
  cases quoted with
  | true => rw [word?_quote, Bool.not_true, word?_escape rfl, word?_quote]; rfl
  | false => rw [word?_quote, Bool.not_false, word?_escape rfl, word?_quote]; rfl

theorem readBack?_cons {quoted : Bool} (hq : c ≠ '\'') (hb : c ≠ '\\')
    (hs : quoted = true ∨ isSeparator c = false) (text : Text) :
    readBack? quoted (c :: text) = (readBack? quoted text).map (c :: ·) := by
  rw [readBack?, requoted_cons hq, List.cons_append, word?_cons hq hb hs]
  rfl

theorem readBack?_separator (hq : c ≠ '\'') (hb : c ≠ '\\') (hs : isSeparator c = true)
    (text : Text) : readBack? false (c :: text) = none := by
  rw [readBack?, requoted_cons hq, List.cons_append, word?, if_neg hq, if_pos (by simp [hs])]
  · simp [hb]
  · simp [hb]

/-- A backslash at the end escapes the quote behind the text. -/
theorem readBack?_backslash_nil (quoted : Bool) :
    readBack? quoted ['\\'] = if quoted then none else some ['\''] := by
  cases quoted <;> rfl

/-- A backslash in front of a quote escapes the quote that would close the quotation. -/
theorem readBack?_backslash_quote (quoted : Bool) (text : Text) :
    readBack? quoted ('\\' :: '\'' :: text) =
      (readBack? (!quoted) text).map ('\'' :: '\'' :: ·) := by
  have hescape : Dialect.fish.escapes quoted '\'' = true := by cases quoted <;> rfl
  rw [readBack?, requoted_cons (by decide), requoted_quote]
  simp only [List.cons_append]
  rw [word?_escape hescape, word?_escape hescape, word?_quote, Option.map_map]
  rfl

theorem readBack?_escape {quoted : Bool} (hq : c ≠ '\'') (h : Dialect.fish.escapes quoted c = true)
    (text : Text) :
    readBack? quoted ('\\' :: c :: text) = (readBack? quoted text).map (c :: ·) := by
  rw [readBack?, requoted_cons (by decide), requoted_cons hq, List.cons_append, List.cons_append,
    word?_escape h]
  rfl

theorem readBack?_backslash {quoted : Bool} (hq : c ≠ '\'')
    (h : Dialect.fish.escapes quoted c = false) (text : Text) :
    readBack? quoted ('\\' :: c :: text) = (readBack? quoted (c :: text)).map ('\\' :: ·) := by
  rw [readBack?, requoted_cons (by decide), requoted_cons hq, List.cons_append, List.cons_append,
    word?_backslash h, readBack?, requoted_cons hq]
  rfl

/-- Fish reads no more characters than were quoted. -/
theorem length_le_of_readBack? {result : Text} {quoted : Bool}
    (h : readBack? quoted text = some result) : result.length ≤ text.length := by
  induction hn : text.length using Nat.strongRecOn generalizing text result quoted with
  | _ n ih =>
    subst hn
    -- What one more character costs, when the rest is read.
    have step : ∀ {rest found : Text} {more : Bool}, readBack? more rest = some found →
        rest.length < text.length → found.length ≤ rest.length :=
      fun hf hl => ih _ hl hf rfl
    rcases text with _ | ⟨c, text⟩
    · rw [readBack?_nil, Option.ite_none_right_eq_some, Option.some.injEq] at h
      simp [← h.2]
    by_cases hq : c = '\''
    · subst hq
      rw [readBack?_quote, Option.map_eq_some_iff] at h
      obtain ⟨found, hf, rfl⟩ := h
      have hle := step hf (by simp)
      simpa using hle
    by_cases hb : c = '\\'
    · subst hb
      rcases text with _ | ⟨d, text⟩
      · rw [readBack?_backslash_nil, Option.ite_none_left_eq_some, Option.some.injEq] at h
        simp [← h.2]
      by_cases hd : d = '\''
      · subst hd
        rw [readBack?_backslash_quote, Option.map_eq_some_iff] at h
        obtain ⟨found, hf, rfl⟩ := h
        have hle := step hf (Nat.lt_add_of_pos_right Nat.two_pos)
        simpa using hle
      cases he : Dialect.fish.escapes quoted d with
      | true =>
        rw [readBack?_escape hd he, Option.map_eq_some_iff] at h
        obtain ⟨found, hf, rfl⟩ := h
        have hle := step hf (Nat.lt_add_of_pos_right Nat.two_pos)
        simp only [List.length_cons]
        omega
      | false =>
        rw [readBack?_backslash hd he, Option.map_eq_some_iff] at h
        obtain ⟨found, hf, rfl⟩ := h
        have hle := step hf (by simp)
        simpa using hle
    · by_cases hs : quoted = true ∨ isSeparator c = false
      · rw [readBack?_cons hq hb hs, Option.map_eq_some_iff] at h
        obtain ⟨found, hf, rfl⟩ := h
        have hle := step hf (by simp)
        simpa using hle
      · obtain ⟨hquoted, hsep⟩ := not_or.1 hs
        rw [Bool.not_eq_true] at hquoted
        rw [Bool.not_eq_false] at hsep
        rw [hquoted, readBack?_separator hq hb hsep] at h
        cases h

/-- Fish reads a text back only if none of its backslashes is an escape. -/
theorem verbatim_of_readBack? (h : readBack? true text = some text) : Verbatim .fish text := by
  induction text with
  | nil => exact afterBackslash_nil _
  | cons c text ih =>
    refine afterBackslash_cons.2 ?_
    by_cases hq : c = '\''
    · subst hq
      rw [readBack?_quote, Option.map_eq_some_iff] at h
      obtain ⟨found, hf, heq⟩ := h
      obtain rfl := (List.cons.inj heq).2
      exact ⟨fun hb => absurd hb (by decide), ih hf⟩
    by_cases hb : c = '\\'
    · subst hb
      rcases text with _ | ⟨d, text⟩
      · rw [readBack?_backslash_nil] at h
        cases h
      by_cases hd : d = '\''
      · subst hd
        rw [readBack?_backslash_quote, Option.map_eq_some_iff] at h
        obtain ⟨found, -, heq⟩ := h
        exact absurd (List.cons.inj heq).1 (by decide)
      cases he : Dialect.fish.escapes true d with
      | true =>
        -- The backslash is lost, and nothing that follows makes up for it.
        rw [readBack?_escape hd he, Option.map_eq_some_iff] at h
        obtain ⟨found, hf, heq⟩ := h
        have hle := length_le_of_readBack? hf
        have hlen := congrArg List.length heq
        simp only [List.length_cons] at hlen
        omega
      | false =>
        rw [readBack?_backslash hd he, Option.map_eq_some_iff] at h
        obtain ⟨found, hf, heq⟩ := h
        obtain rfl := (List.cons.inj heq).2
        exact ⟨fun _ => he, ih hf⟩
    · rw [readBack?_cons hq hb (Or.inl rfl), Option.map_eq_some_iff] at h
      obtain ⟨found, hf, heq⟩ := h
      obtain rfl := (List.cons.inj heq).2
      exact ⟨fun hc => absurd hc hb, ih hf⟩

theorem word?_singleQuoted_iff : word? .fish false (singleQuoted text) = some text ↔
    Verbatim .fish text := by
  constructor
  · intro h
    have hquoted : singleQuoted text = '\'' :: (requoted text ++ ['\'']) := rfl
    rw [hquoted, word?_quote, Bool.not_false] at h
    exact verbatim_of_readBack? h
  · intro h
    have hread := word?_singleQuoted h []
    rw [List.append_nil] at hread
    rw [hread, word?]
    simp

/-! ## Bracket groups -/

/-- A text as it stands between the brackets of a group. -/
def bracketEscaped (text : Text) : Text :=
  substitute (fun c => if c = '[' ∨ c = ']' then ['\\', c] else [c]) text

/-- A description is escaped for its brackets and then quoted with them. -/
theorem bracketed_eq (text : Text) :
    bracketed text = singleQuoted ('[' :: bracketEscaped text ++ [']']) := by
  have himage : ∀ c : Char, (if c = '\'' then escapedQuote
      else if c = '[' ∨ c = ']' then ['\\', c] else [c]) =
        requoted (if c = '[' ∨ c = ']' then ['\\', c] else [c]) := by
    intro c
    by_cases hb : c = '[' ∨ c = ']'
    · rcases hb with rfl | rfl <;> rfl
    · by_cases hq : c = '\''
      · subst hq
        rfl
      · simp [hb, hq, requoted, substitute]
  have hbody : requoted (bracketEscaped text) = substitute (fun c => if c = '\'' then escapedQuote
      else if c = '[' ∨ c = ']' then ['\\', c] else [c]) text := by
    simp only [himage]
    exact List.flatMap_assoc
  have hwhole : requoted ('[' :: bracketEscaped text ++ [']']) =
      '[' :: requoted (bracketEscaped text) ++ [']'] := by
    rw [List.cons_append, requoted_cons (by decide), requoted_append]
    rfl
  show bracketed text = '\'' :: requoted ('[' :: bracketEscaped text ++ [']']) ++ ['\'']
  rw [hwhole, hbody, bracketed]
  simp

/-- What is read of a bracket group that holds an escaped text. -/
def readGroup? (text : Text) : Option (Text × Text) := bracketBody? (bracketEscaped text ++ [']'])

theorem bracketEscaped_bracket (hc : c = '[' ∨ c = ']') (text : Text) :
    bracketEscaped (c :: text) = '\\' :: c :: bracketEscaped text := by
  simp [bracketEscaped, substitute, hc]

theorem bracketEscaped_cons (hc : ¬ (c = '[' ∨ c = ']')) (text : Text) :
    bracketEscaped (c :: text) = c :: bracketEscaped text := by
  simp [bracketEscaped, substitute, hc]

theorem bracketBody?_cons (hb : c ≠ '\\') (hc : c ≠ ']') (text : Text) :
    bracketBody? (c :: text) = (bracketBody? text).map fun found => (c :: found.1, found.2) := by
  rw [bracketBody?, if_neg hc]
  · simp [hb]
  · simp [hb]

theorem readGroup?_bracket (hc : c = '[' ∨ c = ']') (text : Text) :
    readGroup? (c :: text) = (readGroup? text).map fun found => (c :: found.1, found.2) := by
  rw [readGroup?, bracketEscaped_bracket hc, List.cons_append, List.cons_append, bracketBody?]
  rfl

theorem readGroup?_cons (hb : c ≠ '\\') (hc : ¬ (c = '[' ∨ c = ']')) (text : Text) :
    readGroup? (c :: text) = (readGroup? text).map fun found => (c :: found.1, found.2) := by
  rw [readGroup?, bracketEscaped_cons hc, List.cons_append,
    bracketBody?_cons hb fun he => hc (Or.inr he)]
  rfl

/-- A backslash and the one in front of an opening bracket make a backslash, and the bracket needs
none. -/
theorem readGroup?_backslash_open (text : Text) : readGroup? ('\\' :: '[' :: text) =
    (readGroup? ('[' :: text)).map fun found => ('\\' :: found.1, found.2) := by
  rw [readGroup?_bracket (Or.inl rfl), readGroup?, bracketEscaped_cons (by decide),
    bracketEscaped_bracket (Or.inl rfl)]
  simp only [List.cons_append]
  rw [bracketBody?, bracketBody?_cons (by decide) (by decide)]
  rfl

/-- In front of a closing bracket they leave it to close the group. -/
theorem readGroup?_backslash_close (text : Text) : readGroup? ('\\' :: ']' :: text) =
    some (['\\'], bracketEscaped text ++ [']']) := by
  rw [readGroup?, bracketEscaped_cons (by decide), bracketEscaped_bracket (Or.inr rfl)]
  simp only [List.cons_append]
  rw [bracketBody?, bracketBody?, if_pos rfl, Option.map_some]
  · simp
  · simp

theorem readGroup?_backslash (hc : ¬ (c = '[' ∨ c = ']')) (text : Text) :
    readGroup? ('\\' :: c :: text) =
      (readGroup? text).map fun found => (c :: found.1, found.2) := by
  rw [readGroup?, bracketEscaped_cons (by decide), bracketEscaped_cons hc]
  simp only [List.cons_append]
  rw [bracketBody?]
  rfl

/-- No more characters are read than were escaped. -/
theorem length_le_of_readGroup? {found behind : Text} (h : readGroup? text = some (found, behind)) :
    found.length ≤ text.length := by
  induction hn : text.length using Nat.strongRecOn generalizing text found behind with
  | _ n ih =>
    subst hn
    -- One character is read, and the rest of the text is shorter.
    have step : ∀ {rest : Text} {d : Char},
        (readGroup? rest).map (fun found => (d :: found.1, found.2)) = some (found, behind) →
        rest.length < text.length → found.length ≤ rest.length + 1 := by
      intro rest d h hl
      rw [Option.map_eq_some_iff] at h
      obtain ⟨⟨more, last⟩, hm, heq⟩ := h
      obtain ⟨rfl, -⟩ := Prod.mk.inj heq
      exact Nat.succ_le_succ (ih _ hl hm rfl)
    rcases text with _ | ⟨c, text⟩
    · cases h
      exact Nat.le_refl _
    by_cases hc : c = '[' ∨ c = ']'
    · rw [readGroup?_bracket hc] at h
      exact step h (by simp)
    by_cases hb : c = '\\'
    · subst hb
      rcases text with _ | ⟨d, text⟩
      · cases h
      by_cases hd : d = '[' ∨ d = ']'
      · rcases hd with rfl | rfl
        · rw [readGroup?_backslash_open] at h
          exact step h (by simp)
        · rw [readGroup?_backslash_close] at h
          cases h
          simp
      · rw [readGroup?_backslash hd] at h
        have hle := step h (Nat.lt_add_of_pos_right Nat.two_pos)
        simp only [List.length_cons]
        omega
    · rw [readGroup?_cons hb hc] at h
      exact step h (by simp)

/-- A bracket is read back from behind its own backslash, but a backslash makes the character behind
it stand for itself. -/
theorem readGroup?_iff :
    readGroup? text = some (text, []) ↔ AfterBackslash (· = some '[') text := by
  induction text with
  | nil => exact ⟨fun _ => afterBackslash_nil _, fun _ => rfl⟩
  | cons c text ih =>
    -- A character that is read as itself changes nothing.
    have keep : (readGroup? text).map (fun found => (c :: found.1, found.2)) =
        some (c :: text, []) ↔ AfterBackslash (· = some '[') text := by
      rw [← ih]
      constructor
      · intro h
        rw [Option.map_eq_some_iff] at h
        obtain ⟨⟨found, behind⟩, hf, heq⟩ := h
        obtain ⟨hfound, rfl⟩ := Prod.mk.inj heq
        obtain rfl := (List.cons.inj hfound).2
        exact hf
      · intro h
        rw [h]
        rfl
    rw [afterBackslash_cons]
    by_cases hc : c = '[' ∨ c = ']'
    · have hb : c ≠ '\\' := by rcases hc with rfl | rfl <;> decide
      rw [readGroup?_bracket hc, keep]
      simp [hb]
    by_cases hb : c = '\\'
    · subst hb
      rcases text with _ | ⟨d, text⟩
      · constructor
        · intro h
          cases h
        · rintro ⟨h, -⟩
          cases h rfl
      by_cases hd : d = '[' ∨ d = ']'
      · rcases hd with rfl | rfl
        · rw [readGroup?_backslash_open, keep]
          simp
        · rw [readGroup?_backslash_close]
          simp
      · rw [readGroup?_backslash hd]
        constructor
        · -- The backslash is lost, and nothing that follows makes up for it.
          intro h
          rw [Option.map_eq_some_iff] at h
          obtain ⟨⟨found, behind⟩, hf, heq⟩ := h
          have hle := length_le_of_readGroup? hf
          have hlen := congrArg List.length (Prod.mk.inj heq).1
          simp only [List.length_cons] at hlen
          omega
        · rintro ⟨h, -⟩
          exact absurd (Or.inl (Option.some.inj (h rfl))) hd
    · rw [readGroup?_cons hb hc, keep]
      simp [hb]

/-! ## Flag blocks -/

/-- The parts of a flag block that is one word: two quotations, and the literals between them. -/
theorem flagBlock_zsh (group : FlagGroup) (flags : List Flag) : flagBlock .zsh group flags =
    singleQuoted ("(" ++ Flag.joined flags ++ ")") ++
      (alternatives ((Flag.renderOrder flags).map Flag.literal) ++
        singleQuoted ('[' :: bracketEscaped group.description ++ [']'])) := by
  have hjoined : '\'' ∉ "(" ++ Flag.joined flags ++ ")" := by
    intro h
    rw [List.mem_append, List.mem_append] at h
    rcases h with (h | h) | h
    · exact absurd h (by decide)
    · exact notMem_joined (by decide) (by decide) h
    · exact absurd h (by decide)
  have hquoted : singleQuoted ("(" ++ Flag.joined flags ++ ")") =
      "'(" ++ Flag.joined flags ++ ")'" := by
    show '\'' :: requoted ("(" ++ Flag.joined flags ++ ")") ++ ['\''] = _
    rw [requoted_of_notMem hjoined]
    simp
  rw [flagBlock, bracketed_eq, hquoted, List.append_assoc]

/-- What zsh reads of a flag block: the text without its quotes. -/
theorem word?_flagBlock (group : FlagGroup) (flags : List Flag) :
    word? .zsh false (flagBlock .zsh group flags) = some ("(" ++ Flag.joined flags ++ ")" ++
      alternatives ((Flag.renderOrder flags).map Flag.literal) ++
        ('[' :: bracketEscaped group.description ++ [']'])) := by
  have hverbatim : ∀ text, Verbatim .zsh text := fun _ _ _ _ => rfl
  have hlast := word?_singleQuoted
    (hverbatim ('[' :: bracketEscaped group.description ++ [']'])) []
  rw [List.append_nil] at hlast
  rw [flagBlock_zsh, word?_singleQuoted (hverbatim _),
    word?_plain fun c hc => isPlain_of_mem_alternatives hc, hlast]
  simp [word?]

theorem verbatim_fish : Verbatim .fish text ↔
    AfterBackslash (fun next => ∃ c ∈ next, c ≠ '\'' ∧ c ≠ '\\') text := by
  have hnext : ∀ next : Option Char, Dialect.fish.escapes true (next.getD '\'') = false ↔
      ∃ c ∈ next, c ≠ '\'' ∧ c ≠ '\\' := by
    intro next
    cases next <;> simp [Dialect.escapes]
  simp only [Verbatim, hnext]

/-- The description of a flag block comes back in zsh exactly if each of its backslashes stands in
front of an opening bracket, and in fish exactly if none stands at the end or in front of a quote or
another backslash. -/
theorem flagBlock_description (group : FlagGroup) (flags : List Flag) :
    (∃ tail, word? .zsh false (flagBlock .zsh group flags) =
        some ("(" ++ Flag.joined flags ++ ")" ++
          alternatives ((Flag.renderOrder flags).map Flag.literal) ++ tail) ∧
      (bracketGroup? tail = some (group.description, []) ↔
        AfterBackslash (· = some '[') group.description)) ∧
    ∃ argument, flagBlock .fish group flags =
        ['\n'].intercalate ((Flag.renderOrder flags).map fun flag =>
          "complete -c " ++ group.program ++ " -f -n \"__fish_seen_subcommand_from "
            ++ group.command ++ "\" " ++ announcement flag.kind ++ ' ' :: flag.name
            ++ " -d " ++ argument) ∧
      (word? .fish false argument = some group.description ↔
        AfterBackslash (fun next => ∃ c ∈ next, c ≠ '\'' ∧ c ≠ '\\') group.description) :=
  ⟨⟨'[' :: bracketEscaped group.description ++ [']'], word?_flagBlock group flags, readGroup?_iff⟩,
    singleQuoted group.description, rfl, word?_singleQuoted_iff.trans verbatim_fish⟩

/-- A backslash at the end of a description escapes the bracket or the quote that would close it. -/
theorem flagBlock_description_backslash :
    flagBlock .zsh ⟨"clean", "C:\\", "git-remote-gcrypt"⟩ [⟨.short, "f", by decide⟩] =
        "'(-f)'-f'[C:\\]'" ∧
      word? .zsh false "'(-f)'-f'[C:\\]'" = some "(-f)-f[C:\\]" ∧ bracketGroup? "[C:\\]" = none ∧
    flagBlock .fish ⟨"clean", "C:\\", "git-remote-gcrypt"⟩ [⟨.short, "f", by decide⟩] =
        "complete -c git-remote-gcrypt -f -n \"__fish_seen_subcommand_from clean\" -s f -d 'C:\\'" ∧
      word? .fish false "'C:\\'" = none := by
  have hone : ∀ flag : Flag, Flag.renderOrder [flag] = [flag] := fun _ => List.mergeSort_singleton _
  refine ⟨?_, by decide, by decide, ?_, by decide⟩
  · rw [flagBlock, Flag.joined, hone]
    decide
  · rw [flagBlock, hone]
    decide

end Script

end Synopsis
