import Synopsis.Help.Mention
import Synopsis.Proofs.Text.Blank
import Synopsis.Proofs.Text.Search

/-!
# Groups of flags

How flags are written on a line: one by one, or a short and a long one with a comma between them,
with one space or one bar between the groups. Every group is read as one mention, so the flags of
a line are those of its groups.

- `Group.token?_text`: a group is the mention at the start of a text that goes on behind it.
- `Group.flags_text`: the flags of the mention are those of the group.
- `Row.flagsOf_groups`: the flags of a line of groups, with or without a description.
-/

namespace Synopsis

open Text

/-- If the flag is long, its name ends in a letter. -/
def Flag.EndsInLetter (flag : Flag) : Prop :=
  flag.kind = .long → flag.name.getLast?.any Char.isLower = true

instance (flag : Flag) : Decidable flag.EndsInLetter :=
  inferInstanceAs (Decidable (_ → _))

namespace Help

/-- Flags that are written together: one flag, or a short and a long one with a comma between
them, and one space before or after the comma if it says so. -/
inductive Group where
  | single (flag : Flag)
  | pair (short long : Flag) (before after : Bool) (isShort : short.kind = .short)
      (isLong : long.kind = .long)

/-- What stands between two groups. -/
inductive Separator where
  | space
  | bar
  deriving DecidableEq

/-- The character between two groups. -/
def Separator.char : Separator → Char
  | space => ' '
  | bar => '|'

namespace Group

/-- One space or none. -/
def spaceIf (b : Bool) : Text := if b then [' '] else []

/-- The group as it is written. -/
def text : Group → Text
  | single flag => flag.literal
  | pair short long before after _ _ =>
    short.literal ++ spaceIf before ++ ',' :: (spaceIf after ++ long.literal)

/-- The flags of the group. -/
def flags : Group → List Flag
  | single flag => [flag]
  | pair short long _ _ _ _ => [short, long]

/-- The groups after the first one as they are written, each behind its separator. -/
def tail (rest : List (Separator × Group)) : Text :=
  rest.flatMap fun (separator, group) => separator.char :: group.text

end Group

/-! ## Characters of flags -/

theorem toNat_of_isAlphanum {c : Char} (h : c.isAlphanum = true) : (48 ≤ c.toNat ∧ c.toNat ≤ 57) ∨
    (65 ≤ c.toNat ∧ c.toNat ≤ 90) ∨ (97 ≤ c.toNat ∧ c.toNat ≤ 122) := by
  have between : ∀ low high : UInt32, (decide (c.val ≥ low) && decide (c.val ≤ high)) = true →
      low.toNat ≤ c.toNat ∧ c.toNat ≤ high.toNat := by
    intro low high hc
    rw [Bool.and_eq_true, decide_eq_true_eq, decide_eq_true_eq] at hc
    exact hc
  have letter : c.isUpper = true ∨ c.isLower = true ∨ c.isDigit = true := by
    rw [← Bool.or_eq_true, ← Bool.or_eq_true, ← Bool.or_assoc]
    exact h
  rcases letter with h | h | h
  · have bounds : 'A'.val ≤ c.val ∧ c.val ≤ 'Z'.val := of_decide_eq_true h
    exact Or.inr (Or.inl bounds)
  · exact Or.inr (Or.inr (between 'a'.val 'z'.val h))
  · exact Or.inl (between '0'.val '9'.val h)

theorem isAlphanum_of_isLower {c : Char} (h : c.isLower = true) : c.isAlphanum = true := by
  show (c.isUpper || c.isLower || c.isDigit) = true
  rw [h, Bool.or_true, Bool.true_or]

/-- A letter, a digit or a dash is neither blank nor a comma. -/
theorem plain_of_isAlphanum {c : Char} (h : c.isAlphanum = true ∨ c = '-') :
    isBlank c = false ∧ c ≠ ',' := by
  rcases h with h | rfl
  · have hn := toNat_of_isAlphanum h
    refine ⟨?_, ?_⟩
    · simp only [isBlank, Bool.or_eq_false_iff, Bool.and_eq_false_iff, decide_eq_false_iff_not,
        beq_eq_false_iff_ne]
      omega
    · intro hc
      rw [hc] at hn
      revert hn
      decide
  · decide

/-- A character of a literal is a letter, a digit or a dash. -/
theorem mem_literal {flag : Flag} {c : Char} (h : c ∈ flag.literal) :
    c.isAlphanum = true ∨ c = '-' := by
  rcases flag with ⟨kind, name, ha⟩
  have hname : ∀ c ∈ name, c.isAlphanum = true ∨ c = '-' := by
    intro c hc
    cases kind with
    | short =>
      match name, ha with
      | [d], ha =>
        rw [List.mem_singleton.1 hc]
        exact Or.inl ha
    | long =>
      match name, ha with
      | d :: rest, ha =>
        simp only [FlagKind.admits, Bool.and_eq_true, List.all_eq_true] at ha
        rcases List.mem_cons.1 hc with rfl | hc
        · exact Or.inl (isAlphanum_of_isLower ha.1)
        · have := ha.2 c hc
          simp only [FlagKind.isLongChar, Bool.or_eq_true, beq_iff_eq] at this
          exact this.imp_left isAlphanum_of_isLower
  rcases List.mem_append.1 h with h | h
  · right
    cases kind with
    | short => simpa [FlagKind.dashes] using h
    | long => simpa [FlagKind.dashes] using h
  · exact hname c h

/-- A character of another kind is in no literal. -/
theorem notMem_literal {flag : Flag} {c : Char} (h : (c.isAlphanum || c == '-') = false) :
    c ∉ flag.literal := by
  intro hc
  rcases mem_literal hc with hc | rfl
  · simp [hc] at h
  · exact absurd h (by decide)

theorem exists_literal_eq_cons (flag : Flag) : ∃ more, flag.literal = '-' :: more := by
  rcases flag with ⟨kind, name, ha⟩
  cases kind with
  | short => exact ⟨name, rfl⟩
  | long => exact ⟨'-' :: name, rfl⟩

theorem literal_of_short {flag : Flag} (h : flag.kind = .short) :
    ∃ c, flag.literal = ['-', c] ∧ c.isAlphanum = true := by
  rcases flag with ⟨kind, name, ha⟩
  obtain rfl : kind = .short := h
  match name, ha with
  | [c], ha => exact ⟨c, rfl, ha⟩

theorem literal_of_long {flag : Flag} (h : flag.kind = .long) (he : flag.EndsInLetter) :
    ∃ c name last, flag.literal = '-' :: '-' :: c :: name ∧ c.isLower = true ∧
      name.all FlagKind.isLongChar = true ∧ (c :: name).getLast? = some last ∧
      last.isLower = true := by
  rcases flag with ⟨kind, name, ha⟩
  obtain rfl : kind = .long := h
  obtain ⟨last, hl, hlast⟩ := (Option.any_eq_true Char.isLower _).1 (he rfl)
  match name, ha with
  | c :: name, ha =>
    simp only [FlagKind.admits, Bool.and_eq_true] at ha
    exact ⟨c, name, last, rfl, ha.1, ha.2, hl, hlast⟩

/-! ## One mention -/

/-- What can stand behind a group: nothing, or a separator and another group. -/
def EndsGroup (rest : Text) : Prop :=
  rest = [] ∨ ∃ (separator : Separator) (more : Text), rest = separator.char :: '-' :: more

namespace Mention

variable {rest : Text}

theorem longTail?_append {name : Text} {c last : Char} (hr : EndsGroup rest)
    (hn : name.all FlagKind.isLongChar = true) (hl : (c :: name).getLast? = some last)
    (hlast : last.isLower = true) : longTail? c (name ++ rest) = some (name, rest) := by
  induction name generalizing c with
  | nil =>
    obtain rfl : c = last := by simpa using hl
    have hw : isWord c = true := isWord_of_isAlphanum (isAlphanum_of_isLower hlast)
    rcases hr with rfl | ⟨separator, more, rfl⟩
    · simp [longTail?, isBoundary, hw]
    · have hs : isWord separator.char = false ∧ FlagKind.isLongChar separator.char = false := by
        cases separator <;> decide
      simp [longTail?, isBoundary, hw, hs]
  | cons d name ih =>
    simp only [List.all_cons, Bool.and_eq_true] at hn
    rw [List.getLast?_cons_cons] at hl
    simp [longTail?, hn.1, ih hn.2 hl]

theorem long?_literal {flag : Flag} (hr : EndsGroup rest) (hk : flag.kind = .long)
    (he : flag.EndsInLetter) : long? (flag.literal ++ rest) = some (flag.literal, rest) := by
  obtain ⟨c, name, last, hf, hc, hn, hl, hlast⟩ := literal_of_long hk he
  rw [hf]
  simp [long?, hc, longTail?_append hr hn hl hlast]

theorem dashed?_literal {flag : Flag} (hk : flag.kind = .short) (rest : Text) :
    dashed? (flag.literal ++ rest) = some (flag.literal, rest) := by
  obtain ⟨c, hf, hc⟩ := literal_of_short hk
  rw [hf]
  simp [dashed?, hc]

theorem blanks_spaceIf {c : Char} (hc : isBlank c = false) (b : Bool) (rest : Text) :
    blanks (Group.spaceIf b ++ c :: rest) = (Group.spaceIf b, c :: rest) := by
  have hs : isBlank ' ' = true := by decide
  cases b <;> simp [blanks, Group.spaceIf, hc, hs]

/-- Behind a single flag there is no comma. -/
theorem blanks_of_endsGroup (hr : EndsGroup rest) (left more : Text) :
    blanks rest ≠ (left, ',' :: more) := by
  have hs : isBlank ' ' = true ∧ isBlank '-' = false ∧ isBlank '|' = false := by decide
  intro h
  rcases hr with rfl | ⟨separator, next, rfl⟩
  · cases h
  · cases separator <;> simp [blanks, Separator.char, hs] at h

theorem long?_of_short {flag : Flag} (hk : flag.kind = .short) (rest : Text) :
    long? (flag.literal ++ rest) = none := by
  obtain ⟨c, hf, hc⟩ := literal_of_short hk
  have hne : c ≠ '-' := by
    intro h
    rw [h] at hc
    revert hc
    decide
  rw [hf]
  unfold long?
  split
  · next heq =>
    obtain ⟨rfl, -⟩ := List.cons.inj (List.cons.inj heq).2
    exact absurd rfl hne
  · rfl

theorem short?_literal {flag : Flag} (hr : EndsGroup rest) (hk : flag.kind = .short) :
    short? (flag.literal ++ rest) = some (flag.literal, rest) := by
  have hboundary : isBoundary (flag.literal.getLastD '-') rest.head? = true := by
    obtain ⟨c, hf, hc⟩ := literal_of_short hk
    have hw : isWord c = true := isWord_of_isAlphanum hc
    rw [hf]
    rcases hr with rfl | ⟨separator, more, rfl⟩
    · simp [isBoundary, hw]
    · have hs : isWord separator.char = false := by cases separator <;> decide
      simp [isBoundary, hw, hs]
  unfold short?
  rw [dashed?_literal hk]
  dsimp only
  rw [if_pos hboundary]

theorem token?_short {flag : Flag} (hr : EndsGroup rest) (hk : flag.kind = .short) :
    token? (flag.literal ++ rest) = some (flag.literal, rest) := by
  have hpair : pair? (flag.literal ++ rest) = none := by
    unfold pair?
    rw [dashed?_literal hk]
    dsimp only
    split
    · next hb => exact absurd hb (blanks_of_endsGroup hr _ _)
    · rfl
  rw [token?, hpair, long?_of_short hk, short?_literal hr hk]
  rfl

theorem token?_long {flag : Flag} (hr : EndsGroup rest) (hk : flag.kind = .long)
    (he : flag.EndsInLetter) : token? (flag.literal ++ rest) = some (flag.literal, rest) := by
  have hpair : pair? (flag.literal ++ rest) = none := by
    obtain ⟨c, name, -, hf, -⟩ := literal_of_long hk he
    have hdash : ('-' : Char).isAlphanum = false := by decide
    rw [hf]
    simp [pair?, dashed?, hdash]
  rw [token?, hpair, long?_literal hr hk he]
  rfl

/-- A group is the mention at the start of a text that goes on behind it. -/
theorem token?_text {group : Group} (hr : EndsGroup rest)
    (he : ∀ flag ∈ group.flags, flag.EndsInLetter) :
    token? (group.text ++ rest) = some (group.text, rest) := by
  cases group with
  | single flag =>
    cases hk : flag.kind with
    | short => exact token?_short hr hk
    | long => exact token?_long hr hk (he flag (by simp [Group.flags]))
  | pair short long before after hs hl =>
    have hlong := long?_literal hr hl (he long (by simp [Group.flags]))
    have hassoc : (Group.pair short long before after hs hl).text ++ rest = short.literal ++
        (Group.spaceIf before ++ ',' :: (Group.spaceIf after ++ (long.literal ++ rest))) := by
      simp [Group.text]
    have hleft : blanks (Group.spaceIf before ++
        ',' :: (Group.spaceIf after ++ (long.literal ++ rest))) =
        (Group.spaceIf before, ',' :: (Group.spaceIf after ++ (long.literal ++ rest))) :=
      blanks_spaceIf (by decide) before _
    have hright : blanks (Group.spaceIf after ++ (long.literal ++ rest)) =
        (Group.spaceIf after, long.literal ++ rest) := by
      obtain ⟨more, hm⟩ := exists_literal_eq_cons long
      rw [hm]
      exact blanks_spaceIf (by decide) after _
    rw [hassoc, token?, pair?, dashed?_literal hs]
    simp only [hleft, hright, hlong]
    simp [Group.text]

/-! ## All mentions of a row -/

theorem exists_text_eq_cons (group : Group) : ∃ more, group.text = '-' :: more := by
  cases group with
  | single flag => exact exists_literal_eq_cons flag
  | pair short long before after hs hl =>
    obtain ⟨more, hm⟩ := exists_literal_eq_cons short
    exact ⟨_, by rw [Group.text, hm]; rfl⟩

theorem endsGroup_tail (groups : List (Separator × Group)) : EndsGroup (Group.tail groups) := by
  cases groups with
  | nil => exact Or.inl rfl
  | cons next groups =>
    obtain ⟨separator, group⟩ := next
    obtain ⟨more, hm⟩ := exists_text_eq_cons group
    exact Or.inr ⟨separator, more ++ Group.tail groups, by simp [Group.tail, hm]⟩

theorem tokens_tail {groups : List (Separator × Group)}
    (he : ∀ next ∈ groups, ∀ flag ∈ next.2.flags, flag.EndsInLetter) :
    tokens false (Group.tail groups) = groups.map fun next => next.2.text := by
  induction groups with
  | nil => simp [Group.tail, tokens]
  | cons next groups ih =>
    obtain ⟨separator, group⟩ := next
    rw [List.forall_mem_cons] at he
    have hopener : isOpener separator.char = true := by cases separator <;> decide
    have hhere : here? false separator.char (group.text ++ Group.tail groups) =
        some (group.text, Group.tail groups) := by
      simp only [here?, hopener, if_true, Bool.false_eq_true, if_false, Option.none_or]
      exact token?_text (endsGroup_tail groups) he.1
    have htail : Group.tail ((separator, group) :: groups) =
        separator.char :: (group.text ++ Group.tail groups) := by simp [Group.tail]
    rw [htail, tokens_of_here? hhere, ih he.2]
    rfl

theorem tokens_row {first : Group} {groups : List (Separator × Group)}
    (hf : ∀ flag ∈ first.flags, flag.EndsInLetter)
    (he : ∀ next ∈ groups, ∀ flag ∈ next.2.flags, flag.EndsInLetter) :
    tokens true (first.text ++ Group.tail groups) =
      first.text :: groups.map fun next => next.2.text := by
  obtain ⟨more, hm⟩ := exists_text_eq_cons first
  have htoken := token?_text (endsGroup_tail groups) hf
  have hhere : here? true '-' (more ++ Group.tail groups) =
      some (first.text, Group.tail groups) := by
    rw [hm, List.cons_append] at htoken
    simp only [here?, if_true, htoken, hm]
    rfl
  have hcons : first.text ++ Group.tail groups = '-' :: (more ++ Group.tail groups) := by
    rw [hm, List.cons_append]
  rw [hcons, tokens_of_here? hhere, tokens_tail he]

/-! ## The flags of a mention -/

section flags

variable {left right : Text}

theorem parse_blanks (hl : ∀ c ∈ left, isBlank c = true) (hr : ∀ c ∈ right, isBlank c = true)
    (flag : Flag) : Flag.parse (trim (left ++ flag.literal ++ right)) = .ok flag := by
  obtain ⟨more, hm⟩ := exists_literal_eq_cons flag
  rw [trim_of_blanks hl hr (by simp [hm]) fun c hc => (plain_of_isAlphanum (mem_literal hc)).1,
    Flag.parse_literal]

theorem ne_comma_of_blanks (hl : ∀ c ∈ left, isBlank c = true)
    (hr : ∀ c ∈ right, isBlank c = true) (flag : Flag) :
    ∀ c ∈ left ++ flag.literal ++ right, (c == ',') = false := by
  have hcomma : isBlank ',' = false := by decide
  refine fun c h => beq_false_of_ne fun hc => ?_
  subst hc
  rw [List.mem_append, List.mem_append] at h
  rcases h with (h | h) | h
  · rw [hl _ h] at hcomma
    cases hcomma
  · exact (plain_of_isAlphanum (mem_literal h)).2 rfl
  · rw [hr _ h] at hcomma
    cases hcomma

/-- A literal is one piece, and is read as its flag. -/
theorem splitOn_literal (flag : Flag) : flag.literal.splitOn ',' = [flag.literal] ∧
    Flag.parse (trim flag.literal) = .ok flag := by
  have none : ∀ c ∈ ([] : Text), isBlank c = true := by simp
  have hparse := parse_blanks none none flag
  have hcomma := ne_comma_of_blanks none none flag
  rw [List.nil_append, List.append_nil] at hparse hcomma
  rw [List.splitOn_eq_splitOnP, List.splitOnP_eq_singleton hcomma]
  exact ⟨rfl, hparse⟩

/-- Two literals around a comma are two pieces, and the blanks around the comma do not matter. -/
theorem splitOn_pair (hl : ∀ c ∈ left, isBlank c = true) (hr : ∀ c ∈ right, isBlank c = true)
    (short long : Flag) :
    (short.literal ++ left ++ ',' :: (right ++ long.literal)).splitOn ',' =
        [short.literal ++ left, right ++ long.literal] ∧
      Flag.parse (trim (short.literal ++ left)) = .ok short ∧
      Flag.parse (trim (right ++ long.literal)) = .ok long := by
  have none : ∀ c ∈ ([] : Text), isBlank c = true := by simp
  have hfirst := parse_blanks none hl short
  have hsecond := parse_blanks hr none long
  have hcomma₁ := ne_comma_of_blanks none hl short
  have hcomma₂ := ne_comma_of_blanks hr none long
  rw [List.nil_append] at hfirst hcomma₁
  rw [List.append_nil] at hsecond hcomma₂
  rw [List.splitOn_eq_splitOnP, List.splitOnP_append_cons_of_forall_mem hcomma₁ _ (by decide),
    List.splitOnP_eq_singleton hcomma₂]
  exact ⟨rfl, hfirst, hsecond⟩

theorem flags_literal (flag : Flag) : flags flag.literal = [flag] := by
  obtain ⟨hsplit, hparse⟩ := splitOn_literal flag
  simp [flags, hsplit, hparse, Except.toOption]

theorem flags_pair (hl : ∀ c ∈ left, isBlank c = true) (hr : ∀ c ∈ right, isBlank c = true)
    (short long : Flag) :
    flags (short.literal ++ left ++ ',' :: (right ++ long.literal)) = [short, long] := by
  obtain ⟨hsplit, hfirst, hsecond⟩ := splitOn_pair hl hr short long
  rw [flags, hsplit]
  simp [hfirst, hsecond, Except.toOption]

end flags

theorem isBlank_of_mem_spaceIf (b : Bool) (c : Char) (h : c ∈ Group.spaceIf b) :
    isBlank c = true := by
  cases b with
  | false => cases h
  | true =>
    rw [List.mem_singleton.1 h]
    decide

/-- The flags of a mention that is a group are those of the group. -/
theorem flags_text (group : Group) : flags group.text = group.flags := by
  cases group with
  | single flag => exact flags_literal flag
  | pair short long before after hs hl =>
    exact flags_pair (isBlank_of_mem_spaceIf before) (isBlank_of_mem_spaceIf after) short long

end Mention

/-! ## Single spaces -/

/-- A text in which all blanks are spaces, each with another character behind it. -/
inductive SingleSpaced : Text → Prop
  | nil : SingleSpaced []
  | char {c : Char} {text : Text} :
      isBlank c = false → SingleSpaced text → SingleSpaced (c :: text)
  | space {c : Char} {text : Text} :
      isBlank c = false → SingleSpaced text → SingleSpaced (' ' :: c :: text)

namespace SingleSpaced

variable {text more : Text}

theorem append (h : SingleSpaced text) (hm : SingleSpaced more) : SingleSpaced (text ++ more) := by
  induction h with
  | nil => exact hm
  | char hc _ ih => exact .char hc ih
  | space hc _ ih => exact .space hc ih

theorem of_notBlank (h : ∀ c ∈ text, isBlank c = false) : SingleSpaced text := by
  induction text with
  | nil => exact .nil
  | cons c text ih =>
    rw [List.forall_mem_cons] at h
    exact .char h.1 (ih h.2)

theorem spaceIf_cons {c : Char} (hc : isBlank c = false) (h : SingleSpaced more) (b : Bool) :
    SingleSpaced (Group.spaceIf b ++ c :: more) := by
  cases b with
  | false => exact .char hc h
  | true => exact .space hc h

theorem literal (flag : Flag) : SingleSpaced flag.literal :=
  of_notBlank fun _ hc => (plain_of_isAlphanum (mem_literal hc)).1

theorem group (group : Group) : SingleSpaced group.text := by
  cases group with
  | single flag => exact literal flag
  | pair short long before after hs hl =>
    have hlong : SingleSpaced (Group.spaceIf after ++ long.literal) := by
      obtain ⟨more, hm⟩ := exists_literal_eq_cons long
      have h := literal long
      rw [hm] at h ⊢
      cases h with
      | char hc h => exact spaceIf_cons hc h after
    rw [Group.text, List.append_assoc]
    exact (literal short).append (spaceIf_cons (by decide) hlong before)

theorem tail (groups : List (Separator × Group)) : SingleSpaced (Group.tail groups) := by
  induction groups with
  | nil => exact .nil
  | cons next groups ih =>
    obtain ⟨separator, group⟩ := next
    obtain ⟨more, hm⟩ := Mention.exists_text_eq_cons group
    have h := SingleSpaced.group group
    have htail : Group.tail ((separator, group) :: groups) =
        (separator.char :: group.text) ++ Group.tail groups := rfl
    rw [htail]
    refine append ?_ ih
    rw [hm] at h ⊢
    cases h with
    | char hc h =>
      cases separator with
      | space => exact .space hc h
      | bar => exact .char (by decide) (.char hc h)

theorem ne_space {c : Char} (hc : isBlank c = false) : ¬ ' ' = c := by
  intro h
  rw [← h] at hc
  revert hc
  decide

/-- The first two spaces behind such a text are the first ones in it. -/
theorem firstAfter (h : SingleSpaced text) : FirstAfter [' ', ' '] text := by
  induction h with
  | nil => exact firstAfter_nil _
  | char hc _ ih => exact firstAfter_cons.2 ⟨by simp [ne_space hc], ih⟩
  | space hc _ ih =>
    refine firstAfter_cons.2 ⟨by simp [ne_space hc], ?_⟩
    exact firstAfter_cons.2 ⟨by simp [ne_space hc], ih⟩

theorem not_infix (h : SingleSpaced text) : ¬ [' ', ' '] <:+: text := by
  induction h with
  | nil => simp
  | char hc _ ih => simp [List.infix_cons_iff, ne_space hc, ih]
  | space hc _ ih => simp [List.infix_cons_iff, ne_space hc, ih]

theorem notMem (h : SingleSpaced text) {c : Char} (hc : isBlank c = true) (hs : c ≠ ' ') :
    c ∉ text := by
  have hne : ∀ d, isBlank d = false → c ≠ d := by
    intro d hd h
    rw [h, hd] at hc
    cases hc
  induction h with
  | nil => simp
  | char hd _ ih => simp [hne _ hd, ih]
  | space hd _ ih => simp [hs, hne _ hd, ih]

end SingleSpaced

/-! ## The region of a body -/

/-- The region ends at the first two spaces behind the blanks that the body starts with. -/
theorem flagRegion_of_first {body region rest : Text}
    (h : trimStart body = region ++ [' ', ' '] ++ rest) (hf : FirstAfter [' ', ' '] region) :
    flagRegion body = region := by
  have hpattern : ("  " : String).toList = [' ', ' '] := by decide
  rw [flagRegion, hpattern, splitAtFirst?_eq_some.2 ⟨h, hf⟩]

theorem flagRegion_eq_trimStart {body : Text} (h : ¬ [' ', ' '] <:+: trimStart body) :
    flagRegion body = trimStart body := by
  have hpattern : ("  " : String).toList = [' ', ' '] := by decide
  rw [flagRegion, hpattern, splitAtFirst?_eq_none.2 h]

/-! ## Rows -/

/-- The groups of one line, and the description that may stand behind them. -/
structure Row where
  first : Group
  rest : List (Separator × Group)
  description : Option Text
  closed : ∀ text ∈ description, '\n' ∉ text

namespace Row

/-- The groups as they are written. -/
def groups (row : Row) : Text := row.first.text ++ Group.tail row.rest

/-- The description as it is written, behind two spaces. -/
def behind (row : Row) : Text :=
  match row.description with
  | some description => "  " ++ description
  | none => []

/-- The flags of the row. -/
def flags (row : Row) : List Flag := row.first.flags ++ row.rest.flatMap fun next => next.2.flags

variable {row : Row}

theorem singleSpaced (row : Row) : SingleSpaced row.groups :=
  (SingleSpaced.group row.first).append (SingleSpaced.tail row.rest)

theorem flagRegion_groups (row : Row) {behind : Text}
    (hb : behind = [] ∨ ∃ description, behind = ' ' :: ' ' :: description) :
    flagRegion (' ' :: (row.groups ++ behind)) = row.groups := by
  have hstart : trimStart (' ' :: (row.groups ++ behind)) = row.groups ++ behind := by
    obtain ⟨more, hm⟩ := Mention.exists_text_eq_cons row.first
    have hspace : ∀ c ∈ [' '], isBlank c = true := List.forall_mem_singleton.2 (by decide)
    rw [groups, hm]
    exact trimStart_of_blanks hspace (by decide)
  rcases hb with rfl | ⟨description, rfl⟩
  · rw [List.append_nil] at hstart
    rw [flagRegion_eq_trimStart (by rw [List.append_nil, hstart]; exact row.singleSpaced.not_infix),
      List.append_nil, hstart]
  · have hsplit : row.groups ++ ' ' :: ' ' :: description =
        row.groups ++ [' ', ' '] ++ description := by simp
    exact flagRegion_of_first (hstart.trans hsplit) row.singleSpaced.firstAfter

/-- The flags of a row are read, whatever the description says. -/
theorem flagsOf_groups {behind : Text} (he : ∀ flag ∈ row.flags, flag.EndsInLetter)
    (hb : behind = [] ∨ ∃ description, behind = ' ' :: ' ' :: description) :
    flagsOf (' ' :: (row.groups ++ behind)) = row.flags := by
  have hfirst : ∀ flag ∈ row.first.flags, flag.EndsInLetter :=
    fun flag hf => he flag (List.mem_append_left _ hf)
  have hrest : ∀ next ∈ row.rest, ∀ flag ∈ next.2.flags, flag.EndsInLetter :=
    fun next hn flag hf => he flag (List.mem_append_right _ (List.mem_flatMap.2 ⟨next, hn, hf⟩))
  rw [flagsOf, flagRegion_groups row hb, groups, Mention.tokens_row hfirst hrest]
  simp [flags, Mention.flags_text, List.flatMap_map]

end Row

end Help

end Synopsis
