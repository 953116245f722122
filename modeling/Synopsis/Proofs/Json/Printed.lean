import Mathlib.Tactic.SplitIfs
import Mathlib.Data.List.DropRight
import Mathlib.Data.List.Forall2
import Synopsis.Json.Printer
import Synopsis.Json.Reader

/-!
# Printed JSON is read back

A character is read as it was written, whatever follows it, and so is each value: a string up to
its closing quote, a container from one comma to the next and up to its bracket, with blanks or
without them. The recursion of the reader is bounded by the length of the text, and that is enough
since every value takes at least as many characters as steps.

- `readCharacter?_escaped`, `readString?_quoted`: characters and strings.
- `Container.readAs`: a container of items that are read back is read back.
- `read?_print`: every value without numbers is read back from its text, in every style.
-/

namespace Synopsis.Json

variable {style : Style} {fuel : Nat} {c : Char} {text rest : Text} {value : Json}

/-! ## Strings -/

theorem hexUnit?_append {n : Nat} (h : hexUnit? text = some (n, [])) (rest : Text) :
    hexUnit? (text ++ rest) = some (n, rest) := by
  unfold hexUnit? at h
  split at h
  · next a b c d more =>
    simp only [Option.bind_eq_bind, Option.bind_eq_some_iff, Option.some.injEq, Prod.mk.injEq] at h
    obtain ⟨_, ha, _, hb, _, hc, _, hd, rfl, rfl⟩ := h
    simp [hexUnit?, ha, hb, hc, hd]
  · cases h

/-- The digits of a control character are read as its number. -/
theorem hexUnit?_unicodeEscape : ∀ n < 0x20,
    hexUnit? ((unicodeEscape (.ofNat n)).drop 2) = some (n, []) := by
  decide

theorem readCharacter?_unicodeEscape (h : c.toNat < 0x20) (rest : Text) :
    readCharacter? (unicodeEscape c ++ rest) = some (c, rest) := by
  have hunit := hexUnit?_append (hexUnit?_unicodeEscape c.toNat h) rest
  rw [Char.ofNat_toNat] at hunit
  show unicodeCharacter? ((unicodeEscape c).drop 2 ++ rest) = _
  have hl : ¬ 0xD800 ≤ c.toNat := by omega
  have hh : ¬ 0xDC00 ≤ c.toNat := by omega
  rw [unicodeCharacter?, hunit]
  simp [hl, hh, Char.ofNat_toNat]

/-- A character is read as it was written, whatever follows it. -/
theorem readCharacter?_escaped (c : Char) (rest : Text) :
    readCharacter? (escaped c ++ rest) = some (c, rest) := by
  unfold escaped
  split_ifs with hquote hslash hb hf hn hr ht hcontrol
  · rw [hquote]; rfl
  · rw [hslash]; rfl
  · rw [hb]; rfl
  · rw [hf]; rfl
  · rw [hn]; rfl
  · rw [hr]; rfl
  · rw [ht]; rfl
  · exact readCharacter?_unicodeEscape hcontrol rest
  · rw [List.singleton_append, readCharacter?, if_neg (by simp [hslash, hcontrol])]
    · exact fun _ hc => absurd hc hslash
    · exact fun _ _ hc => absurd hc hslash

/-- What is written for a character is not the quote that closes a string. -/
theorem escaped_eq_cons (c : Char) : ∃ d others, escaped c = d :: others ∧ d ≠ '"' := by
  unfold escaped
  split_ifs with hquote
  all_goals first
    | exact ⟨'\\', _, rfl, by decide⟩
    | exact ⟨c, [], rfl, hquote⟩

theorem readString?_cons {d : Char} {string more : Text} (h : c ≠ '"')
    (hc : readCharacter? (c :: text) = some (d, more))
    (hs : readString? fuel more = some (string, rest)) :
    readString? (fuel + 1) (c :: text) = some (d :: string, rest) := by
  rw [readString?, hc]
  · show (readString? fuel more).bind _ = _
    rw [hs]
    rfl
  · exact fun _ he => h (List.cons.inj he).1

/-- A string is read up to its closing quote. -/
theorem readString?_substitute (h : text.length < fuel) (rest : Text) :
    readString? fuel (Text.substitute escaped text ++ '"' :: rest) = some (text, rest) := by
  induction text generalizing fuel with
  | nil =>
    obtain ⟨fuel, rfl⟩ := Nat.exists_eq_add_one.2 (Nat.zero_lt_of_lt h)
    rfl
  | cons c text ih =>
    obtain ⟨fuel, rfl⟩ := Nat.exists_eq_add_one.2 (Nat.zero_lt_of_lt h)
    obtain ⟨d, others, hd, hquote⟩ := escaped_eq_cons c
    have hread := readCharacter?_escaped c (Text.substitute escaped text ++ '"' :: rest)
    rw [hd, List.cons_append] at hread
    rw [Text.substitute, List.flatMap_cons, hd, List.append_assoc, List.cons_append]
    exact readString?_cons hquote hread (ih (Nat.lt_of_succ_lt_succ h))

theorem length_escaped_pos (c : Char) : 0 < (escaped c).length := by
  obtain ⟨d, others, hd, -⟩ := escaped_eq_cons c
  rw [hd]
  exact Nat.zero_lt_succ _

/-- A string between quotes is read after the first of them. -/
theorem readString?_quoted (text rest : Text) :
    let following := Text.substitute escaped text ++ '"' :: rest
    quoted text ++ rest = '"' :: following ∧
      readString? (following.length + 1) following = some (text, rest) := by
  intro following
  have hlength : following.length = (Text.substitute escaped text).length + (rest.length + 1) := by
    rw [List.length_append, List.length_cons]
  have hle := Text.length_le_length_substitute length_escaped_pos text
  refine ⟨?_, readString?_substitute (by omega) rest⟩
  show '"' :: (Text.substitute escaped text ++ ['"'] ++ rest) = _
  rw [List.append_assoc]
  rfl

/-! ## Blanks -/

theorem skipBlanks_append {blanks : Text} (hb : blanks.all isBlank = true) (text : Text) :
    skipBlanks (blanks ++ text) = skipBlanks text :=
  List.dropWhile_append_of_pos (List.all_eq_true.1 hb)

theorem skipBlanks_cons (h : isBlank c = false) (text : Text) :
    skipBlanks (c :: text) = c :: text :=
  List.dropWhile_cons_of_neg (by simp [h])

theorem all_isBlank_separator (style : Style) (depth : Nat) :
    (style.separator depth).all isBlank = true := by
  cases style with
  | compact => rfl
  | pretty => simp [Style.separator, isBlank]

theorem skipBlanks_skipBlanks (text : Text) : skipBlanks (skipBlanks text) = skipBlanks text :=
  List.dropWhile_idempotent isBlank text

theorem readValue?_skipBlanks (fuel : Nat) (text : Text) :
    readValue? fuel (skipBlanks text) = readValue? fuel text := by
  cases fuel with
  | zero => rfl
  | succ fuel => rw [readValue?, readValue?, skipBlanks_skipBlanks]

/-! ## Values -/

/-- The text is read as the value, whatever follows it. -/
structure ReadAs (text : Text) (value : Json) : Prop where
  first : ∃ c others, text = c :: others ∧ isBlank c = false ∧ c ≠ ']'
  read : ∀ {fuel}, text.length ≤ fuel → ∀ rest, readValue? fuel (text ++ rest) = some (value, rest)

theorem ReadAs.of_cons (hb : isBlank c = false) (hc : c ≠ ']')
    (h : ∀ fuel, text.length ≤ fuel → ∀ rest,
      readValue? (fuel + 1) (c :: (text ++ rest)) = some (value, rest)) :
    ReadAs (c :: text) value where
  first := ⟨c, text, rfl, hb, hc⟩
  read {fuel} hf rest := by
    obtain ⟨fuel, rfl⟩ := Nat.exists_eq_add_one.2 (Nat.zero_lt_of_lt hf)
    exact h fuel (Nat.le_of_succ_le_succ hf) rest

/-- Blanks before a value do not count. -/
theorem ReadAs.read_append (h : ReadAs text value) {blanks : Text} (hb : blanks.all isBlank = true)
    (hf : text.length ≤ fuel) (rest : Text) :
    readValue? fuel (blanks ++ (text ++ rest)) = some (value, rest) := by
  rw [← readValue?_skipBlanks, skipBlanks_append hb, readValue?_skipBlanks, h.read hf]

theorem readAs_null : ReadAs "null" null := .of_cons rfl (by decide) fun _ _ _ => rfl

theorem readAs_true : ReadAs "true" (bool true) := .of_cons rfl (by decide) fun _ _ _ => rfl

theorem readAs_false : ReadAs "false" (bool false) := .of_cons rfl (by decide) fun _ _ _ => rfl

theorem readAs_quoted (text : Text) : ReadAs (quoted text) (.string text) := by
  refine .of_cons rfl (by decide) fun fuel _ rest => ?_
  obtain ⟨hq, hr⟩ := readString?_quoted text rest
  show readValue? (fuel + 1) (quoted text ++ rest) = _
  rw [hq, readValue?, skipBlanks_cons rfl]
  show (readString? _ _).map _ = _
  rw [hr]
  rfl

/-! ## Containers -/

/-- The texts, each after the blanks, with commas between them. -/
def separated (blanks : Text) (texts : List Text) : Text :=
  [','].intercalate (texts.map (blanks ++ ·))

theorem separated_singleton (blanks text : Text) : separated blanks [text] = blanks ++ text := by
  rw [separated, List.map_singleton, List.intercalate_singleton]

theorem separated_cons_cons (blanks text next : Text) (texts : List Text) :
    separated blanks (text :: next :: texts) =
      blanks ++ (text ++ ',' :: separated blanks (next :: texts)) := by
  rw [separated, List.map_cons, List.map_cons, List.intercalate_cons_cons, ← List.map_cons,
    List.append_assoc, List.append_assoc]
  rfl

theorem separated_cons (blanks text : Text) (texts : List Text) :
    ∃ behind, separated blanks (text :: texts) = blanks ++ (text ++ behind) := by
  cases texts with
  | nil => exact ⟨[], by rw [separated_singleton, List.append_nil]⟩
  | cons next texts => exact ⟨_, separated_cons_cons blanks text next texts⟩

theorem bracketed_cons (style : Style) (depth : Nat) (opening closing : Char) (text : Text)
    (texts : List Text) : bracketed style depth opening closing (text :: texts) =
      opening :: (separated (style.separator (depth + 1)) (text :: texts) ++
        (style.separator depth ++ [closing])) := by
  rw [bracketed, if_neg (by simp), List.append_assoc]
  rfl

/-- How a container is read: its items by a reader of their own, of which each takes one item after
blanks, and what follows the item tells whether it is the last one. -/
structure Container {α : Type} (reader : Nat → Text → Option (List α × Text))
    (Item : Text → α → Prop) (opening closing : Char) (wrap : List α → Json) : Prop where
  opens : isBlank opening = false ∧ opening ≠ ']'
  closes : isBlank closing = false
  first : ∀ {text item}, Item text item →
    ∃ c others, text = c :: others ∧ isBlank c = false ∧ c ≠ closing
  last : ∀ {fuel text item blanks after rest}, Item text item → blanks.all isBlank = true →
    text.length ≤ fuel → skipBlanks after = closing :: rest →
    reader (fuel + 1) (blanks ++ (text ++ after)) = some ([item], rest)
  next : ∀ {fuel text item items blanks after more rest}, Item text item →
    blanks.all isBlank = true → text.length ≤ fuel → skipBlanks after = ',' :: more →
    reader fuel more = some (items, rest) →
    reader (fuel + 1) (blanks ++ (text ++ after)) = some (item :: items, rest)
  empty : ∀ fuel rest, readValue? (fuel + 1) (opening :: closing :: rest) = some (wrap [], rest)
  filled : ∀ {fuel text c others items rest}, skipBlanks text = c :: others → c ≠ closing →
    reader fuel text = some (items, rest) →
    readValue? (fuel + 1) (opening :: text) = some (wrap items, rest)

namespace Container

variable {α : Type} {reader : Nat → Text → Option (List α × Text)} {Item : Text → α → Prop}
  {opening closing : Char} {wrap : List α → Json} {texts : List Text} {items : List α}

/-- Items between commas are read up to what closes the container. -/
theorem read_separated (h : Container reader Item opening closing wrap) {blanks behind : Text}
    (hb : blanks.all isBlank = true) (hc : behind.all isBlank = true)
    (hi : List.Forall₂ Item texts items) (hne : texts ≠ [])
    (hf : (separated blanks texts).length < fuel) (rest : Text) :
    reader fuel (separated blanks texts ++ (behind ++ closing :: rest)) = some (items, rest) := by
  induction hi generalizing fuel with
  | nil => exact absurd rfl hne
  | @cons text item texts items hi his ih =>
    obtain ⟨fuel, rfl⟩ := Nat.exists_eq_add_one.2 (Nat.zero_lt_of_lt hf)
    cases texts with
    | nil =>
      cases his
      rw [separated_singleton, List.length_append] at hf
      rw [separated_singleton, List.append_assoc]
      refine h.last hi hb (by omega) ?_
      rw [skipBlanks_append hc, skipBlanks_cons h.closes]
    | cons next texts =>
      rw [separated_cons_cons, List.length_append, List.length_append, List.length_cons] at hf
      rw [separated_cons_cons, List.append_assoc, List.append_assoc, List.cons_append]
      exact h.next hi hb (by omega) (skipBlanks_cons rfl _) (ih (List.cons_ne_nil _ _) (by omega))

/-- A container of items that are read back is read back. -/
theorem readAs (h : Container reader Item opening closing wrap)
    (hi : List.Forall₂ Item texts items) (style : Style) (depth : Nat) :
    ReadAs (bracketed style depth opening closing texts) (wrap items) := by
  cases hi with
  | nil => exact .of_cons h.opens.1 h.opens.2 fun fuel _ rest => h.empty fuel rest
  | @cons text item texts items hi his =>
    have hb := all_isBlank_separator style (depth + 1)
    rw [bracketed_cons]
    refine .of_cons h.opens.1 h.opens.2 fun fuel hf rest => ?_
    rw [List.length_append, List.length_append, List.length_singleton] at hf
    have hitems := h.read_separated hb (all_isBlank_separator style depth) (.cons hi his)
      (List.cons_ne_nil _ _) (by omega : _ < fuel) rest
    rw [List.append_assoc, List.append_assoc, List.singleton_append]
    obtain ⟨c, others, rfl, hblank, hne⟩ := h.first hi
    obtain ⟨behind, hbehind⟩ :=
      separated_cons (style.separator (depth + 1)) (c :: others) texts
    have hskip : skipBlanks (separated (style.separator (depth + 1)) ((c :: others) :: texts) ++
        (style.separator depth ++ closing :: rest)) =
          c :: (others ++ behind ++ (style.separator depth ++ closing :: rest)) := by
      rw [hbehind, List.append_assoc, skipBlanks_append hb, List.cons_append, List.cons_append,
        skipBlanks_cons hblank]
    exact h.filled hskip hne hitems

end Container

/-! ## Arrays and objects -/

theorem readItems?_skipBlanks (fuel : Nat) (text : Text) :
    readItems? fuel (skipBlanks text) = readItems? fuel text := by
  cases fuel with
  | zero => rfl
  | succ fuel => rw [readItems?, readItems?, readValue?_skipBlanks]

theorem container_array : Container readItems? ReadAs '[' ']' array where
  opens := by decide
  closes := rfl
  first hi := hi.first
  last {fuel text item blanks after rest} hi hb hf ha := by
    rw [readItems?, hi.read_append hb hf]
    simp only [Option.bind_eq_bind, Option.bind_some, ha]
  next {fuel text item items blanks after more rest} hi hb hf ha hm := by
    rw [readItems?, hi.read_append hb hf]
    simp only [Option.bind_eq_bind, Option.bind_some, ha, hm]
  empty _ _ := rfl
  filled {fuel text c others items rest} hs hc hi := by
    rw [← readItems?_skipBlanks, hs] at hi
    rw [readValue?, skipBlanks_cons rfl]
    simp only [hs]
    split
    · next he => exact absurd (List.cons.inj he).1 hc
    · rw [hi]
      rfl

/-- The text of a member: its name, and a text that is read as its value. -/
def MemberReadAs (style : Style) (text : Text) (member : Text × Json) : Prop :=
  ∃ content, text = quoted member.1 ++ style.colon ++ content ∧ ReadAs content member.2

theorem readMembers?_skipBlanks (fuel : Nat) (text : Text) :
    readMembers? fuel (skipBlanks text) = readMembers? fuel text := by
  cases fuel with
  | zero => rfl
  | succ fuel => rw [readMembers?, readMembers?, skipBlanks_skipBlanks]

theorem colon_eq (style : Style) : ∃ blanks, style.colon = ':' :: blanks ∧
    blanks.all isBlank = true := by
  cases style with
  | compact => exact ⟨[], rfl, rfl⟩
  | pretty => exact ⟨[' '], rfl, rfl⟩

/-- A member is read in four steps: the quote of its name, the name, the colon and the value. -/
theorem MemberReadAs.read {member : Text × Json} (h : MemberReadAs style text member)
    {blanks : Text} (hb : blanks.all isBlank = true) (hf : text.length ≤ fuel) (after : Text) :
    ∃ named behind following, skipBlanks (blanks ++ (text ++ after)) = '"' :: named ∧
      readString? (named.length + 1) named = some (member.1, behind) ∧
      skipBlanks behind = ':' :: following ∧
      readValue? fuel following = some (member.2, after) := by
  obtain ⟨content, rfl, hv⟩ := h
  obtain ⟨spaces, hcolon, hspaces⟩ := colon_eq style
  obtain ⟨hq, hr⟩ := readString?_quoted member.1 (':' :: (spaces ++ (content ++ after)))
  refine ⟨_, _, spaces ++ (content ++ after), ?_, hr, skipBlanks_cons rfl _, ?_⟩
  · rw [skipBlanks_append hb, hcolon, List.append_assoc, List.append_assoc, List.cons_append, hq,
      skipBlanks_cons rfl]
  · rw [List.length_append] at hf
    exact hv.read_append hspaces (by omega) after

theorem container_object (style : Style) :
    Container readMembers? (MemberReadAs style) '\x7b' '\x7d' object where
  opens := by decide
  closes := rfl
  first := by
    rintro _ member ⟨content, rfl, -⟩
    exact ⟨'"', _, rfl, rfl, by decide⟩
  last {fuel text member blanks after rest} hm hb hf ha := by
    obtain ⟨named, behind, following, hn, hs, hc, hv⟩ := hm.read hb hf after
    rw [readMembers?, hn]
    simp only [hs, hc, hv, ha, Option.bind_eq_bind, Option.bind_some]
  next {fuel text member members blanks after more rest} hm hb hf ha hr := by
    obtain ⟨named, behind, following, hn, hs, hc, hv⟩ := hm.read hb hf after
    rw [readMembers?, hn]
    simp only [hs, hc, hv, ha, hr, Option.bind_eq_bind, Option.bind_some]
  empty _ _ := rfl
  filled {fuel text c others members rest} hs hc hm := by
    rw [← readMembers?_skipBlanks, hs] at hm
    rw [readValue?, skipBlanks_cons rfl]
    simp only [hs]
    split
    · next he => exact absurd (List.cons.inj he).1 hc
    · rw [hm]
      rfl

/-! ## Printed values -/

/-- The value holds no number. -/
inductive Numberless : Json → Prop
  | null : Numberless null
  | bool (value : Bool) : Numberless (bool value)
  | string (text : Text) : Numberless (string text)
  | array {items : List Json} : (∀ item ∈ items, Numberless item) → Numberless (array items)
  | object {members : List (Text × Json)} : (∀ member ∈ members, Numberless member.2) →
      Numberless (object members)

theorem printItems_eq (style : Style) (depth : Nat) (items : List Json) :
    printItems style depth items = items.map (printAt style depth) := by
  induction items with
  | nil => rfl
  | cons item items ih => rw [printItems, ih, List.map_cons]

theorem printMembers_eq (style : Style) (depth : Nat) (members : List (Text × Json)) :
    printMembers style depth members = members.map fun member =>
      quoted member.1 ++ style.colon ++ printAt style depth member.2 := by
  induction members with
  | nil => rfl
  | cons member members ih => rw [printMembers, ih, List.map_cons]

theorem readAs_printAt (h : Numberless value) (style : Style) (depth : Nat) :
    ReadAs (printAt style depth value) value := by
  induction h generalizing depth with
  | null => exact readAs_null
  | bool value => cases value with
    | true => exact readAs_true
    | false => exact readAs_false
  | string text => exact readAs_quoted text
  | array _ ih =>
    rw [printAt, printItems_eq]
    refine container_array.readAs ?_ style depth
    rw [List.forall₂_map_left_iff, List.forall₂_same]
    exact fun item hi => ih item hi (depth + 1)
  | object _ ih =>
    rw [printAt, printMembers_eq]
    refine (container_object style).readAs ?_ style depth
    rw [List.forall₂_map_left_iff, List.forall₂_same]
    exact fun member hm => ⟨_, rfl, ih member hm (depth + 1)⟩

/-- A value without numbers is read back from its text, in every style. -/
theorem read?_print (h : Numberless value) (style : Style) :
    read? (value.print style) = some value := by
  have hle : (value.print style).length ≤ 2 * (value.print style).length + 2 := by omega
  have hread : readValue? (2 * (value.print style).length + 2) (value.print style ++ []) =
      some (value, []) := (readAs_printAt h style 0).read hle []
  rw [List.append_nil] at hread
  simp only [read?, hread]
  rfl

end Synopsis.Json
