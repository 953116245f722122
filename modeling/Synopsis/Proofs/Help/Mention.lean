import Mathlib.Data.List.Basic
import Mathlib.Data.List.TakeWhile
import Synopsis.Proofs.Help.Group

/-!
# Where mentions stand

A mention ends at a word boundary. A hyphen is no word character, so a boundary does not make a
mention a whole word: a long name can end in a hyphen with a word character right behind it, and a
short or a long name can end in front of a hyphen. These are the only ways in which a mention is cut
out of a longer word.

- `endsLong_of_longTail?`: how the longest long name ends.
- `shape_of_token?`: what is read as one mention, and how the text goes on behind it.
- `exists_site_of_mem_tokens`: in front of a mention stands an opener or nothing.
- `flagsOf_sites`: where the flags of a body stand in its region.
- `flagsOf_cut`: a flag that is the start of a longer word.
-/

namespace Synopsis.Help

open Text

namespace Mention

variable {text token name rest : Text} {last c : Char}

/-! ## How a mention ends -/

/-- A word ends here: the text does not go on with a word character or a hyphen. -/
def EndsWord (rest : Text) : Prop := ∀ c ∈ rest.head?, isWord c = false ∧ c ≠ '-'

/-- How a text goes on behind a long name with this last character. -/
inductive EndsLong : Char → Text → Prop
  /-- The name is a whole word. -/
  | whole {last : Char} {rest : Text} : isWord last = true → EndsWord rest → EndsLong last rest
  /-- The last hyphen of the name is followed by a word character. -/
  | hyphen {c : Char} (rest : Text) : isWord c = true → EndsLong '-' (c :: rest)
  /-- The hyphens at the end of the word are left behind. -/
  | hyphens {last : Char} (n : Nat) {rest : Text} :
      isWord last = true → EndsWord rest → EndsLong last (List.replicate (n + 1) '-' ++ rest)

theorem isWord_hyphen : isWord '-' = false := by decide +kernel

theorem isWord_of_isLower (h : c.isLower = true) : isWord c = true :=
  isWord_of_isAlphanum (isAlphanum_of_isLower h)

/-- A character of a long name is a word character or a hyphen. -/
theorem isLongChar_cases (h : FlagKind.isLongChar c = true) : isWord c = true ∨ c = '-' := by
  rw [FlagKind.isLongChar, Bool.or_eq_true, beq_iff_eq] at h
  exact h.imp_left isWord_of_isLower

theorem isBoundary_some {before after : Char} :
    isBoundary before (some after) = true ↔ isWord after = !isWord before := by
  cases hb : isWord before <;> cases ha : isWord after <;> simp [isBoundary, hb, ha]

theorem longTail?_nil_eq_some :
    longTail? last [] = some (name, rest) ↔ isWord last = true ∧ name = [] ∧ rest = [] := by
  cases hl : isWord last <;> simp [longTail?, isBoundary, hl, eq_comm]

/-- A name goes on with a character of a long name, or ends at a boundary where no longer one
ends. -/
theorem longTail?_cons_cases (h : longTail? last (c :: text) = some (name, rest)) :
    (FlagKind.isLongChar c = true ∧
        ∃ more, longTail? c text = some (more, rest) ∧ name = c :: more) ∨
      ((FlagKind.isLongChar c = true → longTail? c text = none) ∧
        isWord c = (!isWord last) ∧ name = [] ∧ rest = c :: text) := by
  have stop : (if isBoundary last (some c) = true then some (([] : Text), c :: text) else none) =
      some (name, rest) → isWord c = (!isWord last) ∧ name = [] ∧ rest = c :: text := by
    intro hs
    rw [Option.ite_none_right_eq_some, Option.some.injEq, Prod.mk.injEq, isBoundary_some] at hs
    exact ⟨hs.1, hs.2.1.symm, hs.2.2.symm⟩
  simp only [longTail?] at h
  split at h
  · next hc =>
    split at h
    · next more after hm =>
      rw [Option.some.injEq, Prod.mk.injEq] at h
      obtain ⟨rfl, rfl⟩ := h
      exact Or.inl ⟨hc, more, hm, rfl⟩
    · next hm => exact Or.inr ⟨fun _ => hm, stop h⟩
  · next hc => exact Or.inr ⟨fun hl => absurd hl hc, stop h⟩

theorem longTail?_cons_eq_none : longTail? last (c :: text) = none ↔
    (FlagKind.isLongChar c = true → longTail? c text = none) ∧ isWord c = isWord last := by
  have hb : isWord c = isWord last ↔ ¬ isBoundary last (some c) = true := by
    rw [isBoundary_some]
    cases isWord c <;> cases isWord last <;> simp
  rw [longTail?, hb]
  cases hc : FlagKind.isLongChar c with
  | false => simp
  | true => cases ht : longTail? c text <;> simp

/-- No name ends behind a hyphen if only hyphens are left of the word. -/
theorem hyphens_of_longTail?_eq_none (h : longTail? '-' text = none) :
    ∃ n rest, text = List.replicate n '-' ++ rest ∧ EndsWord rest := by
  induction text with
  | nil => exact ⟨0, [], rfl, by simp [EndsWord]⟩
  | cons c text ih =>
    obtain ⟨hlong, hword⟩ := longTail?_cons_eq_none.1 h
    rw [isWord_hyphen] at hword
    by_cases hc : c = '-'
    · subst hc
      obtain ⟨n, rest, rfl, hr⟩ := ih (hlong rfl)
      exact ⟨n + 1, rest, rfl, hr⟩
    · exact ⟨0, c :: text, rfl, by simp [EndsWord, hword, hc]⟩

/-- A long name is as long as it can be while it ends at a word boundary. -/
theorem endsLong_of_longTail? (hl : FlagKind.isLongChar last = true)
    (h : longTail? last text = some (name, rest)) :
    name.all FlagKind.isLongChar = true ∧ EndsLong (name.getLastD last) rest := by
  induction text generalizing last name with
  | nil =>
    obtain ⟨hw, rfl, rfl⟩ := longTail?_nil_eq_some.1 h
    exact ⟨rfl, .whole hw (by simp [EndsWord])⟩
  | cons c text ih =>
    rcases longTail?_cons_cases h with ⟨hc, more, hm, rfl⟩ | ⟨hlong, hword, rfl, rfl⟩
    · obtain ⟨hall, hends⟩ := ih hc hm
      rw [List.all_cons, hc, List.getLastD_cons]
      exact ⟨hall, hends⟩
    · refine ⟨rfl, ?_⟩
      rcases isLongChar_cases hl with hw | rfl
      · rw [hw, Bool.not_true] at hword
        by_cases hc : c = '-'
        · subst hc
          obtain ⟨n, rest, rfl, hr⟩ := hyphens_of_longTail?_eq_none (hlong rfl)
          exact .hyphens n hw hr
        · exact .whole hw (by simp [EndsWord, hword, hc])
      · rw [isWord_hyphen, Bool.not_false] at hword
        exact .hyphen text hword

/-! ## The shape of a mention -/

/-- What is read as one mention: the flags, how they are written, and how the text goes on. -/
inductive Shape : List Flag → Text → Text → Prop
  | short {flag : Flag} {rest : Text} (isShort : flag.kind = .short)
      (ends : ∀ c ∈ rest.head?, isWord c = false) : Shape [flag] flag.literal rest
  | long {flag : Flag} {rest : Text} (isLong : flag.kind = .long)
      (ends : EndsLong (flag.name.getLastD '-') rest) : Shape [flag] flag.literal rest
  /-- A comma stands between the two flags, and blanks around it. -/
  | pair {short long : Flag} {left right rest : Text} (isShort : short.kind = .short)
      (isLong : long.kind = .long) (blankLeft : ∀ c ∈ left, isBlank c = true)
      (blankRight : ∀ c ∈ right, isBlank c = true)
      (ends : EndsLong (long.name.getLastD '-') rest) :
      Shape [short, long] (short.literal ++ left ++ ',' :: (right ++ long.literal)) rest

theorem flag_of_dashed? (h : dashed? text = some (token, rest)) :
    ∃ flag : Flag, flag.kind = .short ∧ token = flag.literal := by
  unfold dashed? at h
  split at h
  · next c text =>
    rw [Option.ite_none_right_eq_some, Option.some.injEq, Prod.mk.injEq] at h
    obtain ⟨hc, rfl, -⟩ := h
    exact ⟨⟨.short, [c], hc⟩, rfl, rfl⟩
  · cases h

theorem flag_of_long? (h : long? text = some (token, rest)) :
    ∃ flag : Flag, flag.kind = .long ∧ token = flag.literal ∧
      EndsLong (flag.name.getLastD '-') rest := by
  unfold long? at h
  split at h
  · next c text =>
    rw [Option.ite_none_right_eq_some, Option.map_eq_some_iff] at h
    obtain ⟨hc, ⟨name, after⟩, hname, heq⟩ := h
    obtain ⟨rfl, rfl⟩ := Prod.mk.inj heq
    have hlong : FlagKind.isLongChar c = true := by simp [FlagKind.isLongChar, hc]
    obtain ⟨hall, hends⟩ := endsLong_of_longTail? hlong hname
    have hadmits : FlagKind.long.admits (c :: name) = true := by
      rw [FlagKind.admits, hc, hall]
      rfl
    refine ⟨⟨.long, c :: name, hadmits⟩, rfl, rfl, ?_⟩
    rwa [List.getLastD_cons]
  · cases h

theorem shape_of_short? (h : short? text = some (token, rest)) :
    ∃ flags, Shape flags token rest := by
  unfold short? at h
  split at h
  · next token' rest' hd =>
    rw [Option.ite_none_right_eq_some, Option.some.injEq, Prod.mk.injEq] at h
    obtain ⟨hb, rfl, rfl⟩ := h
    obtain ⟨flag, hk, rfl⟩ := flag_of_dashed? hd
    obtain ⟨c, hl, hc⟩ := literal_of_short hk
    refine ⟨[flag], .short hk fun d hd => ?_⟩
    have hw : isWord c = true := isWord_of_isAlphanum hc
    rw [Option.mem_def] at hd
    simpa [hl, hd, isBoundary, hw] using hb
  · cases h

theorem shape_of_pair? (h : pair? text = some (token, rest)) :
    ∃ flags, Shape flags token rest := by
  unfold pair? at h
  split at h
  · cases h
  · next first after hd =>
    obtain ⟨short, hs, rfl⟩ := flag_of_dashed? hd
    split at h
    · next left after' hb =>
      rw [Option.map_eq_some_iff] at h
      obtain ⟨⟨second, behind⟩, hl, heq⟩ := h
      obtain ⟨rfl, rfl⟩ := Prod.mk.inj heq
      obtain ⟨long, hk, rfl, hends⟩ := flag_of_long? hl
      have hleft : ∀ c ∈ left, isBlank c = true := by
        rw [← (Prod.mk.inj hb).1]
        exact fun c hc => List.mem_takeWhile_imp hc
      have hright : ∀ c ∈ (blanks after').1, isBlank c = true :=
        fun c hc => List.mem_takeWhile_imp hc
      have hpair := Shape.pair hs hk hleft hright hends
      exact ⟨_, by simpa using hpair⟩
    · cases h

/-- A mention is a short flag, a long flag, or a short and a long one. -/
theorem shape_of_token? (h : token? text = some (token, rest)) :
    ∃ flags, Shape flags token rest := by
  rw [token?, Option.or_eq_some_iff, Option.or_eq_some_iff] at h
  rcases h with h | ⟨-, h | ⟨-, h⟩⟩
  · exact shape_of_pair? h
  · obtain ⟨flag, hk, rfl, hends⟩ := flag_of_long? h
    exact ⟨[flag], .long hk hends⟩
  · exact shape_of_short? h

/-- Every flag that is written in a mention is read, in order. -/
theorem flags_of_shape {list : List Flag} (h : Shape list token rest) : flags token = list := by
  cases h with
  | short _ _ => exact flags_literal _
  | long _ _ => exact flags_literal _
  | pair _ _ hl hr _ => exact flags_pair hl hr _ _

/-! ## Where mentions stand -/

/-- A mention may start behind this text: it is empty, or ends in an opener. -/
def Opens (front : Text) : Prop := ∀ c ∈ front.getLast?, isOpener c = true

/-- The text is the mention with a text before it, at the end of which a mention may start, and a
text behind it, with which the mention may end. -/
structure Site (atStart : Bool) (text front token rest : Text) : Prop where
  split : text = front ++ token ++ rest
  start : front = [] → atStart = true
  opens : Opens front
  shape : ∃ list, Shape list token rest

theorem site_of_here? {atStart : Bool} (h : here? atStart c text = some (token, rest)) :
    ∃ front, Site atStart (c :: text) front token rest := by
  rw [here?, Option.or_eq_some_iff, Option.ite_none_right_eq_some] at h
  rcases h with ⟨hstart, h⟩ | ⟨-, h⟩
  · have ht := (eq_append_of_token? h).1
    exact ⟨[], ht, fun _ => hstart, by simp [Opens], shape_of_token? h⟩
  · rw [Option.ite_none_right_eq_some] at h
    obtain ⟨hc, h⟩ := h
    have ht := (eq_append_of_token? h).1
    exact ⟨[c], by rw [ht]; rfl, by simp, by simpa [Opens] using hc, shape_of_token? h⟩

/-- A mention further on in the text is one of the whole text. -/
theorem Site.append {front : Text} (h : Site false text front token rest) (atStart : Bool)
    (before : Text) : Site atStart (before ++ text) (before ++ front) token rest := by
  have hne : front ≠ [] := fun hf => Bool.false_ne_true (h.start hf)
  refine ⟨by rw [h.split]; simp, fun hf => absurd (List.append_eq_nil_iff.1 hf).2 hne, ?_, h.shape⟩
  rw [Opens, List.getLast?_append_of_ne_nil _ hne]
  exact h.opens

theorem exists_site_of_mem_tokens {atStart : Bool} (h : token ∈ tokens atStart text) :
    ∃ front rest, Site atStart text front token rest := by
  induction atStart, text using tokens.induct with
  | case1 atStart => simp [tokens] at h
  | case2 atStart c text first behind hhere ih =>
    rw [tokens_of_here? hhere, List.mem_cons] at h
    obtain ⟨front, hfirst⟩ := site_of_here? hhere
    rcases h with rfl | h
    · exact ⟨front, behind, hfirst⟩
    · obtain ⟨later, rest, hlater⟩ := ih h
      rw [hfirst.split]
      exact ⟨_, rest, hlater.append atStart (front ++ first)⟩
  | case3 atStart c text hhere ih =>
    rw [tokens_of_here?_eq_none hhere] at h
    obtain ⟨front, rest, hlater⟩ := ih h
    exact ⟨c :: front, rest, hlater.append atStart [c]⟩

end Mention

open Mention

variable {flag : Flag} {after front rest : Text} {c : Char}

/-! ## Where the flags of a body stand -/

/-- The flag is the start of a longer word that goes on with this text. -/
inductive Cut : Flag → Text → Prop
  /-- The last hyphen of a long flag is followed by a word character. -/
  | hyphen {flag : Flag} {c : Char} (rest : Text) : flag.kind = .long →
      flag.name.getLast? = some '-' → isWord c = true → Cut flag (c :: rest)
  /-- The hyphens at the end of a long word are left behind. -/
  | hyphens {flag : Flag} (n : Nat) {rest : Text} : flag.kind = .long → EndsWord rest →
      Cut flag (List.replicate (n + 1) '-' ++ rest)
  /-- A short flag is followed by a hyphen. -/
  | short {flag : Flag} (rest : Text) : flag.kind = .short → Cut flag ('-' :: rest)

/-- A short flag, a comma and blanks that end this text: a long flag that follows makes a pair. -/
def Joins (before : Text) : Prop :=
  ∃ (front : Text) (short : Flag) (left right : Text),
    before = front ++ (short.literal ++ left ++ ',' :: right) ∧ Opens front ∧
      short.kind = .short ∧ (∀ c ∈ left, isBlank c = true) ∧ ∀ c ∈ right, isBlank c = true

theorem Cut.not_endsWord (h : Cut flag after) : ¬ EndsWord after := by
  intro he
  cases h with
  | hyphen rest _ _ hc =>
    have hn := (he _ rfl).1
    rw [hc] at hn
    cases hn
  | hyphens n _ _ => exact (he '-' rfl).2 rfl
  | short rest _ => exact (he '-' rfl).2 rfl

theorem isWord_of_isBlank (h : isBlank c = true) : isWord c = false := by
  have table : ∀ n ∈ [9, 10, 11, 12, 13, 0x20, 0x85, 0xA0, 0x1680, 0x2000, 0x2001, 0x2002, 0x2003,
      0x2004, 0x2005, 0x2006, 0x2007, 0x2008, 0x2009, 0x200A, 0x2028, 0x2029, 0x202F, 0x205F,
      0x3000], isWord (Char.ofNat n) = false := by decide +kernel
  rw [← Char.ofNat_toNat c]
  refine table _ ?_
  simp only [isBlank, Bool.or_eq_true, Bool.and_eq_true, decide_eq_true_eq, beq_iff_eq] at h
  simp only [List.mem_cons, List.not_mem_nil, or_false]
  omega

/-- Blanks and a comma end a word. -/
theorem endsWord_blanks {left : Text} (hl : ∀ c ∈ left, isBlank c = true) (rest : Text) :
    EndsWord (left ++ ',' :: rest) := by
  cases left with
  | nil =>
    have hcomma : isWord ',' = false := by decide +kernel
    simp [EndsWord, hcomma]
  | cons c left =>
    have hc := hl c List.mem_cons_self
    have hne : c ≠ '-' := by
      rintro rfl
      revert hc
      decide
    simp [EndsWord, isWord_of_isBlank hc, hne]

theorem endsWord_or_cut_of_long (hk : flag.kind = .long)
    (h : EndsLong (flag.name.getLastD '-') rest) : EndsWord rest ∨ Cut flag rest := by
  obtain ⟨kind, name, hn⟩ := flag
  obtain rfl : kind = .long := hk
  cases name with
  | nil => cases hn
  | cons d name =>
    generalize hl : (d :: name).getLastD '-' = last at h
    cases h with
    | whole _ he => exact Or.inl he
    | hyphen rest hc =>
      refine Or.inr (.hyphen rest rfl ?_ hc)
      rw [List.getLastD_eq_getLast?, List.getLast?_cons, Option.getD_some] at hl
      rw [List.getLast?_cons, hl]
    | hyphens n _ he => exact Or.inr (.hyphens n rfl he)

theorem endsWord_or_cut_of_short (hk : flag.kind = .short)
    (h : ∀ c ∈ rest.head?, isWord c = false) : EndsWord rest ∨ Cut flag rest := by
  cases rest with
  | nil => exact Or.inl (by simp [EndsWord])
  | cons c rest =>
    by_cases hc : c = '-'
    · subst hc
      exact Or.inr (.short rest hk)
    · exact Or.inl (by simpa [EndsWord, hc] using h)

/-- Every flag of a body stands in its region, at the start or behind an opener, or as the second
half of a pair. It is a whole word there, unless it is cut out of a longer word with hyphens. -/
theorem flagsOf_sites (body : Text) (flag : Flag) (h : flag ∈ flagsOf body) :
    ∃ before after, flagRegion body = before ++ flag.literal ++ after ∧
      (Opens before ∨ flag.kind = .long ∧ Joins before) ∧ (EndsWord after ↔ ¬ Cut flag after) := by
  have exact {after : Text} (h : EndsWord after ∨ Cut flag after) :
      EndsWord after ↔ ¬ Cut flag after :=
    ⟨fun he hc => hc.not_endsWord he, fun hn => h.resolve_right hn⟩
  obtain ⟨token, ht, hm⟩ := List.mem_flatMap.1 h
  obtain ⟨front, rest, hsite⟩ := exists_site_of_mem_tokens ht
  obtain ⟨list, hshape⟩ := hsite.shape
  rw [flags_of_shape hshape] at hm
  have hsplit := hsite.split
  cases hshape with
  | short hk he =>
    obtain rfl := List.mem_singleton.1 hm
    exact ⟨front, rest, hsplit, Or.inl hsite.opens, exact (endsWord_or_cut_of_short hk he)⟩
  | long hk he =>
    obtain rfl := List.mem_singleton.1 hm
    exact ⟨front, rest, hsplit, Or.inl hsite.opens, exact (endsWord_or_cut_of_long hk he)⟩
  | @pair short long left right _ hs hk hl hr he =>
    rcases List.mem_pair.1 hm with rfl | rfl
    · exact ⟨front, left ++ ',' :: (right ++ long.literal ++ rest), by rw [hsplit]; simp,
        Or.inl hsite.opens, exact (Or.inl (endsWord_blanks hl _))⟩
    · refine ⟨front ++ (short.literal ++ left ++ ',' :: right), rest, by rw [hsplit]; simp, ?_,
        exact (endsWord_or_cut_of_long hk he)⟩
      exact Or.inr ⟨hk, front, short, left, right, rfl, hsite.opens, hs, hl, hr⟩

/-- The second half of a pair leaves the hyphen behind that its word ends in. -/
theorem flagsOf_sites_shown :
    let body : Text := " [-q|-v] -f , --dry-run- "
    let flag : Flag := ⟨.long, "dry-run", rfl⟩
    flag ∈ flagsOf body ∧ ∃ before after, flagRegion body = before ++ flag.literal ++ after ∧
      (Opens before ∨ flag.kind = .long ∧ Joins before) ∧ (EndsWord after ↔ ¬ Cut flag after) := by
  intro body flag
  have hm : flag ∈ flagsOf body := by decide +kernel
  exact ⟨hm, flagsOf_sites body flag hm⟩

/-- A boundary between a hyphen and a digit ends a mention in the middle of a word. -/
theorem flagsOf_cut :
    let body : Text := " --utf-8"
    let flag : Flag := ⟨.long, "utf-", rfl⟩
    flag ∈ flagsOf body ∧
      ¬ ∃ before after, flagRegion body = before ++ flag.literal ++ after ∧ EndsWord after := by
  intro body flag
  refine ⟨by decide +kernel, fun h => ?_⟩
  obtain ⟨before, after, hsplit, he⟩ := h
  have hregion : flagRegion body = "--utf-8".toList := by decide +kernel
  rw [hregion] at hsplit
  cases before with
  | nil =>
    obtain rfl : ['8'] = after := by simpa [flag, Flag.literal, FlagKind.dashes] using hsplit
    have hword : isWord '8' = true := by decide +kernel
    have hn := (he '8' rfl).1
    rw [hword] at hn
    cases hn
  | cons c before =>
    have hlen := congrArg List.length hsplit
    simp only [flag, Flag.literal, FlagKind.dashes, List.length_append, List.length_cons] at hlen
    have hnil : before = [] ∧ after = [] := by
      rw [← List.length_eq_zero_iff, ← List.length_eq_zero_iff]
      change 7 = before.length + 1 + (2 + 4) + after.length at hlen
      omega
    obtain ⟨rfl, rfl⟩ := hnil
    simp [flag, Flag.literal, FlagKind.dashes] at hsplit

end Synopsis.Help
