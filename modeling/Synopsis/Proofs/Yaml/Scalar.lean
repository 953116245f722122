import Mathlib.Tactic.SplitIfs
import Synopsis.Proofs.Except
import Synopsis.Proofs.Yaml.Cursor
import Synopsis.Yaml.Printer
import Synopsis.Yaml.Scalar

/-!
# Printed scalars are read back

A text is runs of other characters with spaces between them, and both readers take one run and the
spaces behind it at a time. A plain scalar ends at the colon behind a key or at a line that is
indented less, a quoted one at its closing quote.

- `readPlain_append`: plain scalars.
- `readQuoted_append`: quoted scalars.
-/

namespace Synopsis.Yaml

open Cursor (Placed)
open Text (substitute_cons)

variable {cursor : Cursor} {text run rest after : Text} {gap : Gap} {indent : Int} {fuel k n : Nat}
  {c : Char}

/-! ## Runs -/

/-- A text as runs without spaces and the spaces between them. -/
inductive Runs : Text → Prop
  | last {run : Text} (h : ' ' ∉ run) : Runs run
  | spaced {run text : Text} {n : Nat} (h : ' ' ∉ run) (hs : text.head? ≠ some ' ') :
      Runs text → Runs (run ++ (List.replicate (n + 1) ' ' ++ text))

theorem head?_ne_space (h : ' ' ∉ run) (hn : run ≠ []) (text : Text) :
    (run ++ text).head? ≠ some ' ' := by
  obtain ⟨c, run, rfl⟩ := List.exists_cons_of_ne_nil hn
  intro hc
  exact h (Option.some.inj hc ▸ List.mem_cons_self)

theorem Runs.of_space (h : text.head? ≠ some ' ') (hr : Runs text) : Runs (' ' :: text) :=
  @Runs.spaced [] text 0 List.not_mem_nil h hr

theorem runs (text : Text) : Runs text := by
  induction text with
  | nil => exact .last List.not_mem_nil
  | cons c text ih =>
    by_cases hc : c = ' '
    · subst hc
      by_cases hh : text.head? = some ' '
      · cases ih with
        | last h =>
          have hn : text ≠ [] := by
            rintro rfl
            cases hh
          exact absurd hh (List.append_nil text ▸ head?_ne_space h hn [])
        | @spaced run text n h hs hr =>
          have hrun : run = [] := by
            by_contra hn
            exact head?_ne_space h hn _ hh
          subst hrun
          exact @Runs.spaced [] text (n + 1) List.not_mem_nil hs hr
      · exact .of_space hh ih
    · have hmem {run : Text} (h : ' ' ∉ run) : ' ' ∉ c :: run :=
        List.not_mem_cons_of_ne_of_not_mem (Ne.symm hc) h
      cases ih with
      | last h => exact .last (hmem h)
      | spaced h hs hr => exact .spaced (hmem h) hs hr

/-! ## Gaps -/

/-- Neither a space nor a line break comes next. -/
def Clean (rest : Text) : Prop :=
  isSpace (rest.headD endMark) = false ∧ isBreak (rest.headD endMark) = false

theorem Clean.isSpace_head (h : Clean rest) (hr : cursor.rest = rest) :
    isSpace cursor.head = false := by
  rw [Cursor.head_eq hr]
  exact h.1

theorem Clean.isBreak_head (h : Clean rest) (hr : cursor.rest = rest) :
    isBreak cursor.head = false := by
  rw [Cursor.head_eq hr]
  exact h.2

/-- The gap with some more spaces. -/
def Gap.addSpaces (n : Nat) : Gap → Gap
  | .spaces text => .spaces (text ++ List.replicate n ' ')
  | gap => gap

theorem Gap.addSpaces_zero (gap : Gap) : gap.addSpaces 0 = gap := by
  cases gap with
  | spaces text => exact congrArg Gap.spaces (List.append_nil text)
  | breaks escaped more => rfl

theorem Gap.addSpaces_addSpace (gap : Gap) (n : Nat) :
    (gap.addSpace ' ').addSpaces n = gap.addSpaces (n + 1) := by
  cases gap with
  | spaces text => exact congrArg Gap.spaces (List.append_assoc text [' '] _)
  | breaks escaped more => rfl

theorem readGap_clean (hc : Clean rest) (hr : cursor.rest = rest) :
    readGap indent fuel cursor gap = .ok (gap, cursor) := by
  cases fuel with
  | zero => rfl
  | succ fuel =>
    rw [readGap, if_neg (by simp [hc.isSpace_head hr]), if_neg (by simp [hc.isBreak_head hr])]

theorem readGap_spaces_of_le (hc : Clean rest) (hr : cursor.rest = List.replicate n ' ' ++ rest)
    (hf : n ≤ fuel) : readGap indent fuel cursor gap =
      .ok (gap.addSpaces n, cursor.along (List.replicate n ' ') rest) := by
  induction n generalizing cursor gap fuel with
  | zero =>
    have hr : cursor.rest = rest := hr
    rw [readGap_clean hc hr, gap.addSpaces_zero, List.replicate_zero, Cursor.along_nil hr]
  | succ n ih =>
    obtain ⟨fuel, rfl⟩ := Nat.exists_eq_add_one.2 (Nat.zero_lt_of_lt hf)
    rw [List.replicate_succ, List.cons_append] at hr
    rw [readGap, Cursor.head_of_rest hr, if_pos (by decide), if_neg (by simp),
      Cursor.next_of_rest (by decide) hr, ih rfl (Nat.le_of_succ_le_succ hf),
      Gap.addSpaces_addSpace, Cursor.along_along]
    rfl

/-- A gap takes all the spaces. -/
theorem readGap_spaces (hc : Clean rest) (hr : cursor.rest = List.replicate n ' ' ++ rest)
    (hp : cursor.Placed) : readGap indent (cursor.left + 1) cursor gap =
      .ok (gap.addSpaces n, cursor.along (List.replicate n ' ') rest) := by
  refine readGap_spaces_of_le hc hr ?_
  rw [hp.left_eq, hr, List.length_append, List.length_replicate]
  omega

/-- A gap takes a line break and the indentation of the next line. -/
theorem readGap_newLine (hc : Clean rest)
    (hr : cursor.rest = '\n' :: (List.replicate k ' ' ++ rest)) (hp : cursor.Placed) :
    readGap indent (cursor.left + 1) cursor (.spaces text) =
      .ok (.breaks false 0, cursor.below k rest) := by
  have hk : k ≤ cursor.left := by
    rw [hp.left_eq, hr, List.length_cons, List.length_append, List.length_replicate]
    omega
  rw [readGap, Cursor.head_of_rest hr, if_neg (by decide), if_pos (by decide),
    Cursor.skipBreak_of_rest hr, readGap_spaces_of_le hc rfl hk]
  simp only [Gap.addBreak, Gap.addSpaces, Cursor.along, Cursor.below, List.length_replicate,
    Nat.zero_add, Nat.add_assoc, Nat.add_comm k 1]

/-! ## Plain scalars -/

/-- A character that a plain scalar may have anywhere. -/
def isWordChar (c : Char) : Bool := !isGap c && c != ':' && c != '#'

theorem isGap_of_isWordChar (h : isWordChar c = true) : isGap c = false := by
  simp only [isWordChar, Bool.and_eq_true, Bool.not_eq_true'] at h
  exact h.1.1

theorem ne_of_isWordChar {d : Char} (h : isWordChar c = true) (hd : isWordChar d = false) :
    c ≠ d := by
  rintro rfl
  rw [h] at hd
  cases hd

theorem endsPlain_of_isWordChar (h : isWordChar c = true) (hr : cursor.rest = c :: rest) :
    endsPlain false cursor = false := by
  have hcolon : c ≠ ':' := ne_of_isWordChar h (by decide)
  simp [endsPlain, Cursor.head_of_rest hr, isGap_of_isWordChar h, hcolon]

theorem plainChunk_run (hw : ∀ c ∈ run, isWordChar c = true) (hr : cursor.rest = run ++ after)
    (hend : ∀ cursor : Cursor, cursor.rest = after → endsPlain false cursor = true)
    (hf : run.length < fuel) : plainChunk false fuel cursor = (run, cursor.along run after) := by
  obtain ⟨fuel, rfl⟩ := Nat.exists_eq_add_one.2 (Nat.zero_lt_of_lt hf)
  induction run generalizing cursor fuel with
  | nil =>
    have hr : cursor.rest = after := hr
    rw [plainChunk, if_pos (hend cursor hr), Cursor.along_nil hr]
  | cons c run ih =>
    have hc := hw c List.mem_cons_self
    have hlf : c ≠ '\n' := ne_of_isWordChar hc (by decide)
    rw [List.length_cons] at hf
    obtain ⟨fuel, rfl⟩ := Nat.exists_eq_add_one.2 (by omega : 0 < fuel)
    rw [plainChunk, endsPlain_of_isWordChar hc hr, if_neg Bool.false_ne_true,
      Cursor.next_of_rest hlf hr, Cursor.head_of_rest hr,
      ih (fun d hd => hw d (List.mem_cons_of_mem c hd)) rfl fuel (Nat.lt_of_succ_lt_succ hf)]
    rw [Cursor.along_along]
    rfl

/-- What may follow a plain scalar in a block of that indentation: the colon behind a key, or a line
that is indented less. The gap behind it, and where it leaves a cursor that stands at its start. -/
inductive PlainEnd (indent : Int) : Text → Gap → (Cursor → Cursor) → Prop
  | colon {c : Char} {rest : Text} (hc : isGap c = true) :
      PlainEnd indent (':' :: c :: rest) (.spaces []) id
  | newLine {k : Nat} {rest : Text} (hk : (k : Int) < indent) (hc : Clean rest) :
      PlainEnd indent ('\n' :: (List.replicate k ' ' ++ rest)) (.breaks false 0) (·.below k rest)

theorem PlainEnd.endsPlain {stop : Cursor → Cursor} (h : PlainEnd indent after gap stop)
    (hr : cursor.rest = after) : endsPlain false cursor = true := by
  cases h with
  | @colon c rest hc =>
    have hnext : cursor.ahead 1 = c := by
      rw [Cursor.ahead, hr]
      rfl
    simp [Yaml.endsPlain, Cursor.head_of_rest hr, hnext, hc]
  | newLine => simp [Yaml.endsPlain, Cursor.head_of_rest hr, isGap, isBreakOrEnd, isBreak]

/-- One run of a plain scalar and the gap behind it. -/
theorem readPlainFrom_run (hw : ∀ c ∈ run, isWordChar c = true) (hn : run ≠ [])
    (hr : cursor.rest = run ++ after) (hm : cursor.isDocumentMarker = false)
    (hend : ∀ cursor : Cursor, cursor.rest = after → endsPlain false cursor = true)
    (hp : cursor.Placed) :
    readPlainFrom false indent (fuel + 1) cursor gap =
      let cursor := cursor.along run after
      if isSpace cursor.head || isBreak cursor.head then do
        let (between, cursor) ← readGap indent (cursor.left + 1) cursor (.spaces [])
        if cursor.column < indent then .ok (gap.text ++ run, between, cursor)
        else
          let (more, between, cursor) ← readPlainFrom false indent fuel cursor between
          .ok (gap.text ++ run ++ more, between, cursor)
      else .ok (gap.text ++ run, .spaces [], cursor) := by
  obtain ⟨c, others, hrun⟩ := List.exists_cons_of_ne_nil hn
  have hhead : cursor.head = c := Cursor.head_of_rest (by rw [hr, hrun]; rfl)
  have hhash : c ≠ '#' := ne_of_isWordChar (hw c (hrun ▸ List.mem_cons_self)) (by decide)
  have hempty : run.isEmpty = false := by rw [hrun]; rfl
  have hlength : run.length < cursor.left + 1 := by
    rw [hp.left_eq, hr, List.length_append]
    omega
  rw [readPlainFrom, if_neg (by simp [hm, hhead, hhash]), plainChunk_run hw hr hend hlength]
  simp [hempty]

/-- The last run of a plain scalar. -/
theorem readPlainFrom_last {stop : Cursor → Cursor} {ending : Gap}
    (hw : ∀ c ∈ run, isWordChar c = true) (hn : run ≠ []) (hend : PlainEnd indent after ending stop)
    (hr : cursor.rest = run ++ after) (hp : cursor.Placed) (hm : cursor.isDocumentMarker = false) :
    readPlainFrom false indent (fuel + 1) cursor gap =
      .ok (gap.text ++ run, ending, stop (cursor.along run after)) := by
  rw [readPlainFrom_run hw hn hr hm (fun _ => hend.endsPlain) hp]
  cases hend with
  | colon hgap => rfl
  | @newLine k rest hk hclean =>
    dsimp only
    rw [Cursor.head_of_rest Cursor.along_rest, readGap_newLine hclean rfl (hp.along hr)]
    exact if_pos hk

/-- A run of a plain scalar, the spaces behind it and the rest of the scalar. -/
theorem readPlainFrom_spaced (hw : ∀ c ∈ run, isWordChar c = true) (hn : run ≠ [])
    (hc : Clean after) (hr : cursor.rest = run ++ (List.replicate (n + 1) ' ' ++ after))
    (hp : cursor.Placed) (hm : cursor.isDocumentMarker = false)
    (hi : indent ≤ cursor.column + 1) :
    readPlainFrom false indent (fuel + 1) cursor gap = (do
      let (more, between, cursor) ← readPlainFrom false indent fuel
        (cursor.along (run ++ List.replicate (n + 1) ' ') after)
        (.spaces (List.replicate (n + 1) ' '))
      .ok (gap.text ++ run ++ more, between, cursor)) := by
  have hspace : (cursor.along run (List.replicate (n + 1) ' ' ++ after)).head = ' ' := rfl
  rw [readPlainFrom_run hw hn hr hm (fun cursor hr => ?_) hp]
  · dsimp only
    rw [hspace, if_pos (by decide), readGap_spaces hc rfl (hp.along hr), Cursor.along_along]
    refine if_neg ?_
    have hlength := List.length_pos_of_ne_nil hn
    rw [Cursor.along_column, List.length_append, List.length_replicate]
    omega
  · have hspace : cursor.head = ' ' := Cursor.head_of_rest hr
    simp [endsPlain, hspace, isGap, isSpace]

/-- A character of a plain scalar: a space, or one that may stand anywhere. -/
def isPlainChar (c : Char) : Bool := c == ' ' || isWordChar c

theorem isWordChar_of_isPlainChar (h : isPlainChar c = true) (hc : c ≠ ' ') :
    isWordChar c = true := by
  rw [isPlainChar, Bool.or_eq_true, beq_iff_eq] at h
  exact h.resolve_left hc

theorem isDocumentMarker_of_column (h : cursor.column ≠ 0) : cursor.isDocumentMarker = false := by
  simp [Cursor.isDocumentMarker, Cursor.isMarker, h]

theorem clean_of_isWordChar (h : isWordChar c = true) (rest : Text) : Clean (c :: rest) := by
  have hgap := isGap_of_isWordChar h
  simp only [isGap, isBreakOrEnd, Bool.or_eq_false_iff] at hgap
  exact ⟨hgap.1, hgap.2.1⟩

/-- A plain scalar is read run by run, from a gap to its end. -/
theorem readPlainFrom_append {stop : Cursor → Cursor} {ending : Gap}
    (hc : ∀ c ∈ text, isPlainChar c = true) (hn : text ≠ []) (hs : text.head? ≠ some ' ')
    (hl : text.getLast? ≠ some ' ') (hend : PlainEnd indent after ending stop)
    (hr : cursor.rest = text ++ after) (hp : cursor.Placed) (hm : cursor.isDocumentMarker = false)
    (hi : indent ≤ cursor.column + 1) (hf : text.length ≤ fuel) :
    readPlainFrom false indent fuel cursor gap =
      .ok (gap.text ++ text, ending, stop (cursor.along text after)) := by
  have hword {run : Text} (hrun : ' ' ∉ run) (hmem : ∀ c ∈ run, isPlainChar c = true) :
      ∀ c ∈ run, isWordChar c = true := fun c hcr =>
    isWordChar_of_isPlainChar (hmem c hcr) fun he => hrun (he ▸ hcr)
  -- Behind a run and its spaces the column is past the indentation, so the scalar goes on.
  induction runs text generalizing cursor gap fuel with
  | @last run hrun =>
    have hpos := List.length_pos_of_ne_nil hn
    obtain ⟨fuel, rfl⟩ := Nat.exists_eq_add_one.2 (by omega : 0 < fuel)
    exact readPlainFrom_last (hword hrun hc) hn hend hr hp hm
  | @spaced run text n hrun hhead hruns ih =>
    have hne : run ≠ [] := by
      rintro rfl
      exact hs rfl
    have htext : text ≠ [] := by
      rintro rfl
      refine hl ?_
      rw [List.append_nil, List.replicate_succ', ← List.append_assoc, List.getLast?_concat]
    have hlast : text.getLast? ≠ some ' ' := by
      rwa [← List.append_assoc, List.getLast?_append_of_ne_nil _ htext] at hl
    have hchars : ∀ c ∈ text, isPlainChar c = true := fun c h =>
      hc c (List.mem_append_right _ (List.mem_append_right _ h))
    have hclean : Clean (text ++ after) := by
      obtain ⟨c, others, rfl⟩ := List.exists_cons_of_ne_nil htext
      have hspace : c ≠ ' ' := fun he => hhead (he ▸ rfl)
      exact clean_of_isWordChar
        (isWordChar_of_isPlainChar (hchars c List.mem_cons_self) hspace) _
    have hpos := List.length_pos_of_ne_nil hne
    rw [List.length_append, List.length_append, List.length_replicate] at hf
    obtain ⟨fuel, rfl⟩ := Nat.exists_eq_add_one.2 (by omega : 0 < fuel)
    rw [List.append_assoc, List.append_assoc] at hr
    have hrun' : cursor.rest = (run ++ List.replicate (n + 1) ' ') ++ (text ++ after) := by
      rw [hr, List.append_assoc]
    rw [readPlainFrom_spaced (hword hrun fun c h => hc c (List.mem_append_left _ h)) hne hclean hr
      hp hm hi, ih hchars htext hhead hlast rfl (hp.along hrun')
      (isDocumentMarker_of_column ?_) ?_ (by omega)]
    · show Except.ok _ = Except.ok _
      rw [Cursor.along_along]
      simp only [Gap.text, List.append_assoc]
    · rw [Cursor.along_column, List.length_append, List.length_replicate]
      omega
    · rw [Cursor.along_column, List.length_append, List.length_replicate]
      omega

/-- A text that a plain scalar can hold. -/
def isPlain (text : Text) : Bool :=
  !text.isEmpty && text.head? != some ' ' && text.getLast? != some ' '
    && !text.head?.any isLeadingIndicator && !text.any needsQuotesAnywhere

/-- A text without need for quotes is a plain one. -/
theorem isPlain_of_needsQuotes (h : needsQuotes text = false) : isPlain text = true := by
  simp only [needsQuotes, Bool.or_eq_false_iff] at h
  obtain ⟨⟨⟨⟨⟨⟨⟨hempty, hhead⟩, hlast⟩, hindicator⟩, -⟩, hchars⟩, -⟩, -⟩ := h
  simp [isPlain, hempty, hindicator, hchars, bne, hhead, hlast]

theorem isPlainChar_of_needsQuotesAnywhere (h : needsQuotesAnywhere c = false) :
    isPlainChar c = true := by
  by_contra hc
  have hcases : c = '\t' ∨ c = '\n' ∨ c = '\r' ∨ c = endMark ∨ c = ':' ∨ c = '#' := by
    simp only [isPlainChar, isWordChar, isGap, isSpace, isBreakOrEnd, isBreak, Bool.or_eq_true,
      Bool.and_eq_true, Bool.not_eq_true', Bool.or_eq_false_iff, beq_iff_eq, bne_iff_ne,
      beq_eq_false_iff_ne, ne_eq] at hc
    tauto
  rcases hcases with rfl | rfl | rfl | rfl | rfl | rfl <;> exact absurd h (by decide)

/-- What a plain text is, piece by piece. -/
theorem isPlain_cases (h : isPlain text = true) : ∃ c others, text = c :: others ∧ c ≠ ' ' ∧
    isLeadingIndicator c = false ∧ text.getLast? ≠ some ' ' ∧
    ∀ c ∈ text, needsQuotesAnywhere c = false := by
  cases text with
  | nil => cases h
  | cons c others =>
    simp only [isPlain, Bool.and_eq_true, Bool.not_eq_true', bne_iff_ne, List.any_eq_false,
      List.head?_cons, Option.any_some, ne_eq, Option.some.injEq, Bool.not_eq_true] at h
    obtain ⟨⟨⟨⟨-, hspace⟩, hlast⟩, hindicator⟩, hchars⟩ := h
    exact ⟨c, others, rfl, hspace, hindicator, hlast, hchars⟩

/-- A plain scalar is read as its text. -/
theorem readPlain_append {stop : Cursor → Cursor} {ending : Gap} (h : isPlain text = true)
    (hend : PlainEnd indent after ending stop) (hr : cursor.rest = text ++ after)
    (hp : cursor.Placed) (hi : indent ≤ cursor.column + 1) :
    readPlain false indent cursor =
      .ok (text, ending.isBroken, stop (cursor.along text after)) := by
  obtain ⟨c, others, hcons, hspace, hindicator, hlast, hchars⟩ := isPlain_cases h
  have hhead : cursor.head = c := Cursor.head_of_rest (by rw [hr, hcons]; rfl)
  have hdash : c ≠ '-' := fun he => absurd hindicator (he ▸ by decide)
  have hpoint : c ≠ '.' := fun he => absurd hindicator (he ▸ by decide)
  have hmarker : cursor.isDocumentMarker = false := by
    simp [Cursor.isDocumentMarker, Cursor.isMarker, hhead, hdash, hpoint]
  have hfirst : text.head? ≠ some ' ' := by
    rw [hcons]
    exact fun he => hspace (Option.some.inj he)
  have hfuel : text.length ≤ cursor.left + 1 := by
    rw [hp.left_eq, hr, List.length_append]
    omega
  rw [readPlain, readPlainFrom_append (fun c hc => isPlainChar_of_needsQuotesAnywhere (hchars c hc))
    (hcons ▸ List.cons_ne_nil c others) hfirst hlast hend hr hp hmarker hi hfuel]
  rfl

/-! ## Quoted scalars -/

theorem skip_pair {d : Char} (hc : c ≠ '\n') (hd : d ≠ '\n') (hr : cursor.rest = c :: d :: after) :
    cursor.skip 2 = cursor.along [c, d] after :=
  @Cursor.skip_along cursor [c, d] after (by simp [Ne.symm hc, Ne.symm hd]) hr

theorem ahead_one {d : Char} (hr : cursor.rest = c :: d :: after) : cursor.ahead 1 = d := by
  rw [Cursor.ahead, hr]
  rfl

theorem readEscape_letter {d : Char} (hr : cursor.rest = '\\' :: d :: after)
    (hw : escapeWidth? d = none) (hd : simpleEscape? d = some c) (hb : isBreak d = false) :
    readEscape cursor = .ok (c, cursor.along ['\\', d] after) := by
  have hlf : d ≠ '\n' := fun he => absurd hb (he ▸ by decide)
  rw [readEscape, ahead_one hr, hw]
  simp only [hd, skip_pair (by decide) hlf hr]

theorem charOfNat?_toNat (c : Char) : charOfNat? c.toNat = some c := by
  have hvalid : c.toNat.isValidChar := c.valid
  rw [charOfNat?, dif_pos hvalid]
  exact congrArg some (Char.ext rfl)

/-- The digits of a number as an escape writes them. -/
def escapeDigits (n : Nat) : Text :=
  List.replicate (4 - (Nat.toDigits 16 n).length) '0' ++ Nat.toDigits 16 n

theorem escapeDigits_spec : ∀ n ∈ 0x7f :: List.range 0x20,
    (escapeDigits n).length = 4 ∧ '\n' ∉ escapeDigits n ∧
      (escapeDigits n).foldlM (fun n c => (hexDigit? c).map (n * 16 + ·)) 0 = some n := by
  decide

theorem readEscape_digits (hn : c.toNat ∈ 0x7f :: List.range 0x20)
    (hr : cursor.rest = "\\u" ++ escapeDigits c.toNat ++ after) :
    readEscape cursor = .ok (c, cursor.along ("\\u" ++ escapeDigits c.toNat) after) := by
  obtain ⟨hlength, hlf, hvalue⟩ := escapeDigits_spec c.toNat hn
  have hfront : cursor.rest = '\\' :: 'u' :: (escapeDigits c.toNat ++ after) := hr
  have hlf : '\n' ∉ ("\\u" : Text) ++ escapeDigits c.toNat := by
    rw [List.mem_append, not_or]
    exact ⟨by decide, hlf⟩
  have hskip := Cursor.skip_along hlf hr
  rw [List.length_append, hlength] at hskip
  have hnumber : hexNumber? (cursor.skip 2) 4 = some c.toNat := by
    rw [skip_pair (by decide) (by decide) hfront, hexNumber?, Cursor.along_rest,
      List.take_left' hlength]
    rw [if_pos hlength, hvalue]
  rw [readEscape, ahead_one hfront]
  have hwidth : escapeWidth? 'u' = some 4 := rfl
  simp only [hwidth, hnumber, Option.bind_some, charOfNat?_toNat]
  rw [← hskip]
  rfl

/-- A character is written as a backslash and its letter, as an escaped number or as itself. -/
theorem escaped_cases (c : Char) :
    (∃ d, escaped c = ['\\', d] ∧ escapeWidth? d = none ∧ simpleEscape? d = some c ∧
      isBreak d = false) ∨
    (c.toNat ∈ 0x7f :: List.range 0x20 ∧ escaped c = "\\u" ++ escapeDigits c.toNat) ∨
    (escaped c = [c] ∧ c ≠ '"' ∧ c ≠ '\\' ∧ 0x20 ≤ c.toNat) := by
  unfold escaped
  split_ifs with hquote hslash hb ht hn hf hr hcontrol
  · exact .inl ⟨'"', rfl, rfl, by rw [hquote]; rfl, rfl⟩
  · exact .inl ⟨'\\', rfl, rfl, by rw [hslash]; rfl, rfl⟩
  · exact .inl ⟨'b', rfl, rfl, by rw [hb]; rfl, rfl⟩
  · exact .inl ⟨'t', rfl, rfl, by rw [ht]; rfl, rfl⟩
  · exact .inl ⟨'n', rfl, rfl, by rw [hn]; rfl, rfl⟩
  · exact .inl ⟨'f', rfl, rfl, by rw [hf]; rfl, rfl⟩
  · exact .inl ⟨'r', rfl, rfl, by rw [hr]; rfl, rfl⟩
  · refine .inr (.inl ⟨?_, List.append_assoc _ _ _⟩)
    rw [List.mem_cons, List.mem_range]
    exact hcontrol.symm
  · exact .inr (.inr ⟨rfl, hquote, hslash, by omega⟩)

theorem isGap_of_le (h : 0x20 ≤ c.toNat) (hc : c ≠ ' ') : isGap c = false := by
  by_contra hg
  have hcases : c = '\t' ∨ c = '\n' ∨ c = '\r' ∨ c = endMark := by
    simp only [isGap, isSpace, isBreakOrEnd, isBreak, Bool.not_eq_false, Bool.or_eq_true,
      beq_iff_eq] at hg
    tauto
  rcases hcases with rfl | rfl | rfl | rfl <;> exact absurd h (by decide)

theorem quotedRun_escape {d : Char} {written : Text} (hr : cursor.rest = '\\' :: d :: rest)
    (hb : isBreak d = false) (he : readEscape cursor = .ok (c, cursor.along written after)) :
    quotedRun false (fuel + 1) cursor = (do
      let (run, stop, cursor) ← quotedRun false fuel (cursor.along written after)
      .ok (c :: run, stop, cursor)) := by
  rw [quotedRun, Cursor.head_of_rest hr, if_neg (by decide), if_neg (by decide),
    if_neg (by decide), if_pos (by decide), ahead_one hr, if_neg (by simp [hb]), he]
  rfl

/-- A character other than a space is read as it was written. -/
theorem quotedRun_escaped (hc : c ≠ ' ') (hr : cursor.rest = escaped c ++ after) :
    quotedRun false (fuel + 1) cursor = (do
      let (run, stop, cursor) ← quotedRun false fuel (cursor.along (escaped c) after)
      .ok (c :: run, stop, cursor)) := by
  rcases escaped_cases c with ⟨d, he, hw, hd, hb⟩ | ⟨hn, he⟩ | ⟨he, hquote, hslash, hle⟩
  · rw [he] at hr ⊢
    exact quotedRun_escape hr hb (readEscape_letter hr hw hd hb)
  · rw [he] at hr ⊢
    exact quotedRun_escape hr (by decide : isBreak 'u' = false) (readEscape_digits hn hr)
  · rw [he] at hr ⊢
    have hr : cursor.rest = c :: after := hr
    have hlf : c ≠ '\n' := by
      rintro rfl
      exact absurd hle (by decide)
    rw [quotedRun, Cursor.head_of_rest hr, isGap_of_le hle hc, if_neg (by decide),
      if_neg (by decide), if_neg (by simp [hquote]), if_neg (by simp [hslash]),
      Cursor.next_of_rest hlf hr]

theorem length_escaped_pos (c : Char) : 0 < (escaped c).length := by
  rcases escaped_cases c with ⟨d, he, -⟩ | ⟨-, he⟩ | ⟨he, -⟩
  · rw [he]
    exact Nat.zero_lt_two
  · rw [he]
    exact Nat.zero_lt_succ _
  · rw [he]
    exact Nat.zero_lt_one

/-- A run is read up to the gap or the quote behind it. -/
theorem quotedRun_substitute (hs : ' ' ∉ run)
    (hstop : ∀ cursor : Cursor, cursor.rest = after → isGap cursor.head = true ∨ cursor.head = '"')
    (hr : cursor.rest = Text.substitute escaped run ++ after)
    (hf : (Text.substitute escaped run).length < fuel) :
    quotedRun false fuel cursor =
      .ok (run, .here, cursor.along (Text.substitute escaped run) after) := by
  obtain ⟨fuel, rfl⟩ := Nat.exists_eq_add_one.2 (Nat.zero_lt_of_lt hf)
  induction run generalizing cursor fuel with
  | nil =>
    have hr : cursor.rest = after := hr
    show quotedRun false (fuel + 1) cursor = .ok ([], .here, cursor.along [] after)
    rw [Cursor.along_nil hr, quotedRun]
    by_cases hg : isGap cursor.head = true
    · rw [if_pos hg]
    · have hquote := (hstop cursor hr).resolve_left hg
      rw [if_neg hg, if_neg (by decide), if_pos (by simp [hquote])]
  | cons c run ih =>
    have hpos := length_escaped_pos c
    rw [List.mem_cons, not_or] at hs
    rw [substitute_cons, List.length_append] at hf
    rw [substitute_cons, List.append_assoc] at hr
    obtain ⟨fuel, rfl⟩ := Nat.exists_eq_add_one.2 (by omega : 0 < fuel)
    rw [quotedRun_escaped (Ne.symm hs.1) hr, ih hs.2 rfl fuel (by omega)]
    show Except.ok _ = Except.ok _
    rw [Cursor.along_along, substitute_cons]

theorem substitute_spaced (run text : Text) (n : Nat) :
    Text.substitute escaped (run ++ (List.replicate n ' ' ++ text)) =
      Text.substitute escaped run ++ (List.replicate n ' ' ++ Text.substitute escaped text) := by
  have hspaces : Text.substitute escaped (List.replicate n ' ') = List.replicate n ' ' := by
    induction n with
    | zero => rfl
    | succ n ih => rw [List.replicate_succ, substitute_cons, ih]; rfl
  rw [Text.substitute, List.flatMap_append, List.flatMap_append]
  exact congrArg (fun spaces => _ ++ (spaces ++ _)) hspaces

/-- A quoted scalar starts with a visible character or a space. -/
theorem quoted_cons (text after : Text) : ∃ c others,
    Text.substitute escaped text ++ '"' :: after = c :: others ∧ 0x20 ≤ c.toNat ∧
      (text.head? ≠ some ' ' → c ≠ ' ') := by
  cases text with
  | nil => exact ⟨'"', after, rfl, by decide, fun _ => by decide⟩
  | cons c text =>
    rw [substitute_cons, List.append_assoc]
    rcases escaped_cases c with ⟨d, he, -⟩ | ⟨-, he⟩ | ⟨he, -, -, hle⟩
    · rw [he]
      exact ⟨'\\', _, rfl, by decide, fun _ => by decide⟩
    · rw [he]
      exact ⟨'\\', _, rfl, by decide, fun _ => by decide⟩
    · rw [he]
      exact ⟨c, _, rfl, hle, fun hs hc => hs (hc ▸ rfl)⟩

theorem clean_quoted (hs : text.head? ≠ some ' ') (after : Text) :
    Clean (Text.substitute escaped text ++ '"' :: after) := by
  obtain ⟨c, others, hcons, hle, hspace⟩ := quoted_cons text after
  have hgap := isGap_of_le hle (hspace hs)
  simp only [isGap, isBreakOrEnd, Bool.or_eq_false_iff] at hgap
  rw [hcons]
  exact ⟨hgap.1, hgap.2.1⟩

/-- A run of a quoted scalar, up to a space or the closing quote. -/
theorem quotedRun_left (hs : ' ' ∉ run) (hc : c = ' ' ∨ c = '"')
    (hr : cursor.rest = Text.substitute escaped run ++ c :: after) (hp : cursor.Placed) :
    quotedRun false (cursor.left + 1) cursor =
      .ok (run, .here, cursor.along (Text.substitute escaped run) (c :: after)) := by
  refine quotedRun_substitute hs (fun cursor hr => ?_) hr ?_
  · rw [Cursor.head_of_rest hr]
    exact hc.imp (fun he => by rw [he]; decide) id
  · rw [hp.left_eq, hr, List.length_append]
    omega

/-- The last run of a quoted scalar and the closing quote. -/
theorem readQuotedFrom_last {next : Cursor}
    (hstart : (cursor.isDocumentMarker || cursor.isAtEnd) = false)
    (hrun : quotedRun false (cursor.left + 1) cursor = .ok (run, .here, next))
    (hq : next.head = '"') : readQuotedFrom false (fuel + 1) cursor = .ok (run, next.next) := by
  rw [readQuotedFrom, hstart, if_neg Bool.false_ne_true, hrun]
  show (if next.head == '"' then _ else _) = _
  rw [hq]
  rfl

/-- A run of a quoted scalar, the gap behind it and the rest of the scalar. -/
theorem readQuotedFrom_gap {next later final : Cursor} {more : Text}
    (hstart : (cursor.isDocumentMarker || cursor.isAtEnd) = false)
    (hrun : quotedRun false (cursor.left + 1) cursor = .ok (run, .here, next))
    (hq : next.head ≠ '"')
    (hgap : readGap 0 (next.left + 1) next (.spaces []) = .ok (gap, later))
    (hmore : readQuotedFrom false fuel later = .ok (more, final)) :
    readQuotedFrom false (fuel + 1) cursor = .ok (run ++ gap.text ++ more, final) := by
  rw [readQuotedFrom, hstart, if_neg Bool.false_ne_true, hrun]
  show (if next.head == '"' then _ else _) = _
  rw [if_neg (by simp [hq])]
  show (readGap 0 (next.left + 1) next (.spaces []) >>= _) = _
  rw [hgap]
  show (readQuotedFrom false fuel later >>= _) = _
  rw [hmore]
  rfl

theorem isAtEnd_quoted (hr : cursor.rest = Text.substitute escaped text ++ '"' :: after)
    (hcol : cursor.column ≠ 0) : (cursor.isDocumentMarker || cursor.isAtEnd) = false := by
  obtain ⟨c, others, hcons, hle, -⟩ := quoted_cons text after
  have hend : c ≠ endMark := by
    rintro rfl
    exact absurd hle (by decide)
  simp [isDocumentMarker_of_column hcol, Cursor.isAtEnd, Cursor.head_of_rest (hr.trans hcons), hend]

/-- A quoted scalar is read run by run, up to its closing quote. -/
theorem readQuotedFrom_append (hr : cursor.rest = Text.substitute escaped text ++ '"' :: after)
    (hp : cursor.Placed) (hcol : cursor.column ≠ 0) (hf : text.length < fuel) :
    readQuotedFrom false fuel cursor =
      .ok (text, cursor.along (Text.substitute escaped text ++ ['"']) after) := by
  obtain ⟨fuel, rfl⟩ := Nat.exists_eq_add_one.2 (Nat.zero_lt_of_lt hf)
  have hstart := isAtEnd_quoted hr hcol
  induction runs text generalizing cursor fuel with
  | @last run hrun =>
    rw [readQuotedFrom_last hstart (quotedRun_left hrun (.inr rfl) hr hp) rfl,
      Cursor.next_of_rest (by decide) Cursor.along_rest, Cursor.along_along]
  | @spaced run text n hrun hhead hruns ih =>
    rw [List.length_append, List.length_append, List.length_replicate] at hf
    obtain ⟨fuel, rfl⟩ := Nat.exists_eq_add_one.2 (by omega : 0 < fuel)
    rw [substitute_spaced, List.append_assoc, List.append_assoc] at hr
    have hplaced := hp.along hr
    have hcol' {middle : Cursor} {rest : Text} :
        (middle.along (List.replicate (n + 1) ' ') rest).column ≠ 0 := by
      rw [Cursor.along_column, List.length_replicate]
      omega
    have hspace : ' ' ≠ '"' := by decide
    rw [readQuotedFrom_gap hstart (quotedRun_left hrun (.inl rfl) hr hp) hspace
      (readGap_spaces (clean_quoted hhead after) rfl hplaced)
      (ih rfl (hplaced.along rfl) hcol' fuel (by omega) (isAtEnd_quoted rfl hcol'))]
    rw [Cursor.along_along, Cursor.along_along, substitute_spaced]
    simp only [Gap.addSpaces, Gap.text, List.nil_append, List.append_assoc]

/-- A quoted scalar is read as its text. -/
theorem readQuoted_append (hr : cursor.rest = scalarText text .quoted ++ after)
    (hp : cursor.Placed) : readQuoted false cursor =
      .ok (text, cursor.along (scalarText text .quoted) after) := by
  have hr : cursor.rest = '"' :: (Text.substitute escaped text ++ '"' :: after) := by
    rw [hr, scalarText, List.append_assoc]
    rfl
  have hfuel : text.length < cursor.left + 1 := by
    have hle := Text.length_le_length_substitute length_escaped_pos text
    rw [hp.left_eq, hr, List.length_cons, List.length_append]
    omega
  have hlf : '"' ≠ '\n' := by decide
  have hplaced := hp.after hr
  rw [readQuoted, Cursor.next_of_rest hlf hr,
    readQuotedFrom_append Cursor.along_rest hplaced (Nat.succ_ne_zero _) hfuel, Cursor.along_along]
  rfl

/-! ## Lengths -/

theorem length_escaped_le (c : Char) : (escaped c).length ≤ 6 := by
  rcases escaped_cases c with ⟨d, he, -⟩ | ⟨hn, he⟩ | ⟨he, -⟩
  · rw [he]
    exact (by decide : 2 ≤ 6)
  · rw [he, List.length_append, (escapeDigits_spec c.toNat hn).1]
    decide
  · rw [he]
    exact Nat.succ_le_succ (Nat.zero_le 5)

/-- A scalar takes at most six characters for each of its text, and its quotes. -/
theorem length_scalarText_le (text : Text) (style : Style) :
    (scalarText text style).length ≤ 6 * text.length + 2 := by
  have hle : (Text.substitute escaped text).length ≤ 6 * text.length := by
    induction text with
    | nil => exact Nat.zero_le _
    | cons c text ih =>
      have hc := length_escaped_le c
      rw [substitute_cons, List.length_append, List.length_cons]
      omega
  cases style with
  | plain =>
    rw [scalarText]
    omega
  | quoted =>
    rw [scalarText, List.length_append, List.length_cons]
    exact Nat.add_le_add_right (Nat.add_le_add_right hle 1) 1

end Synopsis.Yaml
