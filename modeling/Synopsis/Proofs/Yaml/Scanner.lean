import Synopsis.Proofs.Yaml.Scalar
import Synopsis.Yaml.Token

/-!
# Where a scanner stands

Between the tokens of a block, all that a scanner has to remember is where its cursor is, the tokens
so far with the columns of the open blocks, and which token may still turn out a key. Moving on to
the next token passes over spaces and line breaks and ends the blocks that are indented more.

- `Outline`: the tokens and the open blocks, and what a column does to them.
- `At`: the next token of a scanner, and the outline there.
- `Leads`: a scanner goes on as another one does.
-/

namespace Synopsis.Yaml

variable {cursor : Cursor} {rest : Text} {token : Token} {fuel : Nat}

/-! ## Outlines -/

/-- The tokens so far, the latest first, and the columns of the open blocks. -/
structure Outline where
  tokens : List Token
  indent : Int
  outer : List Int

namespace Outline

variable {outline : Outline} {column level : Int} {tokens : List Token}

/-- The outline with some more tokens. -/
def append (outline : Outline) (tokens : List Token) : Outline :=
  { outline with tokens := tokens.reverse ++ outline.tokens }

/-- The outline in which the innermost of the blocks are ended while they are indented more. -/
def close (column : Int) (tokens : List Token) : Int → List Int → Outline
  | indent, [] => ⟨tokens, indent, []⟩
  | indent, next :: outer =>
    if column < indent then close column (.blockEnd :: tokens) next outer
    else ⟨tokens, indent, next :: outer⟩

/-- The outline in which the blocks that are indented more are ended. -/
def unroll (outline : Outline) (column : Int) : Outline :=
  close column outline.tokens outline.indent outline.outer

/-- The outline with a block at that column, which starts here if it is indented more. -/
def roll (outline : Outline) (column : Nat) (token : Token) : Outline :=
  if column ≤ outline.indent then outline
  else ⟨token :: outline.tokens, column, outline.indent :: outline.outer⟩

theorem append_nil (outline : Outline) : outline.append [] = outline := rfl

theorem append_append (outline : Outline) (first second : List Token) :
    (outline.append first).append second = outline.append (first ++ second) := by
  simp only [append, List.reverse_append, List.append_assoc]

theorem unroll_of_le (h : outline.indent ≤ column) : outline.unroll column = outline := by
  obtain ⟨tokens, indent, outer⟩ := outline
  cases outer with
  | nil => rfl
  | cons next outer => exact if_neg (Int.not_lt.2 h)

theorem unroll_unroll (outline : Outline) (h : level ≤ column) :
    (outline.unroll column).unroll level = outline.unroll level := by
  obtain ⟨tokens, indent, outer⟩ := outline
  simp only [unroll]
  induction outer generalizing tokens indent with
  | nil => rfl
  | cons next outer ih =>
    by_cases hc : column < indent
    · rw [close, if_pos hc, ih, close, if_pos (Int.lt_of_le_of_lt h hc)]
    · rw [close, if_neg hc]

theorem indent_roll {depth : Nat} (h : outline.indent ≤ depth) (token : Token) :
    (outline.roll depth token).indent = depth := by
  rw [roll]
  by_cases hd : (depth : Int) ≤ outline.indent
  · rw [if_pos hd]
    exact Int.le_antisymm h hd
  · rw [if_neg hd]

/-- A block is ended at a column further left. -/
theorem unroll_roll {depth : Nat} (ho : outline.indent < depth) (hl : level < depth)
    (tokens : List Token) :
    ((outline.roll depth token).append tokens).unroll level =
      (outline.append (token :: tokens ++ [.blockEnd])).unroll level := by
  simp only [roll, if_neg (Int.not_le.2 ho), append, unroll, close, if_pos hl, List.reverse_append,
    List.reverse_cons, List.reverse_nil, List.append_assoc, List.nil_append, List.cons_append]

end Outline

namespace Scanner

variable {outline : Outline} {allowed : Bool} {pending : Option PendingKey} {adjacent : Nat}
  {level : Int} {scanner next : Scanner}

/-- The scanner that stands there outside of flow collections. -/
def place (cursor : Cursor) (outline : Outline) (allowed : Bool) (pending : Option PendingKey)
    (adjacent : Nat) : Scanner where
  cursor := cursor
  tokens := outline.tokens
  count := outline.tokens.length
  keyAllowed := allowed
  pending := [pending]
  indent := outline.indent
  outer := outline.outer
  adjacent := adjacent

theorem close_place (column indent : Int) (outer : List Int) (tokens : List Token)
    (before : Int) (blocks : List Int) :
    (place cursor ⟨tokens, before, blocks⟩ allowed pending adjacent).close column indent outer =
      place cursor (Outline.close column tokens indent outer) allowed pending adjacent := by
  induction outer generalizing indent tokens with
  | nil => rfl
  | cons next outer ih =>
    rw [close, Outline.close]
    by_cases h : column < indent
    · rw [if_pos h, if_pos h]
      exact ih next (.blockEnd :: tokens)
    · rw [if_neg h, if_neg h]
      rfl

theorem unroll_place (column : Int) :
    (place cursor outline allowed pending adjacent).unroll column =
      place cursor (outline.unroll column) allowed pending adjacent :=
  (if_neg (Nat.lt_irrefl 0)).trans (close_place column outline.indent outline.outer _ _ _)

/-- A token may be put in front of the last ones. -/
theorem insertAt_place (tokens : List Token) (token : Token) :
    (place cursor (outline.append tokens) allowed pending adjacent).insertAt outline.tokens.length
      token = place cursor (outline.append (token :: tokens)) allowed pending adjacent := by
  have hlength : (outline.append tokens).tokens.length - outline.tokens.length =
      tokens.reverse.length := by
    rw [Outline.append, List.length_append, Nat.add_sub_cancel]
  simp only [insertAt, place, hlength]
  simp [Outline.append, Nat.add_assoc]

/-- So may the token that starts a block. -/
theorem roll_place (column : Nat) (tokens : List Token) (token : Token) :
    (place cursor (outline.append tokens) allowed pending adjacent).roll column
      outline.tokens.length token =
        place cursor ((outline.roll column token).append tokens) allowed pending adjacent := by
  rw [roll, Outline.roll, insertAt_place]
  by_cases h : column ≤ outline.indent
  · rw [if_pos (.inr h), if_pos h]
  · rw [if_neg (fun hor => hor.elim (Nat.lt_irrefl 0) h), if_neg h]
    simp [Outline.append, place]

/-! ## Pending keys -/

/-- No token has to turn out a key. -/
def Optional (pending : Option PendingKey) : Prop := ∀ key ∈ pending, key.required = false

theorem optional_none : Optional none := fun _ h => absurd h (Option.not_mem_none _)

theorem dropKey_place (h : Optional pending) :
    (place cursor outline allowed pending adjacent).dropKey =
      .ok (place cursor outline allowed none adjacent) := by
  cases pending with
  | none => rfl
  | some key => exact if_neg (by simp [h key rfl])

/-- The pending key behind a token that starts there. -/
def savedKey (cursor : Cursor) (outline : Outline) (allowed : Bool) (pending : Option PendingKey) :
    Option PendingKey :=
  if allowed then some ⟨false, outline.tokens.length, cursor⟩ else pending

theorem optional_savedKey (h : Optional pending) :
    Optional (savedKey cursor outline allowed pending) := by
  cases allowed with
  | false => exact h
  | true =>
    intro key hk
    rw [← Option.some.inj hk]

theorem saveKey_place (h : Optional pending) :
    (place cursor outline allowed pending adjacent).saveKey =
      .ok (place cursor outline allowed (savedKey cursor outline allowed pending) adjacent) := by
  cases allowed with
  | false => rfl
  | true =>
    show ((place cursor outline true pending adjacent).dropKey >>= _) = _
    rw [dropKey_place h]
    rfl

theorem dropStaleKeys_place (h : Optional pending) :
    (place cursor outline allowed pending adjacent).dropStaleKeys =
      .ok (place cursor outline allowed (pending.filter (!isStale cursor ·)) adjacent) := by
  cases pending with
  | none => rfl
  | some key => exact if_neg (by simp [place, h key rfl])

theorem optional_filter (h : Optional pending) (test : PendingKey → Bool) :
    Optional (pending.filter test) := fun key hk => h key (Option.mem_filter_iff.1 hk).1

/-! ## Between tokens -/

/-- A token or the end comes next. -/
def Settled (rest : Text) : Prop := Clean rest ∧ rest.headD endMark ≠ '#'

theorem skipGap_settled (hs : Settled rest) (hr : cursor.rest = rest) :
    (place cursor outline allowed pending adjacent).skipGap fuel =
      place cursor outline allowed pending adjacent := by
  cases fuel with
  | zero => rfl
  | succ fuel =>
    have hspace := hs.1.isSpace_head hr
    have hbreak := hs.1.isBreak_head hr
    have hhash : cursor.head ≠ '#' := by
      rw [Cursor.head_eq hr]
      exact hs.2
    simp only [isSpace, Bool.or_eq_false_iff] at hspace
    simp [skipGap, place, hspace, hbreak, hhash]

theorem skipGap_spaces (hs : Settled rest) {n : Nat}
    (hr : cursor.rest = List.replicate n ' ' ++ rest) (hf : n ≤ fuel) :
    (place cursor outline allowed pending adjacent).skipGap fuel =
      place (cursor.along (List.replicate n ' ') rest) outline allowed pending adjacent := by
  induction n generalizing cursor fuel with
  | zero =>
    have hr : cursor.rest = rest := hr
    rw [skipGap_settled hs hr, List.replicate_zero, Cursor.along_nil hr]
  | succ n ih =>
    obtain ⟨fuel, rfl⟩ := Nat.exists_eq_add_one.2 (Nat.zero_lt_of_lt hf)
    rw [List.replicate_succ, List.cons_append] at hr
    have hhead : (place cursor outline allowed pending adjacent).cursor.head = ' ' :=
      Cursor.head_of_rest hr
    have hskip : (place cursor outline allowed pending adjacent).skip 1 =
        place (cursor.along [' '] (List.replicate n ' ' ++ rest)) outline allowed pending
          adjacent := by
      rw [← Cursor.next_of_rest (by decide) hr]
      rfl
    rw [skipGap, hhead, if_pos (by simp), hskip, ih rfl (Nat.le_of_succ_le_succ hf),
      Cursor.along_along]
    rfl

/-- A key may start on a new line. -/
theorem skipGap_newLine (hs : Settled rest) {n : Nat}
    (hr : cursor.rest = '\n' :: (List.replicate n ' ' ++ rest)) (hf : n < fuel) :
    (place cursor outline allowed pending adjacent).skipGap fuel =
      place (cursor.below n rest) outline true pending adjacent := by
  obtain ⟨fuel, rfl⟩ := Nat.exists_eq_add_one.2 (Nat.zero_lt_of_lt hf)
  have hhead : (place cursor outline allowed pending adjacent).cursor.head = '\n' :=
    Cursor.head_of_rest hr
  rw [skipGap, hhead, if_neg (by simp), if_pos (by decide)]
  have hnext : { place cursor outline allowed pending adjacent with
      cursor := cursor.skipBreak, keyAllowed := allowed || true } =
        place (cursor.below 0 (List.replicate n ' ' ++ rest)) outline true pending adjacent := by
    rw [Cursor.skipBreak_of_rest hr, Bool.or_true]
    rfl
  refine (congrArg (skipGap fuel) hnext).trans ?_
  rw [skipGap_spaces hs rfl (Nat.le_of_lt_succ hf)]
  simp only [Cursor.along, Cursor.below, List.length_replicate, Nat.zero_add, Nat.add_assoc,
    Nat.add_comm n 1]

/-- The next token of the scanner is the first one of the rest. It stands at that level, which is
its column or, behind the last token, further left than any column. The blocks that are indented
more are ended in the outline. -/
def At (scanner : Scanner) (outline : Outline) (allowed : Bool) (rest : Text) (level : Int) :
    Prop :=
  ∃ cursor before pending adjacent,
    scanner.skipGap (scanner.cursor.left + 1) = place cursor before allowed pending adjacent ∧
    cursor.rest = rest ∧ cursor.column = level.toNat ∧ cursor.Placed ∧
    rest.length ≤ scanner.cursor.left ∧ Optional pending ∧ before.unroll level = outline

theorem at_here (hs : Settled rest) (hr : cursor.rest = rest) (hc : cursor.column = level.toNat)
    (hp : cursor.Placed) (ho : Optional pending) :
    (place cursor outline allowed pending adjacent).At (outline.unroll level) allowed rest level :=
  ⟨cursor, outline, pending, adjacent, skipGap_settled hs hr, hr, hc, hp,
    Nat.le_of_eq (hr ▸ hp.left_eq.symm), ho, rfl⟩

theorem at_space (hs : Settled rest) (hr : cursor.rest = ' ' :: rest)
    (hc : (cursor.column : Int) + 1 = level) (hp : cursor.Placed) (ho : Optional pending) :
    (place cursor outline allowed pending adjacent).At (outline.unroll level) allowed rest
      level := by
  have hr : cursor.rest = List.replicate 1 ' ' ++ rest := hr
  have hleft : rest.length ≤ cursor.left := by
    rw [hp.left_eq, hr, List.length_append]
    omega
  refine ⟨_, outline, pending, adjacent, skipGap_spaces hs hr (Nat.le_add_left 1 _), rfl, ?_,
    hp.along hr, hleft, ho, rfl⟩
  rw [Cursor.along_column, List.length_replicate]
  omega

theorem at_newLine (hs : Settled rest)
    (hr : cursor.rest = '\n' :: (List.replicate level.toNat ' ' ++ rest)) (hp : cursor.Placed)
    (ho : Optional pending) : (place cursor outline allowed pending adjacent).At
      (outline.unroll level) true rest level := by
  have hleft : cursor.left = level.toNat + rest.length + 1 := by
    rw [hp.left_eq, hr, List.length_cons, List.length_append, List.length_replicate]
  have hskip : (place cursor outline allowed pending adjacent).skipGap (cursor.left + 1) = _ :=
    skipGap_newLine hs hr (by omega)
  have hle : rest.length ≤ cursor.left := by omega
  exact ⟨_, outline, pending, adjacent, hskip, rfl, rfl, hp.below hr, hle, ho, rfl⟩

theorem fetch_of_skipGap
    (h : scanner.skipGap (scanner.cursor.left + 1) = place cursor outline allowed pending adjacent)
    (ho : Optional pending) : scanner.fetch =
      (place cursor (outline.unroll cursor.column) allowed (pending.filter (!isStale cursor ·))
        adjacent).fetchHere := by
  rw [fetch, h, dropStaleKeys_place ho]
  show ((place cursor outline allowed _ adjacent).unroll cursor.column).fetchHere = _
  rw [unroll_place]

/-- Fetching the token at the rest. -/
theorem At.fetch {column : Nat} (h : scanner.At outline allowed rest column) :
    ∃ cursor pending adjacent,
      scanner.fetch = (place cursor outline allowed pending adjacent).fetchHere ∧
      cursor.rest = rest ∧ cursor.column = column ∧ cursor.Placed ∧
      rest.length ≤ scanner.cursor.left ∧ Optional pending := by
  obtain ⟨cursor, before, pending, adjacent, hskip, hr, hc, hp, hl, ho, rfl⟩ := h
  refine ⟨cursor, _, adjacent, ?_, hr, hc, hp, hl, optional_filter ho (!isStale cursor ·)⟩
  rw [fetch_of_skipGap hskip ho, hc]
  rfl

/-! ## Runs -/

/-- The scanner goes on as the other one does. -/
def Leads (scanner next : Scanner) : Prop :=
  ∀ fuel, scanner.cursor.left < fuel →
    ∃ more, next.cursor.left < more ∧ scanner.run fuel = next.run more

theorem Leads.trans {last : Scanner} (h : scanner.Leads next) (hn : next.Leads last) :
    scanner.Leads last := by
  intro fuel hf
  obtain ⟨more, hm, he⟩ := h fuel hf
  obtain ⟨rest, hr, he'⟩ := hn more hm
  exact ⟨rest, hr, he.trans he'⟩

/-- One token that is not the last one. -/
theorem leads_of_fetch (h : scanner.fetch = .ok next) (ht : next.tokens.head? ≠ some .streamEnd)
    (hl : next.cursor.left < scanner.cursor.left) : scanner.Leads next := by
  intro fuel hf
  obtain ⟨fuel, rfl⟩ := Nat.exists_eq_add_one.2 (Nat.zero_lt_of_lt hf)
  refine ⟨fuel, by omega, ?_⟩
  rw [run, h]
  exact if_neg ht

theorem leads_place (h : scanner.fetch = .ok (place cursor (outline.append [token]) allowed pending
    adjacent)) (ht : token ≠ .streamEnd) (hl : cursor.left < scanner.cursor.left) :
    scanner.Leads (place cursor (outline.append [token]) allowed pending adjacent) :=
  leads_of_fetch h (fun he => ht (Option.some.inj he)) hl

/-- Behind the last token all blocks are ended. -/
theorem At.run (h : scanner.At outline allowed [] (-1)) (hf : 0 < fuel) :
    scanner.run fuel = .ok (outline.append [.streamEnd]).tokens.reverse := by
  obtain ⟨fuel, rfl⟩ := Nat.exists_eq_add_one.2 (Nat.zero_lt_of_lt hf)
  obtain ⟨cursor, before, pending, adjacent, hskip, hr, hc, hp, hl, ho, rfl⟩ := h
  have hend : cursor.isAtEnd = true := by
    rw [Cursor.isAtEnd, Cursor.head_eq hr]
    rfl
  have hle : (-1 : Int) ≤ cursor.column := by omega
  have hfetch : scanner.fetch =
      .ok (place cursor ((before.unroll (-1)).append [.streamEnd]) false none adjacent) := by
    rw [fetch_of_skipGap hskip ho]
    refine (if_pos hend).trans ?_
    rw [fetchEnd, unroll_place, Outline.unroll_unroll _ hle, dropKey_place (optional_filter ho _)]
    rfl
  rw [Scanner.run, hfetch]
  rfl

end Scanner

end Synopsis.Yaml
