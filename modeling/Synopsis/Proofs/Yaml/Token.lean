import Synopsis.Proofs.Yaml.Scanner

/-!
# Printed tokens

What the scanner makes of each piece of a printed document: the dash in front of an item, a scalar
at the end of its line, a key with its colon, an empty container, and the mark at the start. Each
lemma takes a scanner at the piece to one behind it.

- `At.entry`, `At.scalar`, `At.key`, `At.empty`: the pieces of a block.
- `leads_documentStart`: the start of a document.
-/

namespace Synopsis.Yaml.Scanner

variable {cursor : Cursor} {text rest after : Text} {token : Token} {fuel : Nat} {style : Style}
  {outline : Outline} {allowed : Bool} {pending : Option PendingKey} {adjacent column : Nat}
  {level : Int} {scanner next : Scanner} {c : Char}

/-! ## Which token comes next -/

theorem fetchHere_entry (hr : cursor.rest = '-' :: ' ' :: rest) :
    (place cursor outline allowed pending adjacent).fetchHere =
      (place cursor outline allowed pending adjacent).fetchEntry := by
  have hhead : cursor.head = '-' := Cursor.head_of_rest hr
  have hnext := ahead_one hr
  simp [fetchHere, place, Cursor.isAtEnd, Cursor.isMarker, hhead, hnext, endMark, isGap, isSpace]

theorem fetchHere_value (hr : cursor.rest = ':' :: c :: rest) (hc : isGap c = true) :
    (place cursor outline allowed pending adjacent).fetchHere =
      (place cursor outline allowed pending adjacent).fetchValue := by
  have hhead : cursor.head = ':' := Cursor.head_of_rest hr
  have hnext := ahead_one hr
  simp [fetchHere, place, Cursor.isAtEnd, Cursor.isMarker, hhead, hnext, endMark, hc]

theorem fetchHere_quoted (hr : cursor.rest = '"' :: rest) :
    (place cursor outline allowed pending adjacent).fetchHere =
      (place cursor outline allowed pending adjacent).fetchQuoted := by
  have hhead : cursor.head = '"' := Cursor.head_of_rest hr
  simp [fetchHere, place, Cursor.isAtEnd, Cursor.isMarker, hhead, endMark]

/-- The characters that start tokens other than plain scalars. -/
def indicators : Text := ['\x00', '%', '-', '.', '[', '\x7b', ']', '\x7d', ',', '?', ':', '*', '&',
  '!', '|', '>', '\'', '"', '@', '\x60']

theorem all_indicators :
    indicators.all (fun d => isLeadingIndicator d || needsQuotesAnywhere d) = true := by
  decide

theorem fetchHere_plain (h : isPlain text = true) (hr : cursor.rest = text ++ rest) :
    (place cursor outline allowed pending adjacent).fetchHere =
      (place cursor outline allowed pending adjacent).fetchPlain := by
  obtain ⟨c, others, rfl, hspace, hindicator, -, hchars⟩ := isPlain_cases h
  have hhead : cursor.head = c := Cursor.head_of_rest hr
  have hne : ∀ d ∈ indicators, c ≠ d := by
    rintro d hd rfl
    have hc := List.all_eq_true.1 all_indicators c hd
    rw [hindicator, hchars c List.mem_cons_self] at hc
    cases hc
  simp only [indicators, List.forall_mem_cons, List.not_mem_nil, false_implies, implies_true,
    and_true] at hne
  simp [fetchHere, place, Cursor.isAtEnd, Cursor.isMarker, hhead, endMark, hne]

/-! ## Dashes -/

/-- A dash starts a block or goes on with the one at its column. -/
theorem At.entry (h : scanner.At outline true ('-' :: ' ' :: rest) column)
    (hi : outline.indent ≤ column) (hs : Settled rest) :
    ∃ next, scanner.Leads next ∧
      next.At ((outline.roll column .sequenceStart).append [.entry]) true rest (column + 2) := by
  obtain ⟨cursor, pending, adjacent, hfetch, hr, hc, hp, hl, ho⟩ := h.fetch
  have hplaced := hp.after hr
  have hdash : scanner.fetch = .ok (place (cursor.along ['-'] (' ' :: rest))
      ((outline.roll column .sequenceStart).append [.entry]) true none adjacent) := by
    have hroll := @roll_place cursor outline true pending adjacent column [] .sequenceStart
    rw [Outline.append_nil, Outline.append_nil] at hroll
    rw [hfetch, fetchHere_entry hr]
    refine (if_neg (by simp [place])).trans ?_
    show ((place cursor outline true pending adjacent).roll cursor.column outline.tokens.length
      .sequenceStart).dropKey >>= _ = _
    rw [hc, hroll, dropKey_place ho, ← Cursor.next_of_rest (by decide) hr]
    rfl
  refine ⟨_, leads_place hdash (by decide) ?_, ?_⟩
  · rw [hplaced.left_eq]
    exact hl
  · have hat := @at_space _ _ ((outline.roll column .sequenceStart).append [.entry]) true none
      adjacent (column + 2) hs rfl (by simp [hc]; omega) hplaced optional_none
    rwa [Outline.unroll_of_le] at hat
    show (outline.roll column .sequenceStart).indent ≤ _
    rw [Outline.indent_roll hi]
    omega

/-! ## Scalars -/

/-- A scalar that is written plain can be. -/
def Writable (text : Text) (style : Style) : Prop := style = .plain → isPlain text = true

/-- A text is quoted if it cannot be written plain. -/
theorem writable_ofText (text : Text) :
    Writable text (if needsQuotes text then .quoted else .plain) := by
  intro hs
  cases hq : needsQuotes text with
  | false => exact isPlain_of_needsQuotes hq
  | true =>
    rw [hq] at hs
    cases hs

/-- A scalar up to what ends it. A line break behind a plain scalar is passed over with it. -/
theorem fetchHere_scalar {stop : Cursor → Cursor} {ending : Gap} (hw : Writable text style)
    (hend : PlainEnd (outline.indent + 1) after ending stop)
    (hr : cursor.rest = scalarText text style ++ after) (hp : cursor.Placed)
    (hi : outline.indent ≤ cursor.column) (ho : Optional pending) : ∃ adjacent',
    (place cursor outline allowed pending adjacent).fetchHere =
      .ok (place
        (if style = .plain then stop (cursor.along (scalarText text style) after)
          else cursor.along (scalarText text style) after)
        (outline.append [.scalar text style]) (style = .plain && ending.isBroken)
        (savedKey cursor outline allowed pending) adjacent') := by
  cases style with
  | plain =>
    have hread : readPlain false (outline.indent + 1) cursor = _ :=
      readPlain_append (hw rfl) hend hr hp (by omega)
    refine ⟨adjacent, ?_⟩
    rw [fetchHere_plain (hw rfl) hr, fetchPlain, saveKey_place ho]
    show (readPlain false (outline.indent + 1) cursor >>= _) = _
    rw [hread]
    rfl
  | quoted =>
    have hread := readQuoted_append hr hp
    have hquote : cursor.rest = '"' :: (Text.substitute escaped text ++ ['"'] ++ after) := hr
    refine ⟨(cursor.along (scalarText text .quoted) after).index, ?_⟩
    rw [fetchHere_quoted hquote, fetchQuoted, saveKey_place ho]
    show (readQuoted (cursor.head == '\'') cursor >>= _) = _
    rw [Cursor.head_of_rest hquote]
    show (readQuoted false cursor >>= _) = _
    rw [hread]
    rfl

/-- A scalar at the end of its line. -/
theorem At.scalar (hw : Writable text style) (hs : Settled rest)
    (h : scanner.At outline allowed
      (scalarText text style ++ '\n' :: (List.replicate level.toNat ' ' ++ rest)) column)
    (hi : outline.indent ≤ column) (h0 : 0 ≤ outline.indent) (hl : level ≤ outline.indent) :
    ∃ next, scanner.Leads next ∧
      next.At ((outline.append [.scalar text style]).unroll level) true rest level := by
  obtain ⟨cursor, pending, adjacent, hfetch, hr, hc, hp, hleft, ho⟩ := h.fetch
  have hk : (level.toNat : Int) < outline.indent + 1 := by omega
  obtain ⟨adjacent', hscalar⟩ := @fetchHere_scalar _ _ _ _ _ allowed _ adjacent _ _ hw
    (.newLine hk hs.1) hr hp (by omega) ho
  have hbehind := hp.along hr
  have hsaved := @optional_savedKey cursor outline allowed pending ho
  rw [← hfetch] at hscalar
  rw [List.length_append, List.length_cons, List.length_append, List.length_replicate] at hleft
  refine ⟨_, leads_place hscalar (by simp) ?_, ?_⟩
  · cases style with
    | plain =>
      rw [if_pos rfl, (hbehind.below rfl).left_eq, Cursor.below_rest]
      omega
    | quoted =>
      have hquote : 0 < (scalarText text .quoted).length := Nat.zero_lt_succ _
      rw [if_neg (by simp), hbehind.left_eq, Cursor.along_rest, List.length_cons,
        List.length_append, List.length_replicate]
      omega
  · cases style with
    | plain => exact at_here hs rfl rfl (hbehind.below rfl) hsaved
    | quoted => exact at_newLine hs rfl hbehind hsaved

/-! ## Keys -/

theorem length_scalarText_pos (hw : Writable text style) : 0 < (scalarText text style).length := by
  cases style with
  | plain =>
    obtain ⟨c, others, rfl, -⟩ := isPlain_cases (hw rfl)
    exact Nat.zero_lt_succ _
  | quoted => exact Nat.zero_lt_succ _

/-- The colon makes the token in front of it a key, in front of which its block starts. -/
theorem fetchValue_place (key : PendingKey) (hk : key.position = outline.tokens.length) :
    (place cursor (outline.append [token]) allowed (some key) adjacent).fetchValue =
      .ok (place cursor.next
        ((outline.roll key.place.column .mappingStart).append [.key, token, .value]) false none
        adjacent) := by
  have hinsert := @insertAt_place cursor outline allowed (some key) adjacent [token] .key
  have hroll := @roll_place cursor outline allowed (some key) adjacent key.place.column
    [.key, token] .mappingStart
  rw [← hinsert, ← hk] at hroll
  show Except.ok (((({ (((place cursor (outline.append [token]) allowed (some key)
    adjacent).insertAt key.position .key).roll key.place.column key.position .mappingStart) with
      pending := [none] }).allowKey false).push .value).skip 1) = _
  rw [hroll]
  rfl

/-- A scalar in front of a colon is a pending key. -/
theorem At.pendingKey (hw : Writable text style) (hc : isGap c = true)
    (h : scanner.At outline true (scalarText text style ++ ':' :: c :: rest) column)
    (hi : outline.indent ≤ column) : ∃ cursor adjacent, scanner.Leads
        (place (cursor.along (scalarText text style) (':' :: c :: rest))
          (outline.append [.scalar text style]) false
          (some ⟨false, outline.tokens.length, cursor⟩) adjacent) ∧
      cursor.rest = scalarText text style ++ ':' :: c :: rest ∧ cursor.column = column ∧
      cursor.Placed := by
  obtain ⟨cursor, pending, adjacent, hfetch, hr, hcol, hp, hleft, ho⟩ := h.fetch
  obtain ⟨adjacent', hscalar⟩ := @fetchHere_scalar cursor text _ style outline true pending adjacent
    _ _ hw (.colon hc) hr hp (by omega) ho
  rw [← hfetch, id, ite_self, Gap.isBroken, Bool.and_false] at hscalar
  refine ⟨cursor, adjacent', leads_place hscalar (by simp) ?_, hr, hcol, hp⟩
  have hpos := length_scalarText_pos hw
  rw [List.length_append] at hleft
  rw [(hp.along hr).left_eq, Cursor.along_rest]
  omega

/-- The colon behind a pending key that is within reach. -/
theorem leads_value {key : PendingKey} (hr : cursor.rest = ':' :: c :: rest) (hc : isGap c = true)
    (hp : cursor.Placed) (hi : outline.indent ≤ cursor.column)
    (hk : key.position = outline.tokens.length) (hq : key.required = false)
    (hstale : isStale cursor key = false) :
    (place cursor (outline.append [token]) allowed (some key) adjacent).Leads
      (place (cursor.along [':'] (c :: rest))
        ((outline.roll key.place.column .mappingStart).append [.key, token, .value]) false none
        adjacent) := by
  have hsettled : Settled (':' :: c :: rest) := ⟨⟨rfl, rfl⟩, by simp⟩
  have hoptional : Optional (some key) := fun other ho => Option.some.inj ho ▸ hq
  have hunroll : (outline.append [token]).unroll cursor.column = outline.append [token] :=
    Outline.unroll_of_le hi
  have hfetch : (place cursor (outline.append [token]) allowed (some key) adjacent).fetch =
      .ok (place (cursor.along [':'] (c :: rest))
        ((outline.roll key.place.column .mappingStart).append [.key, token, .value]) false none
        adjacent) := by
    rw [fetch_of_skipGap (skipGap_settled hsettled hr) hoptional, hunroll,
      Option.filter_some_pos (by simp [hstale]), fetchHere_value hr hc, fetchValue_place key hk,
      Cursor.next_of_rest (by decide) hr]
  refine leads_of_fetch hfetch (by simp [place, Outline.append]) ?_
  show (cursor.along [':'] (c :: rest)).left < cursor.left
  rw [(hp.after hr).left_eq, hp.left_eq, hr]
  exact Nat.lt_succ_self _

/-- A key and its colon. -/
theorem At.key (hw : Writable text style) (hc : isGap c = true)
    (h : scanner.At outline true (scalarText text style ++ ':' :: c :: rest) column)
    (hi : outline.indent ≤ column) (hl : (scalarText text style).length ≤ 1024) :
    ∃ cursor adjacent, scanner.Leads (place cursor
        ((outline.roll column .mappingStart).append [.key, .scalar text style, .value]) false none
        adjacent) ∧
      cursor.rest = c :: rest ∧ cursor.column = column + (scalarText text style).length + 1 ∧
      cursor.Placed := by
  obtain ⟨cursor, adjacent, hleads, hr, hcol, hp⟩ := h.pendingKey hw hc hi
  have hplaced := hp.along hr
  have hvalue := @leads_value _ _ (.scalar text style) outline false adjacent c
    ⟨false, outline.tokens.length, cursor⟩ rfl hc hplaced (by rw [Cursor.along_column]; omega)
    rfl rfl (by simp [isStale, hl])
  rw [hcol] at hvalue
  refine ⟨_, adjacent, hleads.trans hvalue, rfl, ?_, hplaced.after rfl⟩
  rw [Cursor.along_column, Cursor.along_column, hcol]
  rfl

/-! ## Empty containers -/

/-- The brackets of flow collections and their tokens. -/
inductive Brackets : Char → Char → Token → Token → Prop
  | sequence : Brackets '[' ']' .flowSequenceStart .flowSequenceEnd
  | mapping : Brackets '\x7b' '\x7d' .flowMappingStart .flowMappingEnd

variable {opening closing : Char} {first last : Token}

/-- The scanner inside one flow collection. -/
def inFlow (scanner : Scanner) : Scanner :=
  { scanner with pending := none :: scanner.pending, flowDepth := 1 }

/-- The opening bracket may start a key itself. -/
theorem fetchHere_opening (hb : Brackets opening closing first last)
    (hr : cursor.rest = opening :: rest) (ho : Optional pending) :
    (place cursor outline allowed pending adjacent).fetchHere =
      .ok (place (cursor.along [opening] rest) (outline.append [first]) true
        (savedKey cursor outline allowed pending) adjacent).inFlow := by
  have hstart : (place cursor outline allowed pending adjacent).fetchHere =
      (place cursor outline allowed pending adjacent).fetchFlowStart first := by
    have hhead : cursor.head = opening := Cursor.head_of_rest hr
    cases hb <;>
      simp [fetchHere, place, Cursor.isAtEnd, Cursor.isMarker, hhead, endMark]
  have hlf : opening ≠ '\n' := by cases hb <;> decide
  rw [hstart, fetchFlowStart, saveKey_place ho, ← Cursor.next_of_rest hlf hr]
  rfl

/-- The closing bracket gives back what was pending around the collection. -/
theorem fetch_closing (hb : Brackets opening closing first last)
    (hr : cursor.rest = closing :: rest) (ho : Optional pending) :
    (place cursor outline true pending adjacent).inFlow.fetch =
      .ok (place (cursor.along [closing] rest) (outline.append [last]) false
        (pending.filter (!isStale cursor ·)) adjacent) := by
  have hhead : cursor.head = closing := Cursor.head_of_rest hr
  have hlf : closing ≠ '\n' := by cases hb <;> decide
  have hskip (fuel : Nat) : (place cursor outline true pending adjacent).inFlow.skipGap fuel =
      (place cursor outline true pending adjacent).inFlow := by
    cases fuel with
    | zero => rfl
    | succ fuel => cases hb <;> simp [skipGap, inFlow, place, hhead, isBreak]
  have hstale : (place cursor outline true pending adjacent).inFlow.dropStaleKeys =
      .ok (place cursor outline true (pending.filter (!isStale cursor ·)) adjacent).inFlow := by
    cases pending with
    | none => rfl
    | some key => exact if_neg (by simp [inFlow, place, ho key rfl])
  have hend : (place cursor outline true (pending.filter (!isStale cursor ·))
      adjacent).inFlow.fetchHere =
        (place cursor outline true (pending.filter (!isStale cursor ·))
          adjacent).inFlow.fetchFlowEnd last := by
    cases hb <;>
      simp [fetchHere, inFlow, place, Cursor.isAtEnd, Cursor.isMarker, hhead, endMark]
  rw [fetch, hskip, hstale]
  show Scanner.fetchHere _ = _
  refine hend.trans ?_
  rw [← Cursor.next_of_rest hlf hr]
  rfl

/-- The two brackets of an empty container. -/
theorem leads_empty (hb : Brackets opening closing first last)
    (hfetch : scanner.fetch = (place cursor outline allowed pending adjacent).fetchHere)
    (hr : cursor.rest = opening :: closing :: after) (hp : cursor.Placed)
    (hl : after.length + 2 ≤ scanner.cursor.left) (ho : Optional pending) :
    ∃ pending', Optional pending' ∧ (cursor.along [opening, closing] after).Placed ∧
      scanner.Leads (place (cursor.along [opening, closing] after)
        (outline.append [first, last]) false pending' adjacent) := by
  have hinside := hp.after hr
  have hbehind := hinside.after rfl
  have hsaved := @optional_savedKey cursor outline allowed pending ho
  have hopening := hfetch.trans (fetchHere_opening hb hr ho)
  have hclosing := @fetch_closing (cursor.along [opening] (closing :: after)) after
    (outline.append [first]) _ adjacent _ _ _ _ hb rfl hsaved
  rw [Cursor.along_along] at hclosing hbehind
  have hne : first ≠ .streamEnd ∧ last ≠ .streamEnd := by cases hb <;> decide
  refine ⟨_, optional_filter hsaved _, hbehind,
    (leads_of_fetch hopening (fun he => hne.1 (Option.some.inj he)) ?_).trans
      (leads_place hclosing hne.2 ?_)⟩
  · show (cursor.along [opening] (closing :: after)).left < scanner.cursor.left
    rw [hinside.left_eq]
    exact hl
  · show _ < (cursor.along [opening] (closing :: after)).left
    rw [hinside.left_eq]
    exact (hbehind.left_eq ▸ Nat.lt_succ_self _)

/-- An empty container at the end of its line. -/
theorem At.empty (hb : Brackets opening closing first last) (hs : Settled rest)
    (h : scanner.At outline allowed
      (opening :: closing :: '\n' :: (List.replicate level.toNat ' ' ++ rest)) column) :
    ∃ next, scanner.Leads next ∧
      next.At ((outline.append [first, last]).unroll level) true rest level := by
  obtain ⟨cursor, pending, adjacent, hfetch, hr, hcol, hp, hleft, ho⟩ := h.fetch
  obtain ⟨pending', ho', hp', hleads⟩ := leads_empty hb hfetch hr hp hleft ho
  exact ⟨_, hleads, at_newLine hs rfl hp' ho'⟩

/-! ## The start of a document -/

/-- The scanner behind the mark at the start of a document. -/
theorem leads_documentStart (hs : Settled text) : ∃ next,
    Scanner.Leads { cursor := .start ("---\n" ++ text) } next ∧
      next.At (Outline.append ⟨[], -1, []⟩ [.documentStart]) true text 0 := by
  have hr : (Cursor.start ("---\n" ++ text)).rest = "---" ++ '\n' :: text := rfl
  have hp := (Cursor.placed_start ("---\n" ++ text)).along hr
  have hskip := Cursor.skip_along (by decide) hr
  have hfetch : Scanner.fetch { cursor := .start ("---\n" ++ text) } =
      .ok (place ((Cursor.start ("---\n" ++ text)).along "---" ('\n' :: text))
        (Outline.append ⟨[], -1, []⟩ [.documentStart]) false none 0) := by
    rw [← hskip]
    rfl
  refine ⟨_, leads_place hfetch (by decide) ?_, at_newLine hs rfl hp optional_none⟩
  show _ < (Cursor.start ("---\n" ++ text)).left
  rw [hp.left_eq, (Cursor.placed_start _).left_eq, hr, List.length_append]
  exact Nat.lt_add_of_pos_left (by decide)

end Synopsis.Yaml.Scanner
