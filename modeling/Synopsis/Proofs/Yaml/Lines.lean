import Mathlib.Data.List.Forall2
import Synopsis.Proofs.Yaml.Token

/-!
# Printed blocks

A printed block is a list of lines at one depth, each of which is scanned as its tokens up to where
the next one starts. A block is ended by the line behind it, which is indented less.

- `Printable`: what can be printed.
- `Line`, `line_intercalate`: lines of a block, one below the other.
- `Scanned`, `scanned_printAt`: every node that can be printed is scanned as its tokens.
- `tokens_print`: the tokens of a printed document.
-/

namespace Synopsis.Yaml

open Scanner (Settled Writable Brackets writable_ofText)

variable {scanner : Scanner} {outline : Outline} {allowed : Bool} {text rest after : Text}
  {start : Token} {depth : Nat} {level : Int} {node key value : Node} {style : Style}

/-! ## The tokens of a node -/

mutual

/-- The tokens of a printed node. -/
def Node.tokens : Node → List Token
  | .scalar text style _ => [.scalar text style]
  | .sequence [] => [.flowSequenceStart, .flowSequenceEnd]
  | .sequence (item :: items) =>
    .sequenceStart :: Node.tokensOfItems (item :: items) ++ [.blockEnd]
  | .mapping [] => [.flowMappingStart, .flowMappingEnd]
  | .mapping (entry :: entries) =>
    .mappingStart :: Node.tokensOfEntries (entry :: entries) ++ [.blockEnd]
  | .reference anchor => [.alias (Text.ofNat anchor)]

/-- The tokens of the items of a sequence. -/
def Node.tokensOfItems : List Node → List Token
  | [] => []
  | item :: items => .entry :: item.tokens ++ Node.tokensOfItems items

/-- The tokens of the entries of a mapping. -/
def Node.tokensOfEntries : List (Node × Node) → List Token
  | [] => []
  | (key, value) :: entries =>
    .key :: key.tokens ++ .value :: value.tokens ++ Node.tokensOfEntries entries

end

/-- A key that a reader takes for one when it comes to the colon. -/
def IsKey (node : Node) : Prop :=
  ∃ text style, node = .scalar text style none ∧ Writable text style ∧
    (scalarText text style).length ≤ 1024

/-- A node that can be printed: without tags and references, and with short keys. -/
inductive Printable : Node → Prop
  | scalar {text : Text} {style : Style} (hw : Writable text style) :
      Printable (.scalar text style none)
  | sequence {items : List Node} : (∀ item ∈ items, Printable item) → Printable (.sequence items)
  | mapping {entries : List (Node × Node)} (hk : ∀ entry ∈ entries, IsKey entry.1) :
      (∀ entry ∈ entries, Printable entry.2) → Printable (.mapping entries)

theorem isKey_ofText {text : Text} (h : text.length ≤ 170) : IsKey (.ofText text) := by
  refine ⟨text, _, rfl, writable_ofText text, ?_⟩
  exact Nat.le_trans (length_scalarText_le text _) (by omega)

theorem printable_ofText (text : Text) : Printable (.ofText text) := .scalar (writable_ofText text)

theorem printable_plain {text : Text} (h : isPlain text = true) : Printable (.plain text) :=
  .scalar fun _ => h

/-! ## Lines of a block -/

/-- The text is scanned as the tokens of one or more lines of a block at that depth, whose first
line starts the block unless it is open. -/
structure Line (start : Token) (depth : Nat) (text : Text) (tokens : List Token) : Prop where
  settled : ∀ after, Settled (text ++ after)
  scan : ∀ {scanner : Scanner} {outline : Outline} {rest : Text} {level : Int}, Settled rest →
    outline.indent ≤ (2 * depth : Nat) → level ≤ (2 * depth : Nat) →
    scanner.At outline true (text ++ '\n' :: (List.replicate level.toNat ' ' ++ rest))
      (2 * depth : Nat) →
    ∃ next, scanner.Leads next ∧
      next.At (((outline.roll (2 * depth) start).append tokens).unroll level) true rest level

/-- Lines one below the other. -/
theorem line_intercalate {texts : List Text} {tokens : List (List Token)}
    (h : List.Forall₂ (Line start depth) texts tokens) (hne : texts ≠ []) :
    Line start depth ((newLine depth).intercalate texts) tokens.flatten := by
  induction h with
  | nil => exact absurd rfl hne
  | @cons text line texts lines hline hlines ih =>
    cases texts with
    | nil =>
      cases hlines
      rw [List.intercalate_singleton, List.flatten_singleton]
      exact hline
    | cons next texts =>
      have ih := ih (List.cons_ne_nil next texts)
      rw [List.intercalate_cons_cons, List.flatten_cons]
      constructor
      case settled =>
        intro after
        rw [List.append_assoc, List.append_assoc]
        exact hline.settled _
      case scan =>
        intro scanner outline rest level hs hi hl hat
        rw [List.append_assoc, List.append_assoc, newLine, List.cons_append] at hat
        obtain ⟨middle, hleads, hmiddle⟩ := @Line.scan _ _ _ _ hline _ _ _ (2 * depth : Nat)
          (ih.settled _) hi (Int.le_refl _) hat
        -- The next line stands at the column of the block, which it neither ends nor starts again.
        have hindent : ((outline.roll (2 * depth) start).append line).indent = (2 * depth : Nat) :=
          Outline.indent_roll hi start
        rw [Outline.unroll_of_le (Int.le_of_eq hindent)] at hmiddle
        obtain ⟨last, hleads', hlast⟩ := ih.scan hs (Int.le_of_eq hindent) hl hmiddle
        refine ⟨last, hleads.trans hleads', ?_⟩
        rw [Outline.roll, if_pos (Int.le_of_eq hindent.symm), Outline.append_append] at hlast
        exact hlast

/-! ## Nodes -/

/-- A node that is not a scalar, which a document may consist of. -/
def Node.isContainer : Node → Bool
  | .sequence _ => true
  | .mapping _ => true
  | _ => false

/-- Where a printed node may stand: further right than the block around it, from where the next line
does not go on further right. A block starts at the column of its depth. -/
structure Fits (node : Node) (depth : Nat) (outline : Outline) (allowed : Bool) (column : Nat)
    (level : Int) : Prop where
  indent : outline.indent ≤ column
  level : level ≤ outline.indent
  scalar : 0 ≤ outline.indent ∨ node.isContainer = true
  block : node.isBlock = true → allowed = true ∧ column = 2 * depth ∧ outline.indent < column

/-- The node at that depth is scanned as its tokens, up to where the next line goes on. -/
structure Scanned (depth : Nat) (node : Node) : Prop where
  settled : ∀ after, Settled (printAt depth node ++ after)
  scan : ∀ {scanner : Scanner} {outline : Outline} {allowed : Bool} {column : Nat} {level : Int}
    {rest : Text}, Settled rest → Fits node depth outline allowed column level →
    scanner.At outline allowed
      (printAt depth node ++ '\n' :: (List.replicate level.toNat ' ' ++ rest)) column →
    ∃ next, scanner.Leads next ∧ next.At ((outline.append node.tokens).unroll level) true rest level

theorem settled_scalar (hw : Writable text style) (after : Text) :
    Settled (scalarText text style ++ after) := by
  cases style with
  | plain =>
    obtain ⟨c, others, rfl, hspace, -, -, hchars⟩ := isPlain_cases (hw rfl)
    have hword := isWordChar_of_isPlainChar
      (isPlainChar_of_needsQuotesAnywhere (hchars c List.mem_cons_self)) hspace
    exact ⟨clean_of_isWordChar hword _, ne_of_isWordChar hword (by decide)⟩
  | quoted => exact ⟨⟨rfl, rfl⟩, by simp [scalarText]⟩

theorem scanned_scalar (hw : Writable text style) (depth : Nat) :
    Scanned depth (.scalar text style none) where
  settled after := by
    rw [printAt]
    exact settled_scalar hw after
  scan hs hf h := by
    rw [printAt] at h
    have h0 := hf.scalar.resolve_right (by simp [Node.isContainer])
    rw [Node.tokens]
    exact h.scalar hw hs hf.indent h0 hf.level

/-- An empty container. -/
theorem scanned_empty {opening closing : Char} {first last : Token}
    (hb : Brackets opening closing first last) (hp : printAt depth node = [opening, closing])
    (ht : node.tokens = [first, last]) : Scanned depth node where
  settled after := by
    rw [hp]
    cases hb with
    | sequence => exact ⟨⟨rfl, rfl⟩, by simp⟩
    | mapping => exact ⟨⟨rfl, rfl⟩, by simp⟩
  scan hs _ h := by
    rw [hp] at h
    rw [ht]
    exact h.empty hb hs

/-- A container with lines of its own. -/
theorem scanned_block {tokens : List Token} (h : Line start depth (printAt depth node) tokens)
    (hb : node.isBlock = true) (ht : node.tokens = start :: tokens ++ [.blockEnd]) :
    Scanned depth node where
  settled := h.settled
  scan {scanner outline allowed column level rest} hs hf hat := by
    obtain ⟨rfl, rfl, hlt⟩ := hf.block hb
    have hlevel := Int.lt_of_le_of_lt hf.level hlt
    obtain ⟨next, hleads, hnext⟩ := h.scan hs hf.indent (Int.le_of_lt hlevel) hat
    rw [Outline.unroll_roll hlt hlevel, ← ht] at hnext
    exact ⟨next, hleads, hnext⟩

/-! ## Lines of containers -/

theorem line_item (h : Scanned (depth + 1) node) :
    Line .sequenceStart depth ("- " ++ printAt (depth + 1) node) (.entry :: node.tokens) where
  settled after := ⟨⟨rfl, rfl⟩, by simp⟩
  scan {scanner outline rest level} hs hi hl hat := by
    have hindent : ((outline.roll (2 * depth) .sequenceStart).append [.entry]).indent =
        (2 * depth : Nat) := Outline.indent_roll hi _
    obtain ⟨middle, hleads, hmiddle⟩ :=
      @Scanner.At.entry _ outline (2 * depth) scanner hat hi (h.settled _)
    obtain ⟨next, hleads', hnext⟩ := @Scanned.scan _ _ h _ _ _ (2 * depth + 2) level _ hs
      ⟨by omega, by omega, .inl (by omega), fun _ => ⟨rfl, by omega, by omega⟩⟩ hmiddle
    rw [Outline.append_append] at hnext
    exact ⟨next, hleads.trans hleads', hnext⟩

/-- The text behind a key: its colon and its value, on the same line or below. -/
def behindKey (depth : Nat) (value : Node) : Text :=
  ':' :: ((if value.isBlock then newLine (depth + 1) else [' ']) ++ printAt (depth + 1) value)

/-- A value is scanned behind its key. -/
theorem scan_value (h : Scanned (depth + 1) value) (hw : Writable text style)
    (hlength : (scalarText text style).length ≤ 1024) (hs : Settled rest)
    (hi : outline.indent ≤ (2 * depth : Nat)) (hl : level ≤ (2 * depth : Nat))
    (hat : scanner.At outline true (scalarText text style ++ (behindKey depth value ++
      '\n' :: (List.replicate level.toNat ' ' ++ rest))) (2 * depth : Nat)) :
    ∃ next, scanner.Leads next ∧ next.At (((outline.roll (2 * depth) .mappingStart).append
      (.key :: .scalar text style :: .value :: value.tokens)).unroll level) true rest level := by
  have hindent : ((outline.roll (2 * depth) .mappingStart).append
      [.key, .scalar text style, .value]).indent = (2 * depth : Nat) := Outline.indent_roll hi _
  rw [behindKey, List.cons_append, List.append_assoc] at hat
  by_cases hb : value.isBlock = true
  · rw [if_pos hb, newLine, List.cons_append] at hat
    obtain ⟨cursor, adjacent, hleads, hr, hc, hp⟩ := hat.key hw (by decide) hi hlength
    have hbelow := @Scanner.at_newLine _ _ ((outline.roll (2 * depth) .mappingStart).append
      [.key, .scalar text style, .value]) false none adjacent (2 * (depth + 1) : Nat)
      (h.settled _) hr hp Scanner.optional_none
    rw [Outline.unroll_of_le (by omega)] at hbelow
    obtain ⟨next, hleads', hnext⟩ := @Scanned.scan _ _ h _ _ _ (2 * (depth + 1)) level _ hs
      ⟨by omega, by omega, .inl (by omega), fun _ => ⟨rfl, rfl, by omega⟩⟩ hbelow
    rw [Outline.append_append] at hnext
    exact ⟨next, hleads.trans hleads', hnext⟩
  · rw [if_neg hb] at hat
    obtain ⟨cursor, adjacent, hleads, hr, hc, hp⟩ := hat.key hw (by decide) hi hlength
    have hbehind := @Scanner.at_space _ _ ((outline.roll (2 * depth) .mappingStart).append
      [.key, .scalar text style, .value]) false none adjacent (cursor.column + 1 : Nat)
      (h.settled _) hr (by omega) hp Scanner.optional_none
    rw [Outline.unroll_of_le (by omega)] at hbehind
    obtain ⟨next, hleads', hnext⟩ := @Scanned.scan _ _ h _ _ _ (cursor.column + 1) level _ hs
      ⟨by omega, by omega, .inl (by omega), fun hblock => absurd hblock hb⟩ hbehind
    rw [Outline.append_append] at hnext
    exact ⟨next, hleads.trans hleads', hnext⟩

theorem line_entry (hk : IsKey key) (h : Scanned (depth + 1) value) :
    Line .mappingStart depth (printAt (depth + 1) key ++ behindKey depth value)
      (.key :: key.tokens ++ .value :: value.tokens) := by
  obtain ⟨text, style, rfl, hw, hlength⟩ := hk
  rw [printAt, Node.tokens]
  exact {
    settled := fun after => by
      rw [List.append_assoc]
      exact settled_scalar hw _
    scan := fun hs hi hl hat => by
      rw [List.append_assoc] at hat
      exact scan_value h hw hlength hs hi hl hat }

/-! ## Printed nodes -/

theorem printItems_eq (depth : Nat) (items : List Node) :
    printItems depth items = items.map fun item => "- " ++ printAt (depth + 1) item := by
  induction items with
  | nil => rfl
  | cons item items ih => rw [printItems, ih, List.map_cons]

theorem printEntries_eq {entries : List (Node × Node)} (h : ∀ entry ∈ entries, IsKey entry.1)
    (depth : Nat) : printEntries depth entries =
      entries.map fun entry => printAt (depth + 1) entry.1 ++ behindKey depth entry.2 := by
  induction entries with
  | nil => rfl
  | cons entry entries ih =>
    obtain ⟨key, value⟩ := entry
    obtain ⟨text, style, rfl, -⟩ := h _ List.mem_cons_self
    rw [printEntries, ih fun entry he => h entry (List.mem_cons_of_mem _ he), List.map_cons,
      if_neg (by simp [Node.isBlock])]
    rfl

theorem tokensOfItems_eq (items : List Node) :
    Node.tokensOfItems items = (items.map fun item => Token.entry :: item.tokens).flatten := by
  induction items with
  | nil => rfl
  | cons item items ih => rw [Node.tokensOfItems, ih]; rfl

theorem tokensOfEntries_eq (entries : List (Node × Node)) : Node.tokensOfEntries entries =
    (entries.map fun entry =>
      Token.key :: entry.1.tokens ++ Token.value :: entry.2.tokens).flatten := by
  induction entries with
  | nil => rfl
  | cons entry entries ih =>
    rw [Node.tokensOfEntries, ih, List.map_cons, List.flatten_cons]

/-- A node that can be printed is scanned as its tokens. -/
theorem scanned_printAt (h : Printable node) (depth : Nat) : Scanned depth node := by
  induction h generalizing depth with
  | scalar hw => exact scanned_scalar hw depth
  | @sequence items hitems ih =>
    cases items with
    | nil => exact scanned_empty .sequence (by rw [printAt]; rfl) (by rw [Node.tokens])
    | cons item items =>
      refine scanned_block ?_ rfl (by rw [Node.tokens])
      rw [printAt, printItems_eq, tokensOfItems_eq]
      refine line_intercalate ?_ (List.cons_ne_nil _ _)
      rw [List.forall₂_map_left_iff, List.forall₂_map_right_iff, List.forall₂_same]
      exact fun item hi => line_item (ih item hi (depth + 1))
  | @mapping entries hk hentries ih =>
    cases entries with
    | nil => exact scanned_empty .mapping (by rw [printAt]; rfl) (by rw [Node.tokens])
    | cons entry entries =>
      refine scanned_block ?_ rfl (by rw [Node.tokens])
      rw [printAt, printEntries_eq hk, tokensOfEntries_eq]
      refine line_intercalate ?_ (List.cons_ne_nil _ _)
      rw [List.forall₂_map_left_iff, List.forall₂_map_right_iff, List.forall₂_same]
      exact fun entry he => line_entry (hk entry he) (ih entry he (depth + 1))

/-- A printed container is cut into its tokens. -/
theorem tokens_print (h : Printable node) (hc : node.isContainer = true) :
    tokens (print node) = .ok (.documentStart :: node.tokens ++ [.streamEnd]) := by
  have hscan := scanned_printAt h 0
  obtain ⟨first, hfirst, hat⟩ := Scanner.leads_documentStart (hscan.settled ['\n'])
  have hfits : Fits node 0 (Outline.append ⟨[], -1, []⟩ [.documentStart]) true 0 (-1) :=
    ⟨by decide, by decide, .inr hc, fun _ => ⟨rfl, rfl, by decide⟩⟩
  obtain ⟨last, hlast, hend⟩ := hscan.scan (⟨⟨rfl, rfl⟩, by decide⟩ : Settled []) hfits hat
  have hprint : print node = "---\n" ++ (printAt 0 node ++ ['\n']) := List.append_assoc _ _ _
  have hleft : (Cursor.start (print node)).left < (print node).length + 2 := by
    rw [(Cursor.placed_start _).left_eq]
    exact Nat.lt_add_of_pos_right Nat.zero_lt_two
  rw [← hprint] at hfirst
  obtain ⟨more, hmore, he⟩ := hfirst.trans hlast ((print node).length + 2) hleft
  rw [tokens, he, hend.run (Nat.zero_lt_of_lt hmore)]
  simp [Outline.append, Outline.unroll, Outline.close]

end Synopsis.Yaml
