import Mathlib.Order.Bounds.Defs
import Synopsis.Proofs.Help.Group
import Synopsis.Proofs.Help.Name
import Synopsis.Proofs.Text.Bytes
import Synopsis.Proofs.Text.Lines
import Synopsis.Table.Output

/-!
# Tables in columns

As text, a table has one line for each command. The width of the names is measured in bytes and the
padding in characters, and since a name has at most as many characters as bytes, all flags start in
one column. A name of a command holds no space, so nothing of the table is lost.

- `nameWidth_spec`: the width is the greatest length of a name.
- `lineOf_textLine`: the line of a command.
- `spacePieces_textLine`: the name and the flags are the pieces of the line.
- `toText_columns`: the lines of a table, and the table from its lines.
-/

namespace Synopsis

namespace Text

variable {word rest : Text} {list : List Text}

/-- The pieces of a text between its runs of spaces. -/
def spacePieces (text : Text) : List Text := (text.splitOn ' ').filter fun piece => !piece.isEmpty

theorem length_le_byteLength (text : Text) : text.length ≤ byteLength text := by
  induction text with
  | nil => exact Nat.le_refl _
  | cons c text ih =>
    have hc := c.utf8Size_pos
    show text.length + 1 ≤ c.utf8Size + byteLength text
    omega

theorem spacePieces_append_space (hn : word ≠ []) (hs : ' ' ∉ word) (rest : Text) :
    spacePieces (word ++ ' ' :: rest) = word :: spacePieces rest := by
  rw [spacePieces, List.splitOn_append_cons_self_of_not_mem hs, List.filter_cons_of_pos (by simpa)]
  rfl

theorem spacePieces_space (rest : Text) : spacePieces (' ' :: rest) = spacePieces rest := by
  have hsplit := List.splitOn_append_cons_self_of_not_mem (a := ' ') List.not_mem_nil rest
  rw [List.nil_append] at hsplit
  rw [spacePieces, hsplit]
  rfl

theorem spacePieces_spaces (n : Nat) (rest : Text) :
    spacePieces (List.replicate n ' ' ++ rest) = spacePieces rest := by
  induction n with
  | zero => rfl
  | succ n ih => rw [List.replicate_succ, List.cons_append, spacePieces_space, ih]

theorem spacePieces_joinWords (h : ∀ word ∈ list, word ≠ [] ∧ ' ' ∉ word) :
    spacePieces (joinWords list) = list := by
  by_cases hl : list = []
  · subst hl
    rfl
  · rw [spacePieces, joinWords, List.splitOn_intercalate ' ' (fun word hw => (h word hw).2) hl,
      List.filter_eq_self]
    intro word hw
    simpa using (h word hw).1

end Text

namespace Table

open Text

variable {table other : Table} {width : Nat} {name line : Text} {flags : FlagList}

/-! ## One line -/

/-- The width of the names is the greatest of their lengths in bytes. -/
theorem nameWidth_spec (table : Table) :
    (∀ name ∈ table.names, byteLength name ≤ table.nameWidth) ∧
      (table.names ≠ [] → ∃ name ∈ table.names, byteLength name = table.nameWidth) := by
  have hwidth : table.nameWidth = ((table.names.map byteLength).max?).getD 0 := by
    rw [nameWidth, List.foldl_max, Nat.zero_max]
  cases hm : (table.names.map byteLength).max? with
  | none =>
    rw [List.max?_eq_none_iff, List.map_eq_nil_iff] at hm
    rw [hm]
    exact ⟨fun name hn => absurd hn List.not_mem_nil, fun h => absurd rfl h⟩
  | some n =>
    obtain ⟨hmem, hle⟩ := List.max?_eq_some_iff.1 hm
    rw [hwidth, hm, Option.getD_some]
    exact ⟨fun name hn => hle _ (List.mem_map_of_mem hn), fun _ => List.mem_map.1 hmem⟩

/-- The line of a command: the name alone, or the name and spaces up to the column of the flags,
and the literals with one space between each two. -/
inductive LineOf (column : Nat) : Text × FlagList → Text → Prop
  | bare (name : Text) : LineOf column (name, []) name
  | listed {name front : Text} {flags : FlagList} (n : Nat) : flags ≠ [] →
      front = name ++ List.replicate n ' ' → front.length = column →
      LineOf column (name, flags) (front ++ joinWords (flags.map Flag.literal))

theorem textLine_nil (width : Nat) (name : Text) : textLine width name [] = name := rfl

theorem textLine_of_ne_nil (h : flags ≠ []) (width : Nat) (name : Text) :
    textLine width name flags =
      name ++ List.replicate (width - name.length + 2) ' ' ++
        joinWords (flags.map Flag.literal) := by
  rw [textLine, if_neg (by simpa using h), padRight, List.append_assoc name,
    ← List.replicate_append_replicate]
  rfl

/-- A name has at most as many characters as bytes, so the flags start behind the width. -/
theorem lineOf_textLine (h : byteLength name ≤ width) (flags : FlagList) :
    LineOf (width + 2) (name, flags) (textLine width name flags) := by
  by_cases hf : flags = []
  · subst hf
    exact .bare name
  · have hlength := length_le_byteLength name
    rw [textLine_of_ne_nil hf]
    refine .listed (width - name.length + 2) hf rfl ?_
    rw [List.length_append, List.length_replicate]
    omega

theorem literal_ne_nil_and_notMem (flag : Flag) : flag.literal ≠ [] ∧ ' ' ∉ flag.literal := by
  obtain ⟨more, hm⟩ := Help.exists_literal_eq_cons flag
  exact ⟨by rw [hm]; exact List.cons_ne_nil _ _, Help.notMem_literal (by decide)⟩

theorem notMem_textLine (h : '\n' ∉ name) (width : Nat) (flags : FlagList) :
    '\n' ∉ textLine width name flags := by
  by_cases hf : flags = []
  · subst hf
    exact h
  · rw [textLine_of_ne_nil hf]
    refine List.not_mem_append (List.not_mem_append h fun hc => ?_) fun hc => ?_
    · exact absurd (List.eq_of_mem_replicate hc) (by decide)
    · rcases mem_of_mem_joinWords hc with hspace | ⟨literal, hl, hc⟩
      · exact absurd hspace (by decide)
      · obtain ⟨flag, -, rfl⟩ := List.mem_map.1 hl
        exact Help.notMem_literal (by decide) hc

/-- The line of a name without spaces falls apart into the name and the literals. -/
theorem spacePieces_textLine (hn : name ≠ []) (hs : ' ' ∉ name) (width : Nat) (flags : FlagList) :
    spacePieces (textLine width name flags) = name :: flags.map Flag.literal := by
  by_cases hf : flags = []
  · subst hf
    rw [textLine_nil, spacePieces, List.splitOn_eq_singleton hs, List.filter_cons_of_pos (by simpa)]
    rfl
  · have hliterals : ∀ literal ∈ flags.map Flag.literal, literal ≠ [] ∧ ' ' ∉ literal := by
      intro literal hl
      obtain ⟨flag, -, rfl⟩ := List.mem_map.1 hl
      exact literal_ne_nil_and_notMem flag
    rw [textLine_of_ne_nil hf, List.replicate_succ, List.append_assoc, List.cons_append,
      spacePieces_append_space hn hs, spacePieces_spaces, spacePieces_joinWords hliterals]

/-! ## All lines -/

/-- The lines of a table. -/
def textLines (table : Table) : List Text :=
  table.entries.map fun entry => textLine table.nameWidth entry.1 entry.2

theorem splitOn_toText (h : ∀ name ∈ table.names, '\n' ∉ name) :
    table.toText.splitOn '\n' = table.textLines ++ [[]] := by
  have hlines : ∀ line ∈ table.textLines, '\n' ∉ line := by
    intro line hl
    obtain ⟨entry, he, rfl⟩ := List.mem_map.1 hl
    exact notMem_textLine (h _ (List.mem_map_of_mem he)) _ _
  have hsplit := splitOn_unlines_append hlines []
  rw [List.append_nil, List.splitOn_nil] at hsplit
  exact hsplit

theorem name_of_isCommandName (h : isCommandName name = true) :
    name ≠ [] ∧ ' ' ∉ name ∧ '\n' ∉ name := by
  obtain ⟨c, rest, rfl, -⟩ := Help.exists_name_eq_cons h
  have notMem : ∀ d, FlagKind.isLongChar d = false → d ∉ c :: rest := by
    intro d hd hm
    have hlong := Help.isLongChar_of_mem_name h hm
    rw [hd] at hlong
    cases hlong
  exact ⟨List.cons_ne_nil c rest, notMem ' ' (by decide), notMem '\n' (by decide)⟩

/-- The name and the literals of each command are the pieces of its line. -/
theorem map_spacePieces_textLines (h : ∀ name ∈ table.names, isCommandName name = true) :
    table.textLines.map spacePieces =
      table.entries.map fun entry => entry.1 :: entry.2.map Flag.literal := by
  rw [textLines, List.map_map, List.map_inj_left]
  intro entry he
  obtain ⟨hne, hspace, -⟩ := name_of_isCommandName (h _ (List.mem_map_of_mem he))
  exact spacePieces_textLine hne hspace _ _

theorem row_injective :
    Function.Injective fun entry : Text × FlagList => entry.1 :: entry.2.map Flag.literal := by
  have hliteral : Function.Injective Flag.literal := fun _ _ => Flag.literal_injective
  intro first second h
  obtain ⟨hname, hflags⟩ := List.cons.inj h
  exact Prod.ext hname (List.map_injective_iff.2 hliteral hflags)

/-- A table of names without line feeds has one line for each command, in the order of the bytes of
the names, and all flags start in the column two behind the greatest length of a name in bytes. If
the names are command names, the name and the flags are the pieces of the line, so different tables
have different texts. -/
theorem toText_columns :
    (∀ table : Table, (∀ name ∈ table.names, '\n' ∉ name) → ∃ lines,
      table.toText.splitOn '\n' = lines ++ [[]] ∧
      List.Forall₂ (LineOf (table.nameWidth + 2)) table.entries lines ∧
      table.names.Pairwise (fun a b => bytes a < bytes b) ∧
      (table.names ≠ [] →
        IsGreatest {n | ∃ name ∈ table.names, (bytes name).length = n} table.nameWidth) ∧
      ((∀ name ∈ table.names, isCommandName name = true) →
        List.Forall₂ (fun entry line => spacePieces line = entry.1 :: entry.2.map Flag.literal)
          table.entries lines)) ∧
    ∀ table other : Table, (∀ name ∈ table.names, isCommandName name = true) →
      (∀ name ∈ other.names, isCommandName name = true) → table ≠ other →
      table.toText ≠ other.toText := by
  have splits : ∀ table : Table, (∀ name ∈ table.names, isCommandName name = true) →
      table.toText.splitOn '\n' = table.textLines ++ [[]] := fun table h =>
    splitOn_toText fun name hn => (name_of_isCommandName (h name hn)).2.2
  refine ⟨fun table h => ⟨table.textLines, splitOn_toText h, ?_, ?_, fun hne => ?_, fun hc => ?_⟩,
    fun table other ht ho hne heq => hne ?_⟩
  · rw [textLines, List.forall₂_map_right_iff, List.forall₂_same]
    exact fun entry he =>
      lineOf_textLine ((nameWidth_spec table).1 _ (List.mem_map_of_mem he)) entry.2
  · exact List.Pairwise.imp bytes_lt_of_lt table.increasing
  · obtain ⟨hle, hmem⟩ := nameWidth_spec table
    obtain ⟨widest, hw, hlength⟩ := hmem hne
    refine ⟨⟨widest, hw, by rw [length_bytes, hlength]⟩, ?_⟩
    rintro n ⟨name, hn, rfl⟩
    rw [length_bytes]
    exact hle name hn
  · have hrows := (map_spacePieces_textLines hc).symm
    rw [← List.forall₂_eq_eq_eq, List.forall₂_map_left_iff, List.forall₂_map_right_iff] at hrows
    exact hrows.imp fun _ _ => Eq.symm
  · have hlines : table.textLines = other.textLines := by
      have hsplit := congrArg (List.splitOn '\n') heq
      rw [splits table ht, splits other ho] at hsplit
      exact List.append_cancel_right hsplit
    have hrows := congrArg (List.map spacePieces) hlines
    rw [map_spacePieces_textLines ht, map_spacePieces_textLines ho] at hrows
    have hentries := List.map_injective_iff.2 row_injective hrows
    cases table
    cases other
    cases hentries
    rfl

/-- A name with more bytes than characters sets the width, and a name that looks like a flag is told
from a flag. -/
theorem toText_columns_shown : ∃ (f : Flag) (wide dashed plain : Table), f.literal = "--n" ∧
    wide.entries = [("clean".toList, [f]), ("\u03b4\u03b4\u03b4".toList, [f])] ∧
    wide.nameWidth = 6 ∧
    (∀ name ∈ wide.names, '\n' ∉ name) ∧
    (∃ lines, wide.toText.splitOn '\n' = lines ++ [[]] ∧
      List.Forall₂ (LineOf (6 + 2)) wide.entries lines) ∧
    dashed.entries = [("-".toList, []), ("--n".toList, [])] ∧ plain.entries = [("-".toList, [f])] ∧
    (∀ name ∈ dashed.names, isCommandName name = true) ∧
    (∀ name ∈ plain.names, isCommandName name = true) ∧ dashed.toText ≠ plain.toText := by
  let f : Flag := ⟨.long, "n", rfl⟩
  let wide : Table := ⟨[("clean".toList, [f]), ("\u03b4\u03b4\u03b4".toList, [f])], by decide⟩
  let dashed : Table := ⟨[("-".toList, []), ("--n".toList, [])], by decide⟩
  let plain : Table := ⟨[("-".toList, [f])], by decide⟩
  have hnewline : ∀ name ∈ wide.names, '\n' ∉ name := by decide
  have hdashed : ∀ name ∈ dashed.names, isCommandName name = true := by decide
  have hplain : ∀ name ∈ plain.names, isCommandName name = true := by decide
  have hne : dashed ≠ plain := by decide
  obtain ⟨lines, hsplit, hlines, -⟩ := toText_columns.1 wide hnewline
  exact ⟨f, wide, dashed, plain, rfl, rfl, rfl, hnewline, ⟨lines, hsplit, hlines⟩, rfl, rfl,
    hdashed, hplain, toText_columns.2 dashed plain hdashed hplain hne⟩

end Table

end Synopsis
