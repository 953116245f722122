import Mathlib.Data.List.TakeWhile
import Synopsis.Proofs.Dictionary
import Synopsis.Proofs.Help.Name
import Synopsis.Proofs.Help.Table
import Synopsis.Proofs.Text.Lines

/-!
# Tables in a help text

A table is laid out in a help text command by command, each with the rows of its flags below it.
The rows divide the flags in any way, and descriptions stand where they are skipped. Whatever the
division and the descriptions, the text is read as the table.

- `classify_read_line`, `classify_read_row`: the lines of a block are understood.
- `Reading.State.foldl_block`: a block declares its command with its flags.
- `read_layout`: reading the text gives the table, and leaves no line unresolved.
-/

namespace Synopsis

/-- The headers are those of a policy that names none. -/
def Policy.DefaultHeaders (policy : Policy) : Prop :=
  policy.startHeaders = ({} : Policy).startHeaders ∧ policy.endHeaders = ({} : Policy).endHeaders

namespace Help

open Reading Text

variable {policy : Policy}

/-- A command line and the rows below it. Behind the name stands nothing, or a blank and any
text. -/
structure Block where
  name : Text
  note : Text
  rows : List Row
  blank : note.head?.all isBlank = true
  closed : '\n' ∉ note

/-- The row as a line on the flags of a command. -/
def Row.line (owner : Text) (row : Row) : Text :=
  "    " ++ (owner ++ ' ' :: (row.groups ++ row.behind))

theorem Row.notMem_behind (row : Row) : '\n' ∉ row.behind := by
  obtain ⟨first, rest, description, closed⟩ := row
  cases description with
  | none => simp [behind]
  | some description => simp [behind, closed description rfl]

namespace Block

/-- The command line. -/
def line (block : Block) : Text := "  " ++ (block.name ++ block.note)

/-- The command line and the lines below it. -/
def lines (block : Block) : List Text := block.line :: block.rows.map (Row.line block.name)

/-- The flags of all rows. -/
def flags (block : Block) : List Flag := block.rows.flatMap Row.flags

/-- The command with its flags, as a table has them. -/
def entry (block : Block) : Text × FlagList := (block.name, block.flags)

end Block

/-- The help text of the blocks. -/
def layout (blocks : List Block) : Text := unlines ("Options:".toList :: blocks.flatMap Block.lines)

/-! ## What the lines are -/

section Classify

variable {c : Char} {name rest : Text}

theorem classify_start (hp : policy.DefaultHeaders) :
    Line.classify policy "Options:" = .startHeader := by
  rw [Line.classify, Policy.closes, Policy.opens, hp.1, hp.2]
  decide +kernel

/-- A text that starts as a name does is no header. -/
theorem no_header (hp : policy.DefaultHeaders) (hc : FlagKind.isLongChar c = true) (rest : Text) :
    policy.opens (c :: rest) = false ∧ policy.closes (c :: rest) = false := by
  have ho := ne_of_isLongChar hc (d := 'O') (by decide)
  have he := ne_of_isLongChar hc (d := 'E') (by decide)
  have hg := ne_of_isLongChar hc (d := 'G') (by decide)
  rw [Policy.opens, Policy.closes, hp.1, hp.2]
  simp [startsWith, after?, ho, he, hg]

/-- A line that starts with a name is no header, so its indentation tells what it is. -/
theorem classify_indented (hp : policy.DefaultHeaders) (hn : isCommandName name = true) (n : Nat)
    (rest : Text) :
    Line.classify policy (List.replicate n ' ' ++ (name ++ rest)) =
      if n = 2 then
        match Line.commandName? (name ++ rest) with
        | some name => .command name
        | none => .other
      else if n = 4 then
        .flagLine ((name ++ rest).takeWhile (!isBlank ·)) ((name ++ rest).dropWhile (!isBlank ·))
      else .other := by
  obtain ⟨c, more, rfl, hc⟩ := exists_name_eq_cons hn
  rw [List.cons_append]
  generalize more ++ rest = rest
  have hspace : ∀ d ∈ List.replicate n ' ', isBlank d = true := by
    intro d hd
    rw [List.eq_of_mem_replicate hd]
    decide
  have hindent : Line.indentation (List.replicate n ' ' ++ c :: rest) = n := by
    have hs := ne_of_isLongChar hc (d := ' ') (by decide)
    rw [Line.indentation, List.takeWhile_append_of_pos (by simp),
      List.takeWhile_cons_of_neg (by simpa using Ne.symm hs)]
    simp
  have hdrop : (List.replicate n ' ' ++ c :: rest).drop n = c :: rest :=
    List.drop_left' List.length_replicate
  obtain ⟨trimmed, ht⟩ := exists_trim_eq_cons hspace (isBlank_of_isLongChar hc) rest
  obtain ⟨hopens, hcloses⟩ := no_header hp hc trimmed
  rw [Line.classify, ht, hopens, hcloses, hindent]
  by_cases h2 : n = 2
  · subst h2
    rw [hdrop]
    rfl
  · by_cases h4 : n = 4
    · subst h4
      rw [hdrop]
      rfl
    · simp [h2, h4]

theorem classify_command (hp : policy.DefaultHeaders) (hn : isCommandName name = true)
    (hr : rest.head?.all isBlank = true) :
    Line.classify policy ("  " ++ (name ++ rest)) = .command name := by
  have hlong : ∀ c ∈ name, FlagKind.isLongChar c = true := fun c => isLongChar_of_mem_name hn
  have hstop : rest.takeWhile FlagKind.isLongChar = [] ∧
      rest.dropWhile FlagKind.isLongChar = rest := by
    cases rest with
    | nil => exact ⟨rfl, rfl⟩
    | cons d rest =>
      have hd := isLongChar_of_isBlank hr
      simp [hd]
  have hname : Line.commandName? (name ++ rest) = some name := by
    rw [Line.commandName?, List.takeWhile_append_of_pos hlong,
      List.dropWhile_append_of_pos hlong, hstop.1, hstop.2, List.append_nil, hr]
    obtain ⟨c, more, rfl, -⟩ := exists_name_eq_cons hn
    rfl
  have hline := classify_indented hp hn 2 rest
  rw [hname] at hline
  exact hline

theorem classify_flagLine (hp : policy.DefaultHeaders) (hn : isCommandName name = true) :
    Line.classify policy ("    " ++ (name ++ ' ' :: rest)) = .flagLine name (' ' :: rest) := by
  have hword : ∀ c ∈ name, (!isBlank c) = true := by
    intro c hc
    rw [isBlank_of_isLongChar (isLongChar_of_mem_name hn hc)]
    rfl
  have hspace : isBlank ' ' = true := by decide
  have htake : (name ++ ' ' :: rest).takeWhile (!isBlank ·) = name := by
    rw [List.takeWhile_append_of_pos hword]
    simp [hspace]
  have hdrop : (name ++ ' ' :: rest).dropWhile (!isBlank ·) = ' ' :: rest := by
    rw [List.dropWhile_append_of_pos hword]
    simp [hspace]
  have hline := classify_indented hp hn 4 (' ' :: rest)
  rw [htake, hdrop] at hline
  exact hline

end Classify

/-! ## What the lines of a block are -/

section Read

variable {block : Block} {read : Text} {row : Row} {name : Text}

theorem notMem_name {c : Char} (hn : isCommandName name = true) (hc : isBlank c = true) :
    c ∉ name := by
  intro h
  rw [isBlank_of_isLongChar (isLongChar_of_mem_name hn h)] at hc
  cases hc

/-- A command line is understood, whatever stands behind the name. -/
theorem classify_read_line (hp : policy.DefaultHeaders) (hn : isCommandName block.name = true)
    (hr : ReadFor block.line read) : Line.classify policy read = .command block.name := by
  have hfront : '\r' ∉ "  ".toList ++ block.name := by
    simp [notMem_name hn (c := '\r') (by decide)]
  have hline : block.line = ("  ".toList ++ block.name) ++ block.note := by
    simp [Block.line]
  rw [hline] at hr
  obtain ⟨rest, rfl, hrest⟩ := hr.of_append hfront
  rw [List.append_assoc]
  refine classify_command hp hn ?_
  rcases hrest with rfl | hnote
  · exact block.blank
  · have hblank := block.blank
    rw [hnote, List.head?_append] at hblank
    cases rest with
    | nil => rfl
    | cons c rest => exact hblank

/-- A line on flags is understood, whatever the description says. -/
theorem classify_read_row (hp : policy.DefaultHeaders) (hn : isCommandName name = true)
    (hf : ∀ flag ∈ row.flags, flag.EndsInLetter) (hr : ReadFor (row.line name) read) :
    ∃ body, Line.classify policy read = .flagLine name body ∧ flagsOf body = row.flags := by
  have hfront : '\r' ∉ "    ".toList ++ (name ++ ' ' :: row.groups) := by
    have hname := notMem_name hn (c := '\r') (by decide)
    have hgroups := row.singleSpaced.notMem (c := '\r') (by decide) (by decide)
    simp [hname, hgroups]
  have hline : row.line name = ("    ".toList ++ (name ++ ' ' :: row.groups)) ++ row.behind := by
    simp [Row.line]
  rw [hline] at hr
  obtain ⟨behind, rfl, hbehind⟩ := hr.of_append hfront
  refine ⟨' ' :: (row.groups ++ behind), ?_, Row.flagsOf_groups hf ?_⟩
  · rw [List.append_assoc, List.append_assoc, List.cons_append]
    exact classify_flagLine hp hn
  · unfold Row.behind at hbehind
    split at hbehind
    · next description _ =>
      have hspaces : '\r' ∉ "  ".toList := by decide
      obtain ⟨rest, rfl, -⟩ := hbehind.of_append hspaces
      exact Or.inr ⟨rest, rfl⟩
    · rcases hbehind with rfl | h
      · exact Or.inl rfl
      · simp at h

end Read

/-- The block can be part of a table that a help text can give under the policy. -/
structure Block.Allowed (policy : Policy) (block : Block) : Prop where
  isName : isCommandName block.name = true
  included : policy.excludes block.name = false
  nodup : block.flags.Nodup
  endsInLetter : ∀ flag ∈ block.flags, flag.EndsInLetter

/-- The lines are a command line and flag lines of that command, and say what the block says. -/
inductive Says (policy : Policy) (block : Block) : List Text → Prop
  | block {line : Text} {rows : List Text} :
      Line.classify policy line = .command block.name →
      (∀ row ∈ rows, ∃ body, Line.classify policy row = .flagLine block.name body) →
      namedFlags policy block.name rows = block.flags →
      Says policy block (line :: rows)

theorem namedFlags_cons_flagLine {name line body : Text}
    (hc : Line.classify policy line = .flagLine name body) (lines : List Text) :
    namedFlags policy name (line :: lines) = flagsOf body ++ namedFlags policy name lines := by
  simp [namedFlags, hc]

theorem read_rows {name : Text} {rows : List Row} {lines : List Text} (hp : policy.DefaultHeaders)
    (hn : isCommandName name = true) (hf : ∀ row ∈ rows, ∀ flag ∈ row.flags, flag.EndsInLetter)
    (hr : List.Forall₂ ReadFor (rows.map (Row.line name)) lines) :
    (∀ line ∈ lines, ∃ body, Line.classify policy line = .flagLine name body) ∧
      namedFlags policy name lines = rows.flatMap Row.flags := by
  induction rows generalizing lines with
  | nil =>
    cases hr
    simp [namedFlags]
  | cons row rows ih =>
    rw [List.forall_mem_cons] at hf
    cases hr with
    | @cons _ line _ lines hline hlines =>
      obtain ⟨body, hc, hbody⟩ := classify_read_row hp hn hf.1 hline
      obtain ⟨hall, hflags⟩ := ih hf.2 hlines
      refine ⟨List.forall_mem_cons.2 ⟨⟨body, hc⟩, hall⟩, ?_⟩
      rw [namedFlags_cons_flagLine hc, hbody, hflags, List.flatMap_cons]

theorem says_of_readFor {block : Block} {lines : List Text} (hp : policy.DefaultHeaders)
    (ha : block.Allowed policy) (hr : List.Forall₂ ReadFor block.lines lines) :
    Says policy block lines := by
  have letters : ∀ row ∈ block.rows, ∀ flag ∈ row.flags, flag.EndsInLetter :=
    fun row hm flag hf => ha.endsInLetter flag (List.mem_flatMap.2 ⟨row, hm, hf⟩)
  cases hr with
  | cons hline hlines =>
    obtain ⟨hall, hflags⟩ := read_rows hp ha.isName letters hlines
    exact .block (classify_read_line hp ha.isName hline) hall hflags

/-- The lines of a layout are read block by block. -/
theorem exists_says {blocks : List Block} {lines : List Text} (hp : policy.DefaultHeaders)
    (ha : ∀ block ∈ blocks, block.Allowed policy)
    (hr : List.Forall₂ ReadFor (blocks.flatMap Block.lines) lines) :
    ∃ parts, lines = parts.flatten ∧ List.Forall₂ (Says policy) blocks parts := by
  induction blocks generalizing lines with
  | nil =>
    cases hr
    exact ⟨[], rfl, .nil⟩
  | cons block blocks ih =>
    rw [List.forall_mem_cons] at ha
    rw [List.flatMap_cons] at hr
    have htake := List.forall₂_take block.lines.length hr
    have hdrop := List.forall₂_drop block.lines.length hr
    rw [List.take_left] at htake
    rw [List.drop_left] at hdrop
    obtain ⟨parts, hparts, hsays⟩ := ih ha.2 hdrop
    refine ⟨lines.take block.lines.length :: parts, ?_, .cons (says_of_readFor hp ha.1 htake) hsays⟩
    rw [List.flatten_cons, ← hparts, List.take_append_drop]

/-! ## Reading the blocks -/

theorem classify_ne_endHeader {block : Block} {lines : List Text} (h : Says policy block lines) :
    ∀ line ∈ lines, Line.classify policy line ≠ .endHeader := by
  cases h with
  | block hc hrows _ =>
    rw [List.forall_mem_cons]
    refine ⟨by simp [hc], fun row hrow => ?_⟩
    obtain ⟨body, hb⟩ := hrows row hrow
    simp [hb]

theorem flatten_ne_endHeader {blocks : List Block} {parts : List (List Text)}
    (h : List.Forall₂ (Says policy) blocks parts) :
    ∀ line ∈ parts.flatten, Line.classify policy line ≠ .endHeader := by
  induction h with
  | nil => simp
  | cons hblock _ ih =>
    intro line hl
    rcases List.mem_append.1 hl with hl | hl
    · exact classify_ne_endHeader hblock line hl
    · exact ih line hl

namespace Reading.State

variable {state : State} {lines : List Text} {line name : Text} {block : Block}

/-- The lines that were left out. -/
def unresolved (state : State) : List Text := state.reading.diagnostics.unresolved

theorem unresolved_command (hc : Line.classify policy line = .command name) :
    (state.stepInside policy line).unresolved = state.unresolved := by
  rw [stepInside, hc]
  show (state.declare policy name).unresolved = state.unresolved
  unfold declare
  split <;> rfl

theorem unresolved_flagLines (hl : state.latest = some name)
    (hc : ∀ line ∈ lines, ∃ body, Line.classify policy line = .flagLine name body) :
    (lines.foldl (·.stepInside policy ·) state).unresolved = state.unresolved := by
  induction lines generalizing state with
  | nil => rfl
  | cons line lines ih =>
    rw [List.forall_mem_cons] at hc
    obtain ⟨⟨body, hbody⟩, hlines⟩ := hc
    have hcommand : isCommandLine policy line = false := by rw [isCommandLine, hbody]
    have hlatest := (stepInside_of_not_command state name hcommand).1
    have hstep : (state.stepInside policy line).unresolved = state.unresolved := by
      rw [stepInside, hbody]
      show (state.addFlags policy line name body).unresolved = state.unresolved
      rw [addFlags, if_pos hl]
      split <;> rfl
    rw [List.foldl_cons, ih (hlatest.trans hl) hlines, hstep]

/-- A block declares its command with its flags, changes no other command and leaves no line
out. -/
theorem foldl_block (state : State) (ha : block.Allowed policy) (hs : Says policy block lines) :
    (lines.foldl (·.stepInside policy ·) state).flags? block.name = some block.flags ∧
      (∀ name, name ≠ block.name →
        (lines.foldl (·.stepInside policy ·) state).flags? name = state.flags? name) ∧
      (lines.foldl (·.stepInside policy ·) state).unresolved = state.unresolved := by
  cases hs with
  | @block line rows hc hrows hflags =>
    have hcommand : ∀ row ∈ rows, isCommandLine policy row = false := by
      intro row hrow
      obtain ⟨body, hb⟩ := hrows row hrow
      rw [isCommandLine, hb]
    have hother : ∀ name, ∀ row ∈ rows, Line.classify policy row ≠ .command name := by
      intro name row hrow hn
      have hrow := hcommand row hrow
      rw [isCommandLine_of_classify hn] at hrow
      cases hrow
    obtain ⟨hlatest, hdeclared⟩ := stepInside_command state block.name hc
    rw [if_pos ⟨rfl, ha.included⟩] at hdeclared
    rw [List.foldl_cons]
    refine ⟨?_, fun name hn => ?_, ?_⟩
    · rw [(flags?_block hlatest ha.included hcommand).2, hdeclared, hflags, Option.map_some]
      exact congrArg some (FlagList.ofFlags_of_nodup ha.nodup)
    · rw [flags?_other (by rw [hlatest]; simpa using Ne.symm hn) (hother name),
        (stepInside_command state name hc).2, if_neg fun h => hn h.1]
    · rw [unresolved_flagLines hlatest hrows, unresolved_command hc]

/-- Blocks of different commands declare these commands with their flags, and leave no line
out. -/
theorem foldl_blocks {blocks : List Block} {parts : List (List Text)} (state : State)
    (ha : ∀ block ∈ blocks, block.Allowed policy) (hd : (blocks.map Block.name).Nodup)
    (hs : List.Forall₂ (Says policy) blocks parts) :
    (∀ block ∈ blocks, (parts.flatten.foldl (·.stepInside policy ·) state).flags? block.name =
        some block.flags) ∧
      (∀ name, name ∉ blocks.map Block.name →
        (parts.flatten.foldl (·.stepInside policy ·) state).flags? name = state.flags? name) ∧
      (parts.flatten.foldl (·.stepInside policy ·) state).unresolved = state.unresolved := by
  induction hs generalizing state with
  | nil => simp
  | @cons block lines blocks parts hblock _ ih =>
    rw [List.forall_mem_cons] at ha
    rw [List.map_cons, List.nodup_cons] at hd
    obtain ⟨hflags, hothers, hunresolved⟩ := foldl_block state ha.1 hblock
    rw [List.flatten_cons, List.foldl_append]
    obtain ⟨hmem, hnotMem, hrest⟩ := ih (lines.foldl (·.stepInside policy ·) state) ha.2 hd.2
    refine ⟨List.forall_mem_cons.2 ⟨?_, hmem⟩, fun name hn => ?_, hrest.trans hunresolved⟩
    · rw [hnotMem _ hd.1, hflags]
    · rw [List.map_cons, List.mem_cons, not_or] at hn
      rw [hnotMem name hn.2, hothers name hn.1]

end Reading.State

/-! ## Reading the text -/

/-- The region of a help text is what follows the line that opens it, if no line closes it. -/
theorem region_of_start {help start : Text} {lines : List Text}
    (hl : Text.lines help = start :: lines) (hs : Line.classify policy start = .startHeader)
    (he : ∀ line ∈ lines, Line.classify policy line ≠ .endHeader) : region policy help = lines := by
  rw [region, regionOf, hl, List.dropWhile_cons_of_neg (by simp [hs]), List.drop_one,
    List.tail_cons, List.takeWhile_eq_self_iff]
  simpa using he

/-- The lines of a layout are whole lines. -/
theorem notMem_layout {blocks : List Block} (ha : ∀ block ∈ blocks, block.Allowed policy) :
    ∀ line ∈ "Options:".toList :: blocks.flatMap Block.lines, '\n' ∉ line ∧ line ≠ [] := by
  rw [List.forall_mem_cons]
  refine ⟨by decide, fun line hl => ?_⟩
  obtain ⟨block, hb, hl⟩ := List.mem_flatMap.1 hl
  have hname := notMem_name (ha block hb).isName (c := '\n') (by decide)
  rcases List.mem_cons.1 hl with rfl | hl
  · simp [Block.line, hname, block.closed]
  · obtain ⟨row, -, rfl⟩ := List.mem_map.1 hl
    have hgroups := row.singleSpaced.notMem (c := '\n') (by decide) (by decide)
    simp [Row.line, hname, hgroups, row.notMem_behind]

/-- The lines of a layout are the line that opens the region and the lines of the blocks. -/
theorem exists_lines_layout {help : Text} {blocks : List Block} (hp : policy.DefaultHeaders)
    (ha : ∀ block ∈ blocks, block.Allowed policy)
    (hh : help = layout blocks ∨ help ++ ['\n'] = layout blocks) :
    ∃ parts, region policy help = parts.flatten ∧ List.Forall₂ (Says policy) blocks parts := by
  have hread := lines_written (notMem_layout ha) hh
  generalize hlines : Text.lines help = lines at hread
  cases hread with
  | @cons _ start _ lines hstart hread =>
    obtain ⟨parts, rfl, hsays⟩ := exists_says hp ha hread
    have hopen : start = "Options:".toList := by
      rcases hstart with h | h
      · exact h
      · have := congrArg List.getLast? h
        rw [List.getLast?_concat] at this
        exact absurd this (by decide)
    have hstart : Line.classify policy start = .startHeader := hopen ▸ classify_start hp
    exact ⟨parts, region_of_start hlines hstart (flatten_ne_endHeader hsays), hsays⟩

/-- A table that is laid out in a help text is read back, whatever the order of its commands, the
rows of its flags and the descriptions, and no line of the text is left unresolved. -/
theorem read_layout {table : Table} {blocks : List Block} {help : Text}
    (hp : policy.DefaultHeaders)
    (hn : ∀ name ∈ table.names, isCommandName name = true ∧ policy.excludes name = false)
    (hf : ∀ entry ∈ table.entries, entry.2.Nodup ∧ ∀ flag ∈ entry.2, flag.EndsInLetter)
    (hb : (blocks.map Block.entry).Perm table.entries)
    (hh : help = layout blocks ∨ help ++ ['\n'] = layout blocks) :
    (read policy help).table = table ∧ (read policy help).diagnostics.unresolved = [] := by
  have hmem : ∀ block ∈ blocks, block.entry ∈ table.entries :=
    fun block h => hb.subset (List.mem_map_of_mem h)
  have ha : ∀ block ∈ blocks, block.Allowed policy := by
    intro block h
    obtain ⟨hname, hincluded⟩ := hn block.name (List.mem_map_of_mem (hmem block h))
    obtain ⟨hnodup, hletter⟩ := hf block.entry (hmem block h)
    exact ⟨hname, hincluded, hnodup, hletter⟩
  have hnames : (blocks.map Block.name).Perm table.names := by
    have := hb.map Prod.fst
    rwa [List.map_map] at this
  have hd : (blocks.map Block.name).Nodup := hnames.nodup_iff.2 (Dictionary.nodup_keys table)
  obtain ⟨parts, hregion, hsays⟩ := exists_lines_layout hp ha hh
  obtain ⟨hflags, hothers, hunresolved⟩ := State.foldl_blocks State.opened ha hd hsays
  rw [← hregion] at hflags hothers hunresolved
  constructor
  · refine Dictionary.ext_lookup fun name => ?_
    rw [table_read]
    by_cases h : name ∈ table.names
    · obtain ⟨block, hblock, rfl⟩ := List.mem_map.1 (hnames.mem_iff.2 h)
      exact (hflags block hblock).trans (Dictionary.mem_entries.1 (hmem block hblock)).symm
    · have hnone : table.lookup name = none := by
        rw [← Option.not_isSome_iff_eq_none, Dictionary.isSome_lookup]
        exact h
      rw [hnone]
      exact hothers name fun hm => h (hnames.mem_iff.1 hm)
  · rw [diagnostics_read]
    exact congrArg List.reverse hunresolved

/-- A command without flags, and one with three flags on two lines. -/
def shown : List Block := [
  { name := "list", note := "  Show what there is", rows := [],
    blank := by decide, closed := by decide },
  { name := "clean", note := [], blank := by decide, closed := by decide,
    rows := [
      { first := .pair ⟨.short, "f", by decide⟩ ⟨.long, "force", by decide⟩ false true rfl rfl,
        rest := [], description := some "Do not ask", closed := by decide },
      { first := .single ⟨.short, "i", by decide⟩, rest := [], description := none,
        closed := by decide }] }]

/-- The table with these two commands. -/
def shownTable : Table where
  entries := [
    ("clean", [⟨.short, "f", by decide⟩, ⟨.long, "force", by decide⟩, ⟨.short, "i", by decide⟩]),
    ("list", [])]
  increasing := by decide

theorem read_layout_shown :
    (read {} (layout shown)).table = shownTable ∧
      (read {} (layout shown)).diagnostics.unresolved = [] := by
  have hb : (shown.map Block.entry).Perm shownTable.entries := .swap _ _ []
  exact read_layout ⟨rfl, rfl⟩ (by decide) (by decide) hb (Or.inl rfl)

example : layout shown =
    Text.ofLines ["Options:", "  list  Show what there is", "  clean",
      "    clean -f, --force  Do not ask", "    clean -i"] := by decide

end Help

end Synopsis
