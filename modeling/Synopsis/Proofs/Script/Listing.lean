import Mathlib.Data.List.Nodup
import Synopsis.Project.Render
import Synopsis.Proofs.Flag.Order
import Synopsis.Proofs.Script.Quoting
import Synopsis.Proofs.Text.Lines

/-!
# Flags that are listed

A flag block lists its flags in the syntax of its dialect: bash once, zsh twice, and fish in one
statement for each flag. Each listing is read back on its own, and all of them give the literals in
render order.

- `statement?_append`: a statement is read back, whatever follows it.
- `exclusions?_flagBlock`, `alternatives?_flagBlock`: the two lists of a zsh block.
- `lines_flagBlock`: the lines of a fish block are its statements.
- `flagBlock_lists`: all dialects list the same flags, and so does a README.
-/

namespace Synopsis.Script

open Text

variable {group : FlagGroup} {flags : List Flag} {flag : Flag} {text rest : Text}

/-- The literals in render order. -/
def listed (flags : List Flag) : List Text := (Flag.renderOrder flags).map Flag.literal

/-! ## Reading the listings -/

/-- What stands between the first opening mark and the next closing mark, and what follows. -/
def between? (opening closing text : Text) : Option (Text × Text) := do
  let (_, rest) ← splitAtFirst? opening text
  splitAtFirst? closing rest

/-- The alternatives that a word stands for: those between its braces, or the word itself. -/
def choices? : Text → Option (List Text)
  | '\x7b' :: text => (splitAtFirst? ['\x7d'] text).map fun found => found.1.splitOn ','
  | word => some [word]

/-- The flags that a specification excludes. -/
def exclusions? (block : Text) : Option (List Text) := do
  let (inside, _) ← between? "'(" ")'" block
  some (inside.splitOn ' ')

/-- The flags that a specification offers, which stand between its two quotations. -/
def alternatives? (block : Text) : Option (List Text) := do
  let (_, rest) ← between? "'(" ")'" block
  let (word, _) ← splitAtFirst? "'" rest
  choices? word

/-- How a statement starts that completes a flag of the group. -/
def statementHead (group : FlagGroup) : Text :=
  "complete -c " ++ group.program ++ " -f -n \"__fish_seen_subcommand_from " ++ group.command
    ++ "\" "

/-- The dashes of a flag that is announced, and what follows. -/
def announced? : Text → Option (Text × Text)
  | '-' :: 's' :: ' ' :: text => some ("-", text)
  | '-' :: 'l' :: ' ' :: text => some ("--", text)
  | _ => none

/-- The flag of the statement at the start of a text, and what follows the statement. -/
def statement? (group : FlagGroup) (text : Text) : Option (Text × Text) := do
  let text ← after? (statementHead group) text
  let (dashes, text) ← announced? text
  let rest ← after? (" -d " ++ singleQuoted group.description) (text.dropWhile (· ≠ ' '))
  some (dashes ++ text.takeWhile (· ≠ ' '), rest)

/-! ## One statement -/

theorem statement_eq (group : FlagGroup) (flag : Flag) : statement group flag =
    statementHead group ++ (announcement flag.kind ++ ((' ' :: flag.name) ++
      (" -d " ++ singleQuoted group.description))) := by
  show statementHead group ++ announcement flag.kind ++ (' ' :: flag.name) ++ " -d " ++
    singleQuoted group.description = _
  rw [List.append_assoc, List.append_assoc, List.append_assoc]

theorem announced?_announcement (kind : FlagKind) (text : Text) :
    announced? (announcement kind ++ ' ' :: text) = some (kind.dashes, text) := by
  cases kind <;> rfl

/-- A statement is read back, whatever follows it. -/
theorem statement?_append (group : FlagGroup) (flag : Flag) (rest : Text) :
    statement? group (statement group flag ++ rest) = some (flag.literal, rest) := by
  have hname : ∀ c ∈ flag.name, decide (c ≠ ' ') = true := by
    intro c hc
    refine decide_eq_true ?_
    rintro rfl
    exact Help.notMem_literal (by decide) (List.mem_append_right flag.kind.dashes hc)
  obtain ⟨more, hm⟩ : ∃ more, " -d " ++ singleQuoted group.description ++ rest = ' ' :: more :=
    ⟨_, rfl⟩
  have htext : statement group flag ++ rest = statementHead group ++
      (announcement flag.kind ++ ' ' :: (flag.name ++ ' ' :: more)) := by
    rw [statement_eq, ← hm, List.append_assoc, List.append_assoc, List.append_assoc]
    rfl
  have htake : (flag.name ++ ' ' :: more).takeWhile (fun c => decide (c ≠ ' ')) = flag.name := by
    rw [List.takeWhile_append_of_pos hname]
    simp
  have hdrop : (flag.name ++ ' ' :: more).dropWhile (fun c => decide (c ≠ ' ')) = ' ' :: more := by
    rw [List.dropWhile_append_of_pos hname]
    simp
  rw [htext, statement?, after?_append]
  simp only [Option.bind_eq_bind, Option.bind_some, announced?_announcement, htake, hdrop]
  rw [← hm, after?_append]
  rfl

theorem statement?_statement (group : FlagGroup) (flag : Flag) :
    statement? group (statement group flag) = some (flag.literal, []) := by
  have hread := statement?_append group flag []
  rwa [List.append_nil] at hread

/-! ## The statements of a block -/

theorem newline_notMem_singleQuoted (h : '\n' ∉ text) : '\n' ∉ singleQuoted text := by
  intro hm
  rw [singleQuoted, List.mem_append, List.mem_cons, substitute] at hm
  rcases hm with (hm | hm) | hm
  · exact absurd hm (by decide)
  · obtain ⟨c, hc, hi⟩ := List.mem_flatMap.1 hm
    split at hi
    · exact absurd hi (by decide)
    · exact h (List.mem_singleton.1 hi ▸ hc)
  · exact absurd hm (by decide)

theorem newline_notMem_statement (hc : '\n' ∉ group.command) (hd : '\n' ∉ group.description)
    (hp : '\n' ∉ group.program) (flag : Flag) : '\n' ∉ statement group flag := by
  have hname : '\n' ∉ ' ' :: flag.name := by
    intro h
    rcases List.mem_cons.1 h with h | h
    · exact absurd h (by decide)
    · exact Help.notMem_literal (by decide) (List.mem_append_right flag.kind.dashes h)
  have hannouncement : '\n' ∉ announcement flag.kind := by
    cases flag.kind <;> decide
  have hhead : '\n' ∉ statementHead group :=
    List.not_mem_append (List.not_mem_append (List.not_mem_append
      (List.not_mem_append (by decide) hp) (by decide)) hc) (by decide)
  rw [statement_eq]
  exact List.not_mem_append hhead (List.not_mem_append hannouncement
    (List.not_mem_append hname (List.not_mem_append (by decide) (newline_notMem_singleQuoted hd))))

/-- A statement ends with a quote, so nothing is taken from its end. -/
theorem dropReturn_statement (group : FlagGroup) (flag : Flag) :
    dropReturn (statement group flag) = statement group flag := by
  have hlast : (statement group flag).getLast? = some '\'' := by
    rw [statement_eq, singleQuoted, ← List.append_assoc, ← List.append_assoc, ← List.append_assoc,
      ← List.append_assoc, List.getLast?_concat]
  rw [dropReturn, hlast]
  exact if_neg (by decide)

/-- The lines of a fish block are its statements. -/
theorem lines_flagBlock (hc : '\n' ∉ group.command) (hd : '\n' ∉ group.description)
    (hp : '\n' ∉ group.program) (flags : List Flag) :
    lines (flagBlock .fish group flags) = (Flag.renderOrder flags).map (statement group) := by
  rw [flagBlock]
  apply lines_intercalate
  intro line hl
  obtain ⟨flag, -, rfl⟩ := List.mem_map.1 hl
  refine ⟨newline_notMem_statement hc hd hp flag, ?_, dropReturn_statement group flag⟩
  rw [statement_eq]
  exact List.cons_ne_nil _ _

/-! ## The lists of a block -/

theorem mem_listed {literal : Text} :
    literal ∈ listed flags ↔ ∃ flag ∈ flags, flag.literal = literal := by
  rw [listed, List.mem_map]
  simp only [(Flag.renderOrder_perm flags).mem_iff]

theorem listed_perm (flags : List Flag) : (listed flags).Perm (flags.map Flag.literal) :=
  (Flag.renderOrder_perm flags).map Flag.literal

theorem listed_ne_nil (h : flags ≠ []) : listed flags ≠ [] := by
  intro hnil
  have hperm := listed_perm flags
  rw [hnil] at hperm
  exact h (List.map_eq_nil_iff.1 hperm.nil_eq.symm)

theorem nodup_listed_iff : (listed flags).Nodup ↔ flags.Nodup := by
  rw [(listed_perm flags).nodup_iff]
  exact List.nodup_map_iff fun _ _ => Flag.literal_injective

/-- No listed literal holds a character that marks or separates the listed ones. -/
theorem notMem_of_mem_listed {literal : Text} {c : Char} (h : literal ∈ listed flags)
    (hc : (c.isAlphanum || c == '-') = false) : c ∉ literal := by
  obtain ⟨flag, -, rfl⟩ := mem_listed.1 h
  exact Help.notMem_literal hc

/-- A list of words is read back. -/
theorem splitOn_joined (h : flags ≠ []) : (Flag.joined flags).splitOn ' ' = listed flags :=
  List.splitOn_intercalate ' ' (fun _ hl => notMem_of_mem_listed hl (by decide)) (listed_ne_nil h)

theorem between?_flagBlock (group : FlagGroup) (flags : List Flag) :
    between? "'(" ")'" (flagBlock .zsh group flags) =
      some (Flag.joined flags, alternatives (listed flags) ++ bracketed group.description) := by
  have hopen : splitAtFirst? "'(" (flagBlock .zsh group flags) = some ([], Flag.joined flags ++
      (")'" ++ (alternatives (listed flags) ++ bracketed group.description))) := by
    refine splitAtFirst?_eq_some.2 ⟨?_, firstAfter_nil _⟩
    rw [flagBlock, List.append_assoc, List.append_assoc, List.append_assoc]
    rfl
  rw [between?, hopen, ← List.append_assoc]
  exact splitAtFirst?_append (notMem_joined (by decide) (by decide)) _

theorem exclusions?_flagBlock (h : flags ≠ []) (group : FlagGroup) :
    exclusions? (flagBlock .zsh group flags) = some (listed flags) := by
  rw [exclusions?, between?_flagBlock]
  exact congrArg some (splitOn_joined h)

/-- Alternatives are read back, one or several. -/
theorem choices?_alternatives {literals : List Text} (hne : literals ≠ [])
    (h : ∀ literal ∈ literals, ',' ∉ literal ∧ '\x7b' ∉ literal ∧ '\x7d' ∉ literal) :
    choices? (alternatives literals) = some literals := by
  unfold alternatives
  split
  · next literal =>
    unfold choices?
    split
    · exact absurd List.mem_cons_self (h _ (List.mem_singleton_self _)).2.1
    · rfl
  · have hbrace : '\x7d' ∉ [','].intercalate literals := by
      intro hm
      rcases mem_of_mem_intercalate hm with hm | ⟨literal, hl, hm⟩
      · exact absurd hm (by decide)
      · exact (h literal hl).2.2 hm
    have hsplit : splitAtFirst? ['\x7d'] ([','].intercalate literals ++ ['\x7d'] ++ []) =
        some ([','].intercalate literals, []) := splitAtFirst?_append hbrace []
    rw [List.append_nil] at hsplit
    rw [List.cons_append, choices?, hsplit, Option.map_some]
    exact congrArg some (List.splitOn_intercalate ',' (fun literal hl => (h literal hl).1) hne)

theorem alternatives?_flagBlock (h : flags ≠ []) (group : FlagGroup) :
    alternatives? (flagBlock .zsh group flags) = some (listed flags) := by
  have hquote : '\'' ∉ alternatives (listed flags) :=
    fun hm => (isPlain_of_mem_alternatives hm).1 rfl
  obtain ⟨more, hmore⟩ : ∃ more, bracketed group.description = '\'' :: more := by
    rw [bracketed_eq]
    exact ⟨_, rfl⟩
  have hword : splitAtFirst? ['\''] (alternatives (listed flags) ++ ['\''] ++ more) =
      some (alternatives (listed flags), more) := splitAtFirst?_append hquote more
  rw [List.append_assoc, List.singleton_append, ← hmore] at hword
  have hchoices : choices? (alternatives (listed flags)) = some (listed flags) := by
    refine choices?_alternatives (listed_ne_nil h) fun literal hl => ⟨?_, ?_, ?_⟩
    all_goals exact notMem_of_mem_listed hl (by decide)
  rw [alternatives?, between?_flagBlock, Option.bind_eq_bind, Option.bind_some]
  show (splitAtFirst? ['\''] _).bind _ = _
  rw [hword, Option.bind_some]
  exact hchoices

/-! ## The README -/

/-- A README shows the flags as the words of a bash block. -/
theorem lookup_readmeBindings (project : Project) (analysis : Analysis) :
    (project.readmeBindings analysis).lookup ("clean_flags" : Text) =
      some ((project.context analysis).flagBlock .bash) := by
  have hblock : (project.context analysis).flagBlock .bash =
      Flag.joined (project.context analysis).groupFlags := by
    rw [Context.flagBlock]
    split
    · next h => rw [List.isEmpty_iff.1 h, Flag.joined, Flag.renderOrder, List.mergeSort_nil]; rfl
    · rfl
  have hkey : ("clean_flags".toList == "program".toList) = false := by decide
  rw [hblock, Project.readmeBindings, Bindings.bind, Bindings.bind, List.lookup_cons, hkey,
    List.lookup_cons_self]

theorem flagBlock_of_groupFlags {context : Context} (h : context.groupFlags = [])
    (dialect : Dialect) : context.flagBlock dialect = [] := by
  rw [Context.flagBlock, h]
  rfl

/-! ## All dialects -/

/-- All dialects list the flags of a group in one order and each once, and a README shows them as
bash does. -/
theorem flagBlock_lists (group : FlagGroup) (flags : List Flag) (hne : flags ≠ [])
    (hnd : flags.Nodup) (hc : '\n' ∉ group.command) (hd : '\n' ∉ group.description)
    (hp : '\n' ∉ group.program) :
    (flagBlock .bash group flags).splitOn ' ' = listed flags ∧
    exclusions? (flagBlock .zsh group flags) = some (listed flags) ∧
    alternatives? (flagBlock .zsh group flags) = some (listed flags) ∧
    (lines (flagBlock .fish group flags)).map (statement? group) =
      (listed flags).map (fun literal => some (literal, [])) ∧
    (listed flags).Perm (flags.map Flag.literal) ∧ (listed flags).Nodup ∧
    ∀ (project : Project) (analysis : Analysis),
      (project.readmeBindings analysis).lookup ("clean_flags" : Text) =
        some ((project.context analysis).flagBlock .bash) ∧
      ((∀ found ∈ analysis.reading.table.flags? project.config.flagGroup.command, found = []) →
        (project.context analysis).flagBlock .bash = []) := by
  refine ⟨splitOn_joined hne, exclusions?_flagBlock hne group, alternatives?_flagBlock hne group,
    ?_, listed_perm flags, nodup_listed_iff.2 hnd, ?_⟩
  · rw [lines_flagBlock hc hd hp, listed, List.map_map, List.map_map]
    refine List.map_congr_left fun flag _ => ?_
    exact statement?_statement group flag
  · intro project analysis
    refine ⟨lookup_readmeBindings project analysis, fun h => ?_⟩
    apply flagBlock_of_groupFlags
    show (analysis.reading.table.flags? project.config.flagGroup.command).getD [] = []
    cases hf : analysis.reading.table.flags? project.config.flagGroup.command with
    | none => rfl
    | some found => exact h found hf

/-- Digits stand before letters, and a long flag among the short ones. -/
theorem flagBlock_lists_shown : ∃ (group : FlagGroup) (flags : List Flag) (words : List Text),
    group = ⟨"clean", "actually delete files", "git-remote-gcrypt"⟩ ∧
    flags.map Flag.literal = ["--dry-run", "-n", "-9"] ∧ words = ["-9", "--dry-run", "-n"] ∧
    (flagBlock .bash group flags).splitOn ' ' = words ∧
    exclusions? (flagBlock .zsh group flags) = some words ∧
    alternatives? (flagBlock .zsh group flags) = some words ∧
    (lines (flagBlock .fish group flags)).map (statement? group) =
      words.map fun literal => some (literal, []) := by
  let nine : Flag := ⟨.short, "9", by decide⟩
  let dryRun : Flag := ⟨.long, "dry-run", by decide⟩
  let n : Flag := ⟨.short, "n", by decide⟩
  have hlisted : listed [dryRun, n, nine] = ["-9", "--dry-run", "-n"] := by
    have hperm : [dryRun, n, nine].Perm [nine, dryRun, n] := by decide
    have horder : [nine, dryRun, n].Pairwise fun a b => Flag.renderLE a b = true := by decide
    rw [listed, Flag.renderOrder_eq_of_perm hperm, Flag.renderOrder_of_pairwise horder]
    rfl
  obtain ⟨hbash, hzsh, hbraces, hfish, -⟩ := flagBlock_lists
    ⟨"clean", "actually delete files", "git-remote-gcrypt"⟩ [dryRun, n, nine]
    (by decide) (by decide) (by decide) (by decide) (by decide)
  rw [hlisted] at hbash hzsh hbraces hfish
  exact ⟨_, _, _, rfl, rfl, rfl, hbash, hzsh, hbraces, hfish⟩

end Synopsis.Script
