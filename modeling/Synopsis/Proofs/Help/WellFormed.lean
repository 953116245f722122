import Synopsis.Proofs.Help.Name

/-!
# Tables are well formed

A table that is read from a help text obeys the rules for tables: its names are command names that
are not excluded, and a flag stands once with its command, because some flag line of the command
names it. What one line can do to the flags of a command is said once, and the rest is induction
over the lines.

- `Reading.State.flags?_stepInside_cases`: what a line can do to the flags of a command.
- `Reading.State.Accounted.foldl`: the flags stay distinct and are named on the lines.
- `read_wellFormed`: a help text gives a valid table with distinct flags that can be read.
-/

namespace Synopsis.Help

open Text

variable {policy : Policy} {name : Text} {flag : Flag}

/-! ## Flags that are named -/

theorem mem_namedFlags {lines : List Text} : flag ∈ namedFlags policy name lines ↔
    ∃ line ∈ lines, ∃ body, Line.classify policy line = .flagLine name body ∧
      flag ∈ flagsOf body := by
  rw [namedFlags, List.mem_flatMap]
  refine exists_congr fun line => and_congr_right fun _ => ?_
  constructor
  · intro h
    split at h
    · next owner body hc =>
      split at h
      · next ho =>
        subst ho
        exact ⟨body, hc, h⟩
      · cases h
    · cases h
  · intro h'
    obtain ⟨body, hc, h⟩ := h'
    simpa [hc] using h

theorem mem_flagsOf {body : Text} : flag ∈ flagsOf body ↔
    ∃ token ∈ Mention.tokens true (flagRegion body), ∃ piece ∈ token.splitOn ',',
      Flag.parse (trim piece) = .ok flag := by
  have hok : ∀ result : Except FlagError Flag,
      result.toOption = some flag ↔ result = .ok flag := by
    intro result
    cases result <;> simp [Except.toOption]
  simp only [flagsOf, Mention.flags, List.mem_flatMap, List.mem_filterMap, hok]

/-! ## Reading keeps the flags in order -/

namespace Reading.State

variable {state : State} {before : List Text} {flags : FlagList}

/-- A line empties the flags of a command, or adds those that it names, or keeps them. -/
theorem flags?_stepInside_cases {line : Text}
    (h : (state.stepInside policy line).flags? name = some flags) :
    flags = [] ∨ ∃ known, state.flags? name = some known ∧
      (flags = known ∨ flags = (namedFlags policy name [line]).foldl .add known) := by
  cases hc : isCommandLine policy line with
  | true =>
    obtain ⟨other, ho⟩ := classify_of_isCommandLine hc
    rw [(stepInside_command state name ho).2] at h
    split at h
    · exact Or.inl (Option.some.inj h).symm
    · exact Or.inr ⟨flags, h, Or.inl rfl⟩
  | false =>
    rw [(stepInside_of_not_command state name hc).2] at h
    split at h
    · obtain ⟨known, hk, rfl⟩ := Option.map_eq_some_iff.1 h
      exact Or.inr ⟨known, hk, Or.inr rfl⟩
    · exact Or.inr ⟨flags, h, Or.inl rfl⟩

/-- Every command has each of its flags once, and the lines name them. -/
structure Accounted (policy : Policy) (lines : List Text) (state : State) : Prop where
  nodup : ∀ {name flags}, state.flags? name = some flags → flags.Nodup
  named : ∀ {name flags}, state.flags? name = some flags →
    ∀ flag ∈ flags, flag ∈ namedFlags policy name lines

theorem accounted_opened (policy : Policy) : Accounted policy [] opened where
  nodup h := by cases h
  named h := by cases h

/-- One line keeps the flags distinct, and names those that it adds. -/
theorem Accounted.step (h : Accounted policy before state) (line : Text) :
    Accounted policy (before ++ [line]) (state.stepInside policy line) where
  nodup hf := by
    rcases flags?_stepInside_cases hf with rfl | ⟨known, hk, rfl | rfl⟩
    · exact List.nodup_nil
    · exact h.nodup hk
    · exact FlagList.foldl_add_nodup (h.nodup hk) _
  named {name _} hf flag hm := by
    rw [namedFlags_append, List.mem_append]
    rcases flags?_stepInside_cases hf with rfl | ⟨known, hk, rfl | rfl⟩
    · cases hm
    · exact Or.inl (h.named hk flag hm)
    · exact (FlagList.mem_foldl_add.1 hm).imp_left (h.named hk flag)

/-- So do all lines of a region. -/
theorem Accounted.foldl (h : Accounted policy before state) (lines : List Text) :
    Accounted policy (before ++ lines) (lines.foldl (·.stepInside policy ·) state) := by
  induction lines generalizing before state with
  | nil => rwa [List.append_nil]
  | cons line lines ih =>
    rw [List.append_cons, List.foldl_cons]
    exact ih (h.step line)

end Reading.State

open Reading

/-- The table of a help text has no problem: its names are words of lowercase letters and hyphens
that are not excluded. No command has a flag twice, and every literal that is stored is read as its
flag, and is a piece of a mention on a flag line of the command in the capture region. -/
theorem read_wellFormed (policy : Policy) (help : Text) :
    (read policy help).table.problems policy = [] ∧
    (∀ name ∈ (read policy help).table.names, name ≠ [] ∧
      (∀ c ∈ name, c.isLower = true ∨ c = '-') ∧ name ∉ policy.excludedCommands) ∧
    ∀ name flags, (read policy help).table.flags? name = some flags →
      flags.Nodup ∧ ∀ flag ∈ flags, Flag.parse flag.literal = .ok flag ∧
        ∃ line ∈ region policy help, ∃ body, Line.classify policy line = .flagLine name body ∧
          ∃ token ∈ Mention.tokens true (flagRegion body), ∃ piece ∈ token.splitOn ',',
            flag.literal = trim piece := by
  have hnames : ∀ name ∈ (read policy help).table.names,
      isCommandName name = true ∧ policy.excludes name = false := fun name hn =>
    ⟨isCommandName_of_mem_read hn, ((mem_names_read policy help name).1 hn).2⟩
  have haccounted := (State.accounted_opened policy).foldl (region policy help)
  refine ⟨Table.problems_eq_nil_iff.2 hnames, fun name hn => ?_, fun name flags hf => ?_⟩
  · obtain ⟨hname, hexcluded⟩ := hnames name hn
    obtain ⟨c, rest, hcons, -⟩ := exists_name_eq_cons hname
    refine ⟨hcons ▸ List.cons_ne_nil c rest, fun d hd => ?_, fun hm => ?_⟩
    · have hlong := isLongChar_of_mem_name hname hd
      simpa [FlagKind.isLongChar] using hlong
    · rw [Policy.excludes_iff.2 hm] at hexcluded
      cases hexcluded
  · rw [table_read] at hf
    refine ⟨haccounted.nodup hf, fun flag hm => ⟨Flag.parse_literal flag, ?_⟩⟩
    obtain ⟨line, hl, body, hc, hbody⟩ := mem_namedFlags.1 (haccounted.named hf flag hm)
    obtain ⟨token, ht, piece, hp, hread⟩ := mem_flagsOf.1 hbody
    exact ⟨line, hl, body, hc, token, ht, piece, hp, Flag.literal_of_parse hread⟩

end Synopsis.Help
