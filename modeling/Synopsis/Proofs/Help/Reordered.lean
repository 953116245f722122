import Mathlib.Data.List.Forall2
import Mathlib.Data.List.Perm.Basic
import Synopsis.Proofs.Help.Table
import Synopsis.Proofs.Text.Order

/-!
# Help texts in another order

The entries of a help text are its command lines with the lines below them. If each command has one
entry, their order does not matter to the table, and the order of the lines below a command only
matters to the order of its flags.

- `Reordered.perm`: a reordered region has the same lines.
- `region_withRegion`: a text with a reordered region in place of its own has this region.
- `flags?_entry`: the flags of a command are those that the lines of its entry name.
- `names_reordered`, `flags?_reordered`: the table of a reordered help text.
-/

namespace Synopsis.Help

open Reading

variable {policy : Policy} {help other name : Text} {first second inside : List Text}

/-! ## Entries -/

/-- A command line and the lines below it. -/
structure Entry where
  line : Text
  below : List Text
  deriving DecidableEq

namespace Entry

variable {entry other : Entry}

/-- All lines of the entry. -/
def lines (entry : Entry) : List Text := entry.line :: entry.below

/-- The same command line, and the same lines below it in any order. -/
structure Reordered (entry other : Entry) : Prop where
  line : entry.line = other.line
  below : entry.below.Perm other.below

theorem Reordered.lines (h : entry.Reordered other) : entry.lines.Perm other.lines := by
  rw [Entry.lines, Entry.lines, h.line]
  exact h.below.cons _

theorem flatMap_lines_perm {entries others : List Entry}
    (h : List.Forall₂ Reordered entries others) :
    (entries.flatMap Entry.lines).Perm (others.flatMap Entry.lines) := by
  induction h with
  | nil => exact List.Perm.refl _
  | cons he _ ih =>
    rw [List.flatMap_cons, List.flatMap_cons]
    exact he.lines.append ih

end Entry

/-- The entries of some lines: each command line with the lines up to the next one. -/
def entries (policy : Policy) : List Text → List Entry
  | [] => []
  | line :: lines =>
    if isCommandLine policy line then ⟨line, block policy lines⟩ :: entries policy lines
    else entries policy lines

/-- The second lines have the entries of the first ones in any order, with the lines below each
command line in any order. What stands above the first command line is the same. -/
structure Reordered (policy : Policy) (first second : List Text) : Prop where
  lead : block policy first = block policy second
  entries : ∃ moved, (entries policy first).Perm moved ∧
    List.Forall₂ Entry.Reordered moved (entries policy second)

/-! ## Lines and their entries -/

section Entries

variable {line : Text} {lines : List Text} {entry : Entry}

theorem block_cons_of_command (hc : isCommandLine policy line = true) :
    block policy (line :: lines) = [] := by
  rw [block, List.takeWhile_cons_of_neg (by simp [hc])]

theorem block_cons_of_not_command (hc : isCommandLine policy line = false) :
    block policy (line :: lines) = line :: block policy lines := by
  rw [block, List.takeWhile_cons_of_pos (by simp [hc])]
  rfl

theorem entries_cons_of_command (hc : isCommandLine policy line = true) :
    entries policy (line :: lines) = ⟨line, block policy lines⟩ :: entries policy lines := by
  rw [entries, if_pos hc]

theorem entries_cons_of_not_command (hc : isCommandLine policy line = false) :
    entries policy (line :: lines) = entries policy lines := by
  rw [entries, if_neg (by simp [hc])]

/-- Lines are those above the first command line, and then those of the entries. -/
theorem block_append_entries (policy : Policy) (lines : List Text) :
    block policy lines ++ (entries policy lines).flatMap Entry.lines = lines := by
  induction lines with
  | nil => rfl
  | cons line lines ih =>
    cases hc : isCommandLine policy line with
    | true =>
      rw [block_cons_of_command hc, entries_cons_of_command hc, List.flatMap_cons, Entry.lines,
        List.nil_append, List.cons_append, ih]
    | false =>
      rw [block_cons_of_not_command hc, entries_cons_of_not_command hc, List.cons_append, ih]

/-- The lines below the command line of an entry are those up to the next command line. -/
theorem exists_of_mem_entries (h : entry ∈ entries policy lines) :
    ∃ before after, lines = before ++ entry.line :: after ∧ block policy after = entry.below := by
  induction lines with
  | nil => cases h
  | cons line lines ih =>
    have hlater : entry ∈ entries policy lines → ∃ before after,
        line :: lines = before ++ entry.line :: after ∧ block policy after = entry.below := by
      intro hm
      obtain ⟨before, after, hl, hb⟩ := ih hm
      exact ⟨line :: before, after, by rw [hl, List.cons_append], hb⟩
    cases hc : isCommandLine policy line with
    | true =>
      rw [entries_cons_of_command hc, List.mem_cons] at h
      rcases h with rfl | h
      · exact ⟨[], lines, rfl, rfl⟩
      · exact hlater h
    | false =>
      rw [entries_cons_of_not_command hc] at h
      exact hlater h

/-- Every command line is the one of an entry. -/
theorem exists_mem_entries (hm : line ∈ lines) (hc : isCommandLine policy line = true) :
    ∃ entry ∈ entries policy lines, entry.line = line := by
  induction lines with
  | nil => cases hm
  | cons next lines ih =>
    rcases List.mem_cons.1 hm with rfl | hm
    · rw [entries_cons_of_command hc]
      exact ⟨_, List.mem_cons_self, rfl⟩
    · obtain ⟨entry, he, hl⟩ := ih hm
      refine ⟨entry, ?_, hl⟩
      cases hn : isCommandLine policy next with
      | true =>
        rw [entries_cons_of_command hn]
        exact List.mem_cons_of_mem _ he
      | false => rwa [entries_cons_of_not_command hn]

end Entries

/-- A reordered region has the same lines. -/
theorem Reordered.perm (h : Reordered policy first second) : first.Perm second := by
  obtain ⟨moved, hp, hf⟩ := h.entries
  rw [← block_append_entries policy first, ← block_append_entries policy second, h.lead]
  exact ((hp.flatMap_right Entry.lines).trans (Entry.flatMap_lines_perm hf)).append_left _

theorem exists_of_forall₂ {α β : Type} {R : α → β → Prop} {as : List α} {bs : List β}
    (h : List.Forall₂ R as bs) {a : α} (ha : a ∈ as) : ∃ b ∈ bs, R a b := by
  induction h with
  | nil => cases ha
  | cons hr _ ih =>
    rcases List.mem_cons.1 ha with rfl | ha
    · exact ⟨_, List.mem_cons_self, hr⟩
    · obtain ⟨b, hb, hr⟩ := ih ha
      exact ⟨b, List.mem_cons_of_mem _ hb, hr⟩

/-! ## The region of a reordered text -/

/-- The lines with another region in place of theirs. -/
def withRegion (policy : Policy) (lines inside : List Text) : List Text :=
  match lines.dropWhile fun line => Line.classify policy line ≠ .startHeader with
  | [] => lines
  | start :: rest =>
    (lines.takeWhile fun line => Line.classify policy line ≠ .startHeader) ++
      start :: (inside ++ rest.dropWhile fun line => Line.classify policy line ≠ .endHeader)

theorem regionOf_withRegion {lines : List Text} (h : (regionOf policy lines).Perm inside) :
    regionOf policy (withRegion policy lines inside) = inside := by
  unfold withRegion
  rcases span_cases (fun line => Line.classify policy line ≠ .startHeader) lines with
    ⟨hall, -, hd⟩ | ⟨before, start, rest, rfl, hbefore, hstart, ht, hd⟩
  · have hnone : regionOf policy lines = [] := by
      rw [regionOf, hd]
      rfl
    rw [hd]
    rw [hnone] at h ⊢
    exact h.nil_eq
  · have hinside : ∀ line ∈ inside, (decide (Line.classify policy line ≠ .endHeader)) = true := by
      intro line hm
      have hregion := h.mem_iff.2 hm
      rw [regionOf, hd] at hregion
      exact List.all_eq_true.1 List.all_takeWhile line hregion
    have hrest : (rest.dropWhile fun line => Line.classify policy line ≠ .endHeader).takeWhile
        (fun line => Line.classify policy line ≠ .endHeader) = [] := by
      rcases span_cases (fun line => Line.classify policy line ≠ .endHeader) rest with
        ⟨-, -, hd'⟩ | ⟨_, stop, after, -, -, hstop, -, hd'⟩
      · rw [hd']
        rfl
      · rw [hd', List.takeWhile_cons_of_neg (by simpa using hstop)]
    rw [hd, ht]
    show regionOf policy (before ++ start :: (inside ++ _)) = inside
    rw [regionOf, List.dropWhile_append_of_pos hbefore,
      List.dropWhile_cons_of_neg (by simpa using hstart), List.drop_one, List.tail_cons,
      List.takeWhile_append_of_pos hinside, hrest, List.append_nil]

/-- A help text has the region that stands in place of its old one. -/
theorem region_withRegion (h : (region policy help).Perm inside)
    (ho : Text.lines other = withRegion policy (Text.lines help) inside) :
    region policy other = inside := by
  rw [region, ho]
  exact regionOf_withRegion h

/-! ## The table of a reordered text -/

theorem names_reordered (h : (region policy help).Perm (region policy other)) :
    (read policy help).table.names = (read policy other).table.names := by
  refine Text.increasing_ext (read policy help).table.increasing
    (read policy other).table.increasing fun name => ?_
  have hline : (∃ line ∈ region policy help, Line.classify policy line = .command name) ↔
      ∃ line ∈ region policy other, Line.classify policy line = .command name := by
    simp only [h.mem_iff]
  exact (mem_names_read policy help name).trans
    ((and_congr_left' hline).trans (mem_names_read policy other name).symm)

/-- The flags of a command are those that the lines of its entry name. -/
theorem flags?_entry (hd : (commandNames policy (region policy help)).Nodup) {entry : Entry}
    (hm : entry ∈ entries policy (region policy help))
    (hc : Line.classify policy entry.line = .command name) (he : policy.excludes name = false) :
    (read policy help).table.flags? name =
      some (namedFlags policy name entry.below).eraseDups := by
  obtain ⟨before, after, hsplit, hb⟩ := exists_of_mem_entries hm
  -- The command has no other command line.
  have hn : ∀ line ∈ after, Line.classify policy line ≠ .command name := by
    intro line hm hc'
    rw [hsplit, commandNames, List.filterMap_append, List.filterMap_cons, hc] at hd
    exact (List.nodup_cons.1 (List.nodup_append.1 hd).2.1).1 (mem_commandNames.2 ⟨line, hm, hc'⟩)
  rw [table_read, hsplit]
  refine (State.flags?_last hc hn he).trans ?_
  rw [hb]

/-- The same lines name the same flags. -/
theorem namedFlags_perm (h : first.Perm second) (name : Text) :
    (namedFlags policy name first).eraseDups.Perm (namedFlags policy name second).eraseDups := by
  have hnodup : ∀ flags : List Flag, flags.eraseDups.Nodup := fun flags =>
    FlagList.ofFlags_eq_eraseDups flags ▸ FlagList.ofFlags_nodup flags
  refine (List.perm_ext_iff_of_nodup (hnodup _) (hnodup _)).2 fun flag => ?_
  rw [List.mem_eraseDups, List.mem_eraseDups]
  exact (h.flatMap_right _).mem_iff

/-- In a reordered help text, each command has the same flags. -/
theorem flags?_reordered (h : Reordered policy (region policy help) (region policy other))
    (hd : (commandNames policy (region policy help)).Nodup) (name : Text) :
    (((read policy help).table.flags? name).getD []).Perm
      (((read policy other).table.flags? name).getD []) := by
  by_cases hn : name ∈ (read policy help).table.names
  · obtain ⟨⟨line, hm, hc⟩, he⟩ := (mem_names_read policy help name).1 hn
    obtain ⟨entry, hentry, rfl⟩ := exists_mem_entries hm (isCommandLine_of_classify hc)
    obtain ⟨moved, hp, hf⟩ := h.entries
    obtain ⟨matched, hmatched, hr⟩ := exists_of_forall₂ hf (hp.mem_iff.1 hentry)
    have hd' : (commandNames policy (region policy other)).Nodup :=
      (h.perm.filterMap _).nodup_iff.1 hd
    rw [flags?_entry hd hentry hc he, flags?_entry hd' hmatched (hr.line ▸ hc) he]
    exact namedFlags_perm hr.below name
  · have hnone : ∀ table : Table, name ∉ table.names → table.flags? name = none := by
      intro table hn
      rw [Table.names, ← Dictionary.isSome_lookup] at hn
      exact Option.not_isSome_iff_eq_none.1 hn
    rw [hnone _ hn, hnone _ (names_reordered h.perm ▸ hn)]

end Synopsis.Help
