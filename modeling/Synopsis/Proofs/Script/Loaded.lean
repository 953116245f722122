import Synopsis.Proofs.Script.Listing
import Synopsis.Proofs.Table.Load

/-!
# Flag blocks of loaded tables

A table that is loaded keeps the flags that were written for each command, repeats included, and
what is wrong with it depends on the names of its commands alone. So a block lists a flag as often
as it was written, in each listing of its dialect.

- `statements?_flagBlock`: a fish block is read back statement by statement, whatever the group is.
- `listing_flagBlock`: every listing of a block gives the literals in render order.
- `listings_ofJson`: what is wrong with a loaded table, and what its blocks list.
-/

namespace Synopsis.Script

open Text

variable {group : FlagGroup} {flags : List Flag} {flag : Flag} {text rest : Text}

/-! ## Statement by statement -/

theorem length_lt_of_announced? {dashes : Text} (h : announced? text = some (dashes, rest)) :
    rest.length < text.length := by
  unfold announced? at h
  split at h
  all_goals cases h
  all_goals exact Nat.lt_add_of_pos_right (by decide : 0 < 3)

/-- A statement takes up some of the text. -/
theorem length_lt_of_statement? {literal : Text} (h : statement? group text = some (literal, rest)) :
    rest.length < text.length := by
  obtain ⟨behind, hbehind, h⟩ := Option.bind_eq_some_iff.1 h
  obtain ⟨⟨dashes, body⟩, hbody, h⟩ := Option.bind_eq_some_iff.1 h
  obtain ⟨tail, htail, h⟩ := Option.bind_eq_some_iff.1 h
  cases h
  have hhead := congrArg List.length (after?_eq_some_iff.1 hbehind)
  have hdashes := length_lt_of_announced? hbody
  have hname : (body.dropWhile fun c => decide (c ≠ ' ')).length ≤ body.length :=
    (List.dropWhile_suffix _).length_le
  have hquoted := congrArg List.length (after?_eq_some_iff.1 htail)
  rw [List.length_append] at hhead hquoted
  omega

/-- The flags of statements, which line feeds separate. -/
def statements? (group : FlagGroup) (text : Text) : Option (List Text) :=
  match _h : statement? group text with
  | some (literal, []) => some [literal]
  | some (literal, c :: rest) =>
    if c = '\n' then (statements? group rest).map (literal :: ·) else none
  | none => none
termination_by text.length
decreasing_by
  have := length_lt_of_statement? _h
  rw [List.length_cons] at this
  omega

theorem statements?_eq (group : FlagGroup) (text : Text) :
    statements? group text = (statement? group text).bind fun found =>
      match found.2 with
      | [] => some [found.1]
      | c :: rest =>
        if c = '\n' then (statements? group rest).map (found.1 :: ·) else none := by
  rw [statements?]
  split
  · next hread => rw [hread]; rfl
  · next hread => rw [hread]; rfl
  · next hread => rw [hread]; rfl

/-- A fish block is read back statement by statement. -/
theorem statements?_flagBlock (h : flags ≠ []) (group : FlagGroup) :
    statements? group (flagBlock .fish group flags) = some (listed flags) := by
  have hblock : ∀ {ordered : List Flag}, ordered ≠ [] →
      statements? group (['\n'].intercalate (ordered.map (statement group))) =
        some (ordered.map Flag.literal) := by
    intro ordered hne
    induction ordered with
    | nil => exact absurd rfl hne
    | cons flag ordered ih =>
      cases ordered with
      | nil =>
        rw [List.map_singleton, List.intercalate_singleton, statements?_eq, statement?_statement]
        rfl
      | cons next ordered =>
        have hread := statement?_append group flag
          ('\n' :: ['\n'].intercalate ((next :: ordered).map (statement group)))
        rw [List.map_cons, List.map_cons, List.intercalate_cons_cons, List.append_assoc,
          List.singleton_append, ← List.map_cons, statements?_eq, hread, Option.bind_some]
        show Option.map _ (statements? group _) = _
        rw [ih (List.cons_ne_nil next ordered)]
        rfl
  rw [flagBlock]
  exact hblock fun hnil => listed_ne_nil h (by rw [listed, hnil]; rfl)

/-! ## All listings -/

/-- What a block lists, in each listing of its dialect. -/
def listings (dialect : Dialect) (group : FlagGroup) (block : Text) : List (Option (List Text)) :=
  match dialect with
  | .bash => [some (block.splitOn ' ')]
  | .zsh => [exclusions? block, alternatives? block]
  | .fish => [statements? group block]

/-- Every listing of a block gives the literals in render order. -/
theorem listing_flagBlock (h : flags ≠ []) {dialect : Dialect} {listing : Option (List Text)}
    (hl : listing ∈ listings dialect group (flagBlock dialect group flags)) :
    listing = some (listed flags) := by
  cases dialect with
  | bash =>
    rw [List.mem_singleton.1 hl]
    exact congrArg some (splitOn_joined h)
  | zsh =>
    rcases List.mem_pair.1 hl with rfl | rfl
    · exact exclusions?_flagBlock h group
    · exact alternatives?_flagBlock h group
  | fish =>
    rw [List.mem_singleton.1 hl]
    exact statements?_flagBlock h group

/-- What is wrong with a loaded table depends on the names that were written, and its blocks list
the flags that were written last for a command, each as often as it was written. -/
theorem listings_ofJson {value : Json} {table : Table} (h : Table.ofJson value = .ok table)
    (policy : Policy) : ∃ entries : List (Text × FlagList),
    value = .object (entries.map Table.member) ∧
    (table.problems policy = [] ↔
      ∀ entry ∈ entries, isCommandName entry.1 = true ∧ policy.excludes entry.1 = false) ∧
    ∀ (context : Context) (flags : FlagList), context.table = table →
      table.flags? context.group.command = some flags →
      entries.reverse.lookup context.group.command = some flags ∧
      (flags ≠ [] → ∀ dialect, ∀ listing ∈
        listings dialect context.group (context.flagBlock dialect),
        ∃ literals, listing = some literals ∧ literals.Perm (flags.map Flag.literal) ∧
          (literals.Nodup ↔ flags.Nodup)) := by
  obtain ⟨entries, hvalue, rfl⟩ := Table.ofJson_eq_ok.1 h
  refine ⟨entries, hvalue, Table.problems_ofEntries entries, ?_⟩
  intro context flags htable hflags
  refine ⟨by rw [← Table.flags?_ofEntries, hflags], ?_⟩
  intro hne dialect listing hl
  have hgroup : context.groupFlags = flags := by
    rw [Context.groupFlags, htable, hflags]
    rfl
  have hblock : context.flagBlock dialect = flagBlock dialect context.group flags := by
    rw [Context.flagBlock, hgroup, if_neg (by simpa using hne)]
  rw [hblock] at hl
  exact ⟨_, listing_flagBlock hne hl, listed_perm flags, nodup_listed_iff⟩

/-- Of two members with one name the later counts, and its repeated flag is listed twice. -/
theorem listings_ofJson_shown : ∃ (table : Table) (group : FlagGroup), group.command = "clean" ∧
    Table.ofJson (.object [("clean", .ofTexts ["-f"]), ("clean", .ofTexts ["-n", "-f", "-n"])]) =
      .ok table ∧
    table.problems {} = [] ∧
    ∀ dialect, ∀ listing ∈ listings dialect group (Context.flagBlock ⟨[], table, group⟩ dialect),
      ∃ literals, listing = some literals ∧ literals.Perm ["-n", "-f", "-n"] ∧
        ¬ literals.Nodup := by
  let f : Flag := ⟨.short, "f", by decide⟩
  let n : Flag := ⟨.short, "n", by decide⟩
  let table : Table := Dictionary.ofEntries [("clean", [f]), ("clean", [n, f, n])]
  let group : FlagGroup := ⟨"clean", "actually delete files", "git-remote-gcrypt"⟩
  have hload : Table.ofJson (.object [("clean", .ofTexts ["-f"]),
      ("clean", .ofTexts ["-n", "-f", "-n"])]) = .ok table := Table.ofJson_eq_ok.2 ⟨_, rfl, rfl⟩
  obtain ⟨entries, -, -, hlists⟩ := listings_ofJson hload {}
  have hflags : table.flags? "clean" = some [n, f, n] := by decide
  refine ⟨table, group, rfl, hload, by decide, ?_⟩
  intro dialect listing hl
  obtain ⟨literals, hlisting, hperm, hnodup⟩ :=
    (hlists ⟨[], table, group⟩ [n, f, n] rfl hflags).2 (by decide) dialect listing hl
  exact ⟨literals, hlisting, hperm, fun h => absurd (hnodup.1 h) (by decide)⟩

/-- A table with a repeated flag is loaded, nothing is wrong with it, and the flag is rendered
twice. -/
theorem problems_repeated : ∃ (table : Table) (flags : FlagList) (group : FlagGroup),
    group = ⟨"clean", "actually delete files", "git-remote-gcrypt"⟩ ∧
    Table.ofJson (.object [("clean", .ofTexts ["-f", "-f"])]) = .ok table ∧
    table.problems {} = [] ∧ table.flags? "clean" = some flags ∧ ¬ flags.Nodup ∧
    Context.flagBlock ⟨[], table, group⟩ .bash = "-f -f" ∧
    Context.flagBlock ⟨[], table, group⟩ .zsh =
      "'(-f -f)'\x7b-f,-f\x7d'[actually delete files]'" := by
  let f : Flag := ⟨.short, "f", by decide⟩
  let table : Table := Dictionary.ofEntries [("clean", [f, f])]
  let group : FlagGroup := ⟨"clean", "actually delete files", "git-remote-gcrypt"⟩
  have horder : Flag.renderOrder [f, f] = [f, f] := Flag.renderOrder_of_pairwise (by decide)
  have hgroup : Context.groupFlags ⟨[], table, group⟩ = [f, f] := by decide
  refine ⟨table, [f, f], group, rfl, Table.ofJson_eq_ok.2 ⟨_, rfl, rfl⟩, by decide, by decide,
    by decide, ?_, ?_⟩
  · rw [Context.flagBlock, hgroup, if_neg (by decide), flagBlock, Flag.joined, horder]
    decide
  · rw [Context.flagBlock, hgroup, if_neg (by decide), flagBlock, Flag.joined, horder]
    decide

end Synopsis.Script
