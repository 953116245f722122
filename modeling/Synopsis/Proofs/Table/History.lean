import Mathlib.Data.List.Dedup
import Synopsis.Proofs.Dictionary
import Synopsis.Proofs.FlagList
import Synopsis.Proofs.Text.Bytes
import Synopsis.Table.Basic

/-!
# Tables and their histories

A table is made by declaring commands and adding flags, in any order. Its commands are those that
were declared at some time, and the flags of a command are those that were added to it since it was
declared last.

- `addFlag_ne_self`: a flag is accepted exactly if adding it changes the table.
- `mem_names_apply`, `flags?_apply`: what one operation changes.
- `mem_names_ofHistory`, `flags?_ofHistory`: what a whole history leaves.
- `ofHistory_spec`: a table in terms of its history.
-/

namespace Synopsis

namespace Table

variable {table : Table} {name : Text} {flag : Flag}

/-! ## One operation -/

theorem isSome_flags? : (table.flags? name).isSome = true ↔ name ∈ table.names :=
  Dictionary.isSome_lookup

/-- A flag is accepted exactly if adding it changes the table. -/
theorem addFlag_ne_self : table.addFlag name flag ≠ table ↔ table.accepts name flag = true := by
  unfold accepts
  cases hf : table.flags? name with
  | none => simp [addFlag, hf]
  | some flags =>
    rw [Option.any_some, decide_eq_true_iff]
    refine ⟨fun hne hm => hne (Dictionary.ext_lookup fun other => ?_), fun hn he => hn ?_⟩
    · have hadd : flags.add flag = flags := if_pos hm
      show flags? (table.addFlag name flag) other = flags? table other
      rw [flags?_addFlag, hf, Option.map_some, hadd]
      split
      · next ho => rw [ho, hf]
      · rfl
    · have hflags := congrArg (flags? · name) he
      simp only [flags?_addFlag, if_true, hf, Option.map_some, Option.some.injEq] at hflags
      rw [← hflags]
      exact FlagList.mem_add.2 (Or.inr rfl)

/-- A call that makes a table from another one. -/
inductive Operation where
  | declare (command : Text)
  | addFlag (command : Text) (flag : Flag)
  deriving DecidableEq

namespace Operation

/-- The command that the operation is about. -/
def command : Operation → Text
  | declare command => command
  | addFlag command _ => command

/-- The command that the operation declares, if it declares one. -/
def declared? : Operation → Option Text
  | declare command => some command
  | addFlag _ _ => none

/-- The flag that the operation adds to a command, if it adds one to it. -/
def flagFor? (name : Text) : Operation → Option Flag
  | declare _ => none
  | addFlag command flag => if command = name then some flag else none

end Operation

/-- The table after an operation. -/
def apply (table : Table) : Operation → Table
  | .declare command => table.declare command
  | .addFlag command flag => table.addFlag command flag

/-- The table after some operations on the empty one. -/
def ofHistory (history : List Operation) : Table := history.foldl apply empty

variable {operation : Operation} {history earlier later : List Operation}

/-- An operation on another command does not change the flags of a command. -/
theorem flags?_apply_of_ne (h : operation.command ≠ name) :
    (table.apply operation).flags? name = table.flags? name := by
  cases operation with
  | declare command => exact (flags?_declare table command name).trans (if_neg (Ne.symm h))
  | addFlag command flag =>
    exact (flags?_addFlag table command flag name).trans (if_neg (Ne.symm h))

/-- Unless a command is declared, an operation adds what it adds to its flags. -/
theorem flags?_apply (h : operation ≠ .declare name) : (table.apply operation).flags? name =
    (table.flags? name).map ((operation.flagFor? name).toList.foldl FlagList.add) := by
  by_cases ho : operation.command = name
  · subst ho
    cases operation with
    | declare command => exact absurd rfl h
    | addFlag command flag =>
      refine (flags?_addFlag table command flag command).trans ?_
      simp [Operation.flagFor?, Operation.command]
  · have hnone : operation.flagFor? name = none := by
      cases operation with
      | declare command => rfl
      | addFlag command flag => exact if_neg ho
    rw [flags?_apply_of_ne ho, hnone]
    exact (Option.map_id_apply).symm

theorem mem_names_apply :
    name ∈ (table.apply operation).names ↔ operation = .declare name ∨ name ∈ table.names := by
  by_cases h : operation = .declare name
  · subst h
    exact iff_of_true ((Dictionary.mem_keys_put table name [] name).2 (Or.inl rfl)) (Or.inl rfl)
  · rw [← isSome_flags?, flags?_apply h, Option.isSome_map, isSome_flags?]
    exact (or_iff_right h).symm

/-! ## Histories -/

theorem mem_names_foldl :
    name ∈ (history.foldl apply table).names ↔ .declare name ∈ history ∨ name ∈ table.names := by
  induction history generalizing table with
  | nil => simp
  | cons operation history ih =>
    rw [List.foldl_cons, ih, mem_names_apply, List.mem_cons, ← or_assoc,
      or_comm (a := .declare name ∈ history), eq_comm]

/-- The commands of a table are those that were declared. -/
theorem mem_names_ofHistory : name ∈ (ofHistory history).names ↔ .declare name ∈ history :=
  mem_names_foldl.trans (or_iff_left List.not_mem_nil)

/-- Operations that do not declare a command add their flags to those that it has. -/
theorem flags?_foldl (h : .declare name ∉ history) :
    (history.foldl apply table).flags? name =
      (table.flags? name).map ((history.filterMap (·.flagFor? name)).foldl FlagList.add) := by
  induction history generalizing table with
  | nil => exact (Option.map_id_apply).symm
  | cons operation history ih =>
    rw [List.mem_cons, not_or] at h
    rw [List.foldl_cons, ih h.2, flags?_apply (Ne.symm h.1), Option.map_map, List.filterMap_cons]
    cases operation.flagFor? name <;> rfl

/-- The flags of a command are those added since it was declared last, without repeats. -/
theorem flags?_ofHistory (h : .declare name ∉ later) :
    (ofHistory (earlier ++ .declare name :: later)).flags? name =
      some (later.filterMap (·.flagFor? name)).eraseDups := by
  have hdeclared : ((earlier.foldl apply empty).apply (.declare name)).flags? name = some [] :=
    (flags?_declare _ name name).trans (if_pos rfl)
  rw [ofHistory, List.foldl_append, List.foldl_cons, flags?_foldl h, hdeclared, Option.map_some,
    ← FlagList.ofFlags_eq_eraseDups, FlagList.ofFlags]

theorem length_names_ofHistory :
    (ofHistory history).names.length = (history.filterMap Operation.declared?).dedup.length := by
  have hmem : ∀ name, name ∈ history.filterMap Operation.declared? ↔ .declare name ∈ history := by
    intro name
    rw [List.mem_filterMap]
    constructor
    · rintro ⟨_ | _, ho, hd⟩
      · cases hd
        exact ho
      · cases hd
    · exact fun ho => ⟨_, ho, rfl⟩
  refine List.Perm.length_eq ((List.perm_ext_iff_of_nodup (Dictionary.nodup_keys _)
    (List.nodup_dedup _)).2 fun name => ?_)
  rw [List.mem_dedup, hmem]
  exact mem_names_ofHistory

/-- A table in terms of its history. Its commands are those that were declared, in the order of
their bytes. The flags of a command are those that were added to it since it was declared last, in
the order of their first appearance then. Another operation on the table changes the command that
it is about alone, and a flag is accepted exactly if adding it changes the table. -/
theorem ofHistory_spec (history : List Operation) :
    let table := ofHistory history
    table.names.Pairwise (fun first second => Text.bytes first < Text.bytes second) ∧
    table.names.length = (history.filterMap Operation.declared?).dedup.length ∧
    (table.names.isEmpty = true ↔ ∀ name, .declare name ∉ history) ∧
    (∀ name,
      (name ∈ table.names ↔ .declare name ∈ history) ∧
      (table.contains name = true ↔ .declare name ∈ history) ∧
      (.declare name ∉ history → table.flags? name = none) ∧
      (∀ earlier later, history = earlier ++ .declare name :: later → .declare name ∉ later →
        table.flags? name = some (later.filterMap (·.flagFor? name)).eraseDups) ∧
      ∀ operation : Operation, operation.command ≠ name →
        (table.apply operation).flags? name = table.flags? name) ∧
    ∀ name flag, table.accepts name flag = true ↔ table.addFlag name flag ≠ table := by
  intro table
  have hnames : ∀ {name}, name ∈ table.names ↔ .declare name ∈ history := mem_names_ofHistory
  refine ⟨table.increasing.imp Text.bytes_lt_bytes.2, length_names_ofHistory, ?_, fun name =>
    ⟨hnames, isSome_flags?.trans hnames, fun hn => ?_, ?_, fun operation => flags?_apply_of_ne⟩,
    fun name flag => addFlag_ne_self.symm⟩
  · rw [List.isEmpty_iff, List.eq_nil_iff_forall_not_mem]
    exact forall_congr' fun name => not_congr hnames
  · rw [← Option.not_isSome_iff_eq_none, isSome_flags?, hnames]
    exact hn
  · rintro earlier later rfl hl
    exact flags?_ofHistory hl

/-- Two commands in turn. One flag comes too early, and the first command is declared anew. -/
theorem ofHistory_spec_again : ∃ (f n : Flag) (history : List Operation),
    f.literal = "-f" ∧ n.literal = "-n" ∧
    history = [.addFlag "clean" f, .declare "clean", .addFlag "clean" f, .declare "check",
      .declare "clean", .addFlag "clean" n, .addFlag "check" f, .addFlag "clean" f,
      .addFlag "clean" n] ∧
    (ofHistory history).names.length = 2 ∧
    (ofHistory history).flags? "clean" = some [n, f] ∧
    (ofHistory history).flags? "check" = some [f] ∧
    (ofHistory history).flags? "list" = none ∧
    (ofHistory history).addFlag "clean" f = ofHistory history := by
  let f : Flag := ⟨.short, "f", by decide⟩
  let n : Flag := ⟨.short, "n", by decide⟩
  let history : List Operation := [.addFlag "clean" f, .declare "clean", .addFlag "clean" f,
    .declare "check", .declare "clean", .addFlag "clean" n, .addFlag "check" f, .addFlag "clean" f,
    .addFlag "clean" n]
  obtain ⟨-, hlength, -, hcommand, haccepts⟩ := ofHistory_spec history
  obtain ⟨-, -, -, hclean, -⟩ := hcommand "clean"
  obtain ⟨-, -, -, hcheck, -⟩ := hcommand "check"
  obtain ⟨-, -, hlist, -⟩ := hcommand "list"
  have hflags : (ofHistory history).flags? "clean" = some [n, f] :=
    hclean (history.take 4) (history.drop 5) rfl (by decide)
  refine ⟨f, n, history, rfl, rfl, rfl, hlength.trans (by decide), hflags,
    hcheck (history.take 3) (history.drop 4) rfl (by decide), hlist (by decide), ?_⟩
  by_contra hne
  have haccepted := (haccepts "clean" f).2 hne
  rw [accepts, hflags] at haccepted
  exact absurd haccepted (by decide)

end Table

end Synopsis
