import Synopsis.Proofs.Dictionary
import Synopsis.Proofs.Except
import Synopsis.Table.Load
import Synopsis.Table.Validity

/-!
# Tables that are loaded

A value is read as a table exactly if it is written for a list of entries: each member names a
command and holds the literals of its flags. Nothing that is written is left out, so flags are
repeated if their literals are; of two entries of one command the later counts.

- `flagsOfJson_eq_ok`: the flags of a value are those whose literals it holds.
- `ofJson_eq_ok`: the entries that a table is read from.
- `flags?_ofEntries`, `problems_ofEntries`: the flags of a command, and what is wrong with the
  table.
-/

namespace Synopsis.Table

variable {value : Json} {table : Table} {flag : Flag} {flags : FlagList}

/-- The member of an object that is written for a command and its flags. -/
def member (entry : Text × FlagList) : Text × Json :=
  (entry.1, .ofTexts (entry.2.map Flag.literal))

theorem flagOfJson_eq_ok : flagOfJson value = .ok flag ↔ value = .string flag.literal := by
  constructor
  · intro h
    cases value with
    | string literal =>
      rw [flagOfJson] at h
      cases hp : Flag.parse literal with
      | error error =>
        rw [hp] at h
        cases h
      | ok found =>
        rw [hp] at h
        cases h
        rw [Flag.literal_of_parse hp]
    | _ => cases h
  · intro h
    rw [h, flagOfJson, Flag.parse_literal]
    rfl

theorem flagsOfJson_eq_ok :
    flagsOfJson value = .ok flags ↔ value = .ofTexts (flags.map Flag.literal) := by
  have hitems : ∀ items : List Json, items.mapM flagOfJson = .ok flags ↔
      items = (flags.map Flag.literal).map Json.string := by
    intro items
    simp only [mapM_eq_ok, flagOfJson_eq_ok]
    rw [List.map_map, ← List.forall₂_eq_eq_eq, List.forall₂_map_right_iff]
    rfl
  constructor
  · intro h
    cases value with
    | array items => exact congrArg Json.array ((hitems items).1 h)
    | _ => cases h
  · intro h
    rw [h]
    exact (hitems _).2 rfl

/-- The entries that a table is read from. -/
theorem ofJson_eq_ok : ofJson value = .ok table ↔ ∃ entries : List (Text × FlagList),
    value = .object (entries.map member) ∧ table = Dictionary.ofEntries entries := by
  constructor
  · intro h
    cases value with
    | object members =>
      obtain ⟨entries, hm, hr⟩ := bind_eq_ok.1 h
      refine ⟨entries, congrArg Json.object ?_, (Except.ok.inj hr).symm⟩
      rw [mapM_eq_ok] at hm
      rw [← List.forall₂_eq_eq_eq, List.forall₂_map_right_iff]
      refine hm.imp fun found entry hstep => ?_
      obtain ⟨flags, hf, he⟩ := bind_eq_ok.1 hstep
      rw [flagsOfJson_eq_ok] at hf
      rw [← Except.ok.inj he, member, ← hf]
    | _ => cases h
  · intro h
    obtain ⟨entries, rfl, rfl⟩ := h
    refine bind_eq_ok.2 ⟨entries, ?_, rfl⟩
    rw [mapM_eq_ok, List.forall₂_map_left_iff]
    refine List.forall₂_same.2 fun entry _ => ?_
    exact bind_eq_ok.2 ⟨entry.2, flagsOfJson_eq_ok.2 rfl, rfl⟩

/-- The flags of a command are those that were written last for it. -/
theorem flags?_ofEntries (entries : List (Text × FlagList)) (command : Text) :
    flags? (Dictionary.ofEntries entries) command = entries.reverse.lookup command :=
  Dictionary.lookup_ofEntries entries command

/-- Nothing is wrong with a table whose commands may stand in a table, whatever their flags are. -/
theorem problems_ofEntries {policy : Policy} (entries : List (Text × FlagList)) :
    problems policy (Dictionary.ofEntries entries) = [] ↔
      ∀ entry ∈ entries, isCommandName entry.1 = true ∧ policy.excludes entry.1 = false := by
  rw [problems_eq_nil_iff]
  simp only [names, Dictionary.mem_keys_ofEntries, List.forall_mem_map]

end Synopsis.Table
