import Mathlib.Data.Set.List
import Synopsis.Proofs.Json.Printed
import Synopsis.Proofs.Table.Load
import Synopsis.Table.Output

/-!
# Tables that are printed and loaded

The JSON text of a table is read back as the table, whatever its names and flags are. Any other
object of arrays of texts is a table exactly if its texts are flags.

- `numberless_toJson`: the value of a table is one that is read back from its text.
- `exists_ofJson_iff`: which objects are tables.
- `ofJsonText?_print`: a printed table is loaded as it was.
-/

namespace Synopsis.Table

open Json (Numberless)

variable {members : List (Text × List Text)}

theorem numberless_ofTexts (texts : List Text) : Numberless (.ofTexts texts) := by
  refine .array fun item hi => ?_
  obtain ⟨text, -, rfl⟩ := List.mem_map.1 hi
  exact .string text

theorem numberless_toJson (table : Table) : Numberless table.toJson := by
  refine .object fun member hm => ?_
  obtain ⟨entry, -, rfl⟩ := List.mem_map.1 hm
  exact numberless_ofTexts _

theorem ofJson_toJson (table : Table) : ofJson table.toJson = .ok table :=
  ofJson_eq_ok.2 ⟨table.entries, rfl, (Dictionary.ofEntries_entries table).symm⟩

/-! ## Objects of arrays of texts -/

/-- The member that maps a name to an array of texts. -/
def memberOf (named : Text × List Text) : Text × Json := (named.1, .ofTexts named.2)

theorem memberOf_injective : Function.Injective memberOf := by
  have hstring : Function.Injective Json.string := fun _ _ => Json.string.inj
  intro first second h
  obtain ⟨hname, hitems⟩ := Prod.mk.inj h
  exact Prod.ext hname (List.map_injective_iff.2 hstring (Json.array.inj hitems))

theorem exists_map_eq {α β : Type} {f : α → β} {images : List β} :
    (∃ items : List α, items.map f = images) ↔ ∀ image ∈ images, ∃ item, f item = image := by
  show images ∈ Set.range (List.map f) ↔ _
  rw [Set.range_list_map]
  rfl

theorem exists_literal_eq {literal : Text} :
    (∃ flag : Flag, flag.literal = literal) ↔ ∃ flag, Flag.parse literal = .ok flag := by
  refine exists_congr fun flag => ⟨fun h => ?_, fun h => (Flag.literal_of_parse h)⟩
  rw [← h, Flag.parse_literal]

/-- An object of arrays of texts is a table exactly if every text is a flag. -/
theorem exists_ofJson_iff : (∃ table, ofJson (.object (members.map memberOf)) = .ok table) ↔
    ∀ named ∈ members, ∀ literal ∈ named.2, ∃ flag, Flag.parse literal = .ok flag := by
  have hentries : (∃ table, ofJson (.object (members.map memberOf)) = .ok table) ↔
      ∃ entries : List (Text × FlagList),
        entries.map (fun entry => (entry.1, entry.2.map Flag.literal)) = members := by
    simp only [ofJson_eq_ok]
    constructor
    · rintro ⟨_, entries, hmembers, -⟩
      refine ⟨entries, List.map_injective_iff.2 memberOf_injective ?_⟩
      rw [List.map_map]
      exact (Json.object.inj hmembers).symm
    · rintro ⟨entries, rfl⟩
      exact ⟨_, entries, by rw [List.map_map]; rfl, rfl⟩
  rw [hentries, exists_map_eq]
  refine forall₂_congr fun named _ => ?_
  simp only [← exists_literal_eq]
  rw [← exists_map_eq]
  constructor
  · rintro ⟨entry, rfl⟩
    exact ⟨entry.2, rfl⟩
  · rintro ⟨flags, hf⟩
    exact ⟨(named.1, flags), by rw [hf]⟩

/-! ## Texts -/

/-- A printed table is loaded as it was, in the format of tables and in the compact one. A text that
holds an object of arrays of texts is loaded exactly if these texts are flags. -/
theorem ofJsonText?_print :
    (∀ table : Table, ofJsonText? (table.print .json) = some table ∧
      ∀ style, ofJsonText? (table.toJson.print style) = some table) ∧
    ∀ (text : Text) (members : List (Text × List Text)),
      Json.read? text = some (.object (members.map fun named => (named.1, .ofTexts named.2))) →
      ((∃ table, ofJsonText? text = some table) ↔
        ∀ named ∈ members, ∀ literal ∈ named.2, ∃ flag, Flag.parse literal = .ok flag) := by
  have hprint : ∀ (table : Table) (style : Json.Style),
      ofJsonText? (table.toJson.print style) = some table := by
    intro table style
    rw [ofJsonText?, Json.read?_print (numberless_toJson table)]
    show (ofJson table.toJson).toOption = some table
    rw [ofJson_toJson]
    rfl
  refine ⟨fun table => ⟨hprint table .pretty, hprint table⟩, fun text members h => ?_⟩
  rw [← exists_ofJson_iff, ofJsonText?, h]
  refine exists_congr fun table => ?_
  show (ofJson (.object (members.map memberOf))).toOption = some table ↔ _
  cases ofJson (.object (members.map memberOf)) <;> simp [Except.toOption]

/-- A name of characters that are escaped and others, with a flag twice, and a text that holds no
flag. -/
theorem ofJsonText?_print_shown : ∃ (f : Flag) (table : Table), f.literal = "-f" ∧
    table.entries = [("\"\\\n\x01\u03b4".toList, [f, f])] ∧
    table.print .json =
      "\x7b\n  \"\\\"\\\\\\n\\u0001\u03b4\": [\n    \"-f\",\n    \"-f\"\n  ]\n\x7d" ∧
    ofJsonText? (table.print .json) = some table ∧
    Json.read? "\x7b\"clean\":[\"force\"]\x7d" =
      some (.object [("clean", .array [.string "force"])]) ∧
    ¬ ∃ table, ofJsonText? "\x7b\"clean\":[\"force\"]\x7d" = some table := by
  let f : Flag := ⟨.short, "f", by decide⟩
  let table : Table := ⟨[("\"\\\n\x01\u03b4".toList, [f, f])], by decide⟩
  let value : Json := .object [("clean", .array [.string "force"])]
  have hcompact : value.print .compact = "\x7b\"clean\":[\"force\"]\x7d" := by decide +kernel
  have hread : Json.read? (value.print .compact) = some value :=
    Json.read?_print (.object (List.forall_mem_singleton.2
      (.array (List.forall_mem_singleton.2 (.string "force"))))) .compact
  rw [hcompact] at hread
  refine ⟨f, table, rfl, rfl, by decide +kernel, (ofJsonText?_print.1 table).1, hread,
    fun hloaded => ?_⟩
  obtain ⟨flag, hflag⟩ := (ofJsonText?_print.2 _ [("clean", ["force"])] hread).1 hloaded _
    List.mem_cons_self _ List.mem_cons_self
  cases hflag

end Synopsis.Table
