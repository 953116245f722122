import Synopsis.Proofs.Config.Written
import Synopsis.Proofs.Yaml.Printed

/-!
# Documents of values

A value without numbers and with short names has a document that is read back from its text, and so
has the value without some of its members. The values of configurations are of this kind.

- `printable_ofJson`: the document of such a value.
- `Config.keyed`: configurations.
-/

namespace Synopsis

namespace Json

/-- The value holds no number, and its names are short enough for keys. -/
inductive Keyed : Json → Prop
  | null : Keyed null
  | bool (value : Bool) : Keyed (bool value)
  | string (text : Text) : Keyed (string text)
  | array {items : List Json} : (∀ item ∈ items, Keyed item) → Keyed (array items)
  | object {members : List (Text × Json)} (hn : ∀ member ∈ members, member.1.length ≤ 170) :
      (∀ member ∈ members, Keyed member.2) → Keyed (object members)

variable {value : Json} {deleted : List Step → Bool}

theorem mem_withoutInItems {place : List Step} {index : Nat} {items : List Json} {item : Json}
    (h : item ∈ withoutInItems deleted place index items) :
    ∃ original ∈ items, ∃ place, item = original.without deleted place := by
  induction items generalizing index with
  | nil =>
    rw [withoutInItems] at h
    cases h
  | cons first items ih =>
    rw [withoutInItems] at h
    cases h with
    | head => exact ⟨first, List.mem_cons_self, _, rfl⟩
    | tail _ hm =>
      obtain ⟨original, ho, place, rfl⟩ := ih hm
      exact ⟨original, List.mem_cons_of_mem _ ho, place, rfl⟩

theorem mem_withoutInMembers {place : List Step} {members : List (Text × Json)}
    {member : Text × Json} (h : member ∈ withoutInMembers deleted place members) :
    ∃ original ∈ members, member.1 = original.1 ∧
      ∃ place, member.2 = original.2.without deleted place := by
  induction members with
  | nil =>
    rw [withoutInMembers] at h
    cases h
  | cons first members ih =>
    obtain ⟨name, value⟩ := first
    rw [withoutInMembers] at h
    by_cases hd : deleted (place ++ [.member name]) = true
    · rw [if_pos hd] at h
      obtain ⟨original, ho, hrest⟩ := ih h
      exact ⟨original, List.mem_cons_of_mem _ ho, hrest⟩
    · rw [if_neg hd] at h
      cases h with
      | head => exact ⟨(name, value), List.mem_cons_self, rfl, _, rfl⟩
      | tail _ hm =>
        obtain ⟨original, ho, hrest⟩ := ih hm
        exact ⟨original, List.mem_cons_of_mem _ ho, hrest⟩

theorem Keyed.without (h : Keyed value) (deleted : List Step → Bool) (place : List Step) :
    Keyed (value.without deleted place) := by
  induction h generalizing place with
  | null => exact .null
  | bool value => exact .bool value
  | string text => exact .string text
  | array _ ih =>
    rw [Json.without]
    refine .array fun item hi => ?_
    obtain ⟨original, ho, place, rfl⟩ := mem_withoutInItems hi
    exact ih original ho place
  | object hn _ ih =>
    rw [Json.without]
    refine .object (fun member hm => ?_) fun member hm => ?_
    · obtain ⟨original, ho, he, -⟩ := mem_withoutInMembers hm
      exact he ▸ hn original ho
    · obtain ⟨original, ho, -, place, he⟩ := mem_withoutInMembers hm
      exact he ▸ ih original ho place

theorem keyed_ofFields_nil : Keyed (.ofFields []) :=
  .object (fun _ hm => absurd hm List.not_mem_nil) fun _ hm => absurd hm List.not_mem_nil

/-- One more field in front. -/
theorem Keyed.field {fields : List (String × Json)} {name : String}
    (hn : name.toList.length ≤ 170) (hv : Keyed value) (h : Keyed (.ofFields fields)) :
    Keyed (.ofFields ((name, value) :: fields)) := by
  cases h with
  | object hns hvs =>
    exact .object (List.forall_mem_cons.2 ⟨hn, hns⟩) (List.forall_mem_cons.2 ⟨hv, hvs⟩)

theorem keyed_ofTexts (texts : List Text) : Keyed (.ofTexts texts) := by
  refine .array fun item hi => ?_
  obtain ⟨text, -, rfl⟩ := List.mem_map.1 hi
  exact .string text

end Json

namespace Yaml

theorem ofItems_eq (items : List Json) : Node.ofItems items = items.map .ofJson := by
  induction items with
  | nil => rfl
  | cons item items ih => rw [Node.ofItems, ih, List.map_cons]

theorem ofMembers_eq (members : List (Text × Json)) : Node.ofMembers members =
    members.map fun member => (.ofText member.1, .ofJson member.2) := by
  induction members with
  | nil => rfl
  | cons member members ih => rw [Node.ofMembers, ih, List.map_cons]

theorem printable_ofJson {value : Json} (h : value.Keyed) : Printable (.ofJson value) := by
  induction h with
  | null => exact printable_plain rfl
  | bool value => cases value <;> exact printable_plain rfl
  | string text =>
    rw [Node.ofJson]
    exact printable_ofText text
  | array _ ih =>
    rw [Node.ofJson, ofItems_eq]
    refine .sequence fun item hi => ?_
    obtain ⟨original, ho, rfl⟩ := List.mem_map.1 hi
    exact ih original ho
  | object hn _ ih =>
    rw [Node.ofJson, ofMembers_eq]
    refine .mapping (fun entry he => ?_) fun entry he => ?_
    · obtain ⟨member, hm, rfl⟩ := List.mem_map.1 he
      exact isKey_ofText (hn member hm)
    · obtain ⟨member, hm, rfl⟩ := List.mem_map.1 he
      exact ih member hm

end Yaml

open Json (Keyed keyed_ofTexts keyed_ofFields_nil)

theorem keyed_ofOption {α : Type} {write : α → Json} (h : ∀ value, (write value).Keyed)
    (value : Option α) : (Json.ofOption write value).Keyed := by
  cases value with
  | none => exact .null
  | some value => exact h value

theorem Path.keyed (path : Path) : path.toJson.Keyed := .string _

theorem Policy.keyed (policy : Policy) : policy.toJson.Keyed :=
  .field (by decide) (keyed_ofTexts _) <| .field (by decide) (keyed_ofTexts _) <|
    .field (by decide) (keyed_ofTexts _) keyed_ofFields_nil

theorem Script.Keys.keyed (keys : Script.Keys) : keys.toJson.Keyed :=
  .field (by decide) (.string _) <| .field (by decide) (.string _) keyed_ofFields_nil

theorem ScriptConfig.keyed (script : ScriptConfig) : script.toJson.Keyed :=
  .field (by decide) script.template.keyed <| .field (by decide) script.output.keyed <|
    .field (by decide) (keyed_ofOption Script.Keys.keyed _) keyed_ofFields_nil

theorem Readme.SectionEnd.keyed (ending : Readme.SectionEnd) : ending.toJson.Keyed := by
  cases ending <;> exact .field (by decide) (.string _) keyed_ofFields_nil

theorem SectionConfig.keyed (config : SectionConfig) : config.toJson.Keyed :=
  .field (by decide) (.string _) <|
    .field (by decide) (keyed_ofOption (fun _ => .string _) config.underline) <|
    .field (by decide) config.ending.keyed <| .field (by decide) config.template.keyed
    keyed_ofFields_nil

theorem Config.keyed (config : Config) : config.toJson.Keyed :=
  .field (by decide) (.string _) <|
    .field (by decide) (.field (by decide) config.source.path.keyed <|
      .field (by decide) (.string _) keyed_ofFields_nil) <|
    .field (by decide) config.policy.keyed <|
    .field (by decide) (keyed_ofTexts _) <|
    .field (by decide) (.string _) <|
    .field (by decide) (.field (by decide) (.string _) <|
      .field (by decide) (.string _) keyed_ofFields_nil) <|
    .field (by decide) config.templates.keyed <|
    .field (by decide) (.field (by decide) config.scripts.bash.keyed <|
      .field (by decide) config.scripts.zsh.keyed <|
      .field (by decide) config.scripts.fish.keyed keyed_ofFields_nil) <|
    .field (by decide) (.field (by decide) config.readme.path.keyed <|
      .field (by decide) (.array fun item hi => by
        obtain ⟨part, -, rfl⟩ := List.mem_map.1 hi
        exact part.keyed) keyed_ofFields_nil) keyed_ofFields_nil

end Synopsis
