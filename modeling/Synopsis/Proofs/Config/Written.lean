import Mathlib.Data.List.Nodup
import Synopsis.Config.Decode
import Synopsis.Config.Encode

/-!
# Settings of written values

What a reader finds in the document of a value: every string is a text that stands for something,
null stands for nothing, and a container holds the settings of its items. A value may lack some of
its members; the fields of the others are read as if nothing were missing.

- `ofNode_ofText`: a text is never taken for nothing.
- `fields_without`: the fields of an object without some members.
- `field_without`, `required_without`: reading one of them.
-/

namespace Synopsis

namespace Json

/-- A step into a value: to the member of a name, or to an item of an array. -/
inductive Step where
  | member (name : Text)
  | item (index : Nat)
  deriving DecidableEq

/-- What stands at a place of a value. -/
def at? : List Step → Json → Option Json
  | [], value => some value
  | .member name :: place, .object members => (members.lookup name).bind (at? place)
  | .item index :: place, .array items => items[index]?.bind (at? place)
  | _ :: _, _ => none

mutual

/-- The value at `place` of a document, without the members at the deleted places. -/
def without (deleted : List Step → Bool) (place : List Step) : Json → Json
  | .array items => .array (withoutInItems deleted place 0 items)
  | .object members => .object (withoutInMembers deleted place members)
  | .null => .null
  | .bool value => .bool value
  | .number value => .number value
  | .string text => .string text

/-- The items from an index on. -/
def withoutInItems (deleted : List Step → Bool) (place : List Step) (index : Nat) :
    List Json → List Json
  | [] => []
  | item :: items => without deleted (place ++ [.item index]) item ::
      withoutInItems deleted place (index + 1) items

/-- The members that are not deleted. -/
def withoutInMembers (deleted : List Step → Bool) (place : List Step) :
    List (Text × Json) → List (Text × Json)
  | [] => []
  | (name, value) :: members =>
    if deleted (place ++ [.member name]) then withoutInMembers deleted place members
    else (name, without deleted (place ++ [.member name]) value) ::
      withoutInMembers deleted place members

end

variable {deleted : List Step → Bool} {place : List Step}

theorem at?_member (name : Text) (value : Json) :
    value.at? [.member name] = value.member? name := by
  cases value with
  | object members =>
    rw [at?, member?]
    cases members.lookup name <;> rfl
  | null | bool | number | string | array => rfl

mutual

/-- Without deleted places nothing is missing. -/
theorem without_nothing (place : List Step) (value : Json) :
    value.without (fun _ => false) place = value := by
  cases value with
  | array items => rw [without, withoutInItems_nothing]
  | object members => rw [without, withoutInMembers_nothing]
  | null | bool | number | string => rfl

theorem withoutInItems_nothing (place : List Step) (index : Nat) (items : List Json) :
    withoutInItems (fun _ => false) place index items = items := by
  cases items with
  | nil => rfl
  | cons item items => rw [withoutInItems, without_nothing, withoutInItems_nothing]

theorem withoutInMembers_nothing (place : List Step) (members : List (Text × Json)) :
    withoutInMembers (fun _ => false) place members = members := by
  cases members with
  | nil => rfl
  | cons member members =>
    obtain ⟨name, value⟩ := member
    rw [withoutInMembers, if_neg Bool.false_ne_true, without_nothing, withoutInMembers_nothing]

end

end Json

namespace Setting

open Json (Step)

variable {deleted : List Step → Bool} {place : List Step} {α : Type}

/-- The setting of the document of a value. -/
def ofWritten (value : Json) : Setting := .ofNode (.ofJson value)

/-- A text is quoted if it could be taken for nothing. -/
theorem ofNode_ofText (text : Text) :
    ofNode (.ofText text) = .scalar (some text) .present none := by
  rw [Yaml.Node.ofText, ofNode]
  cases hq : Yaml.needsQuotes text with
  | true => rfl
  | false =>
    have hne : ∀ word : Text, Yaml.needsQuotes word = true → text ≠ word := by
      rintro word hw rfl
      rw [hq] at hw
      cases hw
    have hpresence : presenceOf text none = .present := by
      rw [presenceOf, if_neg]
      rw [not_or]
      exact ⟨hne _ (by decide), hne _ (by decide)⟩
    simp [hpresence]

theorem ofWritten_string (text : Text) :
    ofWritten (.string text) = .scalar (some text) .present none := by
  rw [ofWritten, Yaml.Node.ofJson, ofNode_ofText]

theorem ofWritten_array (items : List Json) :
    ofWritten (.array items) = .list (items.map ofWritten) := by
  rw [ofWritten, Yaml.Node.ofJson, ofNode]
  congr 1
  induction items with
  | nil => rfl
  | cons item items ih =>
    rw [Yaml.Node.ofItems, ofNodes, ih]
    rfl

/-- The member of a record for that of an object. -/
def member (named : Text × Json) : Setting × Setting :=
  (.scalar (some named.1) .present none, ofWritten named.2)

theorem ofWritten_object (members : List (Text × Json)) :
    ofWritten (.object members) = .record (members.map member) := by
  rw [ofWritten, Yaml.Node.ofJson, ofNode]
  congr 1
  induction members with
  | nil => rfl
  | cons named members ih =>
    rw [Yaml.Node.ofMembers, ofEntries, ih, ofNode_ofText]
    rfl

/-! ## Values without fields -/

theorem text_ofWritten (text : Text) : (ofWritten (.string text)).text = pure text := by
  rw [ofWritten_string]
  rfl

theorem path_ofWritten (path : Path) : (ofWritten path.toJson).path = pure path := by
  rw [Setting.path, Path.toJson, text_ofWritten]
  rfl

theorem character_ofWritten (c : Char) : (ofWritten (.string [c])).character = pure c := by
  rw [ofWritten_string]
  rfl

/-- A value that is not there is written as null, which no string and no object is taken for. -/
theorem optional_without {read : Setting → Read α} {write : α → Json}
    (hw : ∀ item, (∃ text, write item = .string text) ∨ ∃ fields, write item = .ofFields fields)
    (hr : ∀ item, read (ofWritten ((write item).without deleted place)) = pure item)
    (value : Option α) :
    optional read (ofWritten ((Json.ofOption write value).without deleted place)) =
      pure value := by
  cases value with
  | none => rfl
  | some item =>
    have hread := hr item
    rw [Json.ofOption]
    rcases hw item with ⟨text, ht⟩ | ⟨fields, hf⟩
    · rw [ht, Json.without, ofWritten_string] at hread ⊢
      show some <$> read _ = _
      rw [hread, map_pure]
    · rw [hf, Json.ofFields, Json.without, ofWritten_object] at hread ⊢
      show some <$> read _ = _
      rw [hread, map_pure]

/-- A list is read item by item, each at its place. -/
theorem listOf_without {read : Setting → Read α} {write : α → Json} {items : List α}
    (hr : ∀ (index : Nat) item, items[index]? = some item →
      read (ofWritten ((write item).without deleted (place ++ [.item index]))) = pure item) :
    listOf read (ofWritten ((Json.array (items.map write)).without deleted place)) =
      pure items := by
  have hitems : ∀ (items : List α) (start : Nat),
      (∀ (index : Nat) item, items[index]? = some item →
        read (ofWritten ((write item).without deleted (place ++ [.item (start + index)]))) =
          pure item) →
      ((Json.withoutInItems deleted place start (items.map write)).map ofWritten).mapM read =
        pure items := by
    intro items
    induction items with
    | nil => exact fun _ _ => rfl
    | cons item items ih =>
      intro start h
      have hfirst := h 0 item rfl
      rw [Nat.add_zero] at hfirst
      have htail := ih (start + 1) fun index item hi => by
        rw [Nat.add_assoc, Nat.add_comm 1 index]
        exact h (index + 1) item hi
      rw [List.map_cons, Json.withoutInItems, List.map_cons, List.mapM_cons, hfirst, pure_bind,
        htail, pure_bind]
  rw [Json.without, ofWritten_array]
  exact hitems items 0 fun index item hi => by
    rw [Nat.zero_add]
    exact hr index item hi

theorem texts_without (texts : List Text) :
    (ofWritten ((Json.ofTexts texts).without deleted place)).texts = pure texts :=
  listOf_without fun _ text _ => text_ofWritten text

theorem texts_ofWritten (texts : List Text) : (ofWritten (.ofTexts texts)).texts = pure texts := by
  have hread := @texts_without (fun _ => false) [] texts
  rwa [Json.without_nothing] at hread

/-- An object of one member that is a text names a variant. -/
theorem variant_without {name : String} (h : deleted (place ++ [.member name.toList]) = false)
    (text : Text) :
    (ofWritten ((Json.ofFields [(name, .string text)]).without deleted place)).variant =
      pure (name.toList, ofWritten (.string text)) := by
  have hmembers : (Json.ofFields [(name, .string text)]).without deleted place =
      .object [(name.toList, .string text)] := by
    rw [Json.ofFields, List.map_singleton, Json.without, Json.withoutInMembers,
      if_neg (by simp [h])]
    rfl
  rw [hmembers, ofWritten_object]
  rfl

/-! ## Fields -/

/-- The fields of an object at `place` that are not deleted. -/
def kept (deleted : List Step → Bool) (place : List Step) :
    List (Text × Json) → List (Text × Setting)
  | [] => []
  | (name, value) :: members =>
    if deleted (place ++ [.member name]) then kept deleted place members
    else (name, ofWritten (value.without deleted (place ++ [.member name]))) ::
      kept deleted place members

theorem mem_names_of_mem_kept {members : List (Text × Json)} {field : Text × Setting}
    (h : field ∈ kept deleted place members) : field.1 ∈ members.map Prod.fst := by
  induction members with
  | nil => cases h
  | cons named members ih =>
    rw [kept] at h
    split at h
    · exact List.mem_cons_of_mem _ (ih h)
    · rcases List.mem_cons.1 h with rfl | h
      · exact List.mem_cons_self
      · exact List.mem_cons_of_mem _ (ih h)

/-- The members that are left are the fields, since every name is known and none is repeated. -/
theorem knownMembers_without {names : List Text} {members : List (Text × Json)}
    (hsub : ∀ named ∈ members, named.1 ∈ names) (hn : (members.map Prod.fst).Nodup) :
    knownMembers names ((Json.withoutInMembers deleted place members).map member) =
      pure (kept deleted place members) := by
  induction members with
  | nil => rfl
  | cons named members ih =>
    obtain ⟨name, value⟩ := named
    rw [List.forall_mem_cons] at hsub
    rw [List.map_cons, List.nodup_cons] at hn
    rw [Json.withoutInMembers, kept]
    split
    · exact ih hsub.2 hn.2
    · have hname : Setting.text (.scalar (some name) .present none) = pure name := rfl
      have hcontains : names.contains name = true := List.contains_iff_mem.2 hsub.1
      have hany : (kept deleted place members).any (·.1 = name) = false := by
        rw [List.any_eq_false]
        intro field hf he
        exact hn.1 (of_decide_eq_true he ▸ mem_names_of_mem_kept hf)
      rw [List.map_cons, member, knownMembers, hname, pure_bind, ih hsub.2 hn.2, pure_bind,
        if_pos hcontains, if_neg (by simp [hany])]

/-- The fields of an object whose names are given as string literals, but for the deleted ones. -/
def keptFields (deleted : List Step → Bool) (place : List Step) (fields : List (String × Json)) :
    List (Text × Setting) :=
  kept deleted place (fields.map fun field => (field.1.toList, field.2))

theorem fields_without {names : List Text} {fields : List (String × Json)}
    (hn : names.Nodup) (hf : (fields.map fun field => field.1.toList) = names) :
    (ofWritten ((Json.ofFields fields).without deleted place)).fields names =
      pure (keptFields deleted place fields) := by
  have hnames : (fields.map fun field => (field.1.toList, field.2)).map Prod.fst = names := by
    rw [List.map_map]
    exact hf
  rw [Json.ofFields, Json.without, ofWritten_object]
  refine knownMembers_without (fun named hm => ?_) (hnames ▸ hn)
  rw [← hnames]
  exact List.mem_map_of_mem hm

theorem lookup_kept (members : List (Text × Json)) (name : Text) :
    (kept deleted place members).lookup name =
      if deleted (place ++ [.member name]) then none
      else (members.lookup name).map fun value =>
        ofWritten (value.without deleted (place ++ [.member name])) := by
  induction members with
  | nil => simp [kept]
  | cons named members ih =>
    obtain ⟨other, value⟩ := named
    by_cases ho : name = other
    · subst ho
      cases hd : deleted (place ++ [.member name]) <;> simp [kept, hd, ih]
    · have hb : (name == other) = false := beq_false_of_ne ho
      cases hd : deleted (place ++ [.member other]) <;> simp [kept, hd, ih, List.lookup_cons, hb]

theorem lookup_keptFields (fields : List (String × Json)) (name : Text) :
    (keptFields deleted place fields).lookup name =
      if deleted (place ++ [.member name]) then none
      else ((Json.ofFields fields).member? name).map fun value =>
        ofWritten (value.without deleted (place ++ [.member name])) :=
  lookup_kept _ name

variable {fields : List (String × Json)} {name : Text} {value : Json} {read : Setting → Read α}
  {default result : α}

/-- A field with a default is read, or it is deleted and its value is the default. -/
theorem field_without (hv : (Json.ofFields fields).member? name = some value)
    (hd : deleted (place ++ [.member name]) = true → default = result)
    (hr : read (ofWritten (value.without deleted (place ++ [.member name]))) = pure result) :
    field (keptFields deleted place fields) name read default = pure result := by
  rw [field, lookup_keptFields, hv]
  cases hdeleted : deleted (place ++ [.member name]) with
  | true =>
    rw [hd hdeleted]
    rfl
  | false => exact hr

/-- A field without a default is read, since it is not deleted. -/
theorem required_without (hv : (Json.ofFields fields).member? name = some value)
    (hd : deleted (place ++ [.member name]) = false)
    (hr : read (ofWritten (value.without deleted (place ++ [.member name]))) = pure result) :
    required (keptFields deleted place fields) name read = pure result := by
  rw [required, lookup_keptFields, hd, hv]
  exact hr

end Setting

end Synopsis
