import Synopsis.Proofs.Config.Written

/-!
# Configurations with members left out

Every member of a configuration has a default, and so has every member of its parts, the keys of a
script, and the underline of a section. A written configuration may lack any of the members that
have their defaults.

- `AtDefault`: the places of a document where a member has its default.
- `config_without`: such members may be missing from a document.
-/

namespace Synopsis

open Json (Step)
open Setting

/-! ## Parts as values -/

/-- The JSON value of where the help text is. -/
def SourceConfig.toJson (config : SourceConfig) : Json :=
  .ofFields [("path", config.path.toJson), ("variable", .string config.name)]

/-- The JSON value of the flag group. -/
def GroupConfig.toJson (config : GroupConfig) : Json :=
  .ofFields [("command", .string config.command), ("description", .string config.description)]

/-- The JSON value of the scripts. -/
def ScriptsConfig.toJson (config : ScriptsConfig) : Json :=
  .ofFields [("bash", config.bash.toJson), ("zsh", config.zsh.toJson), ("fish", config.fish.toJson)]

/-- The JSON value of the README. -/
def ReadmeConfig.toJson (config : ReadmeConfig) : Json :=
  .ofFields [
    ("path", config.path.toJson), ("sections", .array (config.sections.map SectionConfig.toJson))]

theorem Config.toJson_eq (config : Config) : config.toJson =
    .ofFields [
      ("version", .string config.version),
      ("source", config.source.toJson),
      ("parse", config.policy.toJson),
      ("protocol_commands", .ofTexts config.protocol),
      ("program", .string config.program),
      ("flag_group", config.group.toJson),
      ("templates_dir", config.templates.toJson),
      ("completions", config.scripts.toJson),
      ("readme", config.readme.toJson)] := rfl

namespace Setting

variable {deleted : List Step → Bool} {place : List Step} {α : Type}

/-! ## Fields with defaults -/

/-- Every deleted member of the value at `place` is the same in the default. -/
def Omits (deleted : List Step → Bool) (place : List Step) (value default : Json) : Prop :=
  ∀ name, deleted (place ++ [.member name]) = true → value.member? name = default.member? name

theorem Omits.nothing {value default : Json} : Omits (fun _ => false) place value default :=
  fun _ hd => absurd hd Bool.false_ne_true

theorem pure_injective {a b : α} (h : (pure a : Read α) = pure b) : a = b :=
  Except.ok.inj (congrArg Read.alone h)

/-- A field is read where it is, and where it is deleted its value is the default. -/
theorem field_of_omits {fields : List (String × Json)} {default : Json} {name : Text}
    {read : Setting → Read α} {write : α → Json} {value usual : α}
    (h : Omits deleted place (.ofFields fields) default)
    (hr : ∀ value, read (ofWritten (write value)) = pure value)
    (hv : (Json.ofFields fields).member? name = some (write value))
    (hu : default.member? name = some (write usual))
    (hw : read (ofWritten ((write value).without deleted (place ++ [.member name]))) = pure value) :
    field (keptFields deleted place fields) name read usual = pure value := by
  refine field_without hv (fun hd => ?_) hw
  have heq : some (write value) = some (write usual) := by
    rw [← hv, ← hu]
    exact h name hd
  have hread := hr value
  rw [Option.some.inj heq, hr usual] at hread
  exact pure_injective hread

theorem source_without {config : SourceConfig}
    (h : Omits deleted place config.toJson ({} : SourceConfig).toJson) :
    (ofWritten (config.toJson.without deleted place)).source = pure config := by
  have hnames : (["path", "variable"] : List Text).Nodup := by decide
  rw [SourceConfig.toJson, Setting.source, fields_without hnames, pure_bind]
  dsimp only
  rw [field_of_omits h path_ofWritten rfl rfl (path_ofWritten _), pure_bind,
    field_of_omits h text_ofWritten rfl rfl (text_ofWritten _), pure_bind]
  rfl

theorem source_ofWritten (config : SourceConfig) :
    (ofWritten config.toJson).source = pure config := by
  have h := @source_without (fun _ => false) [] config .nothing
  rwa [Json.without_nothing] at h

theorem policy_without {policy : Policy}
    (h : Omits deleted place policy.toJson ({} : Policy).toJson) :
    (ofWritten (policy.toJson.without deleted place)).policy = pure policy := by
  have hnames : (["start_headers", "end_headers", "excluded_commands"] : List Text).Nodup := by
    decide
  rw [Policy.toJson, Setting.policy, fields_without hnames, pure_bind]
  dsimp only
  rw [field_of_omits h texts_ofWritten rfl rfl (texts_without _), pure_bind,
    field_of_omits h texts_ofWritten rfl rfl (texts_without _), pure_bind,
    field_of_omits h texts_ofWritten rfl rfl (texts_without _), pure_bind]
  rfl

theorem policy_ofWritten (policy : Policy) :
    (ofWritten policy.toJson).policy = pure policy := by
  have h := @policy_without (fun _ => false) [] policy .nothing
  rwa [Json.without_nothing] at h

theorem group_without {config : GroupConfig}
    (h : Omits deleted place config.toJson ({} : GroupConfig).toJson) :
    (ofWritten (config.toJson.without deleted place)).group = pure config := by
  have hnames : (["command", "description"] : List Text).Nodup := by decide
  rw [GroupConfig.toJson, Setting.group, fields_without hnames, pure_bind]
  dsimp only
  rw [field_of_omits h text_ofWritten rfl rfl (text_ofWritten _), pure_bind,
    field_of_omits h text_ofWritten rfl rfl (text_ofWritten _), pure_bind]
  rfl

theorem group_ofWritten (config : GroupConfig) :
    (ofWritten config.toJson).group = pure config := by
  have h := @group_without (fun _ => false) [] config .nothing
  rwa [Json.without_nothing] at h

/-! ## Structures with one field that may be missing -/

/-- Of the value at `place` only the member `optional` is deleted, and only if it has its default,
and nothing of the member `inner`. -/
structure OmitsOnly (deleted : List Step → Bool) (place : List Step) (optional inner : Text)
    (usual : Prop) : Prop where
  only : ∀ name, deleted (place ++ [.member name]) = true → name = optional ∧ usual
  inside : ∀ name, deleted (place ++ [.member inner] ++ [.member name]) = false

theorem OmitsOnly.keeps {optional inner : Text} {usual : Prop}
    (h : OmitsOnly deleted place optional inner usual) {name : Text} (hn : name ≠ optional) :
    deleted (place ++ [.member name]) = false := by
  cases hd : deleted (place ++ [.member name]) with
  | false => rfl
  | true => exact absurd (h.only name hd).1 hn

theorem OmitsOnly.nothing {optional inner : Text} {usual : Prop} :
    OmitsOnly (fun _ => false) place optional inner usual where
  only _ hd := absurd hd Bool.false_ne_true
  inside _ := rfl

theorem keys_without (h : ∀ name, deleted (place ++ [.member name]) = false)
    (keys : Script.Keys) :
    (ofWritten (keys.toJson.without deleted place)).keys = pure keys := by
  have hnames : (["commands", "flags"] : List Text).Nodup := by decide
  rw [Script.Keys.toJson, Setting.keys, fields_without hnames, pure_bind]
  · rw [required_without rfl (h _) (text_ofWritten _), pure_bind,
      required_without rfl (h _) (text_ofWritten _), pure_bind]
  · rfl

theorem script_without {script : ScriptConfig}
    (h : OmitsOnly deleted place "keys" "keys" (script.keys = none)) :
    (ofWritten (script.toJson.without deleted place)).script = pure script := by
  have hnames : (["template", "output", "keys"] : List Text).Nodup := by decide
  have hkeys := optional_without (fun keys => Or.inr ⟨_, rfl⟩) (keys_without h.inside) script.keys
  rw [ScriptConfig.toJson, Setting.script, fields_without hnames, pure_bind]
  · rw [required_without rfl (h.keeps (by decide)) (path_ofWritten _), pure_bind,
      required_without rfl (h.keeps (by decide)) (path_ofWritten _), pure_bind,
      field_without rfl (fun hd => (h.only _ hd).2.symm) hkeys, pure_bind]
  · rfl

theorem script_ofWritten (script : ScriptConfig) :
    (ofWritten script.toJson).script = pure script := by
  have h := @script_without (fun _ => false) [] script .nothing
  rwa [Json.without_nothing] at h

theorem sectionEnd_without (h : ∀ name, deleted (place ++ [.member name]) = false)
    (ending : Readme.SectionEnd) :
    (ofWritten (ending.toJson.without deleted place)).sectionEnd = pure ending := by
  cases ending with
  | through literal =>
    rw [Readme.SectionEnd.toJson, Setting.sectionEnd, variant_without (h _), pure_bind]
    show Readme.SectionEnd.through <$> (ofWritten (.string literal)).text = _
    rw [text_ofWritten, map_pure]
  | before literal =>
    rw [Readme.SectionEnd.toJson, Setting.sectionEnd, variant_without (h _), pure_bind]
    show Readme.SectionEnd.before <$> (ofWritten (.string literal)).text = _
    rw [text_ofWritten, map_pure]

theorem readmeSection_without {config : SectionConfig}
    (h : OmitsOnly deleted place "underline" "end" (config.underline = defaultUnderline)) :
    (ofWritten (config.toJson.without deleted place)).readmeSection = pure config := by
  have hnames : (["heading", "underline", "end", "template"] : List Text).Nodup := by decide
  rw [SectionConfig.toJson, Setting.readmeSection, fields_without hnames, pure_bind]
  · rw [required_without rfl (h.keeps (by decide)) (text_ofWritten _), pure_bind,
      field_without rfl (fun hd => (h.only _ hd).2.symm)
        (optional_without (fun c => Or.inl ⟨[c], rfl⟩) character_ofWritten _), pure_bind,
      required_without rfl (h.keeps (by decide)) (sectionEnd_without h.inside _), pure_bind,
      required_without rfl (h.keeps (by decide)) (path_ofWritten _), pure_bind]
  · rfl

theorem readmeSection_ofWritten (config : SectionConfig) :
    (ofWritten config.toJson).readmeSection = pure config := by
  have h := @readmeSection_without (fun _ => false) [] config .nothing
  rwa [Json.without_nothing] at h

theorem sections_ofWritten (sections : List SectionConfig) :
    listOf readmeSection (ofWritten (.array (sections.map SectionConfig.toJson))) =
      pure sections := by
  have h := @listOf_without (fun _ => false) [] _ readmeSection SectionConfig.toJson sections
    fun _ part _ => by
      rw [Json.without_nothing]
      exact readmeSection_ofWritten part
  rwa [Json.without_nothing] at h

/-! ## Parts that hold such structures -/

theorem scripts_without {config : ScriptsConfig}
    (h : Omits deleted place config.toJson ({} : ScriptsConfig).toJson)
    (hs : ∀ name script, config.toJson.member? name = some (ScriptConfig.toJson script) →
      OmitsOnly deleted (place ++ [.member name]) "keys" "keys" (script.keys = none)) :
    (ofWritten (config.toJson.without deleted place)).scripts = pure config := by
  have hnames : (["bash", "zsh", "fish"] : List Text).Nodup := by decide
  rw [ScriptsConfig.toJson, Setting.scripts, fields_without hnames, pure_bind]
  dsimp only
  rw [field_of_omits h script_ofWritten rfl rfl (script_without (hs "bash" _ rfl)), pure_bind,
    field_of_omits h script_ofWritten rfl rfl (script_without (hs "zsh" _ rfl)), pure_bind,
    field_of_omits h script_ofWritten rfl rfl (script_without (hs "fish" _ rfl)), pure_bind]
  rfl

theorem scripts_ofWritten (config : ScriptsConfig) :
    (ofWritten config.toJson).scripts = pure config := by
  have h := @scripts_without (fun _ => false) [] config .nothing fun _ _ _ => .nothing
  rwa [Json.without_nothing] at h

theorem readme_without {config : ReadmeConfig}
    (h : Omits deleted place config.toJson ({} : ReadmeConfig).toJson)
    (hs : ∀ (index : Nat) part, config.sections[index]? = some part →
      OmitsOnly deleted (place ++ [.member "sections", .item index]) "underline" "end"
        (part.underline = defaultUnderline)) :
    (ofWritten (config.toJson.without deleted place)).readme = pure config := by
  have hnames : (["path", "sections"] : List Text).Nodup := by decide
  have hsections : listOf readmeSection (ofWritten ((Json.array
      (config.sections.map SectionConfig.toJson)).without deleted
        (place ++ [.member "sections"]))) = pure config.sections := by
    refine listOf_without fun index part hi => readmeSection_without ?_
    rw [← List.append_cons]
    exact hs index part hi
  rw [ReadmeConfig.toJson, Setting.readme, fields_without hnames, pure_bind]
  dsimp only
  rw [field_of_omits h path_ofWritten rfl rfl (path_ofWritten _), pure_bind,
    field_of_omits h sections_ofWritten rfl rfl hsections, pure_bind]
  rfl

theorem readme_ofWritten (config : ReadmeConfig) :
    (ofWritten config.toJson).readme = pure config := by
  have h := @readme_without (fun _ => false) [] config .nothing fun _ _ _ => .nothing
  rwa [Json.without_nothing] at h

end Setting

namespace Config

variable {config : Config} {deleted : List Step → Bool} {place : List Step}

/-- The places of a document where a member has its default: a member of the document or of one of
its parts with the value that it has in the default configuration, keys of a script that are null,
and an underline of a section that is the default character. -/
inductive AtDefault (config : Config) : List Step → Prop
  | member {place : List Step} : place.length ≤ 2 →
      config.toJson.at? place = ({} : Config).toJson.at? place → AtDefault config place
  | keys {script : Text} :
      config.toJson.at? [.member "completions", .member script, .member "keys"] = some .null →
      AtDefault config [.member "completions", .member script, .member "keys"]
  | underline {index : Nat} :
      config.toJson.at? [.member "readme", .member "sections", .item index, .member "underline"] =
        some (.string "=") →
      AtDefault config [.member "readme", .member "sections", .item index, .member "underline"]

theorem at?_member_cons (name : Text) (place : List Step) (value : Json) :
    value.at? (.member name :: place) = (value.member? name).bind (Json.at? place) := by
  cases value <;> rfl

/-- What is deleted of a part has its default. -/
theorem omits_part (h : ∀ place, deleted place = true → config.AtDefault place) {part : Text}
    {value default : Json} (hv : config.toJson.member? part = some value)
    (hd : ({} : Config).toJson.member? part = some default) :
    Omits deleted [.member part] value default := by
  intro name hdeleted
  cases h [.member part, .member name] hdeleted with
  | member _ heq =>
    rw [at?_member_cons, at?_member_cons, hv, hd, Option.bind_some, Option.bind_some,
      Json.at?_member, Json.at?_member] at heq
    exact heq

theorem omitsOnly_script (h : ∀ place, deleted place = true → config.AtDefault place) {name : Text}
    {script : ScriptConfig} (hs : config.scripts.toJson.member? name = some script.toJson) :
    OmitsOnly deleted ([.member "completions"] ++ [.member name]) "keys" "keys"
      (script.keys = none) where
  only other hd := by
    cases h [.member "completions", .member name, .member other] hd with
    | member hl => exact absurd hl (show ¬ 3 ≤ 2 by decide)
    | keys heq =>
      have hscripts : config.toJson.member? "completions" = some config.scripts.toJson := rfl
      rw [at?_member_cons, hscripts, Option.bind_some, at?_member_cons, hs, Option.bind_some,
        Json.at?_member] at heq
      have hnull : Json.ofOption Script.Keys.toJson script.keys = .null := Option.some.inj heq
      refine ⟨rfl, ?_⟩
      cases hk : script.keys with
      | none => rfl
      | some keys =>
        rw [hk] at hnull
        cases hnull
  inside other := by
    rw [← Bool.not_eq_true]
    intro hd
    cases h [.member "completions", .member name, .member "keys", .member other] hd with
    | member hl => exact absurd hl (show ¬ 4 ≤ 2 by decide)

theorem omitsOnly_section (h : ∀ place, deleted place = true → config.AtDefault place)
    {index : Nat} {part : SectionConfig} (hs : config.readme.sections[index]? = some part) :
    OmitsOnly deleted ([.member "readme"] ++ [.member "sections", .item index]) "underline" "end"
      (part.underline = defaultUnderline) where
  only other hd := by
    cases h [.member "readme", .member "sections", .item index, .member other] hd with
    | member hl => exact absurd hl (show ¬ 4 ≤ 2 by decide)
    | underline heq =>
      have hitem : (config.readme.sections.map SectionConfig.toJson)[index]? =
          some part.toJson := by
        rw [List.getElem?_map, hs, Option.map_some]
      have hplace : config.toJson.at? [.member "readme", .member "sections", .item index,
          .member "underline"] = ((config.readme.sections.map SectionConfig.toJson)[index]?).bind
            (Json.at? [.member "underline"]) := rfl
      rw [hplace, hitem, Option.bind_some, Json.at?_member] at heq
      have hchar : Json.ofOption (fun c => .string [c]) part.underline = .string "=" :=
        Option.some.inj heq
      refine ⟨rfl, ?_⟩
      cases hu : part.underline with
      | none =>
        rw [hu] at hchar
        cases hchar
      | some c =>
        rw [hu] at hchar
        cases hchar
        rfl
  inside other := by
    rw [← Bool.not_eq_true]
    intro hd
    cases h [.member "readme", .member "sections", .item index, .member "end", .member other]
      hd with
    | member hl => exact absurd hl (show ¬ 5 ≤ 2 by decide)

/-- A document without members that have their defaults is read as the whole document. -/
theorem config_without (h : ∀ place, deleted place = true → config.AtDefault place) :
    (ofWritten (config.toJson.without deleted [])).config = pure config := by
  have hnames : (["version", "source", "parse", "protocol_commands", "program", "flag_group",
    "templates_dir", "completions", "readme"] : List Text).Nodup := by decide
  have hparts : Omits deleted [] config.toJson ({} : Config).toJson := by
    intro name hd
    cases h [.member name] hd with
    | member _ heq => rwa [Json.at?_member, Json.at?_member] at heq
  rw [config.toJson_eq] at hparts
  rw [Config.toJson_eq, Setting.config, fields_without hnames, pure_bind]
  dsimp only
  rw [field_of_omits hparts text_ofWritten rfl rfl (text_ofWritten _), pure_bind,
    field_of_omits hparts source_ofWritten rfl rfl (source_without (omits_part h rfl rfl)),
    pure_bind,
    field_of_omits hparts policy_ofWritten rfl rfl (policy_without (omits_part h rfl rfl)),
    pure_bind,
    field_of_omits hparts texts_ofWritten rfl rfl (texts_without _), pure_bind,
    field_of_omits hparts text_ofWritten rfl rfl (text_ofWritten _), pure_bind,
    field_of_omits hparts group_ofWritten rfl rfl (group_without (omits_part h rfl rfl)),
    pure_bind,
    field_of_omits hparts path_ofWritten rfl rfl (path_ofWritten _), pure_bind,
    field_of_omits hparts scripts_ofWritten rfl rfl (scripts_without (omits_part h rfl rfl)
      fun _ _ hs => omitsOnly_script h hs), pure_bind,
    field_of_omits hparts readme_ofWritten rfl rfl (readme_without (omits_part h rfl rfl)
      fun _ _ hs => omitsOnly_section h hs), pure_bind]
  rfl

end Config

end Synopsis
