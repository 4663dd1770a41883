import IdConnector.Library.Kind
import IdConnector.Startup

/-! # Configurations from their files

A configuration is written with sorted keys, at every depth. What comes back when it is
loaded has the same name, and the same settings up to the order of their keys.
-/

namespace IdConnector

open Library Library.Document

/-! ## Sorted values -/

theorem truthy_sortKeys (v : Json) : Json.truthy v.sortKeys = v.truthy := by
  cases v with
  | null => rfl
  | atom leaf => rfl
  | list items => cases items <;> rfl
  | dict entries =>
      have length := (sortEntries_perm entries).length_eq
      rw [List.length_map] at length
      simp only [sortKeys, Json.truthy]
      cases entries <;> cases sorted : sortEntries _ <;> simp_all

theorem contains_str_sortItems (items : List Json) (s : String) :
    (sortItems items).contains (Json.str s) = items.contains (Json.str s) := by
  induction items with
  | nil => rfl
  | cons item rest ih =>
      have same : (Json.str s == item.sortKeys) = (Json.str s == item) := by
        cases item <;> simp [sortKeys, Json.str]
      simp only [sortItems, List.contains_cons, ih, same]

theorem contains_sortKeys (key : String) (v : Json) :
    contains key v.sortKeys = contains key v := by
  cases v with
  | null | atom => rfl
  | list items => simp only [sortKeys, contains, contains_str_sortItems]
  | dict entries => simp [sortKeys, contains, get_sortEntries]

theorem subscript_sortKeys (v : Json) (key : String) :
    subscript v.sortKeys key = (subscript v key).map sortKeys := by
  cases v with
  | null | list => rfl
  | atom leaf => cases leaf <;> rfl
  | dict entries =>
      simp only [sortKeys, subscript, get_sortEntries]
      cases Dict.get entries key <;> rfl

theorem getMapping_sortKeys (v : Json) (key : String) :
    getMapping v.sortKeys key = (getMapping v key).map sortKeys := by
  cases v with
  | null | atom | list => rfl
  | dict entries =>
      simp only [sortKeys, getMapping, get_sortEntries]
      cases Dict.get entries key <;> rfl

theorem configured_sortKeys (key : String) (users special : Json) :
    configured key users.sortKeys special.sortKeys = configured key users special := by
  simp only [configured, truthy_sortKeys, contains_sortKeys]

/-! ## The loaded configuration -/

/-- What `load_school_authority` reads of a plugin. -/
def reloadedSettings (settings : JsonObject) : JsonObject :=
  (sortEntries (settings.map fun entry => (entry.1, secretToPlain entry.1 entry.2))).map
    fun entry => (entry.1, plainToSecret entry.1 entry.2)

theorem get_mapEntries (f : String → Json → Json) (entries : JsonObject) (key : String) :
    Dict.get (entries.map fun entry => (entry.1, f entry.1 entry.2)) key =
      (entries.get key).map (f key) := by
  induction entries with
  | nil => rfl
  | cons entry rest ih =>
      rcases entry with ⟨k, v⟩
      simp only [List.map_cons, Dict.get_cons, ih]
      split
      next same => subst same; rfl
      next => rfl

theorem secretToPlain_other {key : String} (plain : key ∉ secretKeys) (v : Json) :
    secretToPlain key v = v := by
  unfold secretToPlain
  split <;> simp [plain]

theorem plainToSecret_other {key : String} (plain : key ∉ secretKeys) (v : Json) :
    plainToSecret key v = v := by
  unfold plainToSecret
  split <;> simp [plain]

/-- Settings that are no secrets come back with their keys sorted. -/
theorem get_reloadedSettings (settings : JsonObject) {key : String} (plain : key ∉ secretKeys) :
    Dict.get (reloadedSettings settings) key = (Dict.get settings key).map sortKeys := by
  rw [reloadedSettings, get_mapEntries, get_sortEntries, get_mapEntries]
  cases Dict.get settings key with
  | none => rfl
  | some v => simp [secretToPlain_other plain, plainToSecret_other plain]

/-- Plugin configurations with all their keys sorted. -/
def sortConfigs : Dict String JsonObject → Dict String JsonObject
  | [] => []
  | (pluginName, settings) :: rest =>
      (sortConfigs rest).orderedInsert (fun a b => a.1 ≤ b.1) (pluginName, sortEntries settings)

theorem sortEntries_asEntries (configs : Dict String JsonObject) :
    sortEntries (asEntries configs) = asEntries (sortConfigs configs) := by
  have insert : ∀ (plugin : String × JsonObject) (sorted : Dict String JsonObject),
      asEntries (sorted.orderedInsert (fun a b => a.1 ≤ b.1) plugin) =
        (asEntries sorted).orderedInsert (fun a b => a.1 ≤ b.1) (plugin.1, .dict plugin.2) := by
    intro plugin sorted
    induction sorted with
    | nil => rfl
    | cons first rest ih =>
        simp only [List.orderedInsert, asEntries, List.map_cons] at ih ⊢
        split
        · rfl
        · rw [List.map_cons, ih]
  induction configs with
  | nil => rfl
  | cons plugin rest ih =>
      rcases plugin with ⟨pluginName, settings⟩
      rw [sortConfigs, insert, ← ih]
      rfl

theorem get_sortConfigs (configs : Dict String JsonObject) (pluginName : String) :
    (sortConfigs configs).get pluginName = (configs.get pluginName).map sortEntries := by
  have sorted := get_sortEntries (asEntries configs) pluginName
  rw [sortEntries_asEntries, get_asEntries, get_asEntries] at sorted
  cases here : (sortConfigs configs).get pluginName <;>
    cases before : configs.get pluginName <;> simp_all [sortKeys]

theorem get_mapPluginConfigs (f : String → Json → Json) (configs : Dict String JsonObject)
    (pluginName : String) :
    (mapPluginConfigs f configs).get pluginName =
      (configs.get pluginName).map (List.map fun entry => (entry.1, f entry.1 entry.2)) := by
  induction configs with
  | nil => rfl
  | cons plugin rest ih =>
      rcases plugin with ⟨name, settings⟩
      simp only [mapPluginConfigs, List.map_cons, Dict.get_cons] at ih ⊢
      rw [ih]
      split <;> rfl

section Loading

variable [Pydantic]

theorem init_ok_iff {data : JsonObject} {config : SchoolAuthorityConfiguration} :
    SchoolAuthorityConfiguration.init data = .ok config ↔
      field data "name" none (located ["name"] ∘ Pydantic.str) = .ok config.name ∧
      field data "active" (some false) (located ["active"] ∘ Pydantic.bool) = .ok config.active ∧
      field data "url" none (located ["url"] ∘ Pydantic.anyUrl) = .ok config.url ∧
      field data "plugins" (some []) (listOfStr "plugins") = .ok config.plugins ∧
      ∃ value, field data "plugin_configs" none (dictOfDict "plugin_configs") = .ok value ∧
        hasRequiredAttrCombination value = .ok () ∧
        config.pluginConfigs = pluginConfigsPlainToSecret value := by
  unfold SchoolAuthorityConfiguration.init pluginConfigsField
  cases configs : field data "plugin_configs" none (dictOfDict "plugin_configs") with
  | error errors =>
      simp only [bind, Except.bind, reduceCtorEq, false_and, exists_false, and_false, iff_false]
      split <;> simp_all [throw, throwThe, MonadExceptOf.throw]
  | ok value =>
      cases required : hasRequiredAttrCombination value with
      | error raised =>
          cases raised <;> simp [required, validatorError, Except.map, bind, Except.bind, throw,
            throwThe, MonadExceptOf.throw]
      | ok done =>
          rcases config with ⟨name, active, url, plugins, pluginConfigs, hidden⟩
          simp only [required, bind, Except.bind, Except.ok.injEq, exists_eq_left']
          generalize field data "name" none (located ["name"] ∘ Pydantic.str) = nameField,
            field data "active" (some false) (located ["active"] ∘ Pydantic.bool) = activeField,
            field data "url" none (located ["url"] ∘ Pydantic.anyUrl) = urlField,
            field data "plugins" (some []) (listOfStr "plugins") = pluginsField
          cases nameField <;> cases activeField <;> cases urlField <;> cases pluginsField <;>
            simp [throw, throwThe, MonadExceptOf.throw, pure, Except.pure, eq_comm]

/-- What of a configuration is the same once it has been saved and loaded. -/
structure Reloaded (config config' : SchoolAuthorityConfiguration) : Prop where
  name : config'.name = config.name
  settings : ∀ pluginName, config'.pluginConfigs.get pluginName =
    (config.pluginConfigs.get pluginName).map reloadedSettings

omit [Pydantic] in
theorem get_written (configs : Dict String JsonObject) (pluginName : String) :
    (pluginConfigsPlainToSecret (sortConfigs (pluginConfigsSecretsToPlain configs))).get
      pluginName = (configs.get pluginName).map reloadedSettings := by
  rw [pluginConfigsPlainToSecret, get_mapPluginConfigs, get_sortConfigs,
    pluginConfigsSecretsToPlain, get_mapPluginConfigs]
  cases configs.get pluginName <;> rfl

omit [Pydantic] in
theorem sortKeys_strs (ss : List String) : (Json.strs ss).sortKeys = Json.strs ss := by
  simp only [Json.strs, sortKeys, Document.list.injEq]
  induction ss with
  | nil => rfl
  | cons s rest ih => rw [List.map_cons, sortItems, ih]; rfl

omit [Pydantic] in
/-- The validator of the attribute combination does not look at any order. -/
theorem hasRequiredAttrCombination_written {value : Dict String JsonObject}
    (required : hasRequiredAttrCombination value = .ok ()) :
    hasRequiredAttrCombination (sortConfigs (pluginConfigsSecretsToPlain
      (pluginConfigsPlainToSecret value))) = .ok () := by
  have written : (Dict.get (((sortConfigs (pluginConfigsSecretsToPlain
      (pluginConfigsPlainToSecret value))).get "kelvin").getD []) "mapping").getD (.dict []) =
        sortKeys ((Dict.get ((value.get "kelvin").getD []) "mapping").getD (.dict [])) := by
    have plain : "mapping" ∉ secretKeys := by decide
    rw [get_sortConfigs, pluginConfigsSecretsToPlain, get_mapPluginConfigs,
      pluginConfigsPlainToSecret, get_mapPluginConfigs]
    cases value.get "kelvin" with
    | none => rfl
    | some settings =>
        simp only [Option.map_some, Option.getD_some, get_sortEntries, get_mapEntries]
        cases Dict.get settings "mapping" with
        | none => rfl
        | some v => simp [secretToPlain_other plain, plainToSecret_other plain]
  unfold hasRequiredAttrCombination at required ⊢
  simp only [written, getMapping_sortKeys]
  generalize (Dict.get ((value.get "kelvin").getD []) "mapping").getD (.dict []) = mapping
    at required ⊢
  cases users : getMapping mapping "users" with
  | error raised => simp [users, bind, Except.bind] at required
  | ok users =>
      cases student : getMapping mapping "users_student" with
      | error raised => simp [users, student, bind, Except.bind] at required
      | ok student =>
          cases guardian : getMapping mapping "users_legal_guardian" with
          | error raised => simp [users, student, guardian, bind, Except.bind] at required
          | ok guardian =>
              simp only [users, student, guardian, Except.map, bind, Except.bind] at required ⊢
              simpa only [configured_sortKeys] using required

/-- A configuration that was accepted once is accepted again when it is loaded. -/
theorem reload_accepted {data : JsonObject} {config : SchoolAuthorityConfiguration}
    (accepted : SchoolAuthorityConfiguration.init data = .ok config) :
    ∃ config', loadSchoolAuthority (.written (sortEntries config.dictSecretsAsStr)) =
      some config' ∧ Reloaded config config' := by
  obtain ⟨-, -, -, -, value, -, required, same⟩ := init_ok_iff.mp accepted
  let plain := sortConfigs (pluginConfigsSecretsToPlain config.pluginConfigs)
  let config' : SchoolAuthorityConfiguration :=
    ⟨config.name, config.active, config.url, config.plugins, pluginConfigsPlainToSecret plain,
      pluginConfigsPlainToSecret_idem plain⟩
  have loaded : SchoolAuthorityConfiguration.init (sortEntries config.dictSecretsAsStr) =
      .ok config' := by
    refine init_ok_iff.mpr ⟨?_, ?_, ?_, ?_, plain, ?_, ?_, rfl⟩
    · simp [field, get_sortEntries, SchoolAuthorityConfiguration.dictSecretsAsStr,
        SchoolAuthorityConfiguration.fields, Dict.get, config', located, Except.mapError, Json.str,
        sortKeys, Pydantic.str_typed]
    · simp [field, get_sortEntries, SchoolAuthorityConfiguration.dictSecretsAsStr,
        SchoolAuthorityConfiguration.fields, Dict.get, config', located, Except.mapError, Json.bool,
        sortKeys, Pydantic.bool_typed]
    · simp [field, get_sortEntries, SchoolAuthorityConfiguration.dictSecretsAsStr,
        SchoolAuthorityConfiguration.fields, Dict.get, config', located, Except.mapError,
        sortKeys, Pydantic.anyUrl_typed]
    · simp [field, get_sortEntries, SchoolAuthorityConfiguration.dictSecretsAsStr,
        SchoolAuthorityConfiguration.fields, Dict.get, config', sortKeys_strs, listOfStr_typed]
    · simp [field, get_sortEntries, SchoolAuthorityConfiguration.dictSecretsAsStr,
        SchoolAuthorityConfiguration.fields, Dict.get, sortKeys, sortEntries_asEntries, plain,
        dictOfDict_typed]
    · simp only [plain, same]
      exact hasRequiredAttrCombination_written required
  refine ⟨config', by rw [loadSchoolAuthority, loaded]; rfl, rfl, ?_⟩
  exact get_written config.pluginConfigs

end Loading

end IdConnector
