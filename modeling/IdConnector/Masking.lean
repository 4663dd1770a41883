import IdConnector.Library.TwoRuns
import IdConnector.Registry
import IdConnector.Reload

/-! # Masked secrets

A response is rendered as JSON, in which a `SecretStr` is a mask that only tells whether the
secret is empty. A masked configuration is one whose secrets are such masks themselves:
nothing that the server does depends on more of a secret than that.
-/

namespace IdConnector

open Library Library.Document

/-- `SecretStr.display` -/
def maskText (s : String) : String := if s = "" then "" else "**********"

theorem maskText_nonempty {s : String} (nonempty : s ≠ "") : maskText s = "**********" :=
  if_neg nonempty

@[simp] theorem maskText_maskText (s : String) : maskText (maskText s) = maskText s := by
  by_cases empty : s = ""
  · subst empty
    rfl
  · rw [maskText_nonempty empty]
    rfl

theorem maskText_eq_self_iff {s : String} : maskText s = s ↔ s = "" ∨ s = "**********" := by
  by_cases empty : s = ""
  · subst empty
    simp [maskText]
  · rw [maskText_nonempty empty, eq_comm, or_iff_right empty]

namespace Leaf

/-- The value in a response: the text of a URL and the mask of a secret. -/
def rendered : Leaf → Leaf
  | .secret s => .str (maskText s)
  | .url u => .str u
  | leaf => leaf

def masked : Leaf → Leaf
  | .secret s => .secret (maskText s)
  | leaf => leaf

@[simp] theorem rendered_masked (leaf : Leaf) : leaf.masked.rendered = leaf.rendered := by
  cases leaf <;> simp [masked, rendered]

end Leaf

namespace Json

def rendered (v : Json) : Json := v.mapLeaves (fun _ => Leaf.rendered) none

def masked (v : Json) : Json := v.mapLeaves (fun _ => Leaf.masked) none

/-- A change that is the same for all keys does not depend on the key. -/
theorem mapLeaves_key (f : Leaf → Leaf) (key : Option String) (v : Json) :
    v.mapLeaves (fun _ => f) key = v.mapLeaves (fun _ => f) none := by
  cases v <;> rfl

theorem mapLeaves_keyless (f : Leaf → Leaf) :
    (fun key (v : Json) => v.mapLeaves (fun _ => f) (some key)) =
      fun _ v => v.mapLeaves (fun _ => f) none :=
  funext fun key => funext fun v => mapLeaves_key f (some key) v

@[simp] theorem rendered_masked (v : Json) : v.masked.rendered = v.rendered := by
  simp only [masked, rendered, mapLeaves_comp, Leaf.rendered_masked]

theorem rendered_of_masked {v w : Json} (same : v.masked = w.masked) : v.rendered = w.rendered := by
  rw [← rendered_masked v, same, rendered_masked]

theorem masked_dict_get (entries : JsonObject) (key : String) :
    Dict.get (mapEntries (fun _ => Leaf.masked) entries) key =
      (Dict.get entries key).map masked := by
  rw [mapEntries_get]
  cases Dict.get entries key with
  | none => rfl
  | some v => exact congrArg some (mapLeaves_key _ _ v)

theorem truthy_masked (v : Json) : v.masked.truthy = v.truthy := by
  cases v with
  | null => rfl
  | atom leaf =>
      cases leaf <;> simp [masked, mapLeaves, Leaf.masked, truthy, maskText]
  | list items => cases items <;> rfl
  | dict entries => cases entries <;> rfl

end Json

theorem contains_str_mapItems (items : List Json) (s : String) :
    (mapItems (fun _ => Leaf.masked) items).contains (Json.str s) =
      items.contains (Json.str s) := by
  induction items with
  | nil => rfl
  | cons item rest ih =>
      have same : (Json.str s == item.mapLeaves (fun _ => Leaf.masked) none) = (Json.str s == item) := by
        cases item with
        | null | list | dict => simp [mapLeaves, Json.str]
        | atom leaf => cases leaf <;> simp [mapLeaves, Json.str, Leaf.masked]
      simp only [mapItems, List.contains_cons, ih, same]

theorem contains_masked (key : String) (v : Json) : contains key v.masked = contains key v := by
  cases v with
  | null => rfl
  | list items => simp only [Json.masked, mapLeaves, contains, contains_str_mapItems]
  | dict entries => simp [Json.masked, mapLeaves, contains, Json.masked_dict_get]
  | atom leaf => cases leaf <;> rfl

theorem getMapping_masked (v : Json) (key : String) :
    getMapping v.masked key = (getMapping v key).map Json.masked := by
  cases v with
  | null | atom | list => rfl
  | dict entries =>
      simp only [Json.masked, mapLeaves, getMapping, Json.masked_dict_get]
      cases Dict.get entries key <;> rfl

theorem configured_masked (key : String) (users special : Json) :
    configured key users.masked special.masked = configured key users special := by
  simp only [configured, Json.truthy_masked, contains_masked]

/-- The validator of the attribute combination does not look at any secret. -/
theorem hasRequiredAttrCombination_masked (value : Dict String JsonObject) :
    hasRequiredAttrCombination (mapPluginConfigs (fun _ => Json.masked) value) =
      hasRequiredAttrCombination value := by
  have mapping : (Dict.get (((mapPluginConfigs (fun _ => Json.masked) value).get "kelvin").getD [])
      "mapping").getD (.dict []) =
        ((Dict.get ((value.get "kelvin").getD []) "mapping").getD (.dict [])).masked := by
    rw [get_mapPluginConfigs]
    cases value.get "kelvin" with
    | none => rfl
    | some settings =>
        simp only [Option.map_some, Option.getD_some, get_mapEntries fun _ => Json.masked]
        cases Dict.get settings "mapping" <;> rfl
  unfold hasRequiredAttrCombination
  simp only [mapping, getMapping_masked]
  generalize (Dict.get ((value.get "kelvin").getD []) "mapping").getD (.dict []) = mapping
  cases getMapping mapping "users" with
  | error raised => rfl
  | ok users =>
      cases getMapping mapping "users_student" with
      | error raised => rfl
      | ok student =>
          cases getMapping mapping "users_legal_guardian" with
          | error raised => rfl
          | ok guardian =>
              simp only [Except.map, bind, Except.bind, configured_masked]

/-! ## Masked configurations -/

namespace SchoolAuthorityConfiguration

/-- Changed settings, where what hides a secret still does. -/
def mapSettings (f : String → Json → Json)
    (keeps : ∀ key v, plainToSecret key v = v → plainToSecret key (f key v) = f key v)
    (config : SchoolAuthorityConfiguration) : SchoolAuthorityConfiguration where
  name := config.name
  active := config.active
  url := config.url
  plugins := config.plugins
  pluginConfigs := mapPluginConfigs f config.pluginConfigs
  hidden := by
    refine (hidden_iff _).mpr fun plugin member => ?_
    obtain ⟨old, there, rfl⟩ := List.mem_map.mp member
    intro entry changed
    obtain ⟨setting, inside, rfl⟩ := List.mem_map.mp changed
    exact keeps _ _ ((hidden_iff _).mp config.hidden old there setting inside)

theorem mapSettings_eq_iff {f : String → Json → Json}
    {keeps : ∀ key v, plainToSecret key v = v → plainToSecret key (f key v) = f key v}
    {config config' : SchoolAuthorityConfiguration} :
    config.mapSettings f keeps = config'.mapSettings f keeps ↔
      config.name = config'.name ∧ config.active = config'.active ∧ config.url = config'.url ∧
        config.plugins = config'.plugins ∧
        mapPluginConfigs f config.pluginConfigs = mapPluginConfigs f config'.pluginConfigs := by
  simp only [mapSettings, mk.injEq]

def masked : SchoolAuthorityConfiguration → SchoolAuthorityConfiguration :=
  mapSettings (fun _ => Json.masked) fun key v hidden => by
    cases v with
    | null | list | dict => rfl
    | atom leaf => cases leaf <;> first | exact hidden | rfl

theorem asEntries_mapPluginConfigs (f : Option String → Leaf → Leaf)
    (configs : Dict String JsonObject) :
    asEntries (mapPluginConfigs (fun key v => v.mapLeaves f (some key)) configs) =
      mapEntries f (asEntries configs) := by
  rw [mapEntries_eq_map, asEntries, asEntries, mapPluginConfigs, List.map_map, List.map_map]
  refine List.map_congr_left fun plugin _ => ?_
  simp only [Function.comp_apply, mapLeaves, mapEntries_eq_map]

/-- A change that leaves the other fields alone is one of the dictionary. -/
theorem mapEntries_dict {f : Option String → Leaf → Leaf} {config : SchoolAuthorityConfiguration}
    (others : mapEntries f (config.fields []) = config.fields []) :
    mapEntries f config.dict =
      config.fields (mapPluginConfigs (fun key v => v.mapLeaves f (some key)) config.pluginConfigs) := by
  simp only [fields, mapEntries, List.cons.injEq, Prod.mk.injEq, true_and] at others
  obtain ⟨name, active, url, plugins, -⟩ := others
  simp only [dict, fields, mapEntries, name, active, url, plugins, asEntries_mapPluginConfigs]
  rfl

theorem dict_masked (config : SchoolAuthorityConfiguration) :
    config.masked.dict = mapEntries (fun _ => Leaf.masked) config.dict := by
  have others : mapEntries (fun _ => Leaf.masked) (config.fields []) = config.fields [] := by
    simp only [fields, mapEntries, mapLeaves, Json.strs, mapItems_eq_map, List.map_map]
    rfl
  rw [mapEntries_dict others, Json.mapLeaves_keyless]
  rfl

theorem dict_injective {config config' : SchoolAuthorityConfiguration}
    (same : config.dict = config'.dict) : config = config' := by
  have texts : Function.Injective Json.str := fun a b same => by simpa [Json.str] using same
  have plugins : Function.Injective fun plugin : String × JsonObject =>
      (plugin.1, (Document.dict plugin.2 : Json)) := fun a b same => by
    simpa [Prod.ext_iff] using same
  rcases config with ⟨name, active, url, names, configs, hidden⟩
  rcases config' with ⟨name', active', url', names', configs', hidden'⟩
  simp only [dict, fields, Json.str, Json.bool, Json.strs, asEntries, List.cons.injEq,
    Prod.mk.injEq, true_and, and_true, Document.atom.injEq, Leaf.str.injEq, Leaf.bool.injEq,
    Leaf.url.injEq, Document.list.injEq, Document.dict.injEq] at same
  obtain ⟨rfl, rfl, rfl, sameNames, sameConfigs⟩ := same
  obtain rfl := List.map_injective_iff.mpr texts sameNames
  obtain rfl := List.map_injective_iff.mpr plugins sameConfigs
  rfl

theorem masked_eq_iff {config config' : SchoolAuthorityConfiguration} :
    config.masked = config'.masked ↔ mapEntries (fun _ => Leaf.masked) config.dict =
      mapEntries (fun _ => Leaf.masked) config'.dict := by
  rw [← dict_masked, ← dict_masked]
  exact ⟨congrArg dict, dict_injective⟩

end SchoolAuthorityConfiguration

/-! ## Responses -/

/-- The text of an exception shows a `SecretStr` by its mask. -/
def PyError.masked : PyError → PyError
  | .cannotUpdateDict k ori v => .cannotUpdateDict k (mapEntries (fun _ => Leaf.masked) ori) v.masked
  | raised => raised

/-- The response as the client reads it, `response.json()`. -/
def RpcResponse.rendered : RpcResponse → RpcResponse
  | .result value => .result (value.map Json.rendered)
  | .errors kind raised => .errors kind raised.masked

theorem RpcResponse.rendered_ofException (raised : PyError) :
    (ofException raised).rendered = ofException raised.masked := by
  cases raised <;> rfl

end IdConnector
