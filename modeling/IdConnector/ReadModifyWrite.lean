import IdConnector.Masking
import Mathlib.Data.List.Find

/-! # Sending a configuration back

What `get_school_authority` returns can be sent to `patch_school_authority` as it is. The
masks in it are taken for new secrets, so that the configuration is the masked one
afterwards, unless the request fails before it is replaced.
-/

namespace IdConnector

open Library Library.Document

/-- A value of JSON. -/
def Leaf.IsJson : Leaf → Prop
  | .bool _ | .int _ | .float _ | .str _ => True
  | _ => False

namespace SchoolAuthorityConfiguration

/-- What validation and JSON imply for a configuration: the text of the URL is a URL, no key of
    a dictionary occurs twice, and only the hidden secrets are no values of JSON. -/
structure FromJson [Pydantic] (config : SchoolAuthorityConfiguration) : Prop where
  url : Pydantic.anyUrl (.atom (.str config.url)) = .ok config.url
  keyed : WellKeyed (asEntries config.pluginConfigs)
  values : ∀ plugin ∈ config.pluginConfigs, ∀ entry ∈ plugin.2,
    (entry.1 ∈ secretKeys ∧ ∃ secret, entry.2 = .atom (.secret secret)) ∨
      entry.2.AllLeaves Leaf.IsJson

theorem rendered_of_isJson {v : Json} (json : v.AllLeaves Leaf.IsJson) : v.rendered = v := by
  refine (mapLeaves_congr (fun _ leaf isJson => ?_) none json).trans (mapLeaves_id none v)
  cases leaf <;> first | rfl | exact isJson.elim

theorem masked_of_isJson {v : Json} (json : v.AllLeaves Leaf.IsJson) : v.masked = v := by
  refine (mapLeaves_congr (fun _ leaf isJson => ?_) none json).trans (mapLeaves_id none v)
  cases leaf <;> first | rfl | exact isJson.elim

theorem plainToSecret_rendered {key : String} {v : Json} (hidden : plainToSecret key v = v)
    (value : (key ∈ secretKeys ∧ ∃ secret, v = .atom (.secret secret)) ∨ v.AllLeaves Leaf.IsJson) :
    plainToSecret key v.rendered = v.masked := by
  rcases value with ⟨isSecret, secret, rfl⟩ | json
  · simp [Json.rendered, Json.masked, mapLeaves, Leaf.rendered, Leaf.masked, plainToSecret, isSecret]
  · rw [rendered_of_isJson json, masked_of_isJson json, hidden]

variable {config : SchoolAuthorityConfiguration}

theorem settings_rendered [Pydantic] (json : config.FromJson) :
    pluginConfigsPlainToSecret (mapPluginConfigs (fun _ => Json.rendered) config.pluginConfigs) =
      config.masked.pluginConfigs := by
  simp only [pluginConfigsPlainToSecret, masked, mapSettings, mapPluginConfigs, List.map_map]
  refine List.map_congr_left fun plugin member => ?_
  simp only [Function.comp_apply, List.map_map]
  congr 1
  refine List.map_congr_left fun entry inside => ?_
  have hidden := (hidden_iff _).mp config.hidden plugin member entry inside
  simp only [Function.comp_apply, plainToSecret_rendered hidden (json.values plugin member entry inside)]

/-- Masking changes nothing exactly if every secret is empty or a mask already. -/
theorem masked_eq_self_iff [Pydantic] (json : config.FromJson) :
    config.masked = config ↔ ∀ plugin ∈ config.pluginConfigs, ∀ entry ∈ plugin.2, ∀ secret,
      entry.2 = .atom (.secret secret) → secret = "" ∨ secret = "**********" := by
  have settings : config.masked = config ↔
      mapPluginConfigs (fun _ => Json.masked) config.pluginConfigs = config.pluginConfigs := by
    cases config
    simp [masked, mapSettings]
  have entrywise : mapPluginConfigs (fun _ => Json.masked) config.pluginConfigs =
      config.pluginConfigs ↔ ∀ plugin ∈ config.pluginConfigs, ∀ entry ∈ plugin.2,
        entry.2.masked = entry.2 := by
    conv_lhs => rhs; rw [← List.map_id config.pluginConfigs]
    rw [mapPluginConfigs, List.map_inj_left]
    refine forall₂_congr fun plugin _ => ?_
    simp only [id, Prod.ext_iff, true_and]
    conv_lhs => rhs; rw [← List.map_id plugin.2]
    rw [List.map_inj_left]
    exact forall₂_congr fun entry _ => by simp [Prod.ext_iff]
  rw [settings, entrywise]
  refine forall₂_congr fun plugin member => forall₂_congr fun entry inside => ?_
  rcases json.values plugin member entry inside with ⟨-, secret, same⟩ | plain
  · simp [same, Json.masked, mapLeaves, Leaf.masked, maskText_eq_self_iff]
  · refine iff_of_true (masked_of_isJson plain) fun secret same => ?_
    rw [same] at plain
    exact plain.elim

/-- The returned document as a patch. -/
def returnedPatch (config : SchoolAuthorityConfiguration) :
    SchoolAuthorityConfigurationPatchDocument where
  active := some config.active
  url := some config.url
  plugins := some config.plugins
  pluginConfigs := some config.masked.pluginConfigs
  hidden := by
    rintro configs ⟨⟩
    exact config.masked.hidden

theorem mapEntries_rendered (config : SchoolAuthorityConfiguration) :
    mapEntries (fun _ => Leaf.rendered) config.dict =
      [("name", Json.str config.name), ("active", Json.bool config.active),
        ("url", Json.str config.url), ("plugins", Json.strs config.plugins),
        ("plugin_configs",
          .dict (asEntries (mapPluginConfigs (fun _ => Json.rendered) config.pluginConfigs)))] := by
  have settings := asEntries_mapPluginConfigs (fun _ => Leaf.rendered) config.pluginConfigs
  rw [Json.mapLeaves_keyless] at settings
  simp only [dict, fields, mapEntries, mapLeaves, Json.strs, mapItems_eq_map, List.map_map,
    ← settings]
  rfl

theorem optionalField_of_get {α : Type} {data : JsonObject} {name : String} {v : Json}
    {validate : Json → Except (List FieldError) α} (found : data.get name = some v)
    (given : v ≠ .null) : optionalField data name validate = (validate v).map some := by
  unfold optionalField field
  rw [found]
  cases v with
  | null => exact absurd rfl given
  | atom | list | dict => rfl

theorem init_returned [Pydantic] (json : config.FromJson) :
    SchoolAuthorityConfigurationPatchDocument.init
      (mapEntries (fun _ => Leaf.rendered) config.dict) = .ok config.returnedPatch := by
  rw [mapEntries_rendered]
  unfold SchoolAuthorityConfigurationPatchDocument.init
  rw [optionalField_of_get (v := Json.bool config.active) rfl (by simp [Json.bool]),
    optionalField_of_get (v := Json.str config.url) rfl (by simp [Json.str]),
    optionalField_of_get (v := Json.strs config.plugins) rfl (by simp [Json.strs]),
    optionalField_of_get (v := .dict (asEntries (mapPluginConfigs (fun _ => Json.rendered)
      config.pluginConfigs))) rfl (by simp)]
  simp only [Function.comp_apply, located, Json.bool, Json.str, Pydantic.bool_typed, json.url,
    listOfStr_typed, dictOfDict_typed, Except.mapError, Except.map]
  simp only [returnedPatch, Option.map_some, settings_rendered json]

theorem update_returned (keyed : WellKeyed (asEntries config.pluginConfigs)) :
    recursiveDictUpdate false config.dict config.returnedPatch.dict = (config.masked.dict, none) := by
  have patch : config.returnedPatch.dict = mapEntries (fun _ => Leaf.masked) config.dict.tail :=
    congrArg List.tail config.dict_masked
  have keyedTail : WellKeyed config.dict.tail := by
    simp [dict, fields, WellKeyed, WellKeyedValue, Dict.keys, Json.bool, Json.strs, keyed]
  have absent : "name" ∉ Dict.keys (mapEntries (fun _ => Leaf.masked) config.dict.tail) := by
    rw [keys_mapEntries]
    simp [dict, fields, Dict.keys]
  have merged := update_cons_frame (Json.str config.name) absent
    (update_changedLeaves (fun _ => Leaf.masked) false keyedTail)
  rw [patch, dict_masked]
  exact merged

theorem updated_returned (keyed : WellKeyed (asEntries config.pluginConfigs)) :
    config.updated config.returnedPatch = config.masked := by
  have merged := update_returned keyed
  have quiet := congrArg Prod.snd merged
  have same := update_dict quiet
  rw [merged] at same
  exact (dict_injective same).symm

end SchoolAuthorityConfiguration

namespace SimpleRpcServer

section Requests

variable [CaseMapping]

/-- The configuration of the authority that a patch of this name changes. -/
def registeredConfig (name : String) (s : Server) : Option SchoolAuthorityConfiguration :=
  (s.outQueues.find name).map OutQueue.schoolAuthority

theorem registeredConfig_setTask (s : Server) (name : String) (running : Bool) :
    registeredConfig name { s with outQueues := s.outQueues.setTask name running } =
      registeredConfig name s := by
  simp only [registeredConfig, OutQueues.find_setTask, Option.map_map]
  rfl

variable [Pydantic]

/-- A patch that fails before the configuration is replaced leaves it; every other patch, also
    one that cannot be stored, has replaced it. -/
theorem registeredConfig_patch {s : Server} {request : RpcRequest} {out : OutQueue}
    {doc : SchoolAuthorityConfigurationPatchDocument} (disk : Disk)
    (found : s.outQueues.find request.name = some out)
    (accepted : SchoolAuthorityConfigurationPatchDocument.init request.schoolAuthority = .ok doc) :
    let after := Action.exec (patchSchoolAuthority disk request) s
    registeredConfig request.name after.2 = some (out.schoolAuthority.updated doc) ∨
      ((∃ raised, after.1 = .error raised) ∧
        registeredConfig request.name after.2 = some out.schoolAuthority) := by
  intro after
  by_cases passes : PatchPasses s out.schoolAuthority doc
  · obtain ⟨plugins, _, run⟩ := patch_passes disk found accepted passes
    have kept : Action.Keeps (registeredConfig request.name) (do
        saveSchoolAuthorityConfiguration disk (out.schoolAuthority.updated doc)
        startOutQueueTask request.name
        return some (Document.dict (out.schoolAuthority.updated doc).dict)) := by
      apply Action.keeps_bind (keeps_saveConfiguration disk _ fun _ _ => rfl)
      intro _
      apply Action.keeps_bind
      · exact keeps_startOutQueueTask _ fun s => registeredConfig_setTask s _ true
      exact fun _ => Action.keeps_pure _
    have name : (out.schoolAuthority.updated doc).name = request.name := OutQueues.find_name found
    have replaced := find_patchedState plugins found name
    left
    simp only [after, run]
    rw [kept, registeredConfig, replaced, Option.map_some]
  · obtain ⟨raised, plugins, run⟩ := patch_stops disk found accepted passes
    right
    simp only [after, run, registeredConfig, stopTask, OutQueues.find_setTask, found]
    exact ⟨⟨raised, rfl⟩, rfl⟩

/-! ## Reading and sending back -/

def getRequest (name : String) : Option Json :=
  some (.dict [("cmd", Json.str "get_school_authority"), ("name", Json.str name)])

/-- The patch request with a document as it was received. -/
def sendBack (name : String) (doc : Json) : Option Json :=
  some (.dict [("cmd", Json.str "patch_school_authority"), ("name", Json.str name),
    ("school_authority", doc)])

omit [CaseMapping] in
theorem received_getRequest (name : String) :
    RpcRequest.ofMessage (getRequest name) =
      if name = "" then .error (.validationError
        [⟨["name"], "value is missing or empty \"name\"", "value_error.missing_argument"⟩])
      else .ok ⟨.getSchoolAuthority, name, [], []⟩ := by
  have command : RpcCommand.ofValue (some (Json.str "get_school_authority")) =
      .ok .getSchoolAuthority := rfl
  have typed : Pydantic.str (Json.str name) = .ok name := Pydantic.str_typed name
  simp only [getRequest, RpcRequest.ofMessage, Dict.get, ↓reduceIte, command, bind, Except.bind,
    RpcRequest.init, field, String.reduceEq, Function.comp_apply, typed, located, Except.mapError,
    RpcRequest.requiredArgsPresent, RpcCommand.requiredArgs]
  by_cases unnamed : name = ""
  · simp [unnamed, errorsOf]
    rfl
  · simp [unnamed]

omit [CaseMapping] in
theorem received_sendBack {name : String} (nonempty : name ≠ "") {entries : JsonObject}
    (filled : entries ≠ []) : RpcRequest.ofMessage (sendBack name (.dict entries)) =
      .ok ⟨.patchSchoolAuthority, name, entries, []⟩ := by
  have command : RpcCommand.ofValue (some (Json.str "patch_school_authority")) =
      .ok .patchSchoolAuthority := rfl
  have typed : Pydantic.str (Json.str name) = .ok name := Pydantic.str_typed name
  simp only [sendBack, RpcRequest.ofMessage, Dict.get, ↓reduceIte, command, bind, Except.bind,
    RpcRequest.init, field, String.reduceEq, Function.comp_apply, typed, Pydantic.dict_typed,
    located, Except.mapError, RpcRequest.requiredArgsPresent, RpcCommand.requiredArgs]
  simp [nonempty, filled]

/-- The document that is returned is the one of the authority that a patch changes. -/
theorem returned_document {s : Server} {name : String} {out : OutQueue} {disk : Disk} {doc : Json}
    (named : ∀ q ∈ s.outQueues.queues, q.name = q.schoolAuthority.name)
    (registered : s.outQueues.find name = some out)
    (returned : (serve disk (getRequest name) s).1.rendered = .result (some doc)) :
    name ≠ "" ∧ doc = .dict (mapEntries (fun _ => Leaf.rendered) out.schoolAuthority.dict) ∧
      (serve disk (getRequest name) s).2 = s := by
  have received := received_getRequest name
  by_cases unnamed : name = ""
  · rw [if_pos unnamed] at received
    simp [serve, Action.exec_bind, received, RpcResponse.ofResult, RpcResponse.ofException,
      RpcResponse.rendered] at returned
  · rw [if_neg unnamed] at received
    have found : (s.outQueues.queues.find? fun q => q.name = name) = some out := by
      rw [← registered]
      apply List.find?_congr
      intro q member
      rw [named q member]
      rfl
    have run : serve disk (getRequest name) s = (.result (some (.dict out.schoolAuthority.dict)), s) := by
      simp [serve, Action.exec_bind, received, handleRequest, getSchoolAuthority, found,
        RpcResponse.ofResult]
    rw [run] at returned ⊢
    simp only [RpcResponse.rendered, Option.map_some, RpcResponse.result.injEq, Option.some.injEq]
      at returned
    exact ⟨unnamed, returned.symm, rfl⟩

/-- Sending the returned document back makes every secret its mask, or is refused and changes
    nothing. -/
theorem returned_document_sent_back {s : Server} {name : String} {out : OutQueue} {doc : Json}
    {disk disk' : Disk} (named : ∀ q ∈ s.outQueues.queues, q.name = q.schoolAuthority.name)
    (registered : s.outQueues.find name = some out) (json : out.schoolAuthority.FromJson)
    (returned : (serve disk (getRequest name) s).1.rendered = .result (some doc)) :
    let after := serve disk' (sendBack name doc) (serve disk (getRequest name) s).2
    registeredConfig name after.2 = some out.schoolAuthority.masked ∨
      (after.1.hasErrors = true ∧ registeredConfig name after.2 = some out.schoolAuthority) := by
  obtain ⟨nonempty, rfl, unchanged⟩ := returned_document named registered returned
  let request : RpcRequest := ⟨.patchSchoolAuthority, name,
    mapEntries (fun _ => Leaf.rendered) out.schoolAuthority.dict, []⟩
  have received : RpcRequest.ofMessage (sendBack name
      (.dict (mapEntries (fun _ => Leaf.rendered) out.schoolAuthority.dict))) = .ok request :=
    received_sendBack nonempty (by
      simp [SchoolAuthorityConfiguration.dict, SchoolAuthorityConfiguration.fields, mapEntries])
  have run : serve disk' (sendBack name
      (.dict (mapEntries (fun _ => Leaf.rendered) out.schoolAuthority.dict))) s =
        (.ofResult (Action.exec (patchSchoolAuthority disk' request) s).1,
          (Action.exec (patchSchoolAuthority disk' request) s).2) := by
    simp [serve, Action.exec_bind, received, handleRequest, request]
  have found : s.outQueues.find request.name = some out := registered
  have patched := registeredConfig_patch disk' found
    (SchoolAuthorityConfiguration.init_returned json)
  rw [SchoolAuthorityConfiguration.updated_returned json.keyed] at patched
  rw [unchanged, run]
  refine patched.imp_right ?_
  rintro ⟨failed, kept⟩
  exact ⟨(RpcResponse.hasErrors_ofResult _).mpr failed, kept⟩

end Requests

end SimpleRpcServer

section Examples

open SimpleRpcServer

attribute [local instance] asciiCaseMapping typedPydantic

/-- The configuration of `demoServer` with this password. -/
def demoConfig (password : String) : SchoolAuthorityConfiguration where
  name := "Traeger1"
  active := true
  url := "https://traeger1/ucsschool/kelvin/v1/"
  plugins := [kelvin]
  pluginConfigs := [(kelvin, [("mapping", .dict [("users", .dict []), ("school_classes", .dict [])]),
    ("username", Json.str "Administrator"), ("password", .atom (.secret password))])]
  hidden := rfl

theorem demoServer_registered : demoServer.outQueues.queues =
    [⟨"Traeger1", "Traeger1", demoConfig "s3cr3t", true, false⟩] := rfl

theorem demoConfig_fromJson (password : String) : (demoConfig password).FromJson where
  url := rfl
  keyed := by
    simp [demoConfig, asEntries, WellKeyed, WellKeyedValue, Dict.keys, Json.str]
  values := by
    have secretKey : "password" ∈ secretKeys := by decide
    intro plugin member entry inside
    obtain rfl := List.mem_singleton.mp member
    simp only [List.mem_cons, List.not_mem_nil, or_false] at inside
    rcases inside with rfl | rfl | rfl
    · exact Or.inr ⟨trivial, trivial, trivial⟩
    · exact Or.inr trivial
    · exact Or.inl ⟨secretKey, password, rfl⟩

/-- The document that the client gets and sends back. -/
def demoDocument : Json :=
  .dict [("name", Json.str "Traeger1"), ("active", Json.bool true),
    ("url", Json.str "https://traeger1/ucsschool/kelvin/v1/"), ("plugins", Json.strs [kelvin]),
    ("plugin_configs", .dict [(kelvin, .dict [
      ("mapping", .dict [("users", .dict []), ("school_classes", .dict [])]),
      ("username", Json.str "Administrator"), ("password", Json.str "**********")])])]

theorem demoDocument_returned :
    (serve {} (getRequest "Traeger1") demoServer).1.rendered = .result (some demoDocument) := rfl

theorem demo_document_sent_back :
    let after := serve {} (sendBack "Traeger1" demoDocument)
      (serve {} (getRequest "Traeger1") demoServer).2
    registeredConfig "Traeger1" after.2 = some (demoConfig "s3cr3t").masked ∨
      (after.1.hasErrors = true ∧
        registeredConfig "Traeger1" after.2 = some (demoConfig "s3cr3t")) := by
  have registered : demoServer.outQueues.find "Traeger1" =
      some ⟨"Traeger1", "Traeger1", demoConfig "s3cr3t", true, false⟩ := rfl
  refine returned_document_sent_back ?_ registered (demoConfig_fromJson "s3cr3t")
    demoDocument_returned
  rw [demoServer_registered]
  simp [demoConfig]

theorem password_overwritten :
    (serve {} (getRequest "Traeger1") demoServer).1.rendered = .result (some demoDocument) ∧
      let after := serve {} (sendBack "Traeger1" demoDocument)
        (serve {} (getRequest "Traeger1") demoServer).2
      after.1.hasErrors = false ∧
        registeredConfig "Traeger1" demoServer = some (demoConfig "s3cr3t") ∧
        registeredConfig "Traeger1" after.2 = some (demoConfig "**********") ∧
        demoConfig "**********" ≠ demoConfig "s3cr3t" :=
  ⟨rfl, rfl, rfl, rfl, by decide⟩

end Examples

end IdConnector
