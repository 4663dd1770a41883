import IdConnector.Rpc

/-! # What a patch does to a configuration

A patch document and a configuration of the same shape merge to a
configuration again, both by the deep merge and by the in-place update the
server uses. `patch_merges_iff` says when the server's result is the deep merge.
-/

namespace IdConnector

open Library Library.Document

/-! ## Validating what was validated before -/

theorem collect_ok {α : Type} (values : List α) :
    collect (values.map fun v => (.ok v : Except (List FieldError) α)) = .ok values := by
  induction values with
  | nil => rfl
  | cons v rest ih => simp [collect, ih, Except.map]

section Typed

variable [Pydantic]

theorem listOfStr_typed (loc : String) (ss : List String) :
    listOfStr loc (Json.strs ss) = .ok ss := by
  have items : ((ss.map Json.str).mapIdx fun i item =>
      located [loc, toString i] (Pydantic.str item)) = ss.map fun s => .ok s := by
    refine List.ext_getElem (by simp) fun i _ _ => ?_
    simp [Json.str, Pydantic.str_typed, located, Except.mapError]
  simp only [listOfStr, Json.strs, Pydantic.list_typed, located, Except.mapError, Except.bind]
  exact (congrArg collect items).trans (collect_ok ss)

theorem dictOfDict_typed (loc : String) (configs : Dict String JsonObject) :
    dictOfDict loc (.dict (asEntries configs)) = .ok configs := by
  have entries : ((asEntries configs).map fun entry =>
      (located [loc, entry.1] (Pydantic.dict entry.2)).map (entry.1, ·)) =
        configs.map fun plugin => .ok plugin := by
    rw [asEntries, List.map_map]
    exact List.map_congr_left fun plugin _ => by
      simp [Pydantic.dict_typed, located, Except.mapError, Except.map]
  simp only [dictOfDict, Pydantic.dict_typed, located, Except.mapError,
    Except.bind]
  exact (congrArg collect entries).trans (collect_ok configs)

/-- Validating the dictionary of a configuration comes down to the required attributes. -/
theorem init_dict_eq (config : SchoolAuthorityConfiguration) :
    SchoolAuthorityConfiguration.init config.dict =
      match hasRequiredAttrCombination config.pluginConfigs with
      | .ok () => .ok config
      | .error raised =>
          match validatorError "plugin_configs" raised with
          | .ok errors => .error (.validationError errors)
          | .error other => .error other := by
  have pluginConfigs : field config.dict "plugin_configs" none (dictOfDict "plugin_configs") =
      .ok config.pluginConfigs := by
    simp [field, SchoolAuthorityConfiguration.dict, SchoolAuthorityConfiguration.fields, Dict.get,
      dictOfDict_typed]
  have others : field config.dict "name" none (located ["name"] ∘ Pydantic.str) = .ok config.name ∧
      field config.dict "active" (some false) (located ["active"] ∘ Pydantic.bool) =
        .ok config.active ∧
      field config.dict "url" none (located ["url"] ∘ Pydantic.anyUrl) = .ok config.url ∧
      field config.dict "plugins" (some []) (listOfStr "plugins") = .ok config.plugins := by
    simp [field, SchoolAuthorityConfiguration.dict, SchoolAuthorityConfiguration.fields, Dict.get,
      located, Except.mapError, Json.str, Json.bool, Pydantic.str_typed, Pydantic.bool_typed,
      Pydantic.anyUrl_typed, listOfStr_typed]
  unfold SchoolAuthorityConfiguration.init
  rw [others.1, others.2.1, others.2.2.1, others.2.2.2]
  simp only [pluginConfigsField, pluginConfigs]
  cases required : hasRequiredAttrCombination config.pluginConfigs with
  | ok value => simp only [bind, Except.bind, pure, Except.pure, config.hidden]
  | error raised =>
      cases field : validatorError "plugin_configs" raised with
      | ok errors => simp [field, Except.map, bind, Except.bind, throw, throwThe,
          MonadExceptOf.throw, errorsOf]
      | error other => simp [field, Except.map, bind, Except.bind]

/-- Validating the dictionary of a configuration can only give that configuration. -/
theorem init_dict {config result : SchoolAuthorityConfiguration}
    (validated : SchoolAuthorityConfiguration.init config.dict = .ok result) :
    result = config := by
  rw [init_dict_eq] at validated
  split at validated
  · exact (Except.ok.inj validated).symm
  · split at validated <;> cases validated

end Typed

/-! ## Merging plugin configurations -/

/-- Merge every plugin configuration of the patch into the one of the same plugin. -/
def mergePluginConfigs (merge : Option JsonObject → JsonObject → JsonObject)
    (configs : Dict String JsonObject) (patch : Dict String JsonObject) :
    Dict String JsonObject :=
  patch.foldl (fun merged plugin => merged.set plugin.1 (merge (merged.get plugin.1) plugin.2))
    configs

theorem get_asEntries (configs : Dict String JsonObject) (k : String) :
    Dict.get (asEntries configs) k = (configs.get k).map Document.dict := by
  induction configs with
  | nil => rfl
  | cons plugin rest ih =>
      rcases plugin with ⟨key, settings⟩
      by_cases same : key = k
      · simp [asEntries, Dict.get, same]
      · simpa [asEntries, Dict.get, same] using ih

theorem set_asEntries (configs : Dict String JsonObject) (k : String) (settings : JsonObject) :
    Dict.set (asEntries configs) k (.dict settings) = asEntries (configs.set k settings) := by
  induction configs with
  | nil => rfl
  | cons plugin rest ih =>
      rcases plugin with ⟨key, old⟩
      by_cases same : key = k
      · simp [asEntries, Dict.set, same]
      · simpa [asEntries, Dict.set, same] using ih

def deepMergeSettings (old : Option JsonObject) (new : JsonObject) : JsonObject :=
  overlay (old.getD []) new

def updateSettings (old : Option JsonObject) (new : JsonObject) : JsonObject :=
  match old with
  | some settings => (recursiveDictUpdate false settings new).1
  | none => new

theorem overlay_asEntries (configs patch : Dict String JsonObject) :
    overlay (asEntries configs) (asEntries patch) =
      asEntries (mergePluginConfigs deepMergeSettings configs patch) := by
  induction patch generalizing configs with
  | nil => rfl
  | cons plugin rest ih =>
      rcases plugin with ⟨k, settings⟩
      have sub : subDict (asEntries configs) k = (configs.get k).getD [] := by
        simp only [subDict, get_asEntries]
        cases configs.get k <;> rfl
      have step : overlayAt (asEntries configs) k (.dict settings) =
          asEntries (configs.set k (deepMergeSettings (configs.get k) settings)) := by
        rw [overlayAt, sub, set_asEntries]
        rfl
      calc overlay (asEntries configs) (asEntries ((k, settings) :: rest))
          = overlay (overlayAt (asEntries configs) k (.dict settings)) (asEntries rest) := by
            simp only [asEntries, List.map_cons, overlay]
        _ = _ := by rw [step, ih]; rfl

theorem update_asEntries (configs patch : Dict String JsonObject)
    (quiet : (recursiveDictUpdate false (asEntries configs) (asEntries patch)).2 = none) :
    (recursiveDictUpdate false (asEntries configs) (asEntries patch)).1 =
      asEntries (mergePluginConfigs updateSettings configs patch) := by
  induction patch generalizing configs with
  | nil => rfl
  | cons plugin rest ih =>
      rcases plugin with ⟨k, settings⟩
      have step : (updateKey false (asEntries configs) k (.dict settings)).1 =
          asEntries (configs.set k (updateSettings (configs.get k) settings)) := by
        rw [← set_asEntries]
        cases found : configs.get k with
        | some old =>
            rw [updateKey_dict_nested (by rw [get_asEntries, found]; rfl)]
            rfl
        | none =>
            rw [updateKey_dict_new (by simp [get_asEntries, found])]
            rfl
      have unfolded : asEntries ((k, settings) :: rest) = (k, .dict settings) :: asEntries rest :=
        rfl
      rw [unfolded] at quiet ⊢
      have passed : (updateKey false (asEntries configs) k (.dict settings)).2 = none := by
        rw [recursiveDictUpdate] at quiet
        cases result : updateKey false (asEntries configs) k (.dict settings) with
        | mk ori raised =>
            cases raised with
            | none => rfl
            | some error => simp [result] at quiet
      rw [update_cons_of_passed passed, step] at quiet ⊢
      exact ih _ quiet

/-! ## Secrets stay hidden -/

/-- No plain string stands under the key of a secret. -/
def HiddenSettings (settings : JsonObject) : Prop :=
  ∀ entry ∈ settings, plainToSecret entry.1 entry.2 = entry.2

theorem hidden_iff (configs : Dict String JsonObject) :
    pluginConfigsPlainToSecret configs = configs ↔
      ∀ plugin ∈ configs, HiddenSettings plugin.2 := by
  have entrywise : pluginConfigsPlainToSecret configs = configs ↔
      ∀ plugin ∈ configs, (plugin.1, plugin.2.map fun entry =>
        (entry.1, plainToSecret entry.1 entry.2)) = plugin := by
    conv_lhs => rhs; rw [← List.map_id configs]
    exact List.map_inj_left
  rw [entrywise]
  refine forall₂_congr fun plugin _ => ?_
  rcases plugin with ⟨name, settings⟩
  simp only [Prod.mk.injEq, true_and, HiddenSettings]
  conv_lhs => rhs; rw [← List.map_id settings]
  rw [List.map_inj_left]
  exact forall₂_congr fun entry _ => by simp [Prod.ext_iff]

theorem hidden_of_entries {old new result : JsonObject} (hiddenOld : HiddenSettings old)
    (hiddenNew : HiddenSettings new)
    (origin : ∀ entry ∈ result, entry ∈ old ∨ entry ∈ new ∨
      ∃ k entries, entry = (k, Document.dict entries)) : HiddenSettings result := by
  intro entry member
  rcases origin entry member with here | there | ⟨k, entries, rfl⟩
  · exact hiddenOld entry here
  · exact hiddenNew entry there
  · rfl

theorem hidden_deepMerge {old : Option JsonObject} {new : JsonObject}
    (hiddenOld : ∀ settings ∈ old, HiddenSettings settings) (hiddenNew : HiddenSettings new) :
    HiddenSettings (deepMergeSettings old new) := by
  refine hidden_of_entries ?_ hiddenNew fun entry member => overlay_entries member
  cases old with
  | none => exact fun entry member => absurd member List.not_mem_nil
  | some settings => exact hiddenOld settings rfl

theorem hidden_update {old : Option JsonObject} {new : JsonObject}
    (hiddenOld : ∀ settings ∈ old, HiddenSettings settings) (hiddenNew : HiddenSettings new) :
    HiddenSettings (updateSettings old new) := by
  cases old with
  | none => exact hiddenNew
  | some settings =>
      exact hidden_of_entries (hiddenOld settings rfl) hiddenNew fun entry member =>
        update_entries member

theorem hidden_mergePluginConfigs {merge : Option JsonObject → JsonObject → JsonObject}
    (keeps : ∀ {old new}, (∀ settings ∈ old, HiddenSettings settings) → HiddenSettings new →
      HiddenSettings (merge old new))
    {configs patch : Dict String JsonObject} (hiddenConfigs : ∀ p ∈ configs, HiddenSettings p.2)
    (hiddenPatch : ∀ p ∈ patch, HiddenSettings p.2) :
    ∀ p ∈ mergePluginConfigs merge configs patch, HiddenSettings p.2 := by
  induction patch generalizing configs with
  | nil => exact hiddenConfigs
  | cons plugin rest ih =>
      rcases plugin with ⟨k, settings⟩
      refine ih ?_ fun p member => hiddenPatch p (List.mem_cons_of_mem _ member)
      intro p member
      rcases Dict.mem_set member with old | rfl
      · exact hiddenConfigs p old
      · refine keeps ?_ (hiddenPatch (k, settings) List.mem_cons_self)
        intro old found
        exact hiddenConfigs (k, old) (Dict.mem_of_get found)

/-! ## Merging configurations -/

namespace SchoolAuthorityConfiguration

/-- The configuration with every field that the document sets, the plugin
    configurations merged by `merge`. -/
def patched (merge : Option JsonObject → JsonObject → JsonObject)
    (keeps : ∀ {old new}, (∀ settings ∈ old, HiddenSettings settings) → HiddenSettings new →
      HiddenSettings (merge old new))
    (config : SchoolAuthorityConfiguration) (doc : SchoolAuthorityConfigurationPatchDocument) :
    SchoolAuthorityConfiguration where
  name := config.name
  active := doc.active.getD config.active
  url := doc.url.getD config.url
  plugins := doc.plugins.getD config.plugins
  pluginConfigs := doc.pluginConfigs.elim config.pluginConfigs
    (mergePluginConfigs merge config.pluginConfigs)
  hidden := by
    cases given : doc.pluginConfigs with
    | none => exact config.hidden
    | some configs =>
        exact (hidden_iff _).mpr (hidden_mergePluginConfigs keeps ((hidden_iff _).mp config.hidden)
          ((hidden_iff _).mp (doc.hidden configs given)))

/-- The deep merge of a configuration and a patch document. -/
def deepMerge : SchoolAuthorityConfiguration → SchoolAuthorityConfigurationPatchDocument →
    SchoolAuthorityConfiguration :=
  patched deepMergeSettings hidden_deepMerge

/-- What the in-place update makes of a configuration if it does not raise. -/
def updated : SchoolAuthorityConfiguration → SchoolAuthorityConfigurationPatchDocument →
    SchoolAuthorityConfiguration :=
  patched updateSettings hidden_update

/-- Merging a patch is overlaying the configuration's dictionary with that of the patch. -/
theorem overlay_dict (config : SchoolAuthorityConfiguration)
    (doc : SchoolAuthorityConfigurationPatchDocument) :
    overlay config.dict doc.dict = (config.deepMerge doc).dict := by
  have nested := overlay_asEntries config.pluginConfigs
  rcases doc with ⟨active, url, plugins, configs, _⟩
  cases active <;> cases url <;> cases plugins <;> cases configs <;>
    simp [SchoolAuthorityConfigurationPatchDocument.dict, dict, fields, deepMerge, patched, overlay,
      overlayAt, Dict.set, Json.bool, Json.strs, subDict, Dict.get, ← nested]

theorem update_dict {config : SchoolAuthorityConfiguration}
    {doc : SchoolAuthorityConfigurationPatchDocument}
    (quiet : (recursiveDictUpdate false config.dict doc.dict).2 = none) :
    (recursiveDictUpdate false config.dict doc.dict).1 = (config.updated doc).dict := by
  rcases doc with ⟨active, url, plugins, configs, _⟩
  cases configs with
  | none =>
      -- an unset `plugin_configs` is a null over a dictionary
      cases active <;> cases url <;> cases plugins <;>
        simp [SchoolAuthorityConfigurationPatchDocument.dict, dict, fields, recursiveDictUpdate,
          updateKey, Dict.set, Json.bool, Json.strs, Dict.get] at quiet
  | some configs =>
      have nested := update_asEntries config.pluginConfigs configs
      cases inner : recursiveDictUpdate false (asEntries config.pluginConfigs)
          (asEntries configs) with
      | mk merged raised =>
          cases raised with
          | some error =>
              cases active <;> cases url <;> cases plugins <;>
                simp [SchoolAuthorityConfigurationPatchDocument.dict, dict, fields,
                  recursiveDictUpdate, updateKey, Dict.set, Json.bool, Json.strs, Dict.get,
                  inner] at quiet
          | none =>
              have merged_eq := by simpa [inner] using nested
              cases active <;> cases url <;> cases plugins <;>
                simp [SchoolAuthorityConfigurationPatchDocument.dict, dict, fields, updated,
                  patched, recursiveDictUpdate, updateKey, Dict.set, Json.bool, Json.strs,
                  Dict.get, inner, merged_eq]

end SchoolAuthorityConfiguration

/-! ## The steps of a patch request -/

namespace SimpleRpcServer

theorem mergePatch_ok {config : SchoolAuthorityConfiguration}
    {doc : SchoolAuthorityConfigurationPatchDocument}
    (quiet : (recursiveDictUpdate false config.dict doc.dict).2 = none) :
    mergePatch config doc = .ok (config.updated doc).dict := by
  have merged := SchoolAuthorityConfiguration.update_dict quiet
  unfold mergePatch
  cases result : recursiveDictUpdate false config.dict doc.dict with
  | mk data raised =>
      rw [result] at quiet merged
      subst quiet merged
      rfl

theorem mergePatch_raised {config : SchoolAuthorityConfiguration}
    {doc : SchoolAuthorityConfigurationPatchDocument} {raised : CannotUpdateDict Leaf}
    (raises : (recursiveDictUpdate false config.dict doc.dict).2 = some raised) :
    mergePatch config doc = .error (.cannotUpdateDict raised.k raised.ori raised.v) := by
  unfold mergePatch
  cases result : recursiveDictUpdate false config.dict doc.dict with
  | mk data outcome =>
      rw [result] at raises
      subst raises
      rfl

theorem mergePatch_error {config : SchoolAuthorityConfiguration}
    {doc : SchoolAuthorityConfigurationPatchDocument}
    (raises : (recursiveDictUpdate false config.dict doc.dict).2 ≠ none) :
    ∃ raised, mergePatch config doc = .error raised := by
  obtain ⟨raised, outcome⟩ := Option.ne_none_iff_exists'.mp raises
  exact ⟨_, mergePatch_raised outcome⟩

/-- The state between the replacement of the configuration and its storage. -/
def patchedState [CaseMapping] (s : Server) (name : String) (config : SchoolAuthorityConfiguration)
    (plugins : Dict String (Option DispatcherPlugin)) : Server :=
  { s with
    outQueues := (s.outQueues.setTask name false).setSchoolAuthority name config
    plugins }

theorem find_patchedState [CaseMapping] {s : Server} {out : OutQueue} {name : String}
    {config : SchoolAuthorityConfiguration}
    (plugins : Dict String (Option DispatcherPlugin)) (found : s.outQueues.find name = some out)
    (same : config.name = name) :
    (patchedState s name config plugins).outQueues.find name =
      some { out with taskRunning := false, schoolAuthority := config } := by
  simp only [patchedState]
  rw [OutQueues.find_setSchoolAuthority _ same, OutQueues.find_setTask, found]
  rfl

section Requests

variable [CaseMapping] [Pydantic] {s : Server} {request : RpcRequest} {out : OutQueue}
  {doc : SchoolAuthorityConfigurationPatchDocument}

/-- The patch gets as far as replacing the configuration: the merge does not raise, the
    plugins have caches to clear and the result is valid. -/
def PatchPasses (s : Server) (config : SchoolAuthorityConfiguration)
    (doc : SchoolAuthorityConfigurationPatchDocument) : Prop :=
  (recursiveDictUpdate false config.dict doc.dict).2 = none ∧
    (∀ p ∈ config.plugins, s.HasHandlers p) ∧
    ∃ result, SchoolAuthorityConfiguration.init (config.updated doc).dict = .ok result

def stopTask (s : Server) (name : String) : Server :=
  { s with outQueues := s.outQueues.setTask name false }

/-- The task is stopped before anything that can fail. -/
theorem patch_found (disk : Disk) (found : s.outQueues.find request.name = some out)
    (accepted : SchoolAuthorityConfigurationPatchDocument.init request.schoolAuthority = .ok doc) :
    Action.exec (patchSchoolAuthority disk request) s =
      Action.exec (do
        let oldData ← ofExcept (mergePatch out.schoolAuthority doc)
        evictHandlers out.schoolAuthority.name out.schoolAuthority.plugins
        let config ← ofExcept (SchoolAuthorityConfiguration.init oldData)
        modify fun s => { s with outQueues := s.outQueues.setSchoolAuthority request.name config }
        saveSchoolAuthorityConfiguration disk config
        startOutQueueTask config.name
        return some (.dict config.dict)) (stopTask s request.name) := by
  simp only [patchSchoolAuthority, Action.exec_bind (ofExcept _), Action.exec_ofExcept, accepted,
    Action.exec_bind get, Action.exec_get, found, Action.exec_bind (modify _), Action.exec_modify,
    stopTask]

theorem patch_stops (disk : Disk) (found : s.outQueues.find request.name = some out)
    (accepted : SchoolAuthorityConfigurationPatchDocument.init request.schoolAuthority = .ok doc)
    (fails : ¬ PatchPasses s out.schoolAuthority doc) :
    ∃ raised plugins, Action.exec (patchSchoolAuthority disk request) s =
      (.error raised, { stopTask s request.name with plugins }) := by
  rw [patch_found disk found accepted]
  by_cases quiet : (recursiveDictUpdate false out.schoolAuthority.dict doc.dict).2 = none
  · by_cases registered : ∀ p ∈ out.schoolAuthority.plugins, s.HasHandlers p
    · obtain ⟨plugins, _, evicted⟩ := evictHandlers_ok out.schoolAuthority.name
        (s := stopTask s request.name) registered
      cases result : SchoolAuthorityConfiguration.init (out.schoolAuthority.updated doc).dict with
      | ok config => exact absurd ⟨quiet, registered, config, result⟩ fails
      | error problem =>
          exact ⟨problem, plugins, by
            simp [Action.exec_bind, mergePatch_ok quiet, evicted, result]⟩
    · obtain ⟨plugins, _, evicted⟩ := evictHandlers_error out.schoolAuthority.name
        (s := stopTask s request.name) registered
      exact ⟨_, plugins, by simp [Action.exec_bind, mergePatch_ok quiet, evicted]; rfl⟩
  · obtain ⟨raised, merge⟩ := mergePatch_error quiet
    exact ⟨raised, s.plugins, by simp [Action.exec_bind, merge, stopTask]⟩

theorem patch_passes (disk : Disk) (found : s.outQueues.find request.name = some out)
    (accepted : SchoolAuthorityConfigurationPatchDocument.init request.schoolAuthority = .ok doc)
    (passes : PatchPasses s out.schoolAuthority doc) :
    ∃ plugins, nestedHandlers plugins = nestedHandlers s.plugins ∧
      Action.exec (patchSchoolAuthority disk request) s =
        Action.exec (do
          saveSchoolAuthorityConfiguration disk (out.schoolAuthority.updated doc)
          startOutQueueTask request.name
          return some (.dict (out.schoolAuthority.updated doc).dict))
          (patchedState s request.name (out.schoolAuthority.updated doc) plugins) := by
  obtain ⟨quiet, registered, config, valid⟩ := passes
  obtain rfl := init_dict valid
  obtain ⟨plugins, same, evicted⟩ := evictHandlers_ok out.schoolAuthority.name
    (s := stopTask s request.name) registered
  have name : (out.schoolAuthority.updated doc).name = request.name := OutQueues.find_name found
  refine ⟨plugins, same, ?_⟩
  rw [patch_found disk found accepted]
  simp only [Action.exec_bind, Action.exec_ofExcept, mergePatch_ok quiet, evicted, valid, name,
    Action.exec_modify]
  rfl

/-- Once the configuration is replaced and stored, the request succeeds. -/
theorem patch_done {disk : Disk} (found : s.outQueues.find request.name = some out)
    (accepted : SchoolAuthorityConfigurationPatchDocument.init request.schoolAuthority = .ok doc)
    (passes : PatchPasses s out.schoolAuthority doc) (done : disk.save = .done) :
    ∃ s' out', Action.exec (patchSchoolAuthority disk request) s =
        (.ok (some (.dict (out.schoolAuthority.updated doc).dict)), s') ∧
      s'.outQueues.find request.name = some out' ∧
        out'.schoolAuthority = out.schoolAuthority.updated doc := by
  obtain ⟨plugins, _, run⟩ := patch_passes disk found accepted passes
  let config := out.schoolAuthority.updated doc
  let stored := storeSchoolAuthority config.name
    (.written (sortEntries config.dictSecretsAsStr)) (patchedState s request.name config plugins)
  have current : stored.outQueues.find request.name =
      some { out with taskRunning := false, schoolAuthority := config } :=
    find_patchedState plugins found (OutQueues.find_name found)
  have started := startOutQueueTask_exec current
  have saved := saveConfiguration_done config (patchedState s request.name config plugins) done
  rw [run, Action.exec_bind_ok _ saved, Action.exec_bind_ok _ started]
  refine ⟨_, { out with taskRunning := config.active, schoolAuthority := config },
    Action.exec_pure _ _, ?_, rfl⟩
  by_cases active : config.active = true
  · simp only [active, ↓reduceIte]
    rw [OutQueues.find_setTask, current]
    rfl
  · rw [Bool.not_eq_true] at active
    simp only [active, Bool.false_eq_true, ↓reduceIte]
    exact current

/-- A document whose entries go over a dictionary only as dictionaries can still be refused
    or change more than it says: for a null in the place of a dictionary, for a null inside
    a dictionary that is new, and for a plugin that is not registered. -/
theorem patch_merges_iff {disk : Disk} {message : Option Json}
    (received : RpcRequest.ofMessage message = .ok request)
    (command : request.cmd = .patchSchoolAuthority)
    (found : s.outQueues.find request.name = some out)
    (accepted : SchoolAuthorityConfigurationPatchDocument.init request.schoolAuthority = .ok doc)
    (keyed : WellKeyed doc.dict)
    (compatible : replacesDict (fun v => !v.isNull) out.schoolAuthority.dict doc.dict = false)
    (valid : ∃ config, SchoolAuthorityConfiguration.init
      (overlay out.schoolAuthority.dict doc.dict) = .ok config)
    (done : disk.save = .done) :
    ((serve disk message s).1.hasErrors = false ∧
      ∃ out', (serve disk message s).2.outQueues.find request.name = some out' ∧
        out'.schoolAuthority.dict = overlay out.schoolAuthority.dict doc.dict) ↔
    (replacesDict isNull out.schoolAuthority.dict doc.dict = false ∧
      introducesNull out.schoolAuthority.dict doc.dict = false ∧
      ∀ p ∈ out.schoolAuthority.plugins, s.HasHandlers p) := by
  have served : serve disk message s =
      (.ofResult (Action.exec (patchSchoolAuthority disk request) s).1,
        (Action.exec (patchSchoolAuthority disk request) s).2) := by
    simp [serve, Action.exec_bind, received, handleRequest, command]
  have quiet_iff : (recursiveDictUpdate false out.schoolAuthority.dict doc.dict).2 = none ↔
      replacesDict isNull out.schoolAuthority.dict doc.dict = false := by
    rw [update_succeeds_iff _ _ _ keyed]
    have split := replacesDict_or (fun v => !v.isNull) isNull out.schoolAuthority.dict doc.dict
    simp only [Bool.not_or_self, compatible, Bool.false_or] at split
    rw [split]
  rw [served]
  constructor
  · rintro ⟨noErrors, out', found', merged⟩
    have passes : PatchPasses s out.schoolAuthority doc := by
      by_contra fails
      obtain ⟨raised, plugins, run⟩ := patch_stops disk found accepted fails
      simp [run, RpcResponse.ofResult] at noErrors
    have quiet := quiet_iff.mp passes.1
    refine ⟨quiet, ?_, passes.2.1⟩
    obtain ⟨s', current, run, at_name, config⟩ := patch_done found accepted passes done
    rw [run] at found'
    obtain rfl : current = out' := Option.some.inj (at_name.symm.trans found')
    rw [config, ← SchoolAuthorityConfiguration.update_dict passes.1] at merged
    exact (update_eq_overlay_iff _ _ keyed
      ((update_succeeds_iff false _ _ keyed).mp passes.1)).mp merged
  · rintro ⟨noNull, noNew, registered⟩
    have quiet := quiet_iff.mpr noNull
    have same : (recursiveDictUpdate false out.schoolAuthority.dict doc.dict).1 =
        overlay out.schoolAuthority.dict doc.dict :=
      (update_eq_overlay_iff _ _ keyed ((update_succeeds_iff false _ _ keyed).mp quiet)).mpr noNew
    rw [SchoolAuthorityConfiguration.update_dict quiet] at same
    obtain ⟨s', current, run, at_name, config⟩ :=
      patch_done found accepted ⟨quiet, registered, same ▸ valid⟩ done
    rw [run]
    exact ⟨rfl, current, at_name, by rw [config, same]⟩

end Requests

section Examples

attribute [local instance] asciiCaseMapping typedPydantic

theorem patch_merges_settings :
    let message := some (patchRequest "Traeger1"
      [("plugin_configs", .dict [("kelvin", .dict [("username", Json.str "admin")])])])
    ∃ request out doc, RpcRequest.ofMessage message = .ok request ∧
      demoServer.outQueues.find request.name = some out ∧
      (((serve {} message demoServer).1.hasErrors = false ∧
        ∃ out', (serve {} message demoServer).2.outQueues.find request.name = some out' ∧
          out'.schoolAuthority.dict =
            overlay out.schoolAuthority.dict (SchoolAuthorityConfigurationPatchDocument.dict doc)) ↔
        (replacesDict isNull out.schoolAuthority.dict doc.dict = false ∧
          introducesNull out.schoolAuthority.dict doc.dict = false ∧
          ∀ p ∈ out.schoolAuthority.plugins, demoServer.HasHandlers p)) := by
  refine ⟨_, _, ⟨none, none, none, some [("kelvin", [("username", Json.str "admin")])], ?_⟩,
    rfl, rfl, patch_merges_iff rfl rfl rfl rfl ?_ ?_ ⟨_, rfl⟩ rfl⟩
  · rintro configs ⟨⟩
    rfl
  · simp [SchoolAuthorityConfigurationPatchDocument.dict, asEntries, WellKeyed, WellKeyedValue,
      Dict.keys, Json.str]
  · decide

/-- Deactivating an authority with a document that sets nothing else is refused. -/
theorem patch_of_active_refused :
    let message := some (patchRequest "Traeger1" [("active", Json.bool false)])
    ∃ request out doc, RpcRequest.ofMessage message = .ok request ∧
      request.cmd = .patchSchoolAuthority ∧
      demoServer.outQueues.find request.name = some out ∧
      SchoolAuthorityConfigurationPatchDocument.init request.schoolAuthority = .ok doc ∧
      WellKeyed doc.dict ∧
      replacesDict (fun v => !v.isNull) out.schoolAuthority.dict doc.dict = false ∧
      (∃ config, SchoolAuthorityConfiguration.init
        (overlay out.schoolAuthority.dict doc.dict) = .ok config) ∧
      (∀ p ∈ out.schoolAuthority.plugins, demoServer.HasHandlers p) ∧
      (serve {} message demoServer).1.hasErrors = true := by
  refine ⟨_, _, ⟨some false, none, none, none, nofun⟩, rfl, rfl, rfl, rfl, ?_, ?_, ⟨_, rfl⟩, ?_, rfl⟩
  · simp [SchoolAuthorityConfigurationPatchDocument.dict, WellKeyed, WellKeyedValue, Dict.keys,
      Json.bool]
  · decide
  · decide

end Examples

end SimpleRpcServer

end IdConnector
