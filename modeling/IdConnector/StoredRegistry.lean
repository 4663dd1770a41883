import IdConnector.Atomicity
import IdConnector.Isolation
import IdConnector.ReadModifyWrite

/-! # Starting again from the files

A configuration is written with its keys sorted and read back when the service starts. As long as
the files are in step with the registry (`Persisted`), `manage_queues` of a new process brings back
the same authorities (`Persisted.restart`).
-/

namespace IdConnector

open Library Library.Document

/-! ## Sorted configurations -/

theorem plainToSecret_sortKeys (key : String) (v : Json) :
    plainToSecret key v.sortKeys = (plainToSecret key v).sortKeys := by
  cases v with
  | null | list | dict => rfl
  | atom leaf =>
      cases leaf <;> by_cases secret : key ∈ secretKeys <;> simp [plainToSecret, sortKeys, secret]

theorem secretToPlain_sortKeys (key : String) (v : Json) :
    secretToPlain key v.sortKeys = (secretToPlain key v).sortKeys := by
  cases v with
  | null | list | dict => rfl
  | atom leaf =>
      cases leaf <;> by_cases secret : key ∈ secretKeys <;> simp [secretToPlain, sortKeys, secret]

theorem plainToSecret_secretToPlain (key : String) (v : Json) :
    plainToSecret key (secretToPlain key v) = plainToSecret key v := by
  cases v with
  | null | list | dict => rfl
  | atom leaf =>
      cases leaf <;> by_cases secret : key ∈ secretKeys <;>
        simp [plainToSecret, secretToPlain, secret]

section Sorting

variable {f : String → Json → Json} (comm : ∀ key v, f key (sortKeys v) = (f key v).sortKeys)

include comm

theorem sortEntries_map (entries : JsonObject) :
    ((sortEntries entries).map fun entry => (entry.1, f entry.1 entry.2)) =
      sortEntries (entries.map fun entry => (entry.1, f entry.1 entry.2)) := by
  induction entries with
  | nil => rfl
  | cons entry rest ih =>
      rcases entry with ⟨key, v⟩
      rw [List.map_cons, sortEntries, sortEntries, ← ih, ← comm]
      exact List.map_orderedInsert (fun a b : String × Json => a.1 ≤ b.1) _ _ _ _
        (fun _ _ => Iff.rfl) fun _ _ => Iff.rfl

theorem sortConfigs_map (configs : Dict String JsonObject) :
    mapPluginConfigs f (sortConfigs configs) = sortConfigs (mapPluginConfigs f configs) := by
  induction configs with
  | nil => rfl
  | cons plugin rest ih =>
      rcases plugin with ⟨name, settings⟩
      simp only [mapPluginConfigs] at ih ⊢
      rw [List.map_cons, sortConfigs, sortConfigs, ← ih, ← sortEntries_map comm]
      exact List.map_orderedInsert (fun a b : String × JsonObject => a.1 ≤ b.1) _ _ _ _
        (fun _ _ => Iff.rfl) fun _ _ => Iff.rfl

end Sorting

theorem sortConfigs_sortConfigs (configs : Dict String JsonObject) :
    sortConfigs (sortConfigs configs) = sortConfigs configs := by
  have injective : Function.Injective asEntries := by
    refine List.map_injective_iff.mpr fun a b same => ?_
    simpa [Prod.ext_iff] using same
  apply injective
  rw [← sortEntries_asEntries, ← sortEntries_asEntries]
  exact Document.dict.inj (sortKeys_idem (.dict (asEntries configs)))

namespace SchoolAuthorityConfiguration

/-- The configuration with the keys of its plugin configurations sorted, at every depth. -/
def sorted (config : SchoolAuthorityConfiguration) : SchoolAuthorityConfiguration where
  name := config.name
  active := config.active
  url := config.url
  plugins := config.plugins
  pluginConfigs := sortConfigs config.pluginConfigs
  hidden := by
    rw [pluginConfigsPlainToSecret, sortConfigs_map plainToSecret_sortKeys]
    exact congrArg sortConfigs config.hidden

theorem sorted_sorted (config : SchoolAuthorityConfiguration) :
    config.sorted.sorted = config.sorted := by
  simp only [sorted, sortConfigs_sortConfigs]

/-- The file of a configuration does not depend on the order of the keys. -/
theorem written_sorted (config : SchoolAuthorityConfiguration) :
    sortEntries config.sorted.dictSecretsAsStr = sortEntries config.dictSecretsAsStr := by
  have settings : pluginConfigsSecretsToPlain (sortConfigs config.pluginConfigs) =
      sortConfigs (pluginConfigsSecretsToPlain config.pluginConfigs) :=
    sortConfigs_map secretToPlain_sortKeys _
  simp only [dictSecretsAsStr, fields, sorted, settings, sortEntries, sortKeys,
    sortEntries_asEntries, sortConfigs_sortConfigs]

end SchoolAuthorityConfiguration

section Loading

variable [Pydantic]

theorem load_some {doc : JsonObject} {config : SchoolAuthorityConfiguration} :
    loadSchoolAuthority (.written doc) = some config ↔
      SchoolAuthorityConfiguration.init doc = .ok config := by
  simp only [loadSchoolAuthority]
  cases SchoolAuthorityConfiguration.init doc <;> simp [Except.toOption]

/-- A configuration that was accepted comes back from its file with sorted keys. -/
theorem load_written {data : JsonObject} {config : SchoolAuthorityConfiguration}
    (accepted : SchoolAuthorityConfiguration.init data = .ok config) :
    loadSchoolAuthority (.written (sortEntries config.dictSecretsAsStr)) = some config.sorted := by
  obtain ⟨config', loaded, -⟩ := reload_accepted accepted
  rw [loaded]
  obtain ⟨name, active, url, plugins, value, configs, -, same⟩ :=
    init_ok_iff.mp (load_some.mp loaded)
  simp [field, get_sortEntries, SchoolAuthorityConfiguration.dictSecretsAsStr,
    SchoolAuthorityConfiguration.fields, Dict.get, located, Except.mapError, Json.str, Json.bool,
    sortKeys, sortKeys_strs, sortEntries_asEntries, Pydantic.str_typed, Pydantic.bool_typed,
    Pydantic.anyUrl_typed, listOfStr_typed, dictOfDict_typed] at name active url plugins configs
  have settings : config'.pluginConfigs = sortConfigs config.pluginConfigs := by
    rw [same, ← configs, pluginConfigsPlainToSecret, sortConfigs_map plainToSecret_sortKeys]
    refine congrArg sortConfigs (Eq.trans ?_ config.hidden)
    simp only [pluginConfigsPlainToSecret, pluginConfigsSecretsToPlain, mapPluginConfigs,
      List.map_map, Function.comp_def, plainToSecret_secretToPlain]
  rcases config' with ⟨name', active', url', plugins', configs', hidden'⟩
  simp only at name active url plugins settings
  simp only [SchoolAuthorityConfiguration.sorted, name, active, url, plugins, settings]

end Loading

/-! ## The files and the registry -/

section Restart

variable [CaseMapping]

/-- The file of the configuration is `{name}.json` in the directory of the configurations, where
    it is found again. -/
def HasOwnFile (name : String) : Prop :=
  configPath name = schoolAuthoritiesConfigPath ++ [name ++ ".json"]

instance (name : String) : Decidable (HasOwnFile name) :=
  inferInstanceAs (Decidable (_ = _))

/-- The plugin objects of a new process. -/
def freshPlugins (plugins : Dict String (Option DispatcherPlugin)) :
    Dict String (Option DispatcherPlugin) :=
  plugins.map fun plugin => (plugin.1, plugin.2.map fun _ => ⟨[], [], []⟩)

/-- `manage_queues` of a new process, with the files in the order in which they are listed. -/
def Restarts [Pydantic] (s s' : Server) : Prop :=
  ∃ listed : Dict String (Stored JsonObject),
    listed.Perm (s.schoolAuthorityFiles.filter fun file => HasOwnFile file.1) ∧
      Server.manageQueues listed s.mappingFile (freshPlugins s.plugins) = some s'

/-- The content of the configuration file of a registered authority. -/
def writtenConfig (config : SchoolAuthorityConfiguration) : Stored JsonObject :=
  .written (sortEntries config.dictSecretsAsStr)

open SimpleRpcServer

/-- There is a file for each registered authority and for no other, it holds the configuration
    and is found and accepted when the service starts. -/
structure Persisted [Pydantic] (s : Server) : Prop where
  registered : Registered s
  distinct : s.schoolAuthorityFiles.keys.Nodup
  file : ∀ name, s.schoolAuthorityFiles.get name = (registeredConfig name s).map writtenConfig
  accepted : ∀ name config, registeredConfig name s = some config →
    ∃ data, SchoolAuthorityConfiguration.init data = .ok config
  named : ∀ name config, registeredConfig name s = some config → name ≠ "" ∧ HasOwnFile name
  mapping : s.mappingFile ≠ some .damaged

theorem registeredConfig_iff {s : Server} (registered : Registered s) {name : String}
    {config : SchoolAuthorityConfiguration} : registeredConfig name s = some config ↔
      config.name = name ∧ ∃ q ∈ s.outQueues.queues, q.schoolAuthority = config := by
  constructor
  · intro found
    obtain ⟨q, first, rfl⟩ := Option.map_eq_some_iff.mp found
    exact ⟨OutQueues.find_name first, q, List.mem_of_find?_eq_some first, rfl⟩
  · rintro ⟨rfl, q, member, rfl⟩
    have distinct : (s.outQueues.queues.map OutQueue.name).Nodup :=
      List.pairwise_map.mpr (registered.increasing.imp ne_of_lt)
    cases found : s.outQueues.find q.schoolAuthority.name with
    | none =>
        have other := List.find?_eq_none.mp found q member
        exact absurd (by simp [OutQueues.isNamed]) other
    | some q' =>
        have member' := List.mem_of_find?_eq_some found
        have same : q'.name = q.name := by
          rw [registered.named q' member', registered.named q member]
          exact OutQueues.find_name found
        rw [registeredConfig, found, Option.map_some,
          List.inj_on_of_nodup_map distinct member' member same]

/-! ## Loading -/

omit [CaseMapping] in
theorem map_of_mapM {α β : Type} {f : α → Option β} {l : List α} {l' : List β}
    (all : l.mapM f = some l') : l.map f = l'.map some := by
  induction l generalizing l' with
  | nil =>
      obtain rfl : [] = l' := Option.some.inj all
      rfl
  | cons a rest ih =>
      rw [List.mapM_cons] at all
      obtain ⟨b, first, tail⟩ := Option.bind_eq_some_iff.mp all
      obtain ⟨bs, others, same⟩ := Option.bind_eq_some_iff.mp tail
      obtain rfl := Option.some.inj same
      rw [List.map_cons, List.map_cons, first, ih others]

omit [CaseMapping] in
theorem exists_mapM {α β : Type} {f : α → Option β} {l : List α}
    (each : ∀ a ∈ l, ∃ b, f a = some b) : ∃ l', l.mapM f = some l' := by
  induction l with
  | nil => exact ⟨[], rfl⟩
  | cons a rest ih =>
      obtain ⟨b, first⟩ := each a List.mem_cons_self
      obtain ⟨bs, others⟩ := ih fun a' member => each a' (List.mem_cons_of_mem _ member)
      exact ⟨b :: bs, by simp [List.mapM_cons, first, others]⟩

variable [Pydantic] {s s' : Server}

theorem manageQueues_some {files : Dict String (Stored JsonObject)}
    {mappingFile : Option (Stored (Dict String String))}
    {plugins : Dict String (Option DispatcherPlugin)} :
    Server.manageQueues files mappingFile plugins = some s ↔
      ∃ mapping configs, loadSchoolAuthorityMapping mappingFile = some mapping ∧
        files.mapM (fun file => loadSchoolAuthority file.2) = some configs ∧
        (∀ config ∈ configs, config.name ≠ "") ∧
        s = ⟨.ofConfigurations configs, !configs.isEmpty, files, mapping.mapValues Json.str,
          mappingFile, plugins⟩ := by
  simp only [Server.manageQueues, Option.bind_eq_bind, Option.bind_eq_some_iff,
    Option.guard_eq_some', exists_const, Option.pure_def, Option.some.injEq]
  constructor
  · rintro ⟨mapping, found, configs, loaded, named, rfl⟩
    exact ⟨mapping, configs, found, loaded, named, rfl⟩
  · rintro ⟨mapping, configs, found, loaded, named, rfl⟩
    exact ⟨mapping, found, configs, loaded, named, rfl⟩

/-- The files that are listed are those of the registered authorities. -/
theorem Persisted.mem_listed (persisted : Persisted s) {listed : Dict String (Stored JsonObject)}
    (perm : listed.Perm (s.schoolAuthorityFiles.filter fun file => HasOwnFile file.1))
    (name : String) (file : Stored JsonObject) : (name, file) ∈ listed ↔
      ∃ config, registeredConfig name s = some config ∧ file = writtenConfig config := by
  rw [perm.mem_iff, List.mem_filter, ← Dict.get_eq_some_iff persisted.distinct, persisted.file,
    Option.map_eq_some_iff]
  constructor
  · rintro ⟨⟨config, found, same⟩, -⟩
    exact ⟨config, found, same.symm⟩
  · rintro ⟨config, found, rfl⟩
    exact ⟨⟨config, found, rfl⟩, decide_eq_true (persisted.named name config found).2⟩

theorem Persisted.load_listed (persisted : Persisted s) {name : String}
    {config : SchoolAuthorityConfiguration} (found : registeredConfig name s = some config) :
    loadSchoolAuthority (writtenConfig config) = some config.sorted := by
  obtain ⟨data, accepted⟩ := persisted.accepted name config found
  exact load_written accepted

/-- The loaded configurations are those of the registered authorities, with sorted keys. -/
theorem Persisted.mem_loaded (persisted : Persisted s) {listed : Dict String (Stored JsonObject)}
    (perm : listed.Perm (s.schoolAuthorityFiles.filter fun file => HasOwnFile file.1))
    {configs : List SchoolAuthorityConfiguration}
    (loaded : listed.mapM (fun file => loadSchoolAuthority file.2) = some configs)
    (config' : SchoolAuthorityConfiguration) : config' ∈ configs ↔
      ∃ name config, registeredConfig name s = some config ∧ config' = config.sorted := by
  have listing : config' ∈ configs ↔
      some config' ∈ listed.map fun file => loadSchoolAuthority file.2 := by
    rw [map_of_mapM loaded]
    simp
  rw [listing, List.mem_map]
  constructor
  · rintro ⟨⟨name, file⟩, member, read⟩
    obtain ⟨config, found, rfl⟩ := (persisted.mem_listed perm name file).mp member
    rw [persisted.load_listed found] at read
    exact ⟨name, config, found, (Option.some.inj read).symm⟩
  · rintro ⟨name, config, found, rfl⟩
    exact ⟨(name, writtenConfig config),
      (persisted.mem_listed perm name _).mpr ⟨config, found, rfl⟩, persisted.load_listed found⟩

/-! ## Starting again -/

/-- A service whose files are in step with its registry can be started again. -/
theorem Persisted.can_restart (persisted : Persisted s) : ∃ s', Restarts s s' := by
  have perm := List.Perm.refl (s.schoolAuthorityFiles.filter fun file => HasOwnFile file.1)
  obtain ⟨configs, loaded⟩ : ∃ configs, (s.schoolAuthorityFiles.filter fun file =>
      HasOwnFile file.1).mapM (fun file => loadSchoolAuthority file.2) = some configs := by
    refine exists_mapM fun file member => ?_
    obtain ⟨config, found, same⟩ := (persisted.mem_listed perm file.1 file.2).mp member
    exact ⟨config.sorted, same ▸ persisted.load_listed found⟩
  have named : ∀ config ∈ configs, config.name ≠ "" := by
    intro config' member
    obtain ⟨name, config, found, rfl⟩ := (persisted.mem_loaded perm loaded config').mp member
    have same : config.name = name := ((registeredConfig_iff persisted.registered).mp found).1
    exact same ▸ (persisted.named name config found).1
  obtain ⟨mapping, mapped⟩ :
      ∃ mapping, loadSchoolAuthorityMapping s.mappingFile = some mapping := by
    cases stored : s.mappingFile with
    | none => exact ⟨_, rfl⟩
    | some file =>
        cases file with
        | damaged => exact absurd stored persisted.mapping
        | written mapping => exact ⟨.lowerKeys mapping, by simp [loadSchoolAuthorityMapping]⟩
  exact ⟨_, _, perm, manageQueues_some.mpr ⟨mapping, configs, mapped, loaded, named, rfl⟩⟩

omit [CaseMapping] [Pydantic] in
theorem mem_ofConfigurations_iff {configs : List SchoolAuthorityConfiguration} {q : OutQueue} :
    q ∈ (OutQueues.ofConfigurations configs).queues ↔
      ∃ config ∈ configs,
        q = { OutQueue.fromSchoolAuthority config with taskRunning := config.active } := by
  simp only [OutQueues.ofConfigurations, List.mem_map, List.mem_insertionSort]
  constructor
  · rintro ⟨_, ⟨config, member, rfl⟩, rfl⟩
    exact ⟨config, member, rfl⟩
  · rintro ⟨config, member, rfl⟩
    exact ⟨_, ⟨config, member, rfl⟩, rfl⟩

/-- A loaded configuration has the name of its file. -/
theorem Persisted.loaded_names (persisted : Persisted s)
    {listed : Dict String (Stored JsonObject)}
    (perm : listed.Perm (s.schoolAuthorityFiles.filter fun file => HasOwnFile file.1))
    {configs : List SchoolAuthorityConfiguration}
    (loaded : listed.mapM (fun file => loadSchoolAuthority file.2) = some configs) :
    configs.map SchoolAuthorityConfiguration.name = listed.keys := by
  have names : (configs.map SchoolAuthorityConfiguration.name).map some = listed.keys.map some := by
    calc (configs.map SchoolAuthorityConfiguration.name).map some
        = (configs.map some).map (Option.map SchoolAuthorityConfiguration.name) := by
          simp
      _ = (listed.map fun file => loadSchoolAuthority file.2).map
          (Option.map SchoolAuthorityConfiguration.name) := by rw [map_of_mapM loaded]
      _ = listed.keys.map some := by
          rw [Dict.keys, List.map_map, List.map_map]
          refine List.map_congr_left fun file member => ?_
          obtain ⟨config, found, same⟩ := (persisted.mem_listed perm file.1 file.2).mp member
          have named : config.name = file.1 :=
            ((registeredConfig_iff persisted.registered).mp found).1
          simp only [Function.comp_apply, same, persisted.load_listed found, Option.map_some]
          exact congrArg some named
  exact List.map_injective_iff.mpr (Option.some_injective _) names

/-- Started again, the service has the same authorities as before, with their keys sorted, and
    the tasks of the active ones run. -/
theorem Persisted.restart (persisted : Persisted s) (restarts : Restarts s s') :
    Persisted s' ∧ (∀ name, registeredConfig name s' = (registeredConfig name s).map .sorted) ∧
      ∀ q ∈ s'.outQueues.queues, q.taskRunning = q.schoolAuthority.active := by
  obtain ⟨listed, perm, started⟩ := restarts
  have distinct : listed.keys.Nodup := by
    have listing := perm.map Prod.fst
    refine listing.nodup_iff.mpr (persisted.distinct.sublist ?_)
    exact List.filter_sublist.map _
  obtain ⟨mapping, configs, -, loaded, -, made⟩ := manageQueues_some.mp started
  have names := persisted.loaded_names perm loaded
  have registered := manageQueues_registered loaded (names ▸ distinct) started
  have queues : s'.outQueues = .ofConfigurations configs := by rw [made]
  have files : s'.schoolAuthorityFiles = listed := by rw [made]
  have mappingFile : s'.mappingFile = s.mappingFile := by rw [made]
  have same : ∀ name, registeredConfig name s' = (registeredConfig name s).map .sorted := by
    intro name
    ext config'
    rw [registeredConfig_iff registered, Option.map_eq_some_iff]
    have listing : (∃ q ∈ s'.outQueues.queues, q.schoolAuthority = config') ↔
        config' ∈ configs := by
      simp only [queues, mem_ofConfigurations_iff]
      constructor
      · rintro ⟨q, ⟨config, member, rfl⟩, rfl⟩
        exact member
      · intro member
        exact ⟨_, ⟨config', member, rfl⟩, rfl⟩
    rw [listing, persisted.mem_loaded perm loaded]
    constructor
    · rintro ⟨named', name', config, found, rfl⟩
      have same : config.name = name' := ((registeredConfig_iff persisted.registered).mp found).1
      obtain rfl : name' = name := same.symm.trans named'
      exact ⟨config, found, rfl⟩
    · rintro ⟨config, found, rfl⟩
      have same : config.name = name := ((registeredConfig_iff persisted.registered).mp found).1
      exact ⟨same, name, config, found, rfl⟩
  refine ⟨⟨registered, files ▸ distinct, ?_, ?_, ?_, mappingFile ▸ persisted.mapping⟩, same, ?_⟩
  · intro name
    rw [same, files, Option.map_map]
    have written : writtenConfig ∘ SchoolAuthorityConfiguration.sorted = writtenConfig := by
      funext config
      exact congrArg Stored.written config.written_sorted
    rw [written, ← persisted.file]
    ext file
    rw [Dict.get_eq_some_iff distinct, persisted.mem_listed perm,
      persisted.file, Option.map_eq_some_iff]
    simp only [eq_comm]
  · intro name config' found
    rw [same] at found
    obtain ⟨config, old, rfl⟩ := Option.map_eq_some_iff.mp found
    exact ⟨_, load_some.mp (persisted.load_listed old)⟩
  · intro name config' found
    rw [same] at found
    obtain ⟨config, old, rfl⟩ := Option.map_eq_some_iff.mp found
    exact persisted.named name config old
  · intro q member
    rw [queues] at member
    obtain ⟨config, -, rfl⟩ := mem_ofConfigurations_iff.mp member
    rfl

end Restart

end IdConnector
