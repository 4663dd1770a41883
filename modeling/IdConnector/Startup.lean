import IdConnector.Patch

/-! # Starting the service

What `manage_queues` makes of the stored files: the mapping of the in-queue, an out queue
for every stored configuration, and the in-queue with the list of these. A file that
cannot be loaded ends the start.
-/

namespace IdConnector

open Library

section Loading

variable [Pydantic]

theorem dictOfStr_strs (loc : String) (mapping : Dict String String) :
    dictOfStr loc (.dict (mapping.map fun entry => (entry.1, Json.str entry.2))) = .ok mapping := by
  have entries : ((mapping.map fun entry => (entry.1, Json.str entry.2)).map fun entry =>
      (located [loc, entry.1] (Pydantic.str entry.2)).map (entry.1, ·)) =
        mapping.map fun entry => .ok entry := by
    rw [List.map_map]
    exact List.map_congr_left fun entry _ => by
      simp [Json.str, Pydantic.str_typed, located, Except.mapError, Except.map]
  simp only [dictOfStr, Pydantic.dict_typed, located, Except.mapError, Except.bind]
  exact (congrArg collect entries).trans (collect_ok mapping)

/-- `load_school2target_mapping`; nothing stands for a `SchoolMappingLoadingError`. -/
def loadSchool2targetMapping : Option (Stored (Dict String String)) → Option (Dict String String)
  | none => some []
  | some .damaged => none
  | some (.written mapping) =>
      (School2SchoolAuthorityMapping.init
        [("mapping", .dict (mapping.map fun entry => (entry.1, Json.str entry.2)))]).toOption

@[simp] theorem loadSchool2targetMapping_written (mapping : Dict String String) :
    loadSchool2targetMapping (some (.written mapping)) = some mapping := by
  simp [loadSchool2targetMapping, School2SchoolAuthorityMapping.init, field, Dict.get,
    dictOfStr_strs, Except.mapError, Except.toOption]

/-- `load_school_authority`, without a result where it raises. -/
def loadSchoolAuthority : Stored JsonObject → Option SchoolAuthorityConfiguration
  | .damaged => none
  | .written doc => (SchoolAuthorityConfiguration.init doc).toOption

variable [CaseMapping]

/-- `load_school_authority_mapping` -/
def loadSchoolAuthorityMapping (file : Option (Stored (Dict String String))) :
    Option (LoweredDict String) :=
  (loadSchool2targetMapping file).map .lowerKeys

end Loading

/-- The same dictionary with other values. -/
def LoweredDict.mapValues [CaseMapping] {ν μ : Type} (f : ν → μ) (d : LoweredDict ν) :
    LoweredDict μ where
  entries := d.entries.map fun entry => (entry.1, f entry.2)
  distinct := by
    simp only [Dict.keys, List.map_map]
    exact d.distinct
  lowered k member := by
    simp only [Dict.keys, List.map_map] at member
    exact d.lowered k member

theorem LoweredDict.get_mapValues [CaseMapping] {ν μ : Type} (f : ν → μ) (d : LoweredDict ν)
    (k : String) : (d.mapValues f).entries.get k = (d.entries.get k).map f := by
  simp only [mapValues]
  induction d.entries with
  | nil => rfl
  | cons entry rest ih =>
      rcases entry with ⟨key, v⟩
      by_cases same : key = k
      · simp [Dict.get, same]
      · simpa [Dict.get, same] using ih

/-- The queues of the loaded configurations, sorted by name, with the tasks of the active
    ones started. -/
def OutQueues.ofConfigurations (configs : List SchoolAuthorityConfiguration) : OutQueues where
  queues := ((configs.map OutQueue.fromSchoolAuthority).insertionSort fun a b => a.name ≤ b.name).map
    fun q => { q with taskRunning := q.schoolAuthority.active }
  live := by
    intro q member
    obtain ⟨sorted, listed, rfl⟩ := List.mem_map.mp member
    obtain ⟨config, _, rfl⟩ := List.mem_map.mp ((List.mem_insertionSort _).mp listed)
    rfl

/-- `manage_queues` up to the first request. The constructor of the in-queue replaces an empty
    list of out queues by one of its own, and a queue without a name cannot be made. -/
def Server.manageQueues [CaseMapping] [Pydantic] (files : Dict String (Stored JsonObject))
    (mappingFile : Option (Stored (Dict String String)))
    (plugins : Dict String (Option DispatcherPlugin)) : Option Server := do
  let mapping ← loadSchoolAuthorityMapping mappingFile
  let configs ← files.mapM fun file => loadSchoolAuthority file.2
  guard (∀ config ∈ configs, config.name ≠ "")
  return {
    outQueues := .ofConfigurations configs
    shared := !configs.isEmpty
    schoolAuthorityFiles := files
    schoolAuthorityMapping := mapping.mapValues Json.str
    mappingFile
    plugins }

/-- Without any stored file the service starts from the empty server. -/
theorem Server.manageQueues_nothing [CaseMapping] [Pydantic]
    (plugins : Dict String (Option DispatcherPlugin)) :
    Server.manageQueues [] none plugins = some (.start plugins) := rfl

end IdConnector
