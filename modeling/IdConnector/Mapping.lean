import IdConnector.Startup
import Mathlib.Logic.Function.Basic
import Mathlib.Logic.Relation

/-! # Copies of the school to authority mapping

The mapping of the last PUT request is in three places: in memory, where the in-queue
routes by it, in the file it is loaded from after a restart, and in the dispatcher classes,
each of which loads it once, on first use. `mapping_survives_restart_iff` compares the first
two, `handles_current` follows the third through a run.
-/

namespace IdConnector

open Library Relation

section Restart

variable [CaseMapping]

/-- Of the keys that differ only in case, the last in the request and the last in the order
    of the file have the same value. -/
def CollisionsAgree (entries : JsonObject) (obj : Dict String String) : Prop :=
  ∀ k v k' v', Dict.LastUnder lower entries k v → Dict.LastUnder lower (sortMapping obj) k' v' →
    lower k = lower k' → v = Json.str v'

variable [Pydantic]

/-- The mapping of the request, as it is and as it is validated. -/
structure MappingRequest (request : RpcRequest) (entries : JsonObject)
    (obj : Dict String String) : Prop where
  raw : request.schoolToAuthorityMapping.get "mapping" = some (.dict entries)
  valid : School2SchoolAuthorityMapping.init request.schoolToAuthorityMapping = .ok obj

def SurvivesRestart (request : RpcRequest) : Prop :=
  ∀ entries obj, MappingRequest request entries obj → CollisionsAgree entries obj

omit [CaseMapping] [Pydantic] in
theorem collect_keys (validate : String × Json → Except (List FieldError) String)
    {entries : JsonObject} {obj : Dict String String}
    (collected : collect (entries.map fun entry => (validate entry).map (entry.1, ·)) = .ok obj) :
    Dict.keys obj = Dict.keys entries := by
  induction entries generalizing obj with
  | nil =>
      obtain rfl : [] = obj := Except.ok.inj collected
      rfl
  | cons entry rest ih =>
      rw [List.map_cons] at collected
      cases value : validate entry with
      | error errors =>
          simp only [value, Except.map, collect] at collected
          split at collected <;> cases collected
      | ok v =>
          simp only [value, Except.map, collect] at collected
          cases later : collect (rest.map fun entry => (validate entry).map (entry.1, ·)) with
          | error errors =>
              simp only [Except.map] at later
              rw [later] at collected
              cases collected
          | ok more =>
              have keys := ih later
              simp only [Except.map] at later
              rw [later] at collected
              obtain rfl := Except.ok.inj collected
              exact congrArg (entry.1 :: ·) keys

omit [CaseMapping] in
theorem MappingRequest.keys {request : RpcRequest} {entries : JsonObject}
    {obj : Dict String String} (mapping : MappingRequest request entries obj) :
    Dict.keys obj = Dict.keys entries := by
  have valid := mapping.valid
  simp only [School2SchoolAuthorityMapping.init, field, mapping.raw, dictOfStr, located,
    Pydantic.dict_typed, Except.mapError, Except.bind] at valid
  split at valid
  next => cases valid
  next collected =>
    obtain rfl := Except.ok.inj valid
    exact collect_keys (fun entry => located [_, entry.1] (Pydantic.str entry.2)) collected

theorem put_exec {disk : Disk} {request : RpcRequest} {s s' : Server} {value : Option Json}
    (accepted : Action.exec (SimpleRpcServer.putSchoolToAuthorityMapping disk request) s =
      (.ok value, s')) :
    ∃ entries obj, MappingRequest request entries obj ∧
      s'.schoolAuthorityMapping = .lowerKeys entries ∧
      s'.mappingFile = some (.written (sortMapping obj)) := by
  unfold SimpleRpcServer.putSchoolToAuthorityMapping at accepted
  cases valid : School2SchoolAuthorityMapping.init request.schoolToAuthorityMapping with
  | error raised => simp [Action.exec_bind, valid] at accepted
  | ok obj =>
      rw [valid, Action.exec_bind_ok _ (Action.exec_ofExcept _ s)] at accepted
      by_cases done : disk.save = .done
      · have saved : Action.exec (saveSchool2targetMapping disk obj) s =
            (.ok ⟨⟩, storeMapping (.written (sortMapping obj)) s) := writeFile_done _ _ s done
        rw [Action.exec_bind_ok _ saved] at accepted
        cases raw : request.schoolToAuthorityMapping.get "mapping" with
        | none => simp [Action.exec_bind, raw] at accepted
        | some mapping =>
            cases mapping with
            | null | atom | list => simp [Action.exec_bind, raw] at accepted
            | dict entries =>
                simp only [raw, Action.exec_bind, Action.exec_modify, Action.exec_pure,
                  Prod.mk.injEq] at accepted
                obtain ⟨-, rfl⟩ := accepted
                exact ⟨entries, obj, ⟨raw, valid⟩, rfl, rfl⟩
      · obtain ⟨operation, failed⟩ := writeFile_failed storeMapping (sortMapping obj) s done
        have unsaved : Action.exec (saveSchool2targetMapping disk obj) s = _ := failed
        rw [Action.exec_bind_error _ unsaved] at accepted
        cases accepted

omit [CaseMapping] [Pydantic] in
theorem keys_sortMapping {mapping : Dict String String} {k : String} :
    k ∈ Dict.keys (sortMapping mapping) ↔ k ∈ Dict.keys mapping := by
  simp only [Dict.keys, List.mem_map, sortMapping, List.mem_insertionSort]

omit [Pydantic] in
theorem lowerKeys_eq_iff {entries : JsonObject} {obj : Dict String String}
    (sameKeys : Dict.keys obj = Dict.keys entries) :
    (∀ ou, (LoweredDict.lowerKeys entries).entries.get ou =
        ((LoweredDict.lowerKeys (sortMapping obj)).entries.get ou).map Json.str) ↔
      CollisionsAgree entries obj := by
  simp only [LoweredDict.lowerKeys]
  constructor
  · intro same k v k' v' last last' together
    have memory := (Dict.get_ofPairs_map lower entries (lower k) v).mpr ⟨k, last, rfl⟩
    have loaded := (Dict.get_ofPairs_map lower (sortMapping obj) (lower k) v').mpr
      ⟨k', last', together.symm⟩
    rw [same, loaded] at memory
    exact (Option.some.inj memory).symm
  · intro agree ou
    cases memory : (Dict.ofPairs (entries.map fun entry => (lower entry.1, entry.2))).get ou with
    | none =>
        have absent := (Dict.get_ofPairs_map_none lower entries ou).mp memory
        rw [(Dict.get_ofPairs_map_none lower (sortMapping obj) ou).mpr fun k member =>
          absent k (by rwa [keys_sortMapping, sameKeys] at member)]
        rfl
    | some v =>
        obtain ⟨k, last, rfl⟩ := (Dict.get_ofPairs_map lower entries ou v).mp memory
        cases loaded : (Dict.ofPairs ((sortMapping obj).map
            fun entry => (lower entry.1, entry.2))).get (lower k) with
        | none =>
            have absent := (Dict.get_ofPairs_map_none lower (sortMapping obj) _).mp loaded
            obtain ⟨front, back, rfl, -⟩ := last
            have member : k ∈ Dict.keys (sortMapping obj) := by
              rw [keys_sortMapping, sameKeys]
              simp [Dict.keys]
            exact absurd rfl (absent k member)
        | some v' =>
            obtain ⟨k', last', together⟩ := (Dict.get_ofPairs_map lower _ _ v').mp loaded
            rw [agree k v k' v' last last' together.symm]
            rfl

theorem survivesRestart_iff {request : RpcRequest} {entries : JsonObject}
    {obj : Dict String String} (mapping : MappingRequest request entries obj) :
    SurvivesRestart request ↔ CollisionsAgree entries obj := by
  constructor
  · intro survives
    exact survives entries obj mapping
  · intro agree entries' obj' mapping'
    obtain rfl : entries = entries' := by simpa using mapping.raw.symm.trans mapping'.raw
    obtain rfl : obj = obj' := Except.ok.inj (mapping.valid.symm.trans mapping'.valid)
    exact agree

/-- After an accepted request a restart brings back the mapping in memory exactly if keys
    that differ only in case do not make a difference between the two orders. -/
theorem mapping_survives_restart_iff {disk : Disk} {request : RpcRequest} {s s' : Server}
    {value : Option Json}
    (accepted : Action.exec (SimpleRpcServer.putSchoolToAuthorityMapping disk request) s =
      (.ok value, s')) :
    (∃ loaded, loadSchoolAuthorityMapping s'.mappingFile = some loaded ∧
        ∀ ou, s'.schoolAuthorityMapping.entries.get ou =
          (loaded.entries.get ou).map Json.str) ↔
      SurvivesRestart request := by
  obtain ⟨entries, obj, mapping, memory, file⟩ := put_exec accepted
  rw [survivesRestart_iff mapping, ← lowerKeys_eq_iff mapping.keys, memory, file]
  simp [loadSchoolAuthorityMapping]

end Restart

/-! ## The copies of the dispatcher classes -/

/-- The dispatcher classes that exist, of which the last is derived from the second. -/
inductive PerSADispatcherClass where
  | kelvinUser
  | kelvinSchoolClass
  | partialGroupSyncSchoolClass
  deriving Repr, DecidableEq

def PerSADispatcherClass.base : PerSADispatcherClass → Option PerSADispatcherClass
  | .kelvinUser | .kelvinSchoolClass => none
  | .partialGroupSyncSchoolClass => some .kelvinSchoolClass

section Classes

variable [CaseMapping]

/-- The attributes `_school2authority_mapping` that have been set, by class. -/
abbrev ClassMappings := PerSADispatcherClass → Option (LoweredDict String)

/-- `cls._school2authority_mapping`, which a class without its own inherits. -/
def ClassMappings.lookup (mappings : ClassMappings) (cls : PerSADispatcherClass) :
    Option (LoweredDict String) :=
  (mappings cls).or (cls.base.bind mappings)

/-- `school_2_school_authority_mapping`, without a result where loading raises. -/
def school2SchoolAuthorityMapping [Pydantic] (file : Option (Stored (Dict String String)))
    (mappings : ClassMappings) (cls : PerSADispatcherClass) :
    Option (LoweredDict String × ClassMappings) :=
  match mappings.lookup cls with
  | some mapping => some (mapping, mappings)
  | none => (loadSchoolAuthorityMapping file).map
      fun mapping => (mapping, Function.update mappings cls (some mapping))

/-- `handled_schools`, for a dispatcher of this authority. -/
def handledSchools (schoolAuthorityName : String) (mapping : LoweredDict String) : List String :=
  (mapping.entries.keys.filter
    fun school => mapping.entries.get (lower school) = some schoolAuthorityName).map lower

/-- The server and the dispatcher classes. -/
structure MappedService where
  server : Server
  mappings : ClassMappings

namespace MappedService

variable [Pydantic]

/-- The mapping that a dispatcher of the class gets now. -/
def mappingOf (st : MappedService) (cls : PerSADispatcherClass) : Option (LoweredDict String) :=
  (school2SchoolAuthorityMapping st.server.mappingFile st.mappings cls).map Prod.fst

/-- Accepted PUT requests and objects of which a dispatcher asks for its schools. -/
inductive Step (allowed : MappedService → RpcRequest → Prop) :
    MappedService → MappedService → Prop where
  | put {st disk request value s'} (permitted : allowed st request)
      (accepted : Action.exec (SimpleRpcServer.putSchoolToAuthorityMapping disk request) st.server =
        (.ok value, s')) :
      Step allowed st { st with server := s' }
  | handled {st cls mapping mappings}
      (asked : school2SchoolAuthorityMapping st.server.mappingFile st.mappings cls =
        some (mapping, mappings)) :
      Step allowed st { st with mappings }

/-- The service as `manage_queues` starts it: no class has a mapping yet. -/
def Started (st : MappedService) : Prop :=
  st.mappings = (fun _ => none) ∧ ∃ files mappingFile plugins,
    Server.manageQueues files mappingFile plugins = some st.server

/-- Both mappings give the same schools to every authority. -/
def SameSchools (mapping : LoweredDict String) (memory : LoweredDict Json) : Prop :=
  ∀ ou authority, mapping.entries.get ou = some authority ↔
    memory.entries.get ou = some (Json.str authority)

/-- Whatever dispatcher asks gets the schools that the in-queue maps to its authority. -/
def HandlesCurrent (st : MappedService) : Prop :=
  ∀ cls authority, ∃ mapping, st.mappingOf cls = some mapping ∧
    ∀ ou, ou ∈ handledSchools authority mapping ↔
      st.server.schoolAuthorityMapping.entries.get ou = some (Json.str authority)

/-- For a class that has its mapping the request changes nothing, and for one that has not the
    mapping comes back from the file as it is in memory. -/
def KeepsHandled (st : MappedService) (request : RpcRequest) : Prop :=
  ∀ cls, match st.mappings.lookup cls with
    | some _ => ∀ entries, request.schoolToAuthorityMapping.get "mapping" = some (.dict entries) →
        ∀ ou authority, (LoweredDict.lowerKeys entries).entries.get ou = some (Json.str authority) ↔
          st.server.schoolAuthorityMapping.entries.get ou = some (Json.str authority)
    | none => SurvivesRestart request

omit [Pydantic] in
theorem mem_handledSchools {authority ou : String} {mapping : LoweredDict String} :
    ou ∈ handledSchools authority mapping ↔ mapping.entries.get ou = some authority := by
  simp only [handledSchools, List.mem_map, List.mem_filter, decide_eq_true_eq]
  constructor
  · rintro ⟨school, ⟨key, mapped⟩, rfl⟩
    exact mapped
  · intro mapped
    have key : ou ∈ mapping.entries.keys := Dict.mem_keys_iff.mpr ⟨authority, mapped⟩
    have lowered := mapping.lowered ou key
    exact ⟨ou, ⟨key, by rwa [lowered]⟩, lowered⟩

theorem handlesCurrent_iff {st : MappedService} :
    st.HandlesCurrent ↔ ∀ cls, ∃ mapping, st.mappingOf cls = some mapping ∧
      SameSchools mapping st.server.schoolAuthorityMapping := by
  simp only [HandlesCurrent, mem_handledSchools, SameSchools]
  constructor
  · intro current cls
    obtain ⟨mapping, found, _⟩ := current cls ""
    refine ⟨mapping, found, fun ou authority => ?_⟩
    obtain ⟨other, found', same⟩ := current cls authority
    obtain rfl : mapping = other := by simpa using found.symm.trans found'
    exact same ou
  · intro current cls authority
    obtain ⟨mapping, found, same⟩ := current cls
    exact ⟨mapping, found, fun ou => same ou authority⟩

theorem mappingOf_eq (st : MappedService) (cls : PerSADispatcherClass) :
    st.mappingOf cls =
      (st.mappings.lookup cls).or (loadSchoolAuthorityMapping st.server.mappingFile) := by
  unfold mappingOf school2SchoolAuthorityMapping
  cases st.mappings.lookup cls with
  | some mapping => rfl
  | none => simp [Function.comp_def]

/-- Asking fills a class with what it and those derived from it would have loaded anyway. -/
theorem mappingOf_asked {st : MappedService} {cls : PerSADispatcherClass}
    {mapping : LoweredDict String} {mappings : ClassMappings}
    (asked : school2SchoolAuthorityMapping st.server.mappingFile st.mappings cls =
      some (mapping, mappings)) (other : PerSADispatcherClass) :
    ({ st with mappings } : MappedService).mappingOf other = st.mappingOf other := by
  rw [mappingOf_eq, mappingOf_eq]
  unfold school2SchoolAuthorityMapping at asked
  cases known : st.mappings.lookup cls with
  | some old =>
      simp only [known, Option.some.injEq, Prod.mk.injEq] at asked
      rw [← asked.2]
  | none =>
      simp only [known, Option.map_eq_some_iff, Prod.mk.injEq] at asked
      obtain ⟨_, loaded, rfl, rfl⟩ := asked
      simp only [loaded]
      cases cls <;> cases other <;>
        simp_all [ClassMappings.lookup, PerSADispatcherClass.base, Function.update]

theorem started_handlesCurrent {st : MappedService} (start : st.Started) : st.HandlesCurrent := by
  obtain ⟨fresh, files, mappingFile, plugins, started⟩ := start
  apply handlesCurrent_iff.mpr
  intro cls
  simp only [Server.manageQueues, Option.bind_eq_bind, Option.bind_eq_some_iff,
    Option.pure_def, Option.some.injEq] at started
  obtain ⟨mapping, loaded, configs, -, -, -, server⟩ := started
  rw [mappingOf_eq, ← server, fresh]
  refine ⟨mapping, by simp [ClassMappings.lookup, loaded], fun ou authority => ?_⟩
  simp [LoweredDict.get_mapValues, Json.str]

/-- A PUT request keeps the dispatchers current exactly if it is one that `KeepsHandled`
    allows. -/
theorem put_handlesCurrent_iff {st : MappedService} {disk : Disk} {request : RpcRequest}
    {value : Option Json} {s' : Server} (current : st.HandlesCurrent)
    (accepted : Action.exec (SimpleRpcServer.putSchoolToAuthorityMapping disk request) st.server =
      (.ok value, s')) :
    ({ st with server := s' } : MappedService).HandlesCurrent ↔ st.KeepsHandled request := by
  obtain ⟨entries, obj, mapping, memory, file⟩ := put_exec accepted
  rw [handlesCurrent_iff]
  apply forall_congr'
  intro cls
  obtain ⟨before, found, same⟩ := handlesCurrent_iff.mp current cls
  rw [mappingOf_eq] at found
  rw [mappingOf_eq, memory, file]
  cases known : st.mappings.lookup cls with
  | some cached =>
      rw [known, Option.some_or, Option.some.injEq] at found
      subst found
      simp only [Option.some_or, Option.some.injEq, exists_eq_left']
      constructor
      · intro unchanged entries' raw ou authority
        obtain rfl : entries = entries' := by simpa using mapping.raw.symm.trans raw
        rw [← unchanged, same]
      · intro unchanged ou authority
        rw [same, unchanged entries mapping.raw]
  | none =>
      simp only [Option.none_or, survivesRestart_iff mapping, ← lowerKeys_eq_iff mapping.keys,
        loadSchoolAuthorityMapping, loadSchool2targetMapping_written, Option.map_some,
        Option.some.injEq, exists_eq_left']
      constructor
      · intro sameSchools ou
        cases loaded : (LoweredDict.lowerKeys (sortMapping obj)).entries.get ou with
        | some authority => exact (sameSchools ou authority).mp loaded
        | none =>
            have absent := (Dict.get_ofPairs_map_none lower (sortMapping obj) ou).mp loaded
            apply (Dict.get_ofPairs_map_none lower entries ou).mpr
            intro k member
            exact absent k (keys_sortMapping.mpr (mapping.keys ▸ member))
      · intro sameEntries ou authority
        rw [sameEntries]
        simp [Json.str]

theorem step_handlesCurrent {st st' : MappedService} (step : Step KeepsHandled st st')
    (current : st.HandlesCurrent) : st'.HandlesCurrent := by
  cases step with
  | put permitted accepted => exact (put_handlesCurrent_iff current accepted).mpr permitted
  | handled asked =>
      rw [handlesCurrent_iff] at current ⊢
      intro cls
      rw [mappingOf_asked asked]
      exact current cls

/-- In a run whose PUT requests change nothing for the classes that have used the mapping, every
    dispatcher handles exactly the schools of its authority. -/
theorem handles_current {start st : MappedService} (started : start.Started)
    (run : ReflTransGen (Step KeepsHandled) start st) : st.HandlesCurrent := by
  induction run with
  | refl => exact started_handlesCurrent started
  | tail _ step ih => exact step_handlesCurrent step ih

end MappedService

end Classes

section Examples

attribute [local instance] asciiCaseMapping typedPydantic

/-- The request to map these schools. -/
def putRequest (mapping : Dict String String) : RpcRequest where
  cmd := .putSchoolToAuthorityMapping
  name := ""
  schoolAuthority := []
  schoolToAuthorityMapping :=
    [("mapping", .dict (mapping.map fun entry => (entry.1, Json.str entry.2)))]

/-- The server after such a request. -/
def serverWith (mapping : Dict String String) : Server :=
  (Action.exec (SimpleRpcServer.putSchoolToAuthorityMapping {} (putRequest mapping)) (.start [])).2

/-- The answer to the request. -/
def mappingResult (mapping : Dict String String) : Option Json :=
  some (.dict [("mapping", .dict (mapping.map fun entry => (entry.1, Json.str entry.2)))])

/-- Two spellings of one school that go to the same authority. -/
def spellings : Dict String String := [("School1", "Traeger1"), ("SCHOOL1", "Traeger1")]

private theorem putSpellings_accepted :
    Action.exec (SimpleRpcServer.putSchoolToAuthorityMapping {} (putRequest spellings)) (.start []) =
      (.ok (mappingResult spellings), serverWith spellings) :=
  rfl

theorem mapping_survives_restart_demo :
    (∃ loaded, loadSchoolAuthorityMapping (serverWith spellings).mappingFile = some loaded ∧
        ∀ ou, (serverWith spellings).schoolAuthorityMapping.entries.get ou =
          (loaded.entries.get ou).map Json.str) ↔
      SurvivesRestart (putRequest spellings) :=
  mapping_survives_restart_iff putSpellings_accepted

theorem restart_changes_authority :
    let s := serverWith [("school1", "Traeger1"), ("SCHOOL1", "Traeger2")]
    (Action.exec (SimpleRpcServer.putSchoolToAuthorityMapping {}
        (putRequest [("school1", "Traeger1"), ("SCHOOL1", "Traeger2")])) (.start [])).1.isOk = true ∧
      s.schoolAuthorityMapping.entries.get "school1" = some (Json.str "Traeger2") ∧
      (loadSchoolAuthorityMapping s.mappingFile).map (fun loaded => loaded.entries.get "school1") =
        some (some "Traeger1") := by
  decide

/-- A service that has started without any stored file. -/
def mappedStart : MappedService := ⟨.start [], fun _ => none⟩

theorem mappedStart_started : mappedStart.Started := ⟨rfl, [], none, [], rfl⟩

/-- The dispatchers of users have loaded the mapping after a first request. -/
def mappedDemo (mapping : Dict String String) : MappedService where
  server := serverWith mapping
  mappings := Function.update (fun _ => none) .kelvinUser
    (loadSchoolAuthorityMapping (serverWith mapping).mappingFile)

private theorem putDemo_accepted : Action.exec (SimpleRpcServer.putSchoolToAuthorityMapping {}
    (putRequest [("School1", "Traeger1")])) (.start []) =
      (.ok (mappingResult [("School1", "Traeger1")]), serverWith [("School1", "Traeger1")]) :=
  rfl

private theorem putDemo_survives : SurvivesRestart (putRequest [("School1", "Traeger1")]) := by
  have mapping : MappingRequest (putRequest [("School1", "Traeger1")])
      [("School1", Json.str "Traeger1")] [("School1", "Traeger1")] := ⟨rfl, rfl⟩
  rw [survivesRestart_iff mapping, ← lowerKeys_eq_iff mapping.keys]
  intro ou
  have memory : LoweredDict.lowerKeys [("School1", Json.str "Traeger1")] =
      (LoweredDict.lowerKeys [("School1", "Traeger1")]).mapValues Json.str := rfl
  rw [memory, LoweredDict.get_mapValues]
  rfl

private theorem mappedDemo_run {allowed : MappedService → RpcRequest → Prop}
    (permitted : allowed mappedStart (putRequest [("School1", "Traeger1")])) :
    ReflTransGen (MappedService.Step allowed) mappedStart
      (mappedDemo [("School1", "Traeger1")]) := by
  have run := ReflTransGen.single (MappedService.Step.put permitted putDemo_accepted)
  have asked : school2SchoolAuthorityMapping (serverWith [("School1", "Traeger1")]).mappingFile
      (fun _ => none) .kelvinUser = some (.lowerKeys [("School1", "Traeger1")],
        (mappedDemo [("School1", "Traeger1")]).mappings) := rfl
  exact run.tail (.handled asked)

theorem handles_current_demo : (mappedDemo [("School1", "Traeger1")]).HandlesCurrent := by
  apply MappedService.handles_current mappedStart_started
  apply mappedDemo_run
  intro cls
  cases cls <;> exact putDemo_survives

/-- Moving a school to another authority does not reach the dispatchers of users. -/
theorem moved_school_still_handled :
    ∃ st, mappedStart.Started ∧
      ReflTransGen (MappedService.Step fun _ _ => True) mappedStart st ∧
      st.server.schoolAuthorityMapping.entries.get "school1" = some (Json.str "Traeger2") ∧
      (st.mappingOf .kelvinUser).map (handledSchools "Traeger1") = some ["school1"] ∧
      (st.mappingOf .kelvinUser).map (handledSchools "Traeger2") = some [] ∧
      ¬ st.HandlesCurrent := by
  let first := mappedDemo [("School1", "Traeger1")]
  let moved := (Action.exec (SimpleRpcServer.putSchoolToAuthorityMapping {}
    (putRequest [("School1", "Traeger2")])) first.server).2
  have accepted : Action.exec (SimpleRpcServer.putSchoolToAuthorityMapping {}
      (putRequest [("School1", "Traeger2")])) first.server =
        (.ok (mappingResult [("School1", "Traeger2")]), moved) := rfl
  have step : MappedService.Step (fun _ _ => True) first { first with server := moved } :=
    .put trivial accepted
  have run := (mappedDemo_run trivial).tail step
  refine ⟨{ first with server := moved }, mappedStart_started, run, by decide, by decide,
    by decide, fun current => ?_⟩
  obtain ⟨mapping, found, same⟩ := current .kelvinUser "Traeger2"
  have known : MappedService.mappingOf { first with server := moved } .kelvinUser =
      some (.lowerKeys [("School1", "Traeger1")]) := rfl
  obtain rfl : LoweredDict.lowerKeys [("School1", "Traeger1")] = mapping :=
    Option.some.inj (known.symm.trans found)
  exact absurd ((same "school1").mpr (by decide)) (by decide)

end Examples

end IdConnector
