import IdConnector.StoredRegistry

/-! # What a request changes

A request changes one authority, in the registry and in its file, or nothing (`Effect`). What it
answers without an error is the configuration that is registered afterwards (`serve_written`).
-/

namespace IdConnector

open Library Library.Document

/-! ## What a request changes -/

namespace SimpleRpcServer

section Effects

variable [CaseMapping]

omit [CaseMapping] in
theorem find?_updateFirst_other {α : Type} {p q : α → Bool} {f : α → α}
    (before : ∀ a, p a → q a = false) (after : ∀ a, p a → q (f a) = false) (l : List α) :
    (First.updateFirst p f l).find? q = l.find? q := by
  induction l with
  | nil => rfl
  | cons a rest ih =>
      rw [First.updateFirst]
      split
      next here => rw [List.find?_cons, List.find?_cons, before a here, after a here]
      next => rw [List.find?_cons, List.find?_cons, ih]

theorem registeredConfig_eq (name : String) (s : Server) : registeredConfig name s =
    (s.outQueues.queues.map OutQueue.schoolAuthority).find? fun config => config.name = name := by
  rw [List.find?_map]
  rfl

/-- Tasks are not seen in the configurations. -/
theorem registeredConfig_task (other : String) (s : Server) (name : String) (running : Bool) :
    registeredConfig other { s with outQueues := s.outQueues.setTask name running } =
      registeredConfig other s := by
  rw [registeredConfig_eq, registeredConfig_eq]
  refine congrArg (List.find? _) ?_
  apply First.map_updateFirst
  intro q _
  rfl

theorem registeredConfig_set {s : Server} {name : String} {config : SchoolAuthorityConfiguration}
    (same : config.name = name) {old : SchoolAuthorityConfiguration}
    (found : registeredConfig name s = some old) (other : String) :
    registeredConfig other { s with outQueues := s.outQueues.setSchoolAuthority name config } =
      if name = other then some config else registeredConfig other s := by
  by_cases here : name = other
  · subst here
    rw [if_pos rfl]
    obtain ⟨q, first, -⟩ := Option.map_eq_some_iff.mp found
    rw [registeredConfig, OutQueues.find_setSchoolAuthority _ same, first]
    rfl
  · rw [if_neg here]
    refine congrArg (Option.map OutQueue.schoolAuthority) (find?_updateFirst_other ?_ ?_ _)
    · intro q named
      have isNamed : q.schoolAuthority.name = name := of_decide_eq_true named
      exact decide_eq_false fun isOther => here (isNamed.symm.trans isOther)
    · intro q _
      exact decide_eq_false fun isOther => here (same.symm.trans isOther)

theorem registeredConfig_register {s : Server} (registered : Registered s)
    {config : SchoolAuthorityConfiguration} (new : s.outQueues.find config.name = none)
    (other : String) : registeredConfig other (s.register config).share =
      if config.name = other then some config else registeredConfig other s := by
  have after := register_registered registered new
  ext found
  rw [registeredConfig_iff after]
  have member : (∃ q ∈ (s.register config).share.outQueues.queues, q.schoolAuthority = found) ↔
      (∃ q ∈ s.outQueues.queues, q.schoolAuthority = found) ∨ config = found := by
    simp only [Server.share, Server.register, mem_register]
    constructor
    · rintro ⟨q, old | rfl, rfl⟩
      · exact .inl ⟨q, old, rfl⟩
      · exact .inr rfl
    · rintro (⟨q, old, rfl⟩ | rfl)
      · exact ⟨q, .inl old, rfl⟩
      · exact ⟨_, .inr rfl, rfl⟩
  rw [member]
  by_cases here : config.name = other
  · rw [if_pos here]
    constructor
    · rintro ⟨named, old | rfl⟩
      · have there := (registeredConfig_iff registered).mpr ⟨named, old⟩
        have absent : registeredConfig other s = none := by
          rw [registeredConfig, ← here, new]
          rfl
        rw [absent] at there
        cases there
      · rfl
    · intro same
      obtain rfl := Option.some.inj same
      exact ⟨here, .inr rfl⟩
  · rw [if_neg here, registeredConfig_iff registered]
    constructor
    · rintro ⟨named, old | rfl⟩
      · exact ⟨named, old⟩
      · exact absurd named here
    · rintro ⟨named, old⟩
      exact ⟨named, .inl old⟩

theorem registeredConfig_remove {s : Server} (registered : Registered s) (name other : String) :
    registeredConfig other { s with outQueues := s.outQueues.remove name } =
      if name = other then none else registeredConfig other s := by
  have after := remove_registered registered name
  have distinct : (s.outQueues.queues.map OutQueue.name).Nodup :=
    List.pairwise_map.mpr (registered.increasing.imp ne_of_lt)
  by_cases here : name = other
  · subst here
    rw [if_pos rfl]
    cases found : registeredConfig name { s with outQueues := s.outQueues.remove name } with
    | none => rfl
    | some config =>
        obtain ⟨named, q, member, rfl⟩ := (registeredConfig_iff after).mp found
        have isNamed : q.name = name := (after.named q member).trans named
        have removed : (s.outQueues.remove name).queues.map OutQueue.name =
            (s.outQueues.queues.map OutQueue.name).erase name := by
          simp only [OutQueues.remove, List.erase_eq_eraseP, List.eraseP_map]
          refine congrArg (List.map OutQueue.name) (congrArg (List.eraseP · _) ?_)
          funext q
          rw [Bool.eq_iff_iff, Function.comp_apply, beq_iff_eq, decide_eq_true_eq]
          exact eq_comm
        have inside : name ∈ (s.outQueues.queues.map OutQueue.name).erase name := by
          rw [← removed]
          exact List.mem_map.mpr ⟨q, member, isNamed⟩
        exact absurd inside (distinct.not_mem_erase)
  · rw [if_neg here]
    ext found
    rw [registeredConfig_iff after, registeredConfig_iff registered]
    refine and_congr_right fun named => ?_
    constructor
    · rintro ⟨q, member, rfl⟩
      exact ⟨q, List.mem_of_mem_eraseP member, rfl⟩
    · rintro ⟨q, member, rfl⟩
      have different : ¬ decide (q.name = name) = true := by
        intro same
        exact here ((of_decide_eq_true same).symm.trans ((registered.named q member).trans named))
      have stays := (List.mem_eraseP_of_neg (p := fun q : OutQueue => q.name = name)
        (l := s.outQueues.queues) different).mpr member
      exact ⟨q, stays, rfl⟩

/-- The file operations of a request succeed. -/
structure Works (disk : Disk) : Prop where
  save : disk.save = .done
  moveQueue : disk.moveQueue = true
  makeConfigDir : disk.makeConfigDir = true
  unlink : disk.unlink = true

/-- The files with that of one configuration written, or deleted. -/
def storeConfig (name : String) (config : Option SchoolAuthorityConfiguration)
    (files : Dict String (Stored JsonObject)) : Dict String (Stored JsonObject) :=
  match config with
  | some config => files.set name (writtenConfig config)
  | none => files.del name

omit [CaseMapping] in
theorem get_storeConfig (name : String) (config : Option SchoolAuthorityConfiguration)
    (files : Dict String (Stored JsonObject)) (other : String) :
    (storeConfig name config files).get other =
      if name = other then config.map writtenConfig else files.get other := by
  cases config with
  | some config => exact Dict.get_set _ _ _ _
  | none => exact Dict.get_del _ _ _

omit [CaseMapping] in
theorem nodup_storeConfig {files : Dict String (Stored JsonObject)} (distinct : files.keys.Nodup)
    (name : String) (config : Option SchoolAuthorityConfiguration) :
    (storeConfig name config files).keys.Nodup := by
  cases config with
  | some config => exact Dict.nodup_set distinct _ _
  | none => exact Dict.nodup_del distinct _

/-- One authority has got this configuration, or is gone, and nothing else has changed. -/
structure Changes (disk : Disk) (name : String) (config : Option SchoolAuthorityConfiguration)
    (s s' : Server) : Prop where
  registered : ∀ other, registeredConfig other s' =
    if name = other then config else registeredConfig other s
  files : Works disk → s'.schoolAuthorityFiles = storeConfig name config s.schoolAuthorityFiles
  mapping : s'.mappingFile = s.mappingFile

/-- The configurations and their files are as they were. -/
structure Unchanged (disk : Disk) (s s' : Server) : Prop where
  registered : ∀ other, registeredConfig other s' = registeredConfig other s
  files : s'.schoolAuthorityFiles = s.schoolAuthorityFiles
  mapping : Works disk → s.mappingFile ≠ some .damaged → s'.mappingFile ≠ some .damaged

theorem Unchanged.refl (disk : Disk) (s : Server) : Unchanged disk s s :=
  ⟨fun _ => rfl, rfl, fun _ undamaged => undamaged⟩

/-- The end of the requests that write a configuration. -/
def saveAndStart (disk : Disk) (config : SchoolAuthorityConfiguration) (name : String) :
    RpcAction (Option Json) := do
  saveSchoolAuthorityConfiguration disk config
  startOutQueueTask name
  return some (.dict config.dict)

theorem saveAndStart_keeps {γ : Type} {view : Server → γ} (disk : Disk)
    (config : SchoolAuthorityConfiguration) (name : String)
    (file : ∀ file s, view (storeSchoolAuthority config.name file s) = view s)
    (task : ∀ s : Server, view { s with outQueues := s.outQueues.setTask name true } = view s) :
    Action.Keeps view (saveAndStart disk config name) := by
  apply Action.keeps_bind (keeps_saveConfiguration disk config file)
  intro _
  apply Action.keeps_bind (keeps_startOutQueueTask name task)
  exact fun _ => Action.keeps_pure _

theorem saveAndStart_files {disk : Disk} (works : Works disk)
    (config : SchoolAuthorityConfiguration) (name : String) (s : Server) :
    (Action.exec (saveAndStart disk config name) s).2.schoolAuthorityFiles =
      s.schoolAuthorityFiles.set config.name (writtenConfig config) := by
  have saved := saveConfiguration_done config s works.save
  rw [saveAndStart, Action.exec_bind_ok _ saved]
  have kept : Action.Keeps Server.schoolAuthorityFiles (do
      startOutQueueTask name
      return some (Document.dict config.dict)) := by
    apply Action.keeps_bind (keeps_startOutQueueTask name fun _ => rfl)
    exact fun _ => Action.keeps_pure _
  exact kept _

theorem saveAndStart_value {disk : Disk} {config : SchoolAuthorityConfiguration} {name : String}
    {s : Server} {value : Option Json}
    (returned : (Action.exec (saveAndStart disk config name) s).1 = .ok value) :
    value = some (.dict config.dict) := by
  obtain ⟨-, s₁, -, started⟩ := Action.exec_bind_eq_ok.mp (Prod.ext returned rfl)
  obtain ⟨-, s₂, -, ended⟩ := Action.exec_bind_eq_ok.mp started
  exact (Except.ok.inj (congrArg Prod.fst ended)).symm

/-- After its registration a configuration is only stored and its task started. -/
theorem changes_saveAndStart (disk : Disk) {config : SchoolAuthorityConfiguration} {name : String}
    (named : config.name = name) {s t : Server}
    (registered : ∀ other, registeredConfig other t =
      if name = other then some config else registeredConfig other s)
    (files : t.schoolAuthorityFiles = s.schoolAuthorityFiles)
    (mapping : t.mappingFile = s.mappingFile) :
    Changes disk name (some config) s (Action.exec (saveAndStart disk config name) t).2 where
  registered other := by
    rw [← registered]
    exact saveAndStart_keeps disk config name (fun _ _ => rfl)
      (fun s => registeredConfig_task other s name true) t
  files works := by
    rw [saveAndStart_files works, files, named]
    rfl
  mapping := by
    rw [← mapping]
    exact saveAndStart_keeps disk config name (fun _ _ => rfl) (fun _ => rfl) t

/-- The end of the request that deletes a configuration. -/
def moveAndDelete (disk : Disk) (config : SchoolAuthorityConfiguration) :
    RpcAction (Option Json) := do
  Action.require disk.moveQueue (.osError "move")
  deleteConfiguration disk config.name
  evictHandlers config.name config.plugins
  return none

theorem moveAndDelete_keeps {γ : Type} {view : Server → γ} (disk : Disk)
    (config : SchoolAuthorityConfiguration)
    (file : ∀ (s : Server) files, view { s with schoolAuthorityFiles := files } = view s)
    (handlers : ∀ (s : Server) plugins, view { s with plugins } = view s) :
    Action.Keeps view (moveAndDelete disk config) := by
  apply Action.keeps_bind (Action.keeps_require _ _)
  intro _
  apply Action.keeps_bind (keeps_deleteConfiguration disk _ file)
  intro _
  apply Action.keeps_bind (keeps_evictHandlers _ _ fun s plugins _ => handlers s plugins)
  exact fun _ => Action.keeps_pure _

theorem moveAndDelete_files {disk : Disk} (works : Works disk)
    (config : SchoolAuthorityConfiguration) (s : Server) :
    (Action.exec (moveAndDelete disk config) s).2.schoolAuthorityFiles =
      s.schoolAuthorityFiles.del config.name := by
  have moved : Action.exec (Action.require disk.moveQueue (PyError.osError "move")) s =
      (.ok ⟨⟩, s) := by
    simp [works.moveQueue]
  have deleted : Action.exec (deleteConfiguration disk config.name) s =
      (.ok ⟨⟩, { s with schoolAuthorityFiles := s.schoolAuthorityFiles.del config.name }) := by
    simp [deleteConfiguration, Action.exec_bind, works.makeConfigDir, works.unlink]
  have kept : Action.Keeps Server.schoolAuthorityFiles (do
      evictHandlers config.name config.plugins
      return (none : Option Json)) := by
    apply Action.keeps_bind (keeps_evictHandlers _ _ fun _ _ _ => rfl)
    exact fun _ => Action.keeps_pure _
  rw [moveAndDelete, Action.exec_bind_ok _ moved, Action.exec_bind_ok _ deleted, kept]

theorem moveAndDelete_value {disk : Disk} {config : SchoolAuthorityConfiguration} {s : Server}
    {value : Option Json}
    (returned : (Action.exec (moveAndDelete disk config) s).1 = .ok value) : value = none := by
  obtain ⟨-, s₁, -, moved⟩ := Action.exec_bind_eq_ok.mp (Prod.ext returned rfl)
  obtain ⟨-, s₂, -, deleted⟩ := Action.exec_bind_eq_ok.mp moved
  obtain ⟨-, s₃, -, ended⟩ := Action.exec_bind_eq_ok.mp deleted
  exact (Except.ok.inj (congrArg Prod.fst ended)).symm

/-- After its queue has been removed a configuration is only deleted. -/
theorem changes_moveAndDelete (disk : Disk) {s : Server} (registered : Registered s)
    (config : SchoolAuthorityConfiguration) :
    Changes disk config.name none s (Action.exec (moveAndDelete disk config)
      { s with outQueues := s.outQueues.remove config.name }).2 where
  registered other := by
    rw [← registeredConfig_remove registered]
    exact moveAndDelete_keeps disk config (fun _ _ => rfl) (fun _ _ => rfl) _
  files works := moveAndDelete_files works config _
  mapping := moveAndDelete_keeps disk config (fun _ _ => rfl) (fun _ _ => rfl) _

/-! ## The single requests -/

variable [Pydantic]

/-- What a request has come to: it is refused or only reads, or it has changed one authority, and
    says so unless something went wrong after that. -/
def Effect (disk : Disk) (creates : Prop) (name : String → Prop) (s : Server)
    (after : Except PyError (Option Json) × Server) : Prop :=
  ((∃ raised, after.1 = .error raised) ∧ Unchanged disk s after.2) ∨
    ∃ changed config, name changed ∧ Changes disk changed config s after.2 ∧
      (∀ c ∈ config, c.name = changed ∧
        (registeredConfig changed s = none → changed ≠ "" ∧ creates) ∧
        ∃ data, SchoolAuthorityConfiguration.init data = .ok c) ∧
      ∀ value, after.1 = .ok value → value = config.map fun config => .dict config.dict

theorem create_effect (disk : Disk) (request : RpcRequest) {s : Server}
    (registered : Registered s) :
    Effect disk True (fun name => ∃ config, config.name = name ∧
        SchoolAuthorityConfiguration.init request.schoolAuthority = .ok config)
      s (Action.exec (createSchoolAuthority disk request) s) := by
  have refused : ∀ raised, Action.exec (createSchoolAuthority disk request) s = (.error raised, s) →
      Effect disk True (fun name => ∃ config, config.name = name ∧
          SchoolAuthorityConfiguration.init request.schoolAuthority = .ok config)
        s (Action.exec (createSchoolAuthority disk request) s) := by
    intro raised run
    rw [run]
    exact .inl ⟨⟨raised, rfl⟩, Unchanged.refl disk s⟩
  cases accepted : SchoolAuthorityConfiguration.init request.schoolAuthority with
  | error raised =>
      have run : Action.exec (createSchoolAuthority disk request) s = (.error raised, s) := by
        simp [createSchoolAuthority, Action.exec_bind, accepted]
      simpa only [accepted] using refused raised run
  | ok config =>
      rw [accepted] at refused
      cases found : s.outQueues.find config.name with
      | some out =>
          exact refused (.objectExists "name" config.name) (by
            simp [createSchoolAuthority, Action.exec_bind, accepted, found])
      | none =>
          by_cases unnamed : config.name = ""
          · have free : s.outQueues.find "" = none := unnamed ▸ found
            exact refused (.attributeError "name") (by
              simp [createSchoolAuthority, Action.exec_bind, accepted, free, unnamed])
          cases dirs : disk.makeQueueDirs with
          | false =>
              exact refused (.osError "mkdir") (by
                simp [createSchoolAuthority, Action.exec_bind, accepted, found, unnamed, dirs])
          | true =>
              have run : Action.exec (createSchoolAuthority disk request) s =
                  Action.exec (saveAndStart disk config config.name) (s.register config).share :=
                create_registers accepted found unnamed dirs
              rw [run]
              refine .inr ⟨config.name, some config, ⟨config, rfl, rfl⟩, ?_, ?_, ?_⟩
              · exact changes_saveAndStart disk rfl (registeredConfig_register registered found)
                  rfl rfl
              · rintro c ⟨⟩
                exact ⟨rfl, fun _ => ⟨unnamed, trivial⟩, _, accepted⟩
              · intro value returned
                exact saveAndStart_value returned

omit [Pydantic] in
theorem delete_found (disk : Disk) (request : RpcRequest) {s : Server} {out : OutQueue}
    (found : s.outQueues.queues.find? (fun q => q.name = request.name) = some out) :
    Action.exec (deleteSchoolAuthority disk request) s =
      Action.exec (moveAndDelete disk out.schoolAuthority)
        { s with outQueues := s.outQueues.remove request.name } := by
  simp only [deleteSchoolAuthority, moveAndDelete, Action.exec_bind get, Action.exec_get, found,
    Action.exec_bind (modify _), Action.exec_modify]

theorem delete_effect (disk : Disk) (request : RpcRequest) {s : Server}
    (registered : Registered s) :
    Effect disk False (fun name => request.name = name) s
      (Action.exec (deleteSchoolAuthority disk request) s) := by
  cases found : s.outQueues.queues.find? (fun q => q.name = request.name) with
  | none =>
      have run : Action.exec (deleteSchoolAuthority disk request) s =
          (.error (.noObject "name" request.name), s) := by
        simp [deleteSchoolAuthority, Action.exec_bind, found]
      rw [run]
      exact .inl ⟨⟨_, rfl⟩, Unchanged.refl disk s⟩
  | some out =>
      have named : out.schoolAuthority.name = request.name := by
        rw [← registered.named out (List.mem_of_find?_eq_some found)]
        simpa using List.find?_some found
      rw [delete_found disk request found, ← named]
      refine .inr ⟨out.schoolAuthority.name, none, rfl, ?_, ?_, ?_⟩
      · exact changes_moveAndDelete disk registered out.schoolAuthority
      · rintro c ⟨⟩
      · intro value returned
        exact moveAndDelete_value returned

theorem patch_effect (disk : Disk) (request : RpcRequest) {s : Server} :
    Effect disk False (fun name => request.name = name) s
      (Action.exec (patchSchoolAuthority disk request) s) := by
  cases accepted : SchoolAuthorityConfigurationPatchDocument.init request.schoolAuthority with
  | error raised =>
      have run : Action.exec (patchSchoolAuthority disk request) s = (.error raised, s) := by
        simp [patchSchoolAuthority, Action.exec_bind, accepted]
      rw [run]
      exact .inl ⟨⟨_, rfl⟩, Unchanged.refl disk s⟩
  | ok doc =>
      cases found : s.outQueues.find request.name with
      | none =>
          have run : Action.exec (patchSchoolAuthority disk request) s =
              (.error (.noObject "name" request.name), s) := by
            simp [patchSchoolAuthority, Action.exec_bind, accepted, found]
          rw [run]
          exact .inl ⟨⟨_, rfl⟩, Unchanged.refl disk s⟩
      | some out =>
          by_cases passes : PatchPasses s out.schoolAuthority doc
          · obtain ⟨plugins, -, run⟩ := patch_passes disk found accepted passes
            let config := out.schoolAuthority.updated doc
            have named : config.name = request.name := OutQueues.find_name found
            have run : Action.exec (patchSchoolAuthority disk request) s =
                Action.exec (saveAndStart disk config request.name)
                  (patchedState s request.name config plugins) := run
            have stopped : registeredConfig request.name (stopTask s request.name) =
                some out.schoolAuthority := by
              rw [stopTask, registeredConfig_task, registeredConfig, found]
              rfl
            have valid := passes.2.2
            obtain ⟨result, valid⟩ := valid
            rw [run]
            refine .inr ⟨request.name, some config, rfl, ?_, ?_, ?_⟩
            · refine changes_saveAndStart disk named (fun other => ?_) rfl rfl
              rw [← registeredConfig_task other s request.name false]
              exact registeredConfig_set named stopped other
            · rintro c ⟨⟩
              have known : registeredConfig request.name s ≠ none := by
                simp [registeredConfig, found]
              exact ⟨named, fun new => absurd new known, _, init_dict valid ▸ valid⟩
            · intro value returned
              exact saveAndStart_value returned
          · obtain ⟨raised, plugins, run⟩ := patch_stops disk found accepted passes
            rw [run]
            refine .inl ⟨⟨_, rfl⟩, fun other => ?_, rfl, fun _ undamaged => undamaged⟩
            exact registeredConfig_task other s request.name false

/-- A mapping that is stored leaves no damaged file. -/
theorem put_undamaged {disk : Disk} (works : Works disk) (request : RpcRequest) :
    Action.Preserves (fun s : Server => s.mappingFile ≠ some .damaged)
      (putSchoolToAuthorityMapping disk request) := by
  unfold putSchoolToAuthorityMapping
  refine Action.preserves_bind (Action.preserves_ofExcept _) ?_
  intro obj
  apply Action.preserves_bind
  · intro s _
    have saved : Action.exec (saveSchool2targetMapping disk obj) s =
        (.ok ⟨⟩, storeMapping (.written (sortMapping obj)) s) :=
      writeFile_done storeMapping (sortMapping obj) s works.save
    rw [saved]
    simp [storeMapping]
  intro _
  apply Action.preserves_bind
  · exact Action.preserves_modify fun _ undamaged => undamaged
  intro _
  split
  · apply Action.preserves_bind
    · exact Action.preserves_modify fun _ undamaged => undamaged
    · exact fun _ => Action.preserves_pure _
  · exact Action.preserves_throw _

theorem put_keeps {γ : Type} {view : Server → γ} (disk : Disk) (request : RpcRequest)
    (mapping : ∀ (s : Server) mapping, view { s with schoolAuthorityMapping := mapping } = view s)
    (file : ∀ file s, view (storeMapping file s) = view s) :
    Action.Keeps view (putSchoolToAuthorityMapping disk request) := by
  apply Action.keeps_bind (Action.keeps_ofExcept _)
  intro obj
  apply Action.keeps_bind (keeps_saveMapping disk obj file)
  intro _
  apply Action.keeps_bind
  · exact Action.keeps_modify fun s => mapping s _
  intro _
  split
  · apply Action.keeps_bind
    · exact Action.keeps_modify fun s => mapping s _
    · exact fun _ => Action.keeps_pure _
  · exact Action.keeps_throw _

theorem put_unchanged (disk : Disk) (request : RpcRequest) (s : Server) :
    Unchanged disk s (Action.exec (putSchoolToAuthorityMapping disk request) s).2 where
  registered _ := put_keeps disk request (fun _ _ => rfl) (fun _ _ => rfl) s
  files := put_keeps disk request (fun _ _ => rfl) (fun _ _ => rfl) s
  mapping works undamaged := put_undamaged works request s undamaged

/-- The authority that a request can change. -/
def ConcernsAuthority (request : RpcRequest) (name : String) : Prop :=
  match request.cmd with
  | .createSchoolAuthority => ∃ config, config.name = name ∧
      SchoolAuthorityConfiguration.init request.schoolAuthority = .ok config
  | .deleteSchoolAuthority | .patchSchoolAuthority => request.name = name
  | _ => False

/-- Every request has an effect on an authority it concerns, or none. -/
theorem handleRequest_effect (disk : Disk) (request : RpcRequest) {s : Server}
    (registered : Registered s) :
    let after := Action.exec (handleRequest disk request) s
    Effect disk (request.cmd = .createSchoolAuthority) (ConcernsAuthority request) s after ∨
      (∀ name, ¬ ConcernsAuthority request name) ∧ Unchanged disk s after.2 := by
  have reads {action : RpcAction (Option Json)} (same : (Action.exec action s).2 = s) :
      Unchanged disk s (Action.exec action s).2 := same.symm ▸ Unchanged.refl disk s
  unfold handleRequest ConcernsAuthority
  cases request.cmd with
  | createSchoolAuthority =>
      exact .inl (by simpa using create_effect disk request registered)
  | deleteSchoolAuthority =>
      exact .inl (by simpa using delete_effect disk request registered)
  | patchSchoolAuthority =>
      exact .inl (by simpa using patch_effect disk request)
  | putSchoolToAuthorityMapping => exact .inr ⟨fun _ => id, put_unchanged disk request s⟩
  | getQueue => exact .inr ⟨fun _ => id, reads (getQueue_keeps disk request s)⟩
  | getQueues => exact .inr ⟨fun _ => id, reads rfl⟩
  | getSchoolAuthority => exact .inr ⟨fun _ => id, reads (getSchoolAuthority_keeps request s)⟩
  | getSchoolAuthorities => exact .inr ⟨fun _ => id, reads rfl⟩
  | getSchoolToAuthorityMapping =>
      exact .inr ⟨fun _ => id, reads (getSchoolToAuthorityMapping_keeps s)⟩

/-! ## Served messages -/

/-- The authority that a message can change. -/
def Writes (name : String) (message : Option Json) : Prop :=
  ∃ request, RpcRequest.ofMessage message = .ok request ∧ ConcernsAuthority request name

/-- An authority that the message would create has a file of its own. -/
def NamesFile (message : Option Json) : Prop :=
  ∀ request, RpcRequest.ofMessage message = .ok request → request.cmd = .createSchoolAuthority →
    ∀ name, ConcernsAuthority request name → HasOwnFile name

theorem serve_received {message : Option Json} {request : RpcRequest} (disk : Disk) (s : Server)
    (received : RpcRequest.ofMessage message = .ok request) : serve disk message s =
      (.ofResult (Action.exec (handleRequest disk request) s).1,
        (Action.exec (handleRequest disk request) s).2) := by
  simp [serve, Action.exec_bind, received]

theorem serve_refused {message : Option Json} {raised : PyError} (disk : Disk) (s : Server)
    (refused : RpcRequest.ofMessage message = .error raised) :
    serve disk message s = (.ofException raised, s) := by
  simp [serve, Action.exec_bind, refused, RpcResponse.ofResult]

/-- A message that does not write an authority leaves its configuration alone. -/
theorem serve_elsewhere (disk : Disk) {message : Option Json} {s : Server}
    (registered : Registered s) {name : String} (other : ¬ Writes name message) :
    registeredConfig name (serve disk message s).2 = registeredConfig name s := by
  cases received : RpcRequest.ofMessage message with
  | error raised => rw [serve_refused disk s received]
  | ok request =>
      rw [serve_received disk s received]
      have apart : ¬ ConcernsAuthority request name := fun concerns =>
        other ⟨request, received, concerns⟩
      rcases handleRequest_effect disk request registered with effect | ⟨-, unchanged⟩
      · rcases effect with ⟨-, unchanged⟩ | ⟨changed, config, concerns, changes, -⟩
        · exact unchanged.registered name
        · have different : changed ≠ name := by
            rintro rfl
            exact apart concerns
          exact (changes.registered name).trans (if_neg different)
      · exact unchanged.registered name

omit [CaseMapping] in
theorem ConcernsAuthority.unique {request : RpcRequest} {name other : String}
    (concerns : ConcernsAuthority request name) (concerns' : ConcernsAuthority request other) :
    name = other := by
  unfold ConcernsAuthority at concerns concerns'
  cases command : request.cmd with
  | createSchoolAuthority =>
      rw [command] at concerns concerns'
      obtain ⟨config, rfl, accepted⟩ := concerns
      obtain ⟨config', rfl, accepted'⟩ := concerns'
      rw [Except.ok.inj (accepted.symm.trans accepted')]
  | deleteSchoolAuthority | patchSchoolAuthority =>
      rw [command] at concerns concerns'
      exact concerns.symm.trans concerns'
  | putSchoolToAuthorityMapping | getQueue | getQueues | getSchoolAuthority
  | getSchoolAuthorities | getSchoolToAuthorityMapping =>
      rw [command] at concerns
      exact concerns.elim

/-- What a write answers without an error is the configuration as it is then. -/
theorem serve_written (disk : Disk) {message : Option Json} {s : Server}
    (registered : Registered s) {name : String} (writes : Writes name message)
    {value : Option Json} (answered : (serve disk message s).1 = .result value) :
    value =
      (registeredConfig name (serve disk message s).2).map fun config => .dict config.dict := by
  obtain ⟨request, received, concerns⟩ := writes
  rw [serve_received disk s received] at answered ⊢
  have returned : (Action.exec (handleRequest disk request) s).1 = .ok value := by
    cases outcome : (Action.exec (handleRequest disk request) s).1 with
    | ok other =>
        rw [outcome] at answered
        exact congrArg Except.ok (RpcResponse.result.inj answered)
    | error raised =>
        rw [outcome] at answered
        have errors := RpcResponse.hasErrors_ofException raised
        rw [show RpcResponse.ofException raised = .result value from answered] at errors
        cases errors
  rcases handleRequest_effect disk request registered with effect | ⟨none, -⟩
  · rcases effect with ⟨⟨raised, failed⟩, -⟩ | ⟨changed, config, concerns', changes, -, reply⟩
    · rw [returned] at failed
      cases failed
    · obtain rfl := concerns'.unique concerns
      rw [changes.registered, if_pos rfl]
      exact reply value returned
  · exact absurd concerns (none name)

end Effects

end SimpleRpcServer

end IdConnector
