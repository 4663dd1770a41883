import IdConnector.Dispatchers
import IdConnector.DictUpdate
import IdConnector.Library.Action
import IdConnector.Queue
import IdConnector.Requests

/-! # The RPC server

The state the server works on and its methods, each as an action that keeps
what it did before it raised. The outcomes of the file operations
are an argument of a request, because the code cannot know them beforehand.
-/

namespace IdConnector

open Library

/-- A file of the configuration: a document, or what a broken write leaves. -/
inductive Stored (α : Type) where
  | written (value : α)
  | damaged
  deriving DecidableEq

/-- Writing a file: done, refused before the file is opened, or failed after
    opening has truncated it. -/
inductive SaveOutcome where
  | done
  | refused
  | damaged
  deriving Repr, DecidableEq

/-- What the file operations of one request come to, and the queue states it would read. -/
structure Disk where
  /-- creating the directories of a new queue -/
  makeQueueDirs : Bool := true
  save : SaveOutcome := .done
  /-- moving the directory of a queue to the trash -/
  moveQueue : Bool := true
  /-- creating the configuration directory before a file is deleted from it -/
  makeConfigDir : Bool := true
  unlink : Bool := true
  /-- the `head` and the length of a queue -/
  queueState : String → String × Nat := fun _ => ("", 0)

/-- The state of the service that its requests read and write. -/
structure Server [CaseMapping] where
  outQueues : OutQueues
  /-- Whether the in-queue refers to the same list object; else its own list is empty. -/
  shared : Bool
  schoolAuthorityFiles : Dict String (Stored JsonObject)
  /-- The values are those of the request, not the validated ones. -/
  schoolAuthorityMapping : LoweredDict Json
  mappingFile : Option (Stored (Dict String String))
  /-- The registered plugins; `none` stands for an object without `_per_s_a_handlers`. -/
  plugins : Dict String (Option DispatcherPlugin)

namespace Server

variable [CaseMapping]

def inQueueOutQueues (s : Server) : List OutQueue :=
  if s.shared then s.outQueues.queues else []

/-- The plugin is registered and has a cache that the server can clear. -/
def HasHandlers (s : Server) (pluginName : String) : Prop :=
  ∃ plugin, s.plugins.get pluginName = some (some plugin)

instance (s : Server) (pluginName : String) : Decidable (s.HasHandlers pluginName) :=
  match h : s.plugins.get pluginName with
  | some (some plugin) => isTrue ⟨plugin, h⟩
  | some none => isFalse (by simp [HasHandlers, h])
  | none => isFalse (by simp [HasHandlers, h])

/-- Append the new out queue. -/
def register (s : Server) (config : SchoolAuthorityConfiguration) : Server :=
  { s with outQueues := s.outQueues.register config }

/-- Let the in-queue refer to the list of the server if its own is empty. -/
def share (s : Server) : Server :=
  { s with shared := s.shared || s.inQueueOutQueues.isEmpty }

/-- `manage_queues`: the server of a service that starts without stored configurations. -/
def start (plugins : Dict String (Option DispatcherPlugin)) : Server :=
  ⟨.empty, false, [], .empty, none, plugins⟩

end Server

section Methods

abbrev RpcAction [CaseMapping] (α : Type) := Action Server PyError α

variable [CaseMapping]

/-- `aiofiles.open(path, "w")` and the write; `store` replaces the file. -/
def writeFile {α : Type} (disk : Disk) (store : Stored α → Server → Server) (content : α) :
    RpcAction Unit :=
  match disk.save with
  | .done => modify (store (.written content))
  | .refused => throw (.osError "open")
  | .damaged => do
      modify (store .damaged)
      throw (.osError "write")

def storeSchoolAuthority (name : String) (file : Stored JsonObject) (s : Server) : Server :=
  { s with schoolAuthorityFiles := s.schoolAuthorityFiles.set name file }

def storeMapping (file : Stored (Dict String String)) (s : Server) : Server :=
  { s with mappingFile := some file }

/-- `ConfigurationStorage.save_school_authorities([out_queue.school_authority])` -/
def saveSchoolAuthorityConfiguration (disk : Disk) (config : SchoolAuthorityConfiguration) :
    RpcAction Unit :=
  writeFile disk (storeSchoolAuthority config.name) (Document.sortEntries config.dictSecretsAsStr)

/-- `ConfigurationStorage.delete_school_authority`: a file that cannot be deleted only
    leads to a message in the log. -/
def deleteConfiguration (disk : Disk) (name : String) : RpcAction Unit := do
  Action.require disk.makeConfigDir (.osError "mkdir")
  if disk.unlink then
    modify fun s => { s with schoolAuthorityFiles := s.schoolAuthorityFiles.del name }

def sortMapping (mapping : Dict String String) : Dict String String :=
  mapping.insertionSort fun a b => a.1 ≤ b.1

/-- `ConfigurationStorage.save_school2target_mapping` -/
def saveSchool2targetMapping (disk : Disk) (mapping : Dict String String) : RpcAction Unit :=
  writeFile disk storeMapping (sortMapping mapping)

/-- `start_out_queue_task`, with the check of `start_task`. -/
def startOutQueueTask (name : String) : RpcAction Unit := do
  match (← get).outQueues.find name with
  | none => pure ()
  | some out =>
      if out.schoolAuthority.active then
        if out.deleted then
          throw (.runtimeError "Cannot start task, queue directory has been deleted.")
        modify fun s => { s with outQueues := s.outQueues.setTask name true }

/-- The loop that deletes the handlers of an authority from the registered plugins. -/
def evictHandlers (name : String) : List String → RpcAction Unit
  | [] => pure ()
  | pluginName :: rest => do
      match (← get).plugins.get pluginName with
      | some (some plugin) =>
          let cleared := { plugin with
            perSAHandlers := plugin.perSAHandlers.del (name, pluginName) }
          modify fun s => { s with plugins := s.plugins.set pluginName (some cleared) }
      | _ => throw (.attributeError "_per_s_a_handlers")
      evictHandlers name rest

namespace SimpleRpcServer

variable [Pydantic]

def putSchoolToAuthorityMapping (disk : Disk) (request : RpcRequest) :
    RpcAction (Option Json) := do
  let obj ← ofExcept (School2SchoolAuthorityMapping.init request.schoolToAuthorityMapping)
  saveSchool2targetMapping disk obj
  modify fun s => { s with schoolAuthorityMapping := .empty }
  match request.schoolToAuthorityMapping.get "mapping" with
  | some (.dict entries) =>
      modify fun s => { s with schoolAuthorityMapping := .lowerKeys entries }
      return some (.dict [("mapping", .dict (obj.map fun entry => (entry.1, Json.str entry.2)))])
  | _ => throw (.attributeError "items")

/-- A queue without a name would take the one of its class, which has none. -/
def createSchoolAuthority (disk : Disk) (request : RpcRequest) : RpcAction (Option Json) := do
  let config ← ofExcept (SchoolAuthorityConfiguration.init request.schoolAuthority)
  let s ← get
  Action.require (s.outQueues.find config.name).isNone (.objectExists "name" config.name)
  Action.require (config.name ≠ "") (.attributeError "name")
  Action.require disk.makeQueueDirs (.osError "mkdir")
  modify fun s => s.register config
  modify Server.share
  saveSchoolAuthorityConfiguration disk config
  startOutQueueTask config.name
  return some (.dict config.dict)

/-- The queue object is out of the list before its task is stopped and before it is
    marked as deleted, so neither shows in the state. -/
def deleteSchoolAuthority (disk : Disk) (request : RpcRequest) : RpcAction (Option Json) := do
  match (← get).outQueues.queues.find? (fun q => q.name = request.name) with
  | none => throw (.noObject "name" request.name)
  | some out =>
      modify fun s => { s with outQueues := s.outQueues.remove request.name }
      Action.require disk.moveQueue (.osError "move")
      deleteConfiguration disk out.schoolAuthority.name
      evictHandlers out.schoolAuthority.name out.schoolAuthority.plugins
      return none

/-- `recursive_dict_update` on the dictionary of the configuration, as an exception. -/
def mergePatch (config : SchoolAuthorityConfiguration)
    (doc : SchoolAuthorityConfigurationPatchDocument) : Except PyError JsonObject :=
  match recursiveDictUpdate false config.dict doc.dict with
  | (merged, none) => .ok merged
  | (_, some raised) => .error (.cannotUpdateDict raised.k raised.ori raised.v)

def patchSchoolAuthority (disk : Disk) (request : RpcRequest) : RpcAction (Option Json) := do
  let doc ← ofExcept (SchoolAuthorityConfigurationPatchDocument.init request.schoolAuthority)
  match (← get).outQueues.find request.name with
  | none => throw (.noObject "name" request.name)
  | some out =>
      modify fun s => { s with outQueues := s.outQueues.setTask request.name false }
      let oldData ← ofExcept (mergePatch out.schoolAuthority doc)
      evictHandlers out.schoolAuthority.name out.schoolAuthority.plugins
      let config ← ofExcept (SchoolAuthorityConfiguration.init oldData)
      modify fun s => { s with outQueues := s.outQueues.setSchoolAuthority request.name config }
      saveSchoolAuthorityConfiguration disk config
      startOutQueueTask config.name
      return some (.dict config.dict)

def queueModel (disk : Disk) (name schoolAuthority : String) : Json :=
  .dict [("name", Json.str name), ("head", Json.str (disk.queueState name).1),
    ("length", .atom (.int (disk.queueState name).2)), ("school_authority", Json.str schoolAuthority)]

def getQueues (disk : Disk) : RpcAction (Option Json) := do
  let active := (← get).outQueues.queues.filter fun q => q.schoolAuthority.active
  let sorted := active.insertionSort fun a b => a.name ≤ b.name
  return some (.dict [("in_queue", queueModel disk "InQueue" ""),
    ("out_queues", .list (sorted.map fun q => queueModel disk q.name q.schoolAuthority.name))])

def getQueue (disk : Disk) (request : RpcRequest) : RpcAction (Option Json) := do
  let active := (← get).outQueues.queues.filter fun q => q.schoolAuthority.active
  if request.name = "InQueue" then
    return some (queueModel disk "InQueue" "")
  match active.find? (fun q => q.name = request.name) with
  | some q => return some (queueModel disk q.name q.schoolAuthority.name)
  | none => throw (.noObject "name" request.name)

def getSchoolAuthorities : RpcAction (Option Json) := do
  let configs := (← get).outQueues.queues.map OutQueue.schoolAuthority
  let sorted := configs.insertionSort fun a b => a.name ≤ b.name
  return some (.list (sorted.map fun config => .dict config.dict))

def getSchoolAuthority (request : RpcRequest) : RpcAction (Option Json) := do
  match (← get).outQueues.queues.find? (fun q => q.name = request.name) with
  | some q => return some (.dict q.schoolAuthority.dict)
  | none => throw (.noObject "name" request.name)

/-- The values of the mapping are validated again, which turns them into strings. -/
def getSchoolToAuthorityMapping : RpcAction (Option Json) := do
  let mapping ← ofExcept (School2SchoolAuthorityMapping.init
    [("mapping", .dict (← get).schoolAuthorityMapping.entries)])
  return some (.dict [("mapping", .dict (mapping.map fun entry => (entry.1, Json.str entry.2)))])

def handleRequest (disk : Disk) (request : RpcRequest) : RpcAction (Option Json) :=
  match request.cmd with
  | .getQueue => getQueue disk request
  | .getQueues => getQueues disk
  | .getSchoolAuthority => getSchoolAuthority request
  | .getSchoolAuthorities => getSchoolAuthorities
  | .getSchoolToAuthorityMapping => getSchoolToAuthorityMapping
  | .createSchoolAuthority => createSchoolAuthority disk request
  | .deleteSchoolAuthority => deleteSchoolAuthority disk request
  | .patchSchoolAuthority => patchSchoolAuthority disk request
  | .putSchoolToAuthorityMapping => putSchoolToAuthorityMapping disk request

/-- One iteration of `simple_rpc_server`. -/
def serve (disk : Disk) (message : Option Json) (s : Server) : RpcResponse × Server :=
  let outcome := Action.exec (do
    let request ← ofExcept (RpcRequest.ofMessage message)
    handleRequest disk request) s
  (.ofResult outcome.1, outcome.2)

end SimpleRpcServer

/-! ## What the single steps do -/

theorem writeFile_done {α : Type} {disk : Disk} (store : Stored α → Server → Server)
    (content : α) (s : Server) (done : disk.save = .done) :
    Action.exec (writeFile disk store content) s = (.ok ⟨⟩, store (.written content) s) := by
  simp [writeFile, done]

/-- A failed write leaves the file alone or damages it. -/
theorem writeFile_failed {α : Type} {disk : Disk} (store : Stored α → Server → Server)
    (content : α) (s : Server) (failed : disk.save ≠ .done) :
    ∃ operation, Action.exec (writeFile disk store content) s =
      (.error (.osError operation), if disk.save = .damaged then store .damaged s else s) := by
  cases outcome : disk.save with
  | done => exact absurd outcome failed
  | refused => exact ⟨"open", by simp [writeFile, outcome]⟩
  | damaged => exact ⟨"write", by simp [writeFile, outcome, Action.exec_bind]⟩

theorem saveConfiguration_done {disk : Disk} (config : SchoolAuthorityConfiguration) (s : Server)
    (done : disk.save = .done) :
    Action.exec (saveSchoolAuthorityConfiguration disk config) s =
      (.ok ⟨⟩, storeSchoolAuthority config.name
        (.written (Document.sortEntries config.dictSecretsAsStr)) s) :=
  writeFile_done _ _ s done

theorem saveConfiguration_failed {disk : Disk} (config : SchoolAuthorityConfiguration)
    (s : Server) (failed : disk.save ≠ .done) :
    ∃ operation, Action.exec (saveSchoolAuthorityConfiguration disk config) s =
      (.error (.osError operation),
        if disk.save = .damaged then storeSchoolAuthority config.name .damaged s else s) :=
  writeFile_failed _ _ s failed

/-- A registered queue is not deleted, so its task starts if the authority is active. -/
theorem startOutQueueTask_exec {name : String} {s : Server} {out : OutQueue}
    (found : s.outQueues.find name = some out) :
    Action.exec (startOutQueueTask name) s = (.ok ⟨⟩,
      if out.schoolAuthority.active then { s with outQueues := s.outQueues.setTask name true }
      else s) := by
  by_cases active : out.schoolAuthority.active = true
  · simp [startOutQueueTask, Action.exec_bind, found, active, OutQueues.find_live found]
  · simp [startOutQueueTask, Action.exec_bind, found, active]

theorem startOutQueueTask_ok (name : String) (s : Server) :
    ∃ s', Action.exec (startOutQueueTask name) s = (.ok ⟨⟩, s') := by
  cases found : s.outQueues.find name with
  | none => exact ⟨s, by simp [startOutQueueTask, Action.exec_bind, found]⟩
  | some out => exact ⟨_, startOutQueueTask_exec found⟩

theorem deleteConfiguration_error {disk : Disk} (name : String) (s : Server)
    (failed : disk.makeConfigDir = false) :
    Action.exec (deleteConfiguration disk name) s = (.error (.osError "mkdir"), s) := by
  simp [deleteConfiguration, Action.exec_bind, failed]

/-- Deleting a configuration file touches nothing but that file. -/
theorem deleteConfiguration_ok {disk : Disk} (name : String) (s : Server)
    (made : disk.makeConfigDir = true) :
    ∃ schoolAuthorityFiles, Action.exec (deleteConfiguration disk name) s =
      (.ok ⟨⟩, { s with schoolAuthorityFiles }) := by
  by_cases unlink : disk.unlink = true
  · exact ⟨s.schoolAuthorityFiles.del name, by
      simp [deleteConfiguration, Action.exec_bind, made, unlink]⟩
  · exact ⟨s.schoolAuthorityFiles, by simp [deleteConfiguration, made, unlink]⟩

/-- The caches of the nested plugin objects. -/
def nestedHandlers (plugins : Dict String (Option DispatcherPlugin)) (pluginName : String) :
    Option (Option (DispatcherClass → Handlers)) :=
  (plugins.get pluginName).map (Option.map DispatcherPlugin.handlersFor)

theorem hasHandlers_iff (s : Server) (pluginName : String) :
    s.HasHandlers pluginName ↔ ∃ nested, nestedHandlers s.plugins pluginName = some (some nested) := by
  simp only [Server.HasHandlers, nestedHandlers]
  cases s.plugins.get pluginName with
  | none => simp
  | some plugin => cases plugin <;> simp

/-- The server only clears the caches of the registered plugin objects, and stops at
    the first plugin that has none. -/
theorem evictHandlers_exec (name : String) (pluginNames : List String) (s : Server) :
    ∃ plugins, nestedHandlers plugins = nestedHandlers s.plugins ∧
      Action.exec (evictHandlers name pluginNames) s =
        (if ∀ p ∈ pluginNames, s.HasHandlers p then .ok ⟨⟩
          else .error (.attributeError "_per_s_a_handlers"), { s with plugins }) := by
  induction pluginNames generalizing s with
  | nil => exact ⟨s.plugins, rfl, by simp [evictHandlers]⟩
  | cons pluginName rest ih =>
      by_cases registered : s.HasHandlers pluginName
      · obtain ⟨plugin, found⟩ := registered
        let cleared := { plugin with perSAHandlers := plugin.perSAHandlers.del (name, pluginName) }
        let next : Server := { s with plugins := s.plugins.set pluginName (some cleared) }
        have same : nestedHandlers next.plugins = nestedHandlers s.plugins := by
          funext p
          by_cases here : pluginName = p
          · subst here
            simp only [nestedHandlers, next, Dict.get_set_self, found, Option.map_some]
            rfl
          · simp [nestedHandlers, next, here]
        obtain ⟨plugins, kept, run⟩ := ih next
        refine ⟨plugins, kept.trans same, ?_⟩
        have step : Action.exec (evictHandlers name (pluginName :: rest)) s =
            Action.exec (evictHandlers name rest) next := by
          simp [evictHandlers, Action.exec_bind, found, next, cleared]
        have condition : (∀ p ∈ rest, next.HasHandlers p) ↔
            ∀ p ∈ pluginName :: rest, s.HasHandlers p := by
          simp only [hasHandlers_iff, same, List.forall_mem_cons]
          exact (and_iff_right ((hasHandlers_iff s pluginName).mp ⟨plugin, found⟩)).symm
        rw [step, run]
        simp only [condition, next]
      · refine ⟨s.plugins, rfl, ?_⟩
        have stops : ¬ ∀ p ∈ pluginName :: rest, s.HasHandlers p :=
          fun all => registered (all pluginName List.mem_cons_self)
        rw [if_neg stops]
        cases found : s.plugins.get pluginName with
        | none => simp [evictHandlers, Action.exec_bind, found]
        | some plugin =>
            cases plugin with
            | none => simp [evictHandlers, Action.exec_bind, found]
            | some plugin => exact absurd ⟨plugin, found⟩ registered

theorem evictHandlers_ok (name : String) {pluginNames : List String} {s : Server}
    (registered : ∀ p ∈ pluginNames, s.HasHandlers p) :
    ∃ plugins, nestedHandlers plugins = nestedHandlers s.plugins ∧
      Action.exec (evictHandlers name pluginNames) s = (.ok ⟨⟩, { s with plugins }) := by
  obtain ⟨plugins, same, run⟩ := evictHandlers_exec name pluginNames s
  exact ⟨plugins, same, by rw [run, if_pos registered]⟩

theorem evictHandlers_error (name : String) {pluginNames : List String} {s : Server}
    (unregistered : ¬ ∀ p ∈ pluginNames, s.HasHandlers p) :
    ∃ plugins, nestedHandlers plugins = nestedHandlers s.plugins ∧
      Action.exec (evictHandlers name pluginNames) s =
        (.error (.attributeError "_per_s_a_handlers"), { s with plugins }) := by
  obtain ⟨plugins, same, run⟩ := evictHandlers_exec name pluginNames s
  exact ⟨plugins, same, by rw [run, if_neg unregistered]⟩

/-! ## What the single steps leave alone -/

section Frames

variable {γ : Type} {view : Server → γ}

theorem keeps_writeFile {α : Type} (disk : Disk) {store : Stored α → Server → Server}
    (same : ∀ file s, view (store file s) = view s) (content : α) :
    Action.Keeps view (writeFile disk store content) := by
  unfold writeFile
  split
  · exact Action.keeps_modify (same _)
  · exact Action.keeps_throw _
  · exact Action.keeps_bind (Action.keeps_modify (same _)) fun _ => Action.keeps_throw _

theorem keeps_saveConfiguration (disk : Disk) (config : SchoolAuthorityConfiguration)
    (same : ∀ file s, view (storeSchoolAuthority config.name file s) = view s) :
    Action.Keeps view (saveSchoolAuthorityConfiguration disk config) :=
  keeps_writeFile disk same _

theorem keeps_saveMapping (disk : Disk) (mapping : Dict String String)
    (same : ∀ file s, view (storeMapping file s) = view s) :
    Action.Keeps view (saveSchool2targetMapping disk mapping) :=
  keeps_writeFile disk same _

theorem keeps_startOutQueueTask (name : String)
    (same : ∀ s : Server, view { s with outQueues := s.outQueues.setTask name true } = view s) :
    Action.Keeps view (startOutQueueTask name) := by
  intro s
  cases found : s.outQueues.find name with
  | none => simp [startOutQueueTask, Action.exec_bind, found]
  | some out =>
      rw [startOutQueueTask_exec found]
      split
      · exact same s
      · rfl

theorem keeps_deleteConfiguration (disk : Disk) (name : String)
    (same : ∀ (s : Server) files, view { s with schoolAuthorityFiles := files } = view s) :
    Action.Keeps view (deleteConfiguration disk name) := by
  unfold deleteConfiguration
  refine Action.keeps_bind (Action.keeps_require _ _) fun _ => ?_
  split
  · exact Action.keeps_modify fun s => same s _
  · exact Action.keeps_pure _

/-- Clearing the caches is seen by no view of the nested plugin objects. -/
theorem keeps_evictHandlers (name : String) (pluginNames : List String)
    (same : ∀ (s : Server) plugins, nestedHandlers plugins = nestedHandlers s.plugins →
      view { s with plugins } = view s) :
    Action.Keeps view (evictHandlers name pluginNames) := by
  intro s
  obtain ⟨plugins, nested, run⟩ := evictHandlers_exec name pluginNames s
  rw [run]
  exact same s plugins nested

end Frames

/-! ## Requests that only read -/

namespace SimpleRpcServer

theorem getQueue_keeps (disk : Disk) (request : RpcRequest) (s : Server) :
    (Action.exec (getQueue disk request) s).2 = s := by
  simp only [getQueue, Action.exec_bind, Action.exec_get]
  split
  · rfl
  · cases found : (s.outQueues.queues.filter fun q => q.schoolAuthority.active).find?
        (fun q => q.name = request.name) with
    | some q => rfl
    | none => rfl

theorem getSchoolAuthority_keeps (request : RpcRequest) (s : Server) :
    (Action.exec (getSchoolAuthority request) s).2 = s := by
  simp only [getSchoolAuthority, Action.exec_bind, Action.exec_get]
  cases found : s.outQueues.queues.find? (fun q => q.name = request.name) with
  | some q => rfl
  | none => rfl

theorem getSchoolToAuthorityMapping_keeps [Pydantic] (s : Server) :
    (Action.exec getSchoolToAuthorityMapping s).2 = s := by
  simp only [getSchoolToAuthorityMapping, Action.exec_bind, Action.exec_get, Action.exec_ofExcept]
  split
  next heq => simp_all
  next heq => simp_all

end SimpleRpcServer

end Methods

/-! ## A server with one authority -/

section Examples

attribute [local instance] asciiCaseMapping typedPydantic

def kelvinSettings (password : String) : JsonObject :=
  [("mapping", .dict [("users", .dict []), ("school_classes", .dict [])]),
    ("username", Json.str "Administrator"), ("password", Json.str password)]

/-- The request to create an active authority with the Kelvin plugin. -/
def createRequest (name password : String) : Json :=
  .dict [("cmd", Json.str "create_school_authority"),
    ("school_authority", .dict [("name", Json.str name), ("active", Json.bool true),
      ("url", Json.str "https://traeger1/ucsschool/kelvin/v1/"),
      ("plugins", Json.strs ["kelvin"]),
      ("plugin_configs", .dict [("kelvin", .dict (kelvinSettings password))])])]

def patchRequest (name : String) (doc : JsonObject) : Json :=
  .dict [("cmd", Json.str "patch_school_authority"), ("name", Json.str name),
    ("school_authority", .dict doc)]

/-- The server after the authority Traeger1 has been created. -/
def demoServer : Server :=
  (SimpleRpcServer.serve {} (some (createRequest "Traeger1" "s3cr3t"))
    (.start [("kelvin", some ⟨[], [], []⟩)])).2

end Examples

end IdConnector
