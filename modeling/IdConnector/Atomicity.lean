import IdConnector.Patch

/-! # Half-applied requests

A mutating request touches the list of queues, the tasks and two kinds of files
one after the other, and an exception between two of them becomes an ordinary
error response. `serve_all_or_nothing_iff` says exactly for which states,
requests and outcomes of the file operations an error response means that nothing happened.
-/

namespace IdConnector

open Library Library.Document

namespace SimpleRpcServer

section Visible

variable [CaseMapping]

/-- What a request must leave alone when it fails: the queues with their configurations and
    tasks, the stored configurations, and the mapping in memory and on disk. -/
def visible (s : Server) : OutQueues × Dict String (Stored JsonObject) × LoweredDict Json ×
    Option (Stored (Dict String String)) :=
  (s.outQueues, s.schoolAuthorityFiles, s.schoolAuthorityMapping, s.mappingFile)

/-- The action either succeeds or leaves the visible state as it was. -/
def AllOrNothing (action : RpcAction (Option Json)) (s : Server) : Prop :=
  (∃ value, (Action.exec action s).1 = .ok value) ∨ visible (Action.exec action s).2 = visible s

theorem allOrNothing_of_ok {s : Server} {action : RpcAction (Option Json)} {value : Option Json} {s' : Server}
    (run : Action.exec action s = (.ok value, s')) : AllOrNothing action s :=
  Or.inl ⟨value, by rw [run]⟩

theorem allOrNothing_of_error {s : Server} {action : RpcAction (Option Json)} {raised : PyError} {s' : Server}
    (run : Action.exec action s = (.error raised, s')) :
    AllOrNothing action s ↔ visible s' = visible s := by
  simp [AllOrNothing, run]

/-- A failed deletion has lost its queue. -/
theorem not_allOrNothing_of_removed {s s' : Server} {action : RpcAction (Option Json)}
    {raised : PyError} {name : String} {out : OutQueue}
    (found : s.outQueues.queues.find? (fun q => q.name = name) = some out)
    (run : Action.exec action s = (.error raised, s'))
    (removed : s'.outQueues = s.outQueues.remove name) : ¬ AllOrNothing action s := by
  rw [allOrNothing_of_error run]
  intro same
  have queues : s'.outQueues = s.outQueues := congrArg Prod.fst same
  exact OutQueues.remove_ne found (removed.symm.trans queues)

end Visible

section Requests

variable [CaseMapping] [Pydantic]

/-! ## Where each request breaks off -/

/-- The new queue is in the list, its configuration could not be stored. -/
def CreateBreaksOff (disk : Disk) (s : Server) (request : RpcRequest) : Prop :=
  disk.makeQueueDirs = true ∧ disk.save ≠ .done ∧
    ∃ config, SchoolAuthorityConfiguration.init request.schoolAuthority = .ok config ∧
      s.outQueues.find config.name = none ∧ config.name ≠ ""

/-- The queue is out of the list, but its directory stays or a plugin cannot be asked. -/
def DeleteBreaksOff (disk : Disk) (s : Server) (request : RpcRequest) : Prop :=
  ∃ out, s.outQueues.queues.find? (fun q => q.name = request.name) = some out ∧
    (disk.moveQueue = false ∨ disk.makeConfigDir = false ∨
      ¬ ∀ p ∈ out.schoolAuthority.plugins, s.HasHandlers p)

/-- A running task was stopped for a patch that fails, or a new configuration could not
    be stored. -/
def PatchBreaksOff (disk : Disk) (s : Server) (request : RpcRequest) : Prop :=
  ∃ doc out, SchoolAuthorityConfigurationPatchDocument.init request.schoolAuthority = .ok doc ∧
    s.outQueues.find request.name = some out ∧
    ((¬ PatchPasses s out.schoolAuthority doc ∧ out.taskRunning = true) ∨
      (PatchPasses s out.schoolAuthority doc ∧ disk.save ≠ .done ∧
        (out.taskRunning = true ∨ out.schoolAuthority.updated doc ≠ out.schoolAuthority ∨
          (disk.save = .damaged ∧
            s.schoolAuthorityFiles.get out.schoolAuthority.name ≠ some .damaged))))

/-- The stored mapping was damaged, or the mapping passed the validation without being
    a dictionary and is lost after it was stored. -/
def PutBreaksOff (disk : Disk) (s : Server) (request : RpcRequest) : Prop :=
  ∃ obj, School2SchoolAuthorityMapping.init request.schoolToAuthorityMapping = .ok obj ∧
    ((disk.save = .damaged ∧ s.mappingFile ≠ some .damaged) ∨
      (disk.save = .done ∧ holdsDict request.schoolToAuthorityMapping "mapping" = false ∧
        (s.mappingFile ≠ some (.written (sortMapping obj)) ∨ s.schoolAuthorityMapping ≠ .empty)))

def BreaksOff (disk : Disk) (s : Server) (request : RpcRequest) : Prop :=
  match request.cmd with
  | .createSchoolAuthority => CreateBreaksOff disk s request
  | .deleteSchoolAuthority => DeleteBreaksOff disk s request
  | .patchSchoolAuthority => PatchBreaksOff disk s request
  | .putSchoolToAuthorityMapping => PutBreaksOff disk s request
  | _ => False

/-! ## The single requests -/

variable {disk : Disk} {s : Server} {request : RpcRequest}

/-- Registration comes before everything that can still fail. -/
theorem create_registers {config : SchoolAuthorityConfiguration}
    (accepted : SchoolAuthorityConfiguration.init request.schoolAuthority = .ok config)
    (new : s.outQueues.find config.name = none) (named : config.name ≠ "")
    (dirs : disk.makeQueueDirs = true) :
    Action.exec (createSchoolAuthority disk request) s =
      Action.exec (do
        saveSchoolAuthorityConfiguration disk config
        startOutQueueTask config.name
        return some (.dict config.dict)) (s.register config).share := by
  simp [createSchoolAuthority, Action.exec_bind, accepted, new, named, dirs]

theorem create_all_or_nothing_iff :
    AllOrNothing (createSchoolAuthority disk request) s ↔ ¬ CreateBreaksOff disk s request := by
  cases accepted : SchoolAuthorityConfiguration.init request.schoolAuthority with
  | error raised =>
      have run : Action.exec (createSchoolAuthority disk request) s = (.error raised, s) := by
        simp [createSchoolAuthority, Action.exec_bind, accepted]
      simp [allOrNothing_of_error run, CreateBreaksOff, accepted]
  | ok config =>
      cases found : s.outQueues.find config.name with
      | some out =>
          have run : Action.exec (createSchoolAuthority disk request) s =
              (.error (.objectExists "name" config.name), s) := by
            simp [createSchoolAuthority, Action.exec_bind, accepted, found]
          simp [allOrNothing_of_error run, CreateBreaksOff, accepted, found]
      | none =>
          by_cases unnamed : config.name = ""
          · have free : s.outQueues.find "" = none := unnamed ▸ found
            have run : Action.exec (createSchoolAuthority disk request) s =
                (.error (.attributeError "name"), s) := by
              simp [createSchoolAuthority, Action.exec_bind, accepted, free, unnamed]
            simp [allOrNothing_of_error run, CreateBreaksOff, accepted, unnamed]
          cases dirs : disk.makeQueueDirs with
          | false =>
              have run : Action.exec (createSchoolAuthority disk request) s =
                  (.error (.osError "mkdir"), s) := by
                simp [createSchoolAuthority, Action.exec_bind, accepted, found, unnamed, dirs]
              simp [allOrNothing_of_error run, CreateBreaksOff, dirs]
          | true =>
              have run := create_registers accepted found unnamed dirs
              by_cases done : disk.save = .done
              · have saved := saveConfiguration_done config (s.register config).share done
                obtain ⟨s', started⟩ := startOutQueueTask_ok config.name (storeSchoolAuthority
                  config.name (.written (sortEntries config.dictSecretsAsStr))
                  (s.register config).share)
                rw [Action.exec_bind_ok _ saved, Action.exec_bind_ok _ started] at run
                simp [allOrNothing_of_ok run, CreateBreaksOff, done]
              · obtain ⟨operation, failed⟩ :=
                  saveConfiguration_failed config (s.register config).share done
                rw [Action.exec_bind_error _ failed] at run
                have breaks : CreateBreaksOff disk s request :=
                  ⟨dirs, done, config, accepted, found, unnamed⟩
                rw [allOrNothing_of_error run]
                refine iff_of_false (fun same => ?_) (not_not_intro breaks)
                refine OutQueues.register_ne s.outQueues config ?_
                have queues := congrArg Prod.fst same
                split at queues <;> exact queues

omit [Pydantic] in
theorem delete_all_or_nothing_iff :
    AllOrNothing (deleteSchoolAuthority disk request) s ↔ ¬ DeleteBreaksOff disk s request := by
  cases found : s.outQueues.queues.find? (fun q => q.name = request.name) with
  | none =>
      have run : Action.exec (deleteSchoolAuthority disk request) s =
          (.error (.noObject "name" request.name), s) := by
        simp [deleteSchoolAuthority, Action.exec_bind, found]
      simp [allOrNothing_of_error run, DeleteBreaksOff, found]
  | some out =>
      let removed : Server := { s with outQueues := s.outQueues.remove request.name }
      cases moved : disk.moveQueue with
      | false =>
          have run : Action.exec (deleteSchoolAuthority disk request) s =
              (.error (.osError "move"), removed) := by
            simp [deleteSchoolAuthority, Action.exec_bind, found, moved, removed]
          have breaks : DeleteBreaksOff disk s request := ⟨out, found, Or.inl moved⟩
          exact iff_of_false (not_allOrNothing_of_removed found run rfl) (not_not_intro breaks)
      | true =>
          have run : Action.exec (deleteSchoolAuthority disk request) s =
              Action.exec (do
                deleteConfiguration disk out.schoolAuthority.name
                evictHandlers out.schoolAuthority.name out.schoolAuthority.plugins
                return none) removed := by
            simp [deleteSchoolAuthority, Action.exec_bind, found, moved, removed]
          cases configDir : disk.makeConfigDir with
          | false =>
              have failed := deleteConfiguration_error out.schoolAuthority.name removed configDir
              rw [Action.exec_bind_error _ failed] at run
              have breaks : DeleteBreaksOff disk s request :=
                ⟨out, found, Or.inr (Or.inl configDir)⟩
              exact iff_of_false (not_allOrNothing_of_removed found run rfl) (not_not_intro breaks)
          | true =>
              obtain ⟨files, deleted⟩ :=
                deleteConfiguration_ok out.schoolAuthority.name removed configDir
              rw [Action.exec_bind_ok _ deleted] at run
              by_cases registered : ∀ p ∈ out.schoolAuthority.plugins, s.HasHandlers p
              · obtain ⟨plugins, _, evicted⟩ := evictHandlers_ok out.schoolAuthority.name
                  (s := { removed with schoolAuthorityFiles := files }) registered
                rw [Action.exec_bind_ok _ evicted] at run
                have passes : ¬ DeleteBreaksOff disk s request := by
                  rintro ⟨out', found', problem⟩
                  obtain rfl : out = out' := Option.some.inj (found.symm.trans found')
                  simp only [moved, configDir, Bool.true_eq_false, false_or] at problem
                  exact problem registered
                exact iff_of_true (allOrNothing_of_ok run) passes
              · obtain ⟨plugins, _, evicted⟩ := evictHandlers_error out.schoolAuthority.name
                  (s := { removed with schoolAuthorityFiles := files }) registered
                rw [Action.exec_bind_error _ evicted] at run
                have breaks : DeleteBreaksOff disk s request :=
                  ⟨out, found, Or.inr (Or.inr registered)⟩
                exact iff_of_false (not_allOrNothing_of_removed found run rfl)
                  (not_not_intro breaks)

theorem patchBreaksOff_iff {doc : SchoolAuthorityConfigurationPatchDocument} {out : OutQueue}
    (accepted : SchoolAuthorityConfigurationPatchDocument.init request.schoolAuthority = .ok doc)
    (found : s.outQueues.find request.name = some out) :
    PatchBreaksOff disk s request ↔
      (¬ PatchPasses s out.schoolAuthority doc ∧ out.taskRunning = true) ∨
      (PatchPasses s out.schoolAuthority doc ∧ disk.save ≠ .done ∧
        (out.taskRunning = true ∨ out.schoolAuthority.updated doc ≠ out.schoolAuthority ∨
          (disk.save = .damaged ∧
            s.schoolAuthorityFiles.get out.schoolAuthority.name ≠ some .damaged))) := by
  constructor
  · rintro ⟨doc', out', accepted', found', breaks⟩
    obtain rfl : doc = doc' := Except.ok.inj (accepted.symm.trans accepted')
    obtain rfl : out = out' := Option.some.inj (found.symm.trans found')
    exact breaks
  · exact fun breaks => ⟨doc, out, accepted, found, breaks⟩

theorem patch_all_or_nothing_iff :
    AllOrNothing (patchSchoolAuthority disk request) s ↔ ¬ PatchBreaksOff disk s request := by
  cases accepted : SchoolAuthorityConfigurationPatchDocument.init request.schoolAuthority with
  | error raised =>
      have run : Action.exec (patchSchoolAuthority disk request) s = (.error raised, s) := by
        simp [patchSchoolAuthority, Action.exec_bind, accepted]
      simp [allOrNothing_of_error run, PatchBreaksOff, accepted]
  | ok doc =>
      cases found : s.outQueues.find request.name with
      | none =>
          have run : Action.exec (patchSchoolAuthority disk request) s =
              (.error (.noObject "name" request.name), s) := by
            simp [patchSchoolAuthority, Action.exec_bind, accepted, found]
          simp [allOrNothing_of_error run, PatchBreaksOff, found]
      | some out =>
          by_cases passes : PatchPasses s out.schoolAuthority doc
          · obtain ⟨plugins, _, run⟩ := patch_passes disk found accepted passes
            let config := out.schoolAuthority.updated doc
            let patched := patchedState s request.name config plugins
            by_cases done : disk.save = .done
            · obtain ⟨s', _, ok, _⟩ := patch_done found accepted passes done
              simp [allOrNothing_of_ok ok, patchBreaksOff_iff accepted found, passes, done]
            · obtain ⟨operation, failed⟩ := saveConfiguration_failed config patched done
              rw [Action.exec_bind_error _ failed] at run
              have queues : patched.outQueues = s.outQueues ↔
                  out.taskRunning = false ∧ config = out.schoolAuthority :=
                OutQueues.stop_and_set_eq_self_iff found
              have file : s.schoolAuthorityFiles.set config.name .damaged =
                  s.schoolAuthorityFiles ↔
                    s.schoolAuthorityFiles.get out.schoolAuthority.name = some .damaged :=
                Dict.set_eq_self_iff
              have same : visible (if disk.save = .damaged then
                    storeSchoolAuthority config.name .damaged patched else patched) = visible s ↔
                  (out.taskRunning = false ∧ config = out.schoolAuthority) ∧
                    (disk.save = .damaged → s.schoolAuthorityFiles.get out.schoolAuthority.name =
                      some .damaged) := by
                rw [← queues, ← file]
                split
                next damaged => simp [visible, storeSchoolAuthority, patched, patchedState, damaged]
                next other => simp [visible, patched, patchedState, other]
              rw [allOrNothing_of_error run, same, patchBreaksOff_iff accepted found]
              simp only [passes, done, not_true_eq_false, ne_eq, not_false_eq_true, false_and,
                true_and, false_or, not_or, not_and, not_not, Bool.not_eq_true, and_assoc, config]
          · obtain ⟨raised, plugins, run⟩ := patch_stops disk found accepted passes
            have unchanged : visible { stopTask s request.name with plugins } = visible s ↔
                out.taskRunning = false := by
              rw [← OutQueues.setTask_eq_self_iff found]
              simp [visible, stopTask]
            simp [allOrNothing_of_error run, unchanged, patchBreaksOff_iff accepted found, passes]

theorem putBreaksOff_iff {obj : Dict String String}
    (accepted : School2SchoolAuthorityMapping.init request.schoolToAuthorityMapping = .ok obj) :
    PutBreaksOff disk s request ↔
      (disk.save = .damaged ∧ s.mappingFile ≠ some .damaged) ∨
      (disk.save = .done ∧ holdsDict request.schoolToAuthorityMapping "mapping" = false ∧
        (s.mappingFile ≠ some (.written (sortMapping obj)) ∨
          s.schoolAuthorityMapping ≠ .empty)) := by
  constructor
  · rintro ⟨obj', accepted', breaks⟩
    obtain rfl : obj = obj' := Except.ok.inj (accepted.symm.trans accepted')
    exact breaks
  · exact fun breaks => ⟨obj, accepted, breaks⟩

theorem put_all_or_nothing_iff :
    AllOrNothing (putSchoolToAuthorityMapping disk request) s ↔ ¬ PutBreaksOff disk s request := by
  cases accepted : School2SchoolAuthorityMapping.init request.schoolToAuthorityMapping with
  | error raised =>
      have run : Action.exec (putSchoolToAuthorityMapping disk request) s = (.error raised, s) := by
        simp [putSchoolToAuthorityMapping, Action.exec_bind, accepted]
      simp [allOrNothing_of_error run, PutBreaksOff, accepted]
  | ok obj =>
      rw [putBreaksOff_iff accepted]
      cases save : disk.save with
      | refused =>
          have run : Action.exec (putSchoolToAuthorityMapping disk request) s =
              (.error (.osError "open"), s) := by
            simp [putSchoolToAuthorityMapping, saveSchool2targetMapping, writeFile, Action.exec_bind,
              accepted, save]
          simp [allOrNothing_of_error run]
      | damaged =>
          have run : Action.exec (putSchoolToAuthorityMapping disk request) s =
              (.error (.osError "write"), storeMapping .damaged s) := by
            simp [putSchoolToAuthorityMapping, saveSchool2targetMapping, writeFile, Action.exec_bind,
              accepted, save]
          have unchanged : visible (storeMapping .damaged s) = visible s ↔
              s.mappingFile = some .damaged := by
            simp [visible, storeMapping, eq_comm]
          simp [allOrNothing_of_error run, unchanged]
      | done =>
          let stored := storeMapping (.written (sortMapping obj)) s
          rcases dict_or_other request.schoolToAuthorityMapping "mapping" with ⟨entries, dict⟩ | other
          · have run : Action.exec (putSchoolToAuthorityMapping disk request) s =
                (.ok (some (.dict [("mapping",
                    .dict (obj.map fun entry => (entry.1, Json.str entry.2)))])),
                  { stored with schoolAuthorityMapping := .lowerKeys entries }) := by
              simp [putSchoolToAuthorityMapping, saveSchool2targetMapping, writeFile,
                Action.exec_bind, accepted, save, dict, stored, -bind_pure_comp]
            simp [allOrNothing_of_ok run, holdsDict, dict]
          · have run : Action.exec (putSchoolToAuthorityMapping disk request) s =
                (.error (.attributeError "items"),
                  { stored with schoolAuthorityMapping := .empty }) := by
              simp [putSchoolToAuthorityMapping, saveSchool2targetMapping, writeFile,
                Action.exec_bind, accepted, save, stored, -bind_pure_comp]
            have noDict : holdsDict request.schoolToAuthorityMapping "mapping" = false := by
              unfold holdsDict
              split
              next entries dict => exact absurd dict (other entries)
              next => rfl
            have unchanged : visible { stored with schoolAuthorityMapping := .empty } = visible s ↔
                s.schoolAuthorityMapping = .empty ∧
                  s.mappingFile = some (.written (sortMapping obj)) := by
              simp [visible, stored, storeMapping, eq_comm]
            rw [allOrNothing_of_error run, unchanged]
            simp only [noDict]
            tauto

/-! ## The whole server -/

theorem handle_all_or_nothing_iff :
    AllOrNothing (handleRequest disk request) s ↔ ¬ BreaksOff disk s request := by
  -- a request that only reads has nothing to leave half-done
  have reads : ∀ {action : RpcAction (Option Json)}, (Action.exec action s).2 = s →
      (AllOrNothing action s ↔ ¬ False) :=
    fun keeps => iff_of_true (Or.inr (by rw [keeps])) not_false
  unfold handleRequest BreaksOff
  cases command : request.cmd with
  | createSchoolAuthority => exact create_all_or_nothing_iff
  | deleteSchoolAuthority => exact delete_all_or_nothing_iff
  | patchSchoolAuthority => exact patch_all_or_nothing_iff
  | putSchoolToAuthorityMapping => exact put_all_or_nothing_iff
  | getQueue => exact reads (getQueue_keeps disk request s)
  | getQueues => exact reads rfl
  | getSchoolAuthority => exact reads (getSchoolAuthority_keeps request s)
  | getSchoolAuthorities => exact reads rfl
  | getSchoolToAuthorityMapping => exact reads (getSchoolToAuthorityMapping_keeps s)

/-- An error response means that nothing has happened, exactly for the requests that do not
    break off halfway. -/
theorem serve_all_or_nothing_iff (disk : Disk) (message : Option Json) (s : Server) :
    ((serve disk message s).1.hasErrors = true →
      visible (serve disk message s).2 = visible s) ↔
    ∀ request, RpcRequest.ofMessage message = .ok request → ¬ BreaksOff disk s request := by
  cases received : RpcRequest.ofMessage message with
  | error raised =>
      have run : (serve disk message s).2 = s := by simp [serve, Action.exec_bind, received]
      simp [run]
  | ok request =>
      have run : serve disk message s =
          (.ofResult (Action.exec (handleRequest disk request) s).1,
            (Action.exec (handleRequest disk request) s).2) := by
        simp [serve, Action.exec_bind, received]
      have single : (∀ request', Except.ok request = Except.ok (ε := PyError) request' →
          ¬ BreaksOff disk s request') ↔ ¬ BreaksOff disk s request := by simp
      rw [single, ← handle_all_or_nothing_iff, run]
      simp only [RpcResponse.hasErrors_ofResult, AllOrNothing]
      cases (Action.exec (handleRequest disk request) s).1 <;> simp

end Requests

section Examples

attribute [local instance] asciiCaseMapping typedPydantic

/-- Legal guardians without legal wards: the result of the merge is invalid. -/
def guardiansOnly : JsonObject :=
  [("plugin_configs", .dict [("kelvin", .dict [("mapping", .dict [("users", .dict
    [("ucsschoolLegalGuardian", Json.str "legal_guardians")])])])])]

/-- The refused patch has stopped the task of an authority that still counts as active. -/
theorem refused_patch_stops_task :
    (serve {} (some (patchRequest "Traeger1" guardiansOnly)) demoServer).1.hasErrors = true ∧
      visible (serve {} (some (patchRequest "Traeger1" guardiansOnly)) demoServer).2 ≠
        visible demoServer := by
  refine ⟨rfl, fun same => ?_⟩
  have task := congrArg (fun v => (v.1.find "Traeger1").map OutQueue.taskRunning) same
  have stopped : some false = some true := task
  simp at stopped

end Examples

end SimpleRpcServer

end IdConnector
