import IdConnector.Startup

/-! # The list of out queues

The in-queue and the RPC server are to share one list of out queues, sorted by name.
They do from the start unless the start list is empty; then the constructor of the
in-queue makes a list of its own, which the first created queue replaces again.
`registry_invariant` follows both lists through any sequence of requests.
-/

namespace IdConnector

open Library

section Registry

variable [CaseMapping]

/-- The names of the queues and of their authorities, and whether there is one list. -/
def registry (s : Server) : List (String × String) × Bool :=
  (s.outQueues.queues.map fun q => (q.name, q.schoolAuthority.name), s.shared)

/-- Both parties have the same queues, in strictly increasing order of their names, which are
    those of the authorities. -/
structure Registered (s : Server) : Prop where
  same : s.inQueueOutQueues = s.outQueues.queues
  increasing : s.outQueues.queues.Pairwise fun a b => a.name < b.name
  named : ∀ q ∈ s.outQueues.queues, q.name = q.schoolAuthority.name

theorem registered_iff (s : Server) : Registered s ↔
    ((registry s).2 = true ∨ (registry s).1 = []) ∧
      (registry s).1.Pairwise (fun a b => a.1 < b.1) ∧ ∀ entry ∈ (registry s).1, entry.1 = entry.2 := by
  have same : s.inQueueOutQueues = s.outQueues.queues ↔
      s.shared = true ∨ s.outQueues.queues = [] := by
    cases shared : s.shared <;> simp [Server.inQueueOutQueues, shared, eq_comm]
  simp only [registry, List.pairwise_map, List.forall_mem_map, List.map_eq_nil_iff, ← same]
  exact ⟨fun ⟨a, b, c⟩ => ⟨a, b, c⟩, fun ⟨a, b, c⟩ => ⟨a, b, c⟩⟩

theorem Registered.of_registry {s s' : Server} (registered : Registered s)
    (kept : registry s' = registry s) : Registered s' := by
  rw [registered_iff] at registered ⊢
  rwa [kept]

/-! ## Steps that leave the list alone -/

theorem registry_setTask (s : Server) (name : String) (running : Bool) :
    registry { s with outQueues := s.outQueues.setTask name running } = registry s := by
  simp only [registry, OutQueues.setTask, OutQueues.update, Prod.mk.injEq, and_true]
  apply First.map_updateFirst
  intro q _
  rfl

theorem registry_setSchoolAuthority (s : Server) {name : String}
    {config : SchoolAuthorityConfiguration} (same : config.name = name) :
    registry { s with outQueues := s.outQueues.setSchoolAuthority name config } = registry s := by
  simp only [registry, OutQueues.setSchoolAuthority, OutQueues.update, Prod.mk.injEq, and_true]
  apply First.map_updateFirst
  intro q isNamed
  have named : q.schoolAuthority.name = name := of_decide_eq_true isNamed
  rw [same, named]

/-! ## The requests -/

omit [CaseMapping] in
theorem mem_register {out : OutQueues} {config : SchoolAuthorityConfiguration} {q : OutQueue} :
    q ∈ (out.register config).queues ↔ q ∈ out.queues ∨ q = .fromSchoolAuthority config := by
  simp only [OutQueues.register, List.mem_insertionSort, List.mem_append, List.mem_singleton]

omit [CaseMapping] in
/-- A sorted list of queues with distinct names is strictly increasing. -/
theorem increasing_of_distinct {queues : List OutQueue}
    (distinct : (queues.map OutQueue.name).Nodup) :
    (queues.insertionSort fun a b => a.name ≤ b.name).Pairwise fun a b => a.name < b.name := by
  have sorted := List.pairwise_insertionSort (fun a b : OutQueue => a.name ≤ b.name) queues
  have different : (queues.insertionSort fun a b => a.name ≤ b.name).Pairwise
      fun a b => a.name ≠ b.name := by
    have perm := (List.perm_insertionSort (fun a b : OutQueue => a.name ≤ b.name) queues).map
      OutQueue.name
    exact List.pairwise_map.mp (perm.nodup_iff.mpr distinct)
  exact sorted.imp₂ (fun _ _ le ne => lt_of_le_of_ne le ne) different

/-- The new queue takes its place in the order, and the lists are one from then on. -/
theorem register_registered {s : Server} (registered : Registered s)
    {config : SchoolAuthorityConfiguration} (new : s.outQueues.find config.name = none) :
    Registered (s.register config).share where
  same := by
    have shared : ((s.register config).share).shared = true := by
      simp only [Server.share, Server.register]
      cases shared : s.shared <;> simp [Server.inQueueOutQueues]
    simp [Server.inQueueOutQueues, shared]
  increasing := by
    apply increasing_of_distinct
    have old : (s.outQueues.queues.map OutQueue.name).Nodup :=
      List.pairwise_map.mpr (registered.increasing.imp ne_of_lt)
    rw [List.map_append, List.nodup_append']
    refine ⟨old, List.nodup_singleton _, fun name taken fresh => ?_⟩
    obtain ⟨q, member, rfl⟩ := List.mem_map.mp taken
    have named : q.name = config.name := List.mem_singleton.mp fresh
    have other := List.find?_eq_none.mp new q member
    exact other (decide_eq_true ((registered.named q member).symm.trans named))
  named q member := by
    rcases mem_register.mp member with old | rfl
    · exact registered.named q old
    · rfl

theorem remove_registered {s : Server} (registered : Registered s) (name : String) :
    Registered { s with outQueues := s.outQueues.remove name } where
  same := by
    have same := registered.same
    simp only [Server.inQueueOutQueues] at same ⊢
    split at same
    next shared => simp [shared]
    next apart => simp [apart, OutQueues.remove, ← same]
  increasing := registered.increasing.sublist List.eraseP_sublist
  named q member := registered.named q (List.mem_of_mem_eraseP member)

variable [Pydantic]

open SimpleRpcServer

theorem create_registered (disk : Disk) (request : RpcRequest) {s : Server}
    (registered : Registered s) :
    Registered (Action.exec (createSchoolAuthority disk request) s).2 := by
  unfold createSchoolAuthority
  simp only [Action.exec_bind (ofExcept _), Action.exec_ofExcept]
  cases valid : SchoolAuthorityConfiguration.init request.schoolAuthority with
  | error raised => exact registered
  | ok config =>
      simp only [Action.exec_bind get, Action.exec_get, Action.exec_bind (Action.require _ _),
        Action.exec_require]
      by_cases new : s.outQueues.find config.name = none
      · by_cases rest : config.name ≠ "" ∧ disk.makeQueueDirs = true
        · simp only [new, rest, Option.isNone_none, ↓reduceIte, ne_eq, not_false_eq_true,
            decide_true, Action.exec_bind (modify _), Action.exec_modify]
          refine (register_registered registered new).of_registry ?_
          apply Action.keeps_bind (keeps_saveConfiguration disk config fun _ _ => rfl)
          intro _
          apply Action.keeps_bind (keeps_startOutQueueTask _ fun s => registry_setTask s _ true)
          exact fun _ => Action.keeps_pure _
        · by_cases unnamed : config.name = ""
          · have free : s.outQueues.find "" = none := unnamed ▸ new
            simpa [unnamed, free] using registered
          · have dirs : disk.makeQueueDirs = false := by simpa [unnamed] using rest
            simpa [new, unnamed, dirs] using registered
      · simpa [Option.isNone_iff_eq_none, new] using registered

omit [Pydantic] in
theorem delete_registered (disk : Disk) (request : RpcRequest) {s : Server}
    (registered : Registered s) :
    Registered (Action.exec (deleteSchoolAuthority disk request) s).2 := by
  unfold deleteSchoolAuthority
  simp only [Action.exec_bind get, Action.exec_get]
  cases found : s.outQueues.queues.find? (fun q => q.name = request.name) with
  | none => exact registered
  | some out =>
      simp only [Action.exec_bind (modify _), Action.exec_modify]
      have removed : Registered { s with outQueues := s.outQueues.remove request.name } :=
        remove_registered registered request.name
      apply removed.of_registry
      apply Action.keeps_bind (Action.keeps_require _ _)
      intro _
      apply Action.keeps_bind (keeps_deleteConfiguration disk _ fun _ _ => rfl)
      intro _
      apply Action.keeps_bind (keeps_evictHandlers _ _ fun _ _ _ => rfl)
      exact fun _ => Action.keeps_pure _

/-- A patch keeps the names, for its document cannot hold any. -/
theorem registry_patch (disk : Disk) (request : RpcRequest) :
    Action.Keeps registry (patchSchoolAuthority disk request) := by
  intro s
  cases accepted : SchoolAuthorityConfigurationPatchDocument.init request.schoolAuthority with
  | error raised => simp [patchSchoolAuthority, Action.exec_bind, accepted]
  | ok doc =>
      cases found : s.outQueues.find request.name with
      | none => simp [patchSchoolAuthority, Action.exec_bind, accepted, found]
      | some out =>
          by_cases passes : PatchPasses s out.schoolAuthority doc
          · obtain ⟨plugins, _, run⟩ := patch_passes disk found accepted passes
            have named : (out.schoolAuthority.updated doc).name = request.name :=
              OutQueues.find_name found
            have patched : registry (patchedState s request.name
                (out.schoolAuthority.updated doc) plugins) = registry s :=
              (registry_setSchoolAuthority (stopTask s request.name) named).trans
                (registry_setTask s request.name false)
            rw [run]
            rw [← patched]
            apply Action.keeps_bind (keeps_saveConfiguration disk _ fun _ _ => rfl)
            intro _
            apply Action.keeps_bind (keeps_startOutQueueTask _ fun s => registry_setTask s _ true)
            exact fun _ => Action.keeps_pure _
          · obtain ⟨raised, plugins, run⟩ := patch_stops disk found accepted passes
            rw [run]
            exact registry_setTask s request.name false

theorem registry_put (disk : Disk) (request : RpcRequest) :
    Action.Keeps registry (putSchoolToAuthorityMapping disk request) := by
  apply Action.keeps_bind (Action.keeps_ofExcept _)
  intro obj
  apply Action.keeps_bind (keeps_saveMapping disk obj fun _ _ => rfl)
  intro _
  apply Action.keeps_bind
  · exact Action.keeps_modify fun _ => rfl
  intro _
  split
  · apply Action.keeps_bind
    · exact Action.keeps_modify fun _ => rfl
    · exact fun _ => Action.keeps_pure _
  · exact Action.keeps_throw _

theorem handleRequest_registered (disk : Disk) (request : RpcRequest) {s : Server}
    (registered : Registered s) :
    Registered (Action.exec (handleRequest disk request) s).2 := by
  unfold handleRequest
  cases request.cmd with
  | createSchoolAuthority => exact create_registered disk request registered
  | deleteSchoolAuthority => exact delete_registered disk request registered
  | patchSchoolAuthority => exact registered.of_registry (registry_patch disk request s)
  | putSchoolToAuthorityMapping => exact registered.of_registry (registry_put disk request s)
  | getQueue => exact (getQueue_keeps disk request s).symm ▸ registered
  | getQueues => exact registered
  | getSchoolAuthority => exact (getSchoolAuthority_keeps request s).symm ▸ registered
  | getSchoolAuthorities => exact registered
  | getSchoolToAuthorityMapping => exact (getSchoolToAuthorityMapping_keeps s).symm ▸ registered

theorem serve_registered (disk : Disk) (message : Option Json) {s : Server}
    (registered : Registered s) : Registered (serve disk message s).2 := by
  cases received : RpcRequest.ofMessage message with
  | error raised => simpa [serve, Action.exec_bind, received] using registered
  | ok request =>
      have run : (serve disk message s).2 = (Action.exec (handleRequest disk request) s).2 := by
        simp [serve, Action.exec_bind, received]
      rw [run]
      exact handleRequest_registered disk request registered

/-! ## From the start on -/

/-- The state after a sequence of messages, each with the outcomes of its file operations. -/
def serveAll (messages : List (Disk × Option Json)) (s : Server) : Server :=
  messages.foldl (fun s message => (serve message.1 message.2 s).2) s

theorem serveAll_registered (messages : List (Disk × Option Json)) {s : Server}
    (registered : Registered s) : Registered (serveAll messages s) := by
  induction messages generalizing s with
  | nil => exact registered
  | cons message rest ih => exact ih (serve_registered message.1 message.2 registered)

omit [CaseMapping] [Pydantic] in
theorem mem_ofConfigurations {configs : List SchoolAuthorityConfiguration} {q : OutQueue}
    (member : q ∈ (OutQueues.ofConfigurations configs).queues) :
    q.name = q.schoolAuthority.name := by
  obtain ⟨sorted, listed, rfl⟩ := List.mem_map.mp member
  obtain ⟨config, _, rfl⟩ := List.mem_map.mp ((List.mem_insertionSort _).mp listed)
  rfl

theorem manageQueues_registered {files : Dict String (Stored JsonObject)}
    {mappingFile : Option (Stored (Dict String String))}
    {plugins : Dict String (Option DispatcherPlugin)} {s : Server}
    {configs : List SchoolAuthorityConfiguration}
    (loaded : files.mapM (fun file => loadSchoolAuthority file.2) = some configs)
    (distinct : (configs.map SchoolAuthorityConfiguration.name).Nodup)
    (started : Server.manageQueues files mappingFile plugins = some s) : Registered s := by
  obtain ⟨sharing, queues⟩ : s.shared = !configs.isEmpty ∧
      s.outQueues = .ofConfigurations configs := by
    simp only [Server.manageQueues, loaded, Option.bind_eq_bind, Option.bind_some,
      Option.bind_eq_some_iff] at started
    obtain ⟨mapping, _, _, _, same⟩ := started
    obtain rfl := Option.some.inj same
    exact ⟨rfl, rfl⟩
  refine ⟨?_, ?_, ?_⟩
  · cases configs with
    | nil => simp [Server.inQueueOutQueues, sharing, queues, OutQueues.ofConfigurations]
    | cons config rest => simp [Server.inQueueOutQueues, sharing]
  · have names : ((configs.map OutQueue.fromSchoolAuthority).map OutQueue.name).Nodup := by
      rw [List.map_map]
      exact distinct
    rw [queues]
    exact List.pairwise_map.mpr (increasing_of_distinct names)
  · rw [queues]
    exact fun q member => mem_ofConfigurations member

/-- Whatever the server is asked, the in-queue and the server have the same out queues, in
    strictly increasing order of their names, which are those of their authorities. -/
theorem registry_invariant {files : Dict String (Stored JsonObject)}
    {mappingFile : Option (Stored (Dict String String))}
    {plugins : Dict String (Option DispatcherPlugin)} {s : Server}
    {configs : List SchoolAuthorityConfiguration}
    (loaded : files.mapM (fun file => loadSchoolAuthority file.2) = some configs)
    (distinct : (configs.map SchoolAuthorityConfiguration.name).Nodup)
    (started : Server.manageQueues files mappingFile plugins = some s)
    (messages : List (Disk × Option Json)) :
    let reached := serveAll messages s
    reached.inQueueOutQueues = reached.outQueues.queues ∧
      reached.outQueues.queues.Pairwise (fun a b => a.name < b.name) ∧
      ∀ q ∈ reached.outQueues.queues, q.name = q.schoolAuthority.name := by
  have registered := serveAll_registered messages (manageQueues_registered loaded distinct started)
  exact ⟨registered.same, registered.increasing, registered.named⟩

end Registry

section Examples

attribute [local instance] asciiCaseMapping typedPydantic

def storedAuthority (name : String) : Stored JsonObject :=
  .written [("name", Json.str name), ("active", Json.bool true),
    ("url", Json.str "https://traeger/ucsschool/kelvin/v1/"), ("plugins", Json.strs ["kelvin"]),
    ("plugin_configs", .dict [("kelvin", .dict (kelvinSettings "s3cr3t"))])]

/-- The files, as they are listed. -/
def storedAuthorities : Dict String (Stored JsonObject) :=
  [("Traeger3", storedAuthority "Traeger3"), ("Traeger1", storedAuthority "Traeger1")]

/-- The failing creation still adds the authority, between the two that were there. -/
def registryMessages : List (Disk × Option Json) :=
  [({}, some (createRequest "Traeger4" "s3cr3t")),
    ({ save := .damaged }, some (createRequest "Traeger2" "s3cr3t"))]

theorem registry_invariant_demo : ∃ s,
    Server.manageQueues storedAuthorities none [] = some s ∧
      let reached := serveAll registryMessages s
      reached.outQueues.queues.map OutQueue.name =
          ["Traeger1", "Traeger2", "Traeger3", "Traeger4"] ∧
        reached.inQueueOutQueues = reached.outQueues.queues ∧
        reached.outQueues.queues.Pairwise (fun a b => a.name < b.name) ∧
        ∀ q ∈ reached.outQueues.queues, q.name = q.schoolAuthority.name := by
  obtain ⟨configs, loaded, distinct⟩ : ∃ configs,
      storedAuthorities.mapM (fun file => loadSchoolAuthority file.2) = some configs ∧
        (configs.map SchoolAuthorityConfiguration.name).Nodup := ⟨_, rfl, by decide⟩
  have started : Server.manageQueues storedAuthorities none [] = some _ := rfl
  exact ⟨_, started, by decide, registry_invariant loaded distinct started registryMessages⟩

end Examples

end IdConnector
