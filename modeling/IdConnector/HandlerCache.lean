import IdConnector.Library.FirstUse
import IdConnector.Rpc

/-! # Dispatchers across configuration changes

Runs of RPC requests and of objects handled by the Kelvin plugin. The server clears
the cache of the plugin object that is registered; the dispatchers live in the
caches of the two objects nested in it, which no request ever touches.
`dispatchers_current_iff` draws the line between the runs this matters for and
the others.
-/

namespace IdConnector

open Library Library.FirstUse

section Requests

variable [CaseMapping]

/-! ## Requests keep the nested caches -/

/-- What the nested plugin objects of all plugins have cached. -/
def nested (s : Server) : String → Option (Option (DispatcherClass → Handlers)) :=
  nestedHandlers s.plugins

open SimpleRpcServer

variable [Pydantic]

theorem keeps_create (disk : Disk) (request : RpcRequest) :
    Action.Keeps nested (createSchoolAuthority disk request) := by
  unfold createSchoolAuthority
  refine Action.keeps_bind (Action.keeps_ofExcept _) fun config => ?_
  refine Action.keeps_bind Action.keeps_get fun s => ?_
  refine Action.keeps_bind (Action.keeps_require _ _) fun _ => ?_
  refine Action.keeps_bind (Action.keeps_require _ _) fun _ => ?_
  refine Action.keeps_bind (Action.keeps_require _ _) fun _ => ?_
  refine Action.keeps_bind (Action.keeps_modify fun _ => rfl) fun _ => ?_
  refine Action.keeps_bind (Action.keeps_modify fun _ => rfl) fun _ => ?_
  refine Action.keeps_bind (keeps_saveConfiguration disk config fun _ _ => rfl) fun _ => ?_
  refine Action.keeps_bind (keeps_startOutQueueTask _ fun _ => rfl) fun _ => ?_
  exact Action.keeps_pure _

omit [Pydantic] in
theorem keeps_delete (disk : Disk) (request : RpcRequest) :
    Action.Keeps nested (deleteSchoolAuthority disk request) := by
  unfold deleteSchoolAuthority
  refine Action.keeps_bind Action.keeps_get fun s => ?_
  split
  · exact Action.keeps_throw _
  · refine Action.keeps_bind (Action.keeps_modify fun _ => rfl) fun _ => ?_
    refine Action.keeps_bind (Action.keeps_require _ _) fun _ => ?_
    refine Action.keeps_bind (keeps_deleteConfiguration disk _ fun _ _ => rfl) fun _ => ?_
    refine Action.keeps_bind (keeps_evictHandlers _ _ fun _ _ same => same) fun _ => ?_
    exact Action.keeps_pure _

theorem keeps_patch (disk : Disk) (request : RpcRequest) :
    Action.Keeps nested (patchSchoolAuthority disk request) := by
  unfold patchSchoolAuthority
  refine Action.keeps_bind (Action.keeps_ofExcept _) fun doc => ?_
  refine Action.keeps_bind Action.keeps_get fun s => ?_
  split
  · exact Action.keeps_throw _
  · refine Action.keeps_bind (Action.keeps_modify fun _ => rfl) fun _ => ?_
    refine Action.keeps_bind (Action.keeps_ofExcept _) fun oldData => ?_
    refine Action.keeps_bind (keeps_evictHandlers _ _ fun _ _ same => same) fun _ => ?_
    refine Action.keeps_bind (Action.keeps_ofExcept _) fun config => ?_
    refine Action.keeps_bind (Action.keeps_modify fun _ => rfl) fun _ => ?_
    refine Action.keeps_bind (keeps_saveConfiguration disk config fun _ _ => rfl) fun _ => ?_
    refine Action.keeps_bind (keeps_startOutQueueTask _ fun _ => rfl) fun _ => ?_
    exact Action.keeps_pure _

theorem keeps_put (disk : Disk) (request : RpcRequest) :
    Action.Keeps nested (putSchoolToAuthorityMapping disk request) := by
  unfold putSchoolToAuthorityMapping
  refine Action.keeps_bind (Action.keeps_ofExcept _) fun obj => ?_
  refine Action.keeps_bind (keeps_saveMapping disk obj fun _ _ => rfl) fun _ => ?_
  refine Action.keeps_bind (Action.keeps_modify fun _ => rfl) fun _ => ?_
  split
  · exact Action.keeps_bind (Action.keeps_modify fun _ => rfl) fun _ => Action.keeps_pure _
  · exact Action.keeps_throw _

/-- No request changes what the nested plugin objects have cached. -/
theorem keeps_handleRequest (disk : Disk) (request : RpcRequest) :
    Action.Keeps nested (handleRequest disk request) := by
  unfold handleRequest
  cases request.cmd with
  | createSchoolAuthority => exact keeps_create disk request
  | deleteSchoolAuthority => exact keeps_delete disk request
  | patchSchoolAuthority => exact keeps_patch disk request
  | putSchoolToAuthorityMapping => exact keeps_put disk request
  | getQueue => exact fun s => congrArg nested (getQueue_keeps disk request s)
  | getQueues => exact fun _ => rfl
  | getSchoolAuthority => exact fun s => congrArg nested (getSchoolAuthority_keeps request s)
  | getSchoolAuthorities => exact fun _ => rfl
  | getSchoolToAuthorityMapping =>
      exact fun s => congrArg nested (getSchoolToAuthorityMapping_keeps s)

theorem nested_serve (disk : Disk) (message : Option Json) (s : Server) :
    nested (serve disk message s).2 = nested s :=
  Action.keeps_bind (Action.keeps_ofExcept _) (fun request => keeps_handleRequest disk request) s

end Requests

/-! ## Runs of requests and handled objects -/

section Runs

variable [KelvinClient]

abbrev KelvinCall := Call (DispatcherClass × String) SchoolAuthorityConfiguration Dispatcher PyError

/-- The dispatcher that a configuration gives rise to. -/
def buildDispatcher (key : DispatcherClass × String) (config : SchoolAuthorityConfiguration) :
    Except PyError Dispatcher :=
  Dispatcher.init key.1 config kelvin

theorem buildDispatcher_injective {key : DispatcherClass × String}
    {a b : SchoolAuthorityConfiguration} {dispatcher : Dispatcher}
    (fromA : buildDispatcher key a = .ok dispatcher)
    (fromB : buildDispatcher key b = .ok dispatcher) : a = b :=
  (Dispatcher.init_schoolAuthority fromA).symm.trans (Dispatcher.init_schoolAuthority fromB)

/-- The caches hold what the calls so far have built. -/
def CachesFirst (handlers : DispatcherClass → Handlers) (calls : List KelvinCall) : Prop :=
  ∀ kind name, (handlers kind).get (name, kelvin) = firstBuilt buildDispatcher (kind, name) calls

theorem handler_answer {handlers : DispatcherClass → Handlers} {calls : List KelvinCall}
    (caches : CachesFirst handlers calls) (kind : DispatcherClass)
    (config : SchoolAuthorityConfiguration) :
    (handler kind (handlers kind) config kelvin).1 =
      answer buildDispatcher calls (kind, config.name) config := by
  unfold handler answer
  rw [caches kind config.name]
  cases firstBuilt buildDispatcher (kind, config.name) calls with
  | some dispatcher => rfl
  | none =>
      have unfolded : buildDispatcher (kind, config.name) config =
          Dispatcher.init kind config kelvin := rfl
      rw [unfolded]
      cases Dispatcher.init kind config kelvin <;> rfl

/-- A call adds its dispatcher under its own key if there is none yet. -/
theorem handler_cachesFirst {handlers : DispatcherClass → Handlers} {calls : List KelvinCall}
    (caches : CachesFirst handlers calls) (kind : DispatcherClass)
    (config : SchoolAuthorityConfiguration) (result : Except PyError Dispatcher) :
    CachesFirst (fun other => if other = kind then (handler kind (handlers kind) config kelvin).2
      else handlers other) (calls ++ [⟨(kind, config.name), config, result⟩]) := by
  intro other name
  rw [firstBuilt_snoc]
  have before := caches other name
  by_cases sameKind : other = kind
  · subst sameKind
    simp only [↓reduceIte, handler, caches other config.name]
    cases first : firstBuilt buildDispatcher (other, config.name) calls with
    | some dispatcher =>
        by_cases sameName : config.name = name
        · subst sameName
          rw [first] at before ⊢
          simpa using before
        · simpa [sameName] using before
    | none =>
        have unfolded : buildDispatcher (other, name) config =
            Dispatcher.init other config kelvin := rfl
        rw [unfolded]
        by_cases sameName : config.name = name
        · subst sameName
          rw [first] at before ⊢
          cases Dispatcher.init other config kelvin with
          | ok dispatcher => simp [Except.toOption]
          | error raised => simpa [Except.toOption] using before
        · have key : (config.name, kelvin) ≠ (name, kelvin) := by simp [sameName]
          cases Dispatcher.init other config kelvin with
          | ok dispatcher => simpa [sameName, key] using before
          | error raised => simpa [sameName] using before
  · have different : kind ≠ other := fun same => sameKind same.symm
    simpa [sameKind, different] using before

variable [CaseMapping] [Pydantic]

/-- What happens to a service: a request, or an object or a ping that an out queue
    passes to the Kelvin plugin with its configuration of that moment. While a
    request waits for a task or a file, the task of its own queue does not run, so
    nothing that concerns that queue happens in between. -/
inductive ServiceEvent where
  | request (disk : Disk) (message : Option Json)
  | handleListenerObject (queue : String) (obj : ListenerObject)
  | schoolAuthorityPing (queue : String)

/-- Let the Kelvin plugin choose the dispatcher for a queue. -/
def dispatchKelvin (s : Server) (queue : String) (kind : DispatcherClass) :
    Server × List KelvinCall :=
  match s.outQueues.find queue, s.plugins.get kelvin with
  | some out, some (some plugin) =>
      let chosen := plugin.dispatch kind out.schoolAuthority kelvin
      ({ s with plugins := s.plugins.set kelvin (some chosen.2) },
        [⟨(kind, out.schoolAuthority.name), out.schoolAuthority, chosen.1⟩])
  | _, _ => (s, [])

def serviceStep (s : Server) : ServiceEvent → Server × List KelvinCall
  | .request disk message => ((SimpleRpcServer.serve disk message s).2, [])
  | .handleListenerObject queue obj => dispatchKelvin s queue (DispatcherPlugin.classOf obj)
  | .schoolAuthorityPing queue => dispatchKelvin s queue .user

/-- The state after some events and the calls of dispatchers they led to. -/
def serviceRun (s : Server) (events : List ServiceEvent) : Server × List KelvinCall :=
  events.foldl (fun state event =>
    let next := serviceStep state.1 event
    (next.1, state.2 ++ next.2)) (s, [])

/-- The invariant of a run: the calls were answered from caches that hold the first
    dispatchers. -/
def ServiceInvariant (state : Server × List KelvinCall) : Prop :=
  Answered buildDispatcher state.2 ∧
    ∃ handlers, nested state.1 kelvin = some (some handlers) ∧ CachesFirst handlers state.2

omit [Pydantic] in
theorem dispatchKelvin_invariant {s : Server} {calls : List KelvinCall}
    (invariant : ServiceInvariant (s, calls)) (queue : String) (kind : DispatcherClass) :
    ServiceInvariant ((dispatchKelvin s queue kind).1,
      calls ++ (dispatchKelvin s queue kind).2) := by
  obtain ⟨answered, handlers, cached, caches⟩ := invariant
  unfold dispatchKelvin
  split
  next out plugin foundQueue foundPlugin =>
    obtain rfl : plugin.handlersFor = handlers := by
      simpa [nested, nestedHandlers, foundPlugin] using cached
    refine ⟨?_, ?_⟩
    · simp only [DispatcherPlugin.dispatch_result, handler_answer caches]
      exact answered.snoc
    · refine ⟨_, ?_, handler_cachesFirst caches kind out.schoolAuthority _⟩
      simp only [nested, nestedHandlers, Dict.get_set_self, Option.map_some, Option.some.injEq]
      funext other
      exact DispatcherPlugin.handlersFor_dispatch plugin kind other out.schoolAuthority kelvin
  next => exact ⟨by simpa using answered, handlers, cached, by simpa using caches⟩

theorem serviceStep_invariant {s : Server} {calls : List KelvinCall}
    (invariant : ServiceInvariant (s, calls)) (event : ServiceEvent) :
    ServiceInvariant ((serviceStep s event).1, calls ++ (serviceStep s event).2) := by
  cases event with
  | request disk message =>
      obtain ⟨answered, handlers, cached, caches⟩ := invariant
      refine ⟨by simpa [serviceStep] using answered, handlers, ?_, by simpa [serviceStep] using caches⟩
      exact (congrFun (nested_serve disk message s) kelvin).trans cached
  | handleListenerObject queue obj => exact dispatchKelvin_invariant invariant queue _
  | schoolAuthorityPing queue => exact dispatchKelvin_invariant invariant queue .user

theorem serviceRun_invariant {s : Server}
    (fresh : s.plugins.get kelvin = some (some ⟨[], [], []⟩)) (events : List ServiceEvent) :
    ServiceInvariant (serviceRun s events) := by
  unfold serviceRun
  refine List.foldlRecOn events _ ?_ fun state invariant event _ =>
    serviceStep_invariant invariant event
  refine ⟨Answered.nil, fun _ => [], ?_, fun _ _ => rfl⟩
  simp only [nested, nestedHandlers, fresh, Option.map_some, Option.some.injEq]
  funext kind
  cases kind <;> rfl

/-- In a run from an empty cache every call is served by a dispatcher of its own
    configuration exactly if the configuration of an authority stays the same after
    its first dispatcher of that class. -/
theorem dispatchers_current_iff (s : Server)
    (fresh : s.plugins.get kelvin = some (some ⟨[], [], []⟩)) (events : List ServiceEvent) :
    (∀ call ∈ (serviceRun s events).2, Current buildDispatcher call) ↔
      (serviceRun s events).2.Pairwise (Constant buildDispatcher) :=
  current_iff_constant buildDispatcher_injective (serviceRun_invariant fresh events).1

end Runs

section Examples

attribute [local instance] asciiCaseMapping typedPydantic plainKelvinClient

def removedUser : ListenerObject :=
  .userRemove ⟨"uid=anna,cn=schueler,cn=users,ou=DEMOSCHOOL,dc=uni,dc=dtr", "9ad3", none⟩

/-- A new password for the sessions with the target. -/
def newPassword : ServiceEvent :=
  .request {} (some (patchRequest "Traeger1"
    [("plugin_configs", .dict [("kelvin", .dict [("password", Json.str "n3w")])])]))

/-- A new password, and then two objects, of which the second finds the dispatcher of the first. -/
def passwordFirst : List ServiceEvent :=
  [newPassword, .handleListenerObject "Traeger1" removedUser,
    .handleListenerObject "Traeger1" removedUser]

theorem dispatchers_current_demo :
    (∀ call ∈ (serviceRun demoServer passwordFirst).2, Current buildDispatcher call) ↔
      (serviceRun demoServer passwordFirst).2.Pairwise (Constant buildDispatcher) :=
  dispatchers_current_iff demoServer rfl passwordFirst

/-- An object handled after the password was changed still goes out with the old one. -/
theorem password_change_ignored :
    let events := [.handleListenerObject "Traeger1" removedUser, newPassword,
      .handleListenerObject "Traeger1" removedUser]
    demoServer.plugins.get kelvin = some (some ⟨[], [], []⟩) ∧
      ∃ call ∈ (serviceRun demoServer events).2, ¬ Current buildDispatcher call := by
  refine ⟨rfl, _, List.mem_cons_of_mem _ (List.mem_singleton_self _), fun current => ?_⟩
  have built := current _ rfl
  exact absurd built (by decide)

end Examples

end IdConnector
