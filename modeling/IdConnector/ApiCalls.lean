import IdConnector.Lives
import IdConnector.Library.RequestReply

/-! # Callers of the API

The processes of the API send their requests to the one process that manages the queues, each over
a socket of its own with a timeout. A request whose sender has given up may be served all the same.
While its tasks run and also if it is stopped and started again, a caller reads what was written
last.
-/

namespace IdConnector

open Library SimpleRpcServer

section Api

variable [CaseMapping] [Pydantic] {s s' : Server}

/-- What happens to the server between the requests, if it may also be stopped and started. -/
inductive Interlude : Server → Server → Prop where
  | background {s s' : Server} (step : Background s s') : Interlude s s'
  | restart {s s' : Server} (persisted : Persisted s) (restarts : Restarts s s') : Interlude s s'

/-- The registered configuration of an authority, up to the order of the keys. -/
def SameConfig (u v : Option SchoolAuthorityConfiguration) : Prop :=
  u.map SchoolAuthorityConfiguration.sorted = v.map SchoolAuthorityConfiguration.sorted

abbrev ApiCall := Call (Option Json) RpcResponse

abbrev ApiExchange := Exchange (Option Json) RpcResponse Disk Server

/-- One iteration of `simple_rpc_server`, with the response as it is sent. -/
def answer (disk : Disk) (message : Option Json) (s : Server) : RpcResponse × Server :=
  ((serve disk message s).1.rendered, (serve disk message s).2)

/-- The callers and the server, step by step. -/
def ApiRun : ApiExchange → ApiExchange → Prop := Exchange.Run answer Interlude

theorem Interlude.registered (step : Interlude s s') (registered : Registered s) :
    Registered s' := by
  cases step with
  | background step => exact step.registered registered
  | restart persisted restarts => exact (persisted.restart restarts).1.registered

theorem Interlude.sameConfig (step : Interlude s s') (name : String) :
    SameConfig (registeredConfig name s) (registeredConfig name s') := by
  cases step with
  | background step => rw [SameConfig, (step.unchanged {}).registered]
  | restart persisted restarts =>
      rw [SameConfig, (persisted.restart restarts).2.1, Option.map_map]
      refine congrArg (Option.map · _) (funext fun config => ?_)
      exact config.sorted_sorted.symm

/-- Only the requests that write an authority change its configuration. -/
theorem keepsConfig (name : String) : KeepsView answer Interlude Registered
    (registeredConfig name) SameConfig (Writes name) where
  refl _ := rfl
  trans _ _ _ := Eq.trans
  inv_served disk message _ registered := serve_registered disk message registered
  inv_changed _ _ registered step := step.registered registered
  served disk message _ registered other := by
    rw [SameConfig, answer, serve_elsewhere disk registered other]
  changed _ _ _ step := step.sameConfig name

/-- What a client sees of a registered configuration. -/
def shown (config : Option SchoolAuthorityConfiguration) : Option Json :=
  config.map fun config => Json.rendered (.dict config.dict)

/-- The answer to the question for an authority with this configuration. -/
def answerTo (name : String) : Option SchoolAuthorityConfiguration → RpcResponse
  | some config => .result (shown (some config))
  | none => .ofException (.noObject "name" name)

theorem answer_getRequest (registered : Registered s) {name : String} (nonempty : name ≠ "")
    (disk : Disk) :
    (answer disk (getRequest name) s).1 = answerTo name (registeredConfig name s) := by
  have received := (received_getRequest name).trans (if_neg nonempty)
  have found : (s.outQueues.queues.find? fun q => q.name = name) = s.outQueues.find name := by
    apply List.find?_congr
    intro q member
    rw [registered.named q member]
    rfl
  rw [answer, serve_received disk s received, registeredConfig, ← found]
  cases here : s.outQueues.queues.find? fun q => q.name = name with
  | none =>
      simp only [handleRequest, getSchoolAuthority, Action.exec_bind, Action.exec_get, here,
        Action.exec_throw, RpcResponse.ofResult]
      rfl
  | some q =>
      simp [handleRequest, getSchoolAuthority, Action.exec_bind, here, answerTo, shown,
        RpcResponse.ofResult, RpcResponse.rendered]

/-- What a write answers without an error is the configuration as it is then. -/
theorem answer_written (disk : Disk) {message : Option Json} (registered : Registered s)
    {name : String} (writes : Writes name message) {value : Option Json}
    (answered : (answer disk message s).1 = .result value) :
    value = shown (registeredConfig name (answer disk message s).2) := by
  cases response : (serve disk message s).1 with
  | result given =>
      rw [answer, response, RpcResponse.rendered, RpcResponse.result.injEq] at answered
      rw [← answered, serve_written disk registered writes response, Option.map_map]
      rfl
  | errors kind raised =>
      rw [answer, response] at answered
      cases answered

/-- A caller who asks for an authority after the last write to it was answered gets what that
    write has reported, up to the order of the keys. The other writes of that authority that are
    served at all were served when it was sent; their callers may have given up. -/
theorem api_reads_last_write {plugins : Dict String (Option DispatcherPlugin)}
    {x y z : ApiExchange} (before : ApiRun (.start (.start plugins)) x)
    {name : String} (nonempty : name ≠ "") {write : Option Json} (writes : Writes name write)
    (first : ApiRun (x.send write) y) (second : ApiRun y z)
    {written : ApiCall} {value : Option Json}
    (madeWrite : y.calls[x.calls.length]? = some written)
    (answered : written.caller = .received (.result value))
    (others : ∀ (i : Nat) (call : ApiCall) (reply : RpcResponse), z.calls[i]? = some call →
      Writes name call.request → call.reply = some reply → i ≠ x.calls.length →
        ∃ (call' : ApiCall) (reply' : RpcResponse), x.calls[i]? = some call' ∧
          call'.reply = some reply')
    {r : Nat} (later : y.calls.length ≤ r) {read : ApiCall}
    (madeRead : z.calls[r]? = some read) (asks : read.request = getRequest name)
    {reply : RpcResponse} (answered' : read.caller = .received reply) :
    ∃ u v, value = shown u ∧ reply = answerTo name v ∧ SameConfig u v := by
  have registered : Registered (Server.start plugins) := (persisted_start plugins).registered
  obtain ⟨disk, disk', t, t', inv, inv', wrote, gave, same⟩ :=
    Exchange.Run.reads_last_write (keepsConfig name) registered before first second madeWrite
      answered later madeRead answered' others
  rw [asks] at gave
  exact ⟨_, _, answer_written disk inv writes wrote.symm,
    gave.trans (answer_getRequest inv' nonempty disk'), same⟩

end Api

section Examples

attribute [local instance] asciiCaseMapping typedPydantic

def demoCreate : Option Json := some (createRequest "Traeger1" "s3cr3t")

def demoAnswer : RpcResponse := .result (some demoDocument)

def demoStart : ApiExchange := .start (.start [("kelvin", some ⟨[], [], []⟩)])

def demoCreated : ApiExchange := demoStart.afterCall answer demoCreate {}

def demoAsked : ApiExchange := demoCreated.afterCall answer (getRequest "Traeger1") {}

theorem demo_reads_created : ∃ u v,
    some demoDocument = shown u ∧ demoAnswer = answerTo "Traeger1" v ∧ SameConfig u v := by
  have writes : Writes "Traeger1" demoCreate := by
    refine ⟨_, rfl, ?_⟩
    exact ⟨demoConfig "s3cr3t", rfl, rfl⟩
  have created : ApiRun (demoStart.send demoCreate) demoCreated :=
    Exchange.run_afterCall demoStart demoCreate {}
  have asked : ApiRun demoCreated demoAsked :=
    .head (.send demoCreated _) (Exchange.run_afterCall demoCreated _ {})
  have wrote : demoCreated.calls[0]? =
      some ⟨demoCreate, some demoAnswer, .received demoAnswer⟩ := rfl
  have read : demoAsked.calls[1]? =
      some ⟨getRequest "Traeger1", some demoAnswer, .received demoAnswer⟩ := rfl
  have others : ∀ (i : Nat) (call : ApiCall) (reply : RpcResponse),
      demoAsked.calls[i]? = some call → Writes "Traeger1" call.request →
        call.reply = some reply → i ≠ 0 → ∃ (call' : ApiCall) (reply' : RpcResponse),
          demoStart.calls[i]? = some call' ∧ call'.reply = some reply' := by
    rintro (_ | _ | i) call reply made changes served notFirst
    · exact absurd rfl notFirst
    · cases made
      obtain ⟨request, received, concerns⟩ := changes
      cases received
      exact concerns.elim
    · cases made
  exact api_reads_last_write (x := demoStart) .refl (by decide) writes created asked wrote rfl
    others (Nat.le_refl 1) read rfl rfl

end Examples

end IdConnector
