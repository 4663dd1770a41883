import IdConnector.RequestEffects

/-! # Whole lives of the service

Requests that are served with working file operations keep the files in step with the registry, so
the service can be stopped between any two of them and started again without losing an authority.
Not looked at are a stop that cancels a request, and a start that ends in its initial distribution
because a routing hook raises an exception.
-/

namespace IdConnector

open Library Library.Document

open SimpleRpcServer

section Lives

variable [CaseMapping] [Pydantic] {s s' : Server}

theorem Persisted.unchanged {disk : Disk} (persisted : Persisted s) (works : Works disk)
    (registered : Registered s') (unchanged : Unchanged disk s s') : Persisted s' where
  registered := registered
  distinct := unchanged.files ▸ persisted.distinct
  file name := by
    rw [unchanged.files, unchanged.registered]
    exact persisted.file name
  accepted name config found := persisted.accepted name config (unchanged.registered name ▸ found)
  named name config found := persisted.named name config (unchanged.registered name ▸ found)
  mapping := unchanged.mapping works persisted.mapping

theorem Persisted.changes {disk : Disk} (persisted : Persisted s) (works : Works disk)
    (registered : Registered s') {name : String} {config : Option SchoolAuthorityConfiguration}
    (changes : Changes disk name config s s')
    (accepted : ∀ c ∈ config, ∃ data, SchoolAuthorityConfiguration.init data = .ok c)
    (named : ∀ c ∈ config, registeredConfig name s = none → name ≠ "" ∧ HasOwnFile name) :
    Persisted s' where
  registered := registered
  distinct := changes.files works ▸ nodup_storeConfig persisted.distinct name config
  file other := by
    rw [changes.files works, get_storeConfig, changes.registered]
    split
    · rfl
    · exact persisted.file other
  accepted other c found := by
    rw [changes.registered] at found
    split at found
    · exact accepted c found
    · exact persisted.accepted other c found
  named other c found := by
    rw [changes.registered] at found
    split at found
    next same =>
      subst same
      cases before : registeredConfig name s with
      | none => exact named c found before
      | some old => exact persisted.named name old before
    next => exact persisted.named other c found
  mapping := changes.mapping ▸ persisted.mapping

/-- A request whose file operations succeed leaves the files in step with the registry, whether
    it is answered with an error or not. -/
theorem Persisted.serve {disk : Disk} (persisted : Persisted s) (works : Works disk)
    {message : Option Json} (names : NamesFile message) : Persisted (serve disk message s).2 := by
  have registered := serve_registered disk message persisted.registered
  cases received : RpcRequest.ofMessage message with
  | error raised => rwa [serve_refused disk s received]
  | ok request =>
      rw [serve_received disk s received] at registered ⊢
      rcases handleRequest_effect disk request persisted.registered with effect | ⟨-, unchanged⟩
      · rcases effect with ⟨-, unchanged⟩ | ⟨name, config, concerns, changes, valid, -⟩
        · exact persisted.unchanged works registered unchanged
        · refine persisted.changes works registered changes (fun c given => (valid c given).2.2) ?_
          intro c given new
          obtain ⟨nonempty, creates⟩ := (valid c given).2.1 new
          exact ⟨nonempty, names request received creates name concerns⟩
      · exact persisted.unchanged works registered unchanged

/-- What happens to the server between the requests: the handlers keep something, or a task ends. -/
inductive Background : Server → Server → Prop where
  | plugins (s : Server) (plugins : Dict String (Option DispatcherPlugin)) :
      Background s { s with plugins }
  | taskEnds (s : Server) (name : String) :
      Background s { s with outQueues := s.outQueues.setTask name false }

omit [Pydantic] in
theorem Background.registered (step : Background s s') (registered : Registered s) :
    Registered s' := by
  cases step with
  | plugins plugins => exact ⟨registered.same, registered.increasing, registered.named⟩
  | taskEnds name => exact registered.of_registry (registry_setTask s name false)

omit [Pydantic] in
theorem Background.unchanged (step : Background s s') (disk : Disk) : Unchanged disk s s' := by
  cases step with
  | plugins plugins => exact ⟨fun _ => rfl, rfl, fun _ undamaged => undamaged⟩
  | taskEnds name =>
      exact ⟨fun other => registeredConfig_task other s name false, rfl,
        fun _ undamaged => undamaged⟩

/-- The service serves a message with working file operations, goes on between the messages, or is
    stopped and started. -/
inductive LifeStep : Server → Server → Prop where
  | serve (s : Server) {disk : Disk} {message : Option Json} (works : Works disk)
      (names : NamesFile message) : LifeStep s (serve disk message s).2
  | background {s s' : Server} (step : Background s s') : LifeStep s s'
  | restart {s s' : Server} (restarts : Restarts s s') : LifeStep s s'

theorem LifeStep.persisted (step : LifeStep s s') (persisted : Persisted s) : Persisted s' := by
  cases step with
  | serve works names => exact persisted.serve works names
  | background step =>
      exact persisted.unchanged ⟨rfl, rfl, rfl, rfl⟩ (step.registered persisted.registered)
        (step.unchanged {})
  | restart restarts => exact (persisted.restart restarts).1

theorem persisted_start (plugins : Dict String (Option DispatcherPlugin)) :
    Persisted (Server.start plugins) where
  registered := ⟨rfl, List.Pairwise.nil, nofun⟩
  distinct := List.nodup_nil
  file name := rfl
  accepted name config found := by cases found
  named name config found := by cases found
  mapping := nofun

/-- However long it has run and however often it was started again, the service can be stopped
    after a request and started, and then has the same authorities, with the same settings in the
    order of their keys, and runs the tasks of exactly the active ones. -/
theorem restart_restores {plugins : Dict String (Option DispatcherPlugin)}
    (life : Relation.ReflTransGen LifeStep (Server.start plugins) s) :
    (∃ s', Restarts s s') ∧ ∀ s', Restarts s s' →
      (∀ name, registeredConfig name s' = (registeredConfig name s).map .sorted) ∧
        ∀ q ∈ s'.outQueues.queues, q.taskRunning = q.schoolAuthority.active := by
  have persisted : Persisted s := by
    induction life with
    | refl => exact persisted_start plugins
    | tail _ step ih => exact step.persisted ih
  exact ⟨persisted.can_restart, fun s' restarts => (persisted.restart restarts).2⟩

end Lives

section Examples

attribute [local instance] asciiCaseMapping typedPydantic

theorem createRequest_namesFile : NamesFile (some (createRequest "Traeger1" "s3cr3t")) := by
  rintro request received - name concerns
  cases received
  obtain ⟨config, rfl, accepted⟩ := concerns
  cases accepted
  decide

theorem demoServer_restored :
    (∃ s', Restarts demoServer s') ∧ ∀ s', Restarts demoServer s' →
      (∀ name, registeredConfig name s' = (registeredConfig name demoServer).map .sorted) ∧
        ∀ q ∈ s'.outQueues.queues, q.taskRunning = q.schoolAuthority.active :=
  restart_restores (.single (.serve _ ⟨rfl, rfl, rfl, rfl⟩ createRequest_namesFile))

end Examples

end IdConnector
