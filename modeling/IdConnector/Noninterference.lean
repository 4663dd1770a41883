import IdConnector.Masking

/-! # What the responses tell about secrets

Two servers that are the same up to the masks of their secrets answer every sequence of
requests alike. The values under the keys of secrets are all masked only where they stand
directly in the settings of a plugin; a difference further inside is shown to the client.
-/

namespace IdConnector

open Library Library.Document Library.Action

section Servers

variable [CaseMapping]

/-- The name of a queue and its authority, as `look` shows the configuration. -/
def OutQueue.shown (look : SchoolAuthorityConfiguration → SchoolAuthorityConfiguration)
    (q : OutQueue) : String × SchoolAuthorityConfiguration :=
  (q.name, look q.schoolAuthority)

/-- What responses can depend on is the same, with the configurations seen through `look`. -/
structure Server.SameUpTo (look : SchoolAuthorityConfiguration → SchoolAuthorityConfiguration)
    (s t : Server) : Prop where
  queues : s.outQueues.queues.map (OutQueue.shown look) = t.outQueues.queues.map (OutQueue.shown look)
  mapping : s.schoolAuthorityMapping = t.schoolAuthorityMapping
  handlers : ∀ pluginName, s.HasHandlers pluginName ↔ t.HasHandlers pluginName

/-! ## Looking up queues -/

/-- Both have found nothing, or queues with the same name and masked configuration. -/
def FoundAlike (o o' : Option OutQueue) : Prop :=
  (o = none ∧ o' = none) ∨ ∃ q q', o = some q ∧ o' = some q' ∧ q.name = q'.name ∧
    q.schoolAuthority.masked = q'.schoolAuthority.masked

omit [CaseMapping] in
theorem foundAlike_of_map {o o' : Option OutQueue}
    (same : o.map (OutQueue.shown .masked) = o'.map (OutQueue.shown .masked)) :
    FoundAlike o o' := by
  cases o with
  | none => cases o' with
    | none => exact Or.inl ⟨rfl, rfl⟩
    | some q' => cases same
  | some q => cases o' with
    | none => cases same
    | some q' =>
        obtain ⟨name, config⟩ := Prod.mk.inj (Option.some.inj same)
        exact Or.inr ⟨q, q', rfl, rfl, name, config⟩

omit [CaseMapping] in
theorem shown_sorted (look : SchoolAuthorityConfiguration → SchoolAuthorityConfiguration)
    (queues : List OutQueue) :
    (queues.insertionSort fun a b => a.name ≤ b.name).map (OutQueue.shown look) =
      (queues.map (OutQueue.shown look)).insertionSort fun a b => a.1 ≤ b.1 :=
  List.map_insertionSort _ _ _ _ fun _ _ _ _ => Iff.rfl

omit [CaseMapping] in
theorem find?_alike {queues queues' : List OutQueue}
    (same : queues.map (OutQueue.shown .masked) = queues'.map (OutQueue.shown .masked))
    (p : String × SchoolAuthorityConfiguration → Bool) :
    FoundAlike (queues.find? (p ∘ OutQueue.shown .masked))
      (queues'.find? (p ∘ OutQueue.shown .masked)) := by
  apply foundAlike_of_map
  rw [← List.find?_map, ← List.find?_map, same]

namespace Server.SameUpTo

variable {look : SchoolAuthorityConfiguration → SchoolAuthorityConfiguration} {s t : Server}

theorem find (same : s.SameUpTo .masked t) (name : String) :
    FoundAlike (s.outQueues.find name) (t.outQueues.find name) :=
  find?_alike same.queues fun shown => decide (shown.2.name = name)

theorem find_queue (same : s.SameUpTo .masked t) (name : String) :
    FoundAlike (s.outQueues.queues.find? fun q => q.name = name)
      (t.outQueues.queues.find? fun q => q.name = name) :=
  find?_alike same.queues fun shown => decide (shown.1 = name)

theorem active (same : s.SameUpTo .masked t) :
    (s.outQueues.queues.filter fun q => q.schoolAuthority.active).map (OutQueue.shown .masked) =
      (t.outQueues.queues.filter fun q => q.schoolAuthority.active).map (OutQueue.shown .masked) := by
  have filtered (queues : List OutQueue) :
      (queues.filter fun q => q.schoolAuthority.active).map (OutQueue.shown .masked) =
        (queues.map (OutQueue.shown .masked)).filter fun shown => shown.2.active := by
    rw [List.filter_map]
    rfl
  rw [filtered, filtered, same.queues]

theorem find_active (same : s.SameUpTo .masked t) (name : String) :
    FoundAlike
      ((s.outQueues.queues.filter fun q => q.schoolAuthority.active).find? fun q => q.name = name)
      ((t.outQueues.queues.filter fun q => q.schoolAuthority.active).find? fun q => q.name = name) :=
  find?_alike same.active fun shown => decide (shown.1 = name)

/-! ## Changing queues -/

theorem setTask (same : s.SameUpTo look t) (name : String) (running : Bool) :
    SameUpTo look { s with outQueues := s.outQueues.setTask name running }
      { t with outQueues := t.outQueues.setTask name running } where
  queues := by
    have kept (queues : List OutQueue) :
        (First.updateFirst (OutQueues.isNamed name) (fun q => { q with taskRunning := running })
          queues).map (OutQueue.shown look) = queues.map (OutQueue.shown look) := by
      apply First.map_updateFirst
      intro q _
      rfl
    exact (kept _).trans (same.queues.trans (kept _).symm)
  mapping := same.mapping
  handlers := same.handlers

theorem setSchoolAuthority (same : s.SameUpTo .masked t) (name : String)
    {config config' : SchoolAuthorityConfiguration} (alike : config.masked = config'.masked) :
    SameUpTo .masked { s with outQueues := s.outQueues.setSchoolAuthority name config }
      { t with outQueues := t.outQueues.setSchoolAuthority name config' } where
  queues := by
    have changed (queues : List OutQueue) (config : SchoolAuthorityConfiguration) :
        (First.updateFirst (OutQueues.isNamed name) (fun q => { q with schoolAuthority := config })
          queues).map (OutQueue.shown .masked) =
          First.updateFirst (fun shown => decide (shown.2.name = name))
            (fun shown => (shown.1, config.masked)) (queues.map (OutQueue.shown .masked)) := by
      apply First.map_updateFirst_comm
      · intro q
        rfl
      · intro q
        rfl
    exact (changed _ config).trans (by rw [alike, same.queues]; exact (changed _ config').symm)
  mapping := same.mapping
  handlers := same.handlers

theorem register (same : s.SameUpTo look t) (config : SchoolAuthorityConfiguration) :
    SameUpTo look (s.register config) (t.register config) where
  queues := by
    simp only [Server.register, OutQueues.register, shown_sorted, List.map_append, same.queues]
  mapping := same.mapping
  handlers := same.handlers

theorem remove (same : s.SameUpTo look t) (name : String) :
    SameUpTo look { s with outQueues := s.outQueues.remove name }
      { t with outQueues := t.outQueues.remove name } where
  queues := by
    have erased (queues : List OutQueue) :
        (queues.eraseP fun q => q.name = name).map (OutQueue.shown look) =
          (queues.map (OutQueue.shown look)).eraseP fun shown => shown.1 = name := by
      rw [List.eraseP_map]
      rfl
    simp only [OutQueues.remove, erased, same.queues]
  mapping := same.mapping
  handlers := same.handlers

end Server.SameUpTo

/-! ## The steps of a request, in both runs -/

/-- Both runs keep the servers alike and raise exceptions with the same text. -/
abbrev Indistinct {α β : Type} (A : α → β → Prop) (m : RpcAction α) (n : RpcAction β) : Prop :=
  Coupled (Server.SameUpTo .masked) (fun e e' => e.masked = e'.masked) A m n

/-- No difference between two results. -/
def Whatever {α β : Type} (_ : α) (_ : β) : Prop := True

theorem writeFile_indistinct {α : Type} (disk : Disk) {store : Stored α → Server → Server}
    (keeps : ∀ {s t}, s.SameUpTo .masked t → ∀ file file',
      Server.SameUpTo .masked (store file s) (store file' t)) (content content' : α) :
    Indistinct Whatever (writeFile disk store content) (writeFile disk store content') := by
  unfold writeFile
  cases disk.save with
  | done => exact coupled_modify fun s t same => keeps same _ _
  | refused => exact coupled_throw rfl
  | damaged =>
      apply coupled_bind (coupled_modify fun s t same => keeps same _ _)
      intro _ _ _
      exact coupled_throw rfl

theorem saveConfiguration_indistinct (disk : Disk) {config config' : SchoolAuthorityConfiguration}
    (alike : config.masked = config'.masked) :
    Indistinct Whatever (saveSchoolAuthorityConfiguration disk config)
      (saveSchoolAuthorityConfiguration disk config') := by
  obtain ⟨name, -⟩ := SchoolAuthorityConfiguration.mapSettings_eq_iff.mp alike
  unfold saveSchoolAuthorityConfiguration
  rw [name]
  apply writeFile_indistinct
  intro s t same file file'
  exact ⟨same.queues, same.mapping, same.handlers⟩

theorem deleteConfiguration_indistinct (disk : Disk) (name : String) :
    Indistinct Whatever (deleteConfiguration disk name) (deleteConfiguration disk name) := by
  apply coupled_bind
  · exact coupled_require _ rfl
  intro _ _ _
  split
  · exact coupled_modify fun s t same => ⟨same.queues, same.mapping, same.handlers⟩
  · exact coupled_pure trivial

theorem startOutQueueTask_indistinct (name : String) :
    Indistinct Whatever (startOutQueueTask name) (startOutQueueTask name) := by
  intro s t same
  rcases same.find name with ⟨here, there⟩ | ⟨q, q', here, there, _, alike⟩
  · simp only [startOutQueueTask, exec_bind, exec_get, here, there, exec_pure]
    exact ⟨trivial, same⟩
  · obtain ⟨-, active, -⟩ := SchoolAuthorityConfiguration.mapSettings_eq_iff.mp alike
    rw [startOutQueueTask_exec here, startOutQueueTask_exec there, active]
    refine ⟨trivial, ?_⟩
    split
    · exact same.setTask name true
    · exact same

theorem evictHandlers_indistinct (name : String) (pluginNames : List String) :
    Indistinct Whatever (evictHandlers name pluginNames) (evictHandlers name pluginNames) := by
  intro s t same
  obtain ⟨plugins, kept, run⟩ := evictHandlers_exec name pluginNames s
  obtain ⟨plugins', kept', run'⟩ := evictHandlers_exec name pluginNames t
  rw [run, run']
  constructor
  · simp only [same.handlers]
    split
    · trivial
    · rfl
  · refine ⟨same.queues, same.mapping, fun pluginName => ?_⟩
    have handlers := same.handlers pluginName
    rw [hasHandlers_iff, hasHandlers_iff] at handlers ⊢
    rwa [kept, kept']

/-- An outcome that is computed from the request alone. -/
theorem given_indistinct {α : Type} (result : Except PyError α) :
    Indistinct (· = ·) (ofExcept result : RpcAction α) (ofExcept result) := by
  apply coupled_ofExcept
  cases result <;> rfl

/-! ## The requests -/

namespace SimpleRpcServer

/-- The results are rendered alike. -/
def AnsweredAlike (v w : Option Json) : Prop := v.map Json.rendered = w.map Json.rendered

omit [CaseMapping] in
theorem dict_rendered {config config' : SchoolAuthorityConfiguration}
    (alike : config.masked = config'.masked) :
    Json.rendered (.dict config.dict) = Json.rendered (.dict config'.dict) := by
  apply Json.rendered_of_masked
  simp only [Json.masked, mapLeaves, ← SchoolAuthorityConfiguration.dict_masked, alike]

theorem getQueues_indistinct (disk : Disk) :
    Indistinct AnsweredAlike (getQueues disk) (getQueues disk) := by
  apply coupled_bind coupled_get
  intro s t same
  apply coupled_pure
  have models (queues : List OutQueue) :
      queues.map (fun q => queueModel disk q.name q.schoolAuthority.name) =
        (queues.map (OutQueue.shown .masked)).map fun shown =>
          queueModel disk shown.1 shown.2.name := by
    rw [List.map_map]
    rfl
  simp only [AnsweredAlike, models, shown_sorted, same.active]

theorem getQueue_indistinct (disk : Disk) (request : RpcRequest) :
    Indistinct AnsweredAlike (getQueue disk request) (getQueue disk request) := by
  apply coupled_bind coupled_get
  intro s t same
  split
  · exact coupled_pure rfl
  · rcases same.find_active request.name with ⟨here, there⟩ | ⟨q, q', here, there, name, alike⟩
    · simp only [here, there]
      exact coupled_throw rfl
    · obtain ⟨authority, -⟩ := SchoolAuthorityConfiguration.mapSettings_eq_iff.mp alike
      simp only [here, there, name, authority]
      exact coupled_pure rfl

theorem getSchoolAuthorities_indistinct :
    Indistinct AnsweredAlike getSchoolAuthorities getSchoolAuthorities := by
  apply coupled_bind coupled_get
  intro s t same
  apply coupled_pure
  have masked (configs : List SchoolAuthorityConfiguration) :
      Json.masked (.list ((configs.insertionSort fun a b => a.name ≤ b.name).map fun config =>
          .dict config.dict)) =
        .list (((configs.map SchoolAuthorityConfiguration.masked).insertionSort fun a b =>
          a.name ≤ b.name).map fun config => .dict config.dict) := by
    have sorted : (configs.insertionSort fun a b => a.name ≤ b.name).map
        SchoolAuthorityConfiguration.masked =
          (configs.map SchoolAuthorityConfiguration.masked).insertionSort fun a b =>
            a.name ≤ b.name :=
      List.map_insertionSort _ _ _ _ fun _ _ _ _ => Iff.rfl
    rw [← sorted]
    simp only [Json.masked, mapLeaves, mapItems_eq_map, List.map_map, Function.comp_def,
      SchoolAuthorityConfiguration.dict_masked]
  have configs (queues : List OutQueue) :
      (queues.map OutQueue.schoolAuthority).map SchoolAuthorityConfiguration.masked =
        (queues.map (OutQueue.shown .masked)).map Prod.snd := by
    rw [List.map_map, List.map_map]
    rfl
  refine congrArg some (Json.rendered_of_masked ?_)
  rw [masked, masked, configs, configs, same.queues]

theorem getSchoolAuthority_indistinct (request : RpcRequest) :
    Indistinct AnsweredAlike (getSchoolAuthority request) (getSchoolAuthority request) := by
  apply coupled_bind coupled_get
  intro s t same
  rcases same.find_queue request.name with ⟨here, there⟩ | ⟨q, q', here, there, _, alike⟩
  · simp only [here, there]
    exact coupled_throw rfl
  · simp only [here, there]
    exact coupled_pure (congrArg some (dict_rendered alike))

theorem deleteSchoolAuthority_indistinct (disk : Disk) (request : RpcRequest) :
    Indistinct AnsweredAlike (deleteSchoolAuthority disk request)
      (deleteSchoolAuthority disk request) := by
  apply coupled_bind coupled_get
  intro s t same
  rcases same.find_queue request.name with ⟨here, there⟩ | ⟨q, q', here, there, _, alike⟩
  · simp only [here, there]
    exact coupled_throw rfl
  · obtain ⟨name, -, -, plugins, -⟩ := SchoolAuthorityConfiguration.mapSettings_eq_iff.mp alike
    simp only [here, there, name, plugins]
    apply coupled_bind
    · exact coupled_modify fun s t same => same.remove request.name
    intro _ _ _
    apply coupled_bind
    · exact coupled_require _ rfl
    intro _ _ _
    apply coupled_bind (deleteConfiguration_indistinct disk _)
    intro _ _ _
    apply coupled_bind (evictHandlers_indistinct _ _)
    intro _ _ _
    exact coupled_pure rfl

variable [Pydantic]

theorem getSchoolToAuthorityMapping_indistinct :
    Indistinct AnsweredAlike getSchoolToAuthorityMapping getSchoolToAuthorityMapping := by
  apply coupled_bind coupled_get
  intro s t same
  rw [same.mapping]
  apply coupled_bind (given_indistinct _)
  rintro mapping _ rfl
  exact coupled_pure rfl

theorem createSchoolAuthority_indistinct (disk : Disk) (request : RpcRequest) :
    Indistinct AnsweredAlike (createSchoolAuthority disk request)
      (createSchoolAuthority disk request) := by
  apply coupled_bind (given_indistinct _)
  rintro config _ rfl
  apply coupled_bind coupled_get
  intro s t same
  have isNone : (s.outQueues.find config.name).isNone = (t.outQueues.find config.name).isNone := by
    rcases same.find config.name with ⟨here, there⟩ | ⟨q, q', here, there, -⟩ <;> rw [here, there]
    rfl
  rw [isNone]
  apply coupled_bind
  · exact coupled_require _ rfl
  intro _ _ _
  apply coupled_bind
  · exact coupled_require _ rfl
  intro _ _ _
  apply coupled_bind
  · exact coupled_require _ rfl
  intro _ _ _
  apply coupled_bind
  · exact coupled_modify fun s t same => same.register config
  intro _ _ _
  apply coupled_bind
  · exact coupled_modify fun s t same => ⟨same.queues, same.mapping, same.handlers⟩
  intro _ _ _
  apply coupled_bind (saveConfiguration_indistinct disk rfl)
  intro _ _ _
  apply coupled_bind (startOutQueueTask_indistinct _)
  intro _ _ _
  exact coupled_pure rfl

theorem putSchoolToAuthorityMapping_indistinct (disk : Disk) (request : RpcRequest) :
    Indistinct AnsweredAlike (putSchoolToAuthorityMapping disk request)
      (putSchoolToAuthorityMapping disk request) := by
  apply coupled_bind (given_indistinct _)
  rintro obj _ rfl
  apply coupled_bind
  · apply writeFile_indistinct
    intro s t same file file'
    exact ⟨same.queues, same.mapping, same.handlers⟩
  intro _ _ _
  apply coupled_bind
  · exact coupled_modify fun s t same => ⟨same.queues, rfl, same.handlers⟩
  intro _ _ _
  split
  · apply coupled_bind
    · exact coupled_modify fun s t same => ⟨same.queues, rfl, same.handlers⟩
    intro _ _ _
    exact coupled_pure rfl
  · exact coupled_throw rfl

/-! ## Patches -/

omit [CaseMapping] [Pydantic] in
/-- Both merges give the same up to secrets, or fail with the same text. -/
theorem mergePatch_alike {config config' : SchoolAuthorityConfiguration}
    (alike : config.masked = config'.masked) (doc : SchoolAuthorityConfigurationPatchDocument) :
    Alike (fun e e' => e.masked = e'.masked)
      (fun data data' => ∃ result result' : SchoolAuthorityConfiguration, data = result.dict ∧
        data' = result'.dict ∧ result.masked = result'.masked)
      (mergePatch config doc) (mergePatch config' doc) := by
  have merged := update_mapEntries (fun _ => Leaf.masked) false config.dict doc.dict
  rw [SchoolAuthorityConfiguration.masked_eq_iff.mp alike, update_mapEntries] at merged
  obtain ⟨sameData, sameError⟩ := Prod.mk.inj merged
  cases raised : (recursiveDictUpdate false config.dict doc.dict).2 with
  | none =>
      have quiet : (recursiveDictUpdate false config'.dict doc.dict).2 = none := by
        simpa [raised] using sameError
      rw [mergePatch_ok raised, mergePatch_ok quiet]
      refine ⟨_, _, rfl, rfl, SchoolAuthorityConfiguration.masked_eq_iff.mpr ?_⟩
      rw [← SchoolAuthorityConfiguration.update_dict raised,
        ← SchoolAuthorityConfiguration.update_dict quiet]
      exact sameData.symm
  | some error =>
      cases raised' : (recursiveDictUpdate false config'.dict doc.dict).2 with
      | none => simp [raised, raised'] at sameError
      | some error' =>
          simp only [raised, raised', Option.map_some, Option.some.injEq, CannotUpdateDict.mapLeaves,
            CannotUpdateDict.mk.injEq] at sameError
          obtain ⟨k, ori, v⟩ := sameError
          rw [Json.mapLeaves_key _ (some _), Json.mapLeaves_key _ (some _)] at v
          rw [mergePatch_raised raised, mergePatch_raised raised']
          simp only [Alike, PyError.masked, PyError.cannotUpdateDict.injEq]
          exact ⟨k.symm, ori.symm, v.symm⟩

omit [CaseMapping] in
/-- The patched configurations are accepted both, or refused for the same reason. -/
theorem init_alike {config config' : SchoolAuthorityConfiguration}
    (alike : config.masked = config'.masked) :
    Alike (fun e e' => e.masked = e'.masked) (fun result result' => result.masked = result'.masked)
      (SchoolAuthorityConfiguration.init config.dict)
      (SchoolAuthorityConfiguration.init config'.dict) := by
  obtain ⟨-, -, -, -, configs⟩ := SchoolAuthorityConfiguration.mapSettings_eq_iff.mp alike
  rw [init_dict_eq, init_dict_eq, ← hasRequiredAttrCombination_masked, configs,
    hasRequiredAttrCombination_masked]
  split
  · exact alike
  · split <;> rfl

theorem patchSchoolAuthority_indistinct (disk : Disk) (request : RpcRequest) :
    Indistinct AnsweredAlike (patchSchoolAuthority disk request)
      (patchSchoolAuthority disk request) := by
  apply coupled_bind (given_indistinct _)
  rintro doc _ rfl
  apply coupled_bind coupled_get
  intro s t same
  rcases same.find request.name with ⟨here, there⟩ | ⟨q, q', here, there, _, alike⟩
  · simp only [here, there]
    exact coupled_throw rfl
  · obtain ⟨name, -, -, plugins, -⟩ := SchoolAuthorityConfiguration.mapSettings_eq_iff.mp alike
    simp only [here, there, name, plugins]
    apply coupled_bind
    · exact coupled_modify fun s t same => same.setTask request.name false
    intro _ _ _
    apply coupled_bind (coupled_ofExcept (mergePatch_alike alike doc))
    rintro _ _ ⟨result, result', rfl, rfl, patched⟩
    apply coupled_bind (evictHandlers_indistinct _ _)
    intro _ _ _
    apply coupled_bind (coupled_ofExcept (init_alike patched))
    intro config config' accepted
    apply coupled_bind
    · exact coupled_modify fun s t same => same.setSchoolAuthority request.name accepted
    intro _ _ _
    apply coupled_bind (saveConfiguration_indistinct disk accepted)
    intro _ _ _
    obtain ⟨stored, -⟩ := SchoolAuthorityConfiguration.mapSettings_eq_iff.mp accepted
    rw [stored]
    apply coupled_bind (startOutQueueTask_indistinct _)
    intro _ _ _
    exact coupled_pure (congrArg some (dict_rendered accepted))

/-! ## Sequences of requests -/

theorem handleRequest_indistinct (disk : Disk) (request : RpcRequest) :
    Indistinct AnsweredAlike (handleRequest disk request) (handleRequest disk request) := by
  unfold handleRequest
  cases request.cmd with
  | getQueue => exact getQueue_indistinct disk request
  | getQueues => exact getQueues_indistinct disk
  | getSchoolAuthority => exact getSchoolAuthority_indistinct request
  | getSchoolAuthorities => exact getSchoolAuthorities_indistinct
  | getSchoolToAuthorityMapping => exact getSchoolToAuthorityMapping_indistinct
  | createSchoolAuthority => exact createSchoolAuthority_indistinct disk request
  | deleteSchoolAuthority => exact deleteSchoolAuthority_indistinct disk request
  | patchSchoolAuthority => exact patchSchoolAuthority_indistinct disk request
  | putSchoolToAuthorityMapping => exact putSchoolToAuthorityMapping_indistinct disk request

omit [CaseMapping] [Pydantic] in
theorem rendered_alike {outcome outcome' : Except PyError (Option Json)}
    (alike : Alike (fun e e' => e.masked = e'.masked) AnsweredAlike outcome outcome') :
    (RpcResponse.ofResult outcome).rendered = (RpcResponse.ofResult outcome').rendered := by
  cases outcome with
  | ok value => cases outcome' with
    | ok value' => exact congrArg RpcResponse.result alike
    | error raised' => exact alike.elim
  | error raised => cases outcome' with
    | ok value' => exact alike.elim
    | error raised' =>
        simp only [RpcResponse.ofResult, RpcResponse.rendered_ofException]
        exact congrArg RpcResponse.ofException alike

theorem serve_indistinct (disk : Disk) (message : Option Json) {s t : Server}
    (same : s.SameUpTo .masked t) :
    (serve disk message s).1.rendered = (serve disk message t).1.rendered ∧
      (serve disk message s).2.SameUpTo .masked (serve disk message t).2 := by
  have served : Indistinct AnsweredAlike
      (do let request ← ofExcept (RpcRequest.ofMessage message); handleRequest disk request)
      (do let request ← ofExcept (RpcRequest.ofMessage message); handleRequest disk request) := by
    apply coupled_bind (given_indistinct _)
    rintro request _ rfl
    exact handleRequest_indistinct disk request
  obtain ⟨alike, after⟩ := served s t same
  exact ⟨rendered_alike alike, after⟩

/-- What the client reads of the responses to a sequence of messages. -/
def responses : List (Disk × Option Json) → Server → List RpcResponse
  | [], _ => []
  | (disk, message) :: rest, s =>
      (serve disk message s).1.rendered :: responses rest (serve disk message s).2

theorem responses_indistinct (messages : List (Disk × Option Json)) {s t : Server}
    (same : s.SameUpTo .masked t) : responses messages s = responses messages t := by
  induction messages generalizing s t with
  | nil => rfl
  | cons message rest ih =>
      obtain ⟨first, after⟩ := serve_indistinct message.1 message.2 same
      rw [responses, responses, first, ih after]

end SimpleRpcServer

end Servers

/-! ## Secrets at any depth -/

namespace Leaf

/-- Only the mask of a text is left. -/
def blurred : Leaf → Leaf
  | .str s => .str (maskText s)
  | .url u => .url (maskText u)
  | .secret s => .secret (maskText s)
  | leaf => leaf

/-- What stands directly under the key of a secret, at any depth, is blurred. -/
def redacted (key : Option String) (leaf : Leaf) : Leaf :=
  if key.any (· ∈ secretKeys) then leaf.blurred else leaf

/-- Of a leaf under the key of a secret the response shows what is no `SecretStr`. -/
theorem masked_of_redacted {key : Option String} {a b : Leaf} (same : a.redacted key = b.redacted key)
    (shown : a.rendered = b.rendered) : a.masked = b.masked := by
  unfold redacted at same
  split at same
  · cases a <;> cases b <;> simp_all [blurred, rendered, masked]
  · rw [same]

end Leaf

namespace SchoolAuthorityConfiguration

/-- The configuration without the texts under the keys of secrets. -/
def redacted : SchoolAuthorityConfiguration → SchoolAuthorityConfiguration :=
  mapSettings (fun key v => v.mapLeaves Leaf.redacted (some key)) fun key v hidden => by
    cases v with
    | null | list | dict => rfl
    | atom leaf =>
        by_cases secret : key ∈ secretKeys
        · cases leaf <;> simp_all [mapLeaves, plainToSecret, Leaf.redacted, Leaf.blurred]
        · simpa [mapLeaves, Leaf.redacted, secret] using hidden

theorem dict_redacted (config : SchoolAuthorityConfiguration) :
    config.redacted.dict = mapEntries Leaf.redacted config.dict := by
  have others : mapEntries Leaf.redacted (config.fields []) = config.fields [] := by
    simp only [fields, mapEntries, mapLeaves, Json.strs, mapItems_eq_map, List.map_map]
    rfl
  rw [mapEntries_dict others]
  rfl

theorem masked_of_redacted {config config' : SchoolAuthorityConfiguration}
    (same : config.redacted = config'.redacted)
    (shown : Json.rendered (.dict config.dict) = Json.rendered (.dict config'.dict)) :
    config.masked = config'.masked := by
  have redacted := congrArg dict same
  rw [dict_redacted, dict_redacted] at redacted
  rw [masked_eq_iff]
  apply mapEntries_eq_of_eq (f := Leaf.redacted) (g := fun _ => Leaf.rendered)
  · exact fun _ _ _ => Leaf.masked_of_redacted
  · exact redacted
  · exact Document.dict.inj shown

end SchoolAuthorityConfiguration

namespace SimpleRpcServer

variable [CaseMapping] [Pydantic]

/-- The request for all authorities. -/
def allAuthorities : Option Json := some (.dict [("cmd", Json.str "get_school_authorities")])

/-- The response has the configurations of all queues, sorted by their names. -/
theorem responses_allAuthorities (s : Server) :
    responses [({}, allAuthorities)] s = [.result (some (.list
      ((s.outQueues.queues.insertionSort fun a b => a.schoolAuthority.name ≤ b.schoolAuthority.name).map
        fun q => Json.rendered (.dict q.schoolAuthority.dict))))] := by
  have served : (serve {} allAuthorities s).1 = .result (some (.list
      (((s.outQueues.queues.map OutQueue.schoolAuthority).insertionSort fun a b =>
        a.name ≤ b.name).map fun config => .dict config.dict))) := rfl
  have sorted : (s.outQueues.queues.insertionSort fun a b =>
      a.schoolAuthority.name ≤ b.schoolAuthority.name).map OutQueue.schoolAuthority =
        (s.outQueues.queues.map OutQueue.schoolAuthority).insertionSort fun a b => a.name ≤ b.name :=
    List.map_insertionSort _ _ _ _ fun _ _ _ _ => Iff.rfl
  simp only [responses, served, ← sorted, RpcResponse.rendered, Option.map_some, Json.rendered,
    mapLeaves, mapItems_eq_map, List.map_map, Function.comp_def]

/-- This response already shows what is not hidden by a `SecretStr`. -/
theorem sameUpTo_masked_of_response {s t : Server} (same : s.SameUpTo .redacted t)
    (agree : responses [({}, allAuthorities)] s = responses [({}, allAuthorities)] t) :
    s.SameUpTo .masked t where
  queues := by
    have names : s.outQueues.queues.map (fun q => q.schoolAuthority.name) =
        t.outQueues.queues.map fun q => q.schoolAuthority.name := by
      have shown := congrArg (List.map fun shown => shown.2.name) same.queues
      rw [List.map_map, List.map_map] at shown
      exact shown
    rw [responses_allAuthorities, responses_allAuthorities] at agree
    simp only [List.cons.injEq, RpcResponse.result.injEq, Option.some.injEq, Document.list.injEq,
      and_true] at agree
    have rendered := map_eq_of_sorted names agree
    refine map_eq_of_map_eq (fun q q' redacted shown => ?_) same.queues rendered
    obtain ⟨name, config⟩ := Prod.mk.inj redacted
    exact Prod.ext name (SchoolAuthorityConfiguration.masked_of_redacted config shown)
  mapping := same.mapping
  handlers := same.handlers

/-- Servers that differ only in texts under the keys of secrets, at any depth, answer all
    sequences of requests alike exactly if only values of `SecretStr` differ. -/
theorem responses_agree_iff {s t : Server} (same : s.SameUpTo .redacted t) :
    (∀ messages, responses messages s = responses messages t) ↔ s.SameUpTo .masked t := by
  constructor
  · intro agree
    exact sameUpTo_masked_of_response same (agree _)
  · intro masked messages
    exact responses_indistinct messages masked

end SimpleRpcServer

section Examples

open SimpleRpcServer

attribute [local instance] asciiCaseMapping typedPydantic

/-- A server with an authority whose TLS key has a password of its own. -/
def tlsServer (password keyPassword : String) : Server :=
  (serve {} (some (.dict [("cmd", Json.str "create_school_authority"),
      ("school_authority", .dict [("name", Json.str "Traeger1"),
        ("url", Json.str "https://traeger1/ucsschool/kelvin/v1/"),
        ("plugin_configs", .dict [(kelvin, .dict [("password", Json.str password),
          ("ssl_context", .dict [("password", Json.str keyPassword)])])])])]))
    (.start [(kelvin, some ⟨[], [], []⟩)])).2

theorem tlsServer_shown (look : SchoolAuthorityConfiguration → SchoolAuthorityConfiguration)
    (password keyPassword : String) :
    (tlsServer password keyPassword).outQueues.queues.map (OutQueue.shown look) =
      [("Traeger1", look ⟨"Traeger1", false, "https://traeger1/ucsschool/kelvin/v1/", [],
        [(kelvin, [("password", .atom (.secret password)),
          ("ssl_context", .dict [("password", Json.str keyPassword)])])], rfl⟩)] := rfl

theorem tlsServer_rest (password keyPassword : String) :
    (tlsServer password keyPassword).schoolAuthorityMapping = .empty ∧
      (tlsServer password keyPassword).plugins = [(kelvin, some ⟨[], [], []⟩)] := ⟨rfl, rfl⟩

theorem tlsServer_sameUpTo {look : SchoolAuthorityConfiguration → SchoolAuthorityConfiguration}
    {password keyPassword password' keyPassword' : String}
    (same : (tlsServer password keyPassword).outQueues.queues.map (OutQueue.shown look) =
      (tlsServer password' keyPassword').outQueues.queues.map (OutQueue.shown look)) :
    (tlsServer password keyPassword).SameUpTo look (tlsServer password' keyPassword') where
  queues := same
  mapping := by rw [(tlsServer_rest _ _).1, (tlsServer_rest _ _).1]
  handlers pluginName := by
    simp only [Server.HasHandlers, (tlsServer_rest _ _).2]

/-- Of the two passwords only one is masked. -/
theorem tlsServer_response (password keyPassword : String) :
    responses [({}, allAuthorities)] (tlsServer password keyPassword) =
      [.result (some (.list [.dict [("name", Json.str "Traeger1"), ("active", Json.bool false),
        ("url", Json.str "https://traeger1/ucsschool/kelvin/v1/"), ("plugins", .list []),
        ("plugin_configs", .dict [(kelvin, .dict [("password", Json.str (maskText password)),
          ("ssl_context", .dict [("password", Json.str keyPassword)])])])]]))] := rfl

theorem login_password_hidden :
    responses [({}, allAuthorities)] (tlsServer "s3cr3t" "k3y") =
      responses [({}, allAuthorities)] (tlsServer "hunter2" "k3y") := by
  have redacted : (tlsServer "s3cr3t" "k3y").SameUpTo .redacted (tlsServer "hunter2" "k3y") :=
    tlsServer_sameUpTo (by rw [tlsServer_shown, tlsServer_shown]; rfl)
  have masked : (tlsServer "s3cr3t" "k3y").SameUpTo .masked (tlsServer "hunter2" "k3y") :=
    tlsServer_sameUpTo (by rw [tlsServer_shown, tlsServer_shown]; rfl)
  exact (responses_agree_iff redacted).mpr masked _

/-- The password of the TLS key is shown to whoever may ask for the authorities. -/
theorem key_password_shown :
    (tlsServer "s3cr3t" "k3y").SameUpTo .redacted (tlsServer "s3cr3t" "other") ∧
      responses [({}, allAuthorities)] (tlsServer "s3cr3t" "k3y") ≠
        responses [({}, allAuthorities)] (tlsServer "s3cr3t" "other") := by
  constructor
  · exact tlsServer_sameUpTo (by rw [tlsServer_shown, tlsServer_shown]; rfl)
  · rw [tlsServer_response, tlsServer_response]
    simp [Json.str]

end Examples

end IdConnector
