import IdConnector.Deletion
import IdConnector.Library.Keyed
import IdConnector.SentUids

/-! # What a target stores

A target is only known by its API. `KelvinTarget` says what the calls of a user dispatcher do
to the users there; from this follows what the operations of the dispatcher do to the users
under some uids that nobody else gives to a user.
-/

namespace IdConnector

open Library Library.Keyed

/-- The pair of `record_uid` and `source_uid`. -/
abbrev Uids := String × String

/-- The users at a target. -/
structure UserStore (T User : Type) where
  users : T → Multiset User
  uids : User → Uids

/-- If the request body has both uids, these are they. -/
def Carries (requestBody : JsonObject) (uids : Uids) : Prop :=
  ∀ recordUid sourceUid, requestBody.get "record_uid" = some (Json.str recordUid) →
    requestBody.get "source_uid" = some (Json.str sourceUid) → uids = (recordUid, sourceUid)

variable {T User : Type}

open Action in
/-- Reading does not change the users, the search is exact, and a call that returns has done
    what it is there for. -/
structure KelvinTarget (store : UserStore T User) (outside : Outside T User) : Prop where
  now : ∀ t, store.users (outside.now t).2 = store.users t
  fetchSchools : Keeps store.users outside.fetchSchools
  fetchRoles : Keeps store.users outside.fetchRoles
  handledSchools : Keeps store.users outside.handledSchools
  getSourceUid : Keeps store.users outside.getSourceUid
  randomPassword : Keeps store.users outside.randomPassword
  search : ∀ recordUid sourceUid, Keeps store.users (outside.search recordUid sourceUid)
  exact : ∀ {recordUid sourceUid t t' found},
    exec (outside.search recordUid sourceUid) t = (.ok found, t') →
      (found : Multiset User) =
        (store.users t).filter fun user => store.uids user = (recordUid, sourceUid)
  searchRaises : ∀ {recordUid sourceUid t t' raised},
    exec (outside.search recordUid sourceUid) t = (.error raised, t') →
      ∃ reason, raised = .client reason
  create : ∀ {requestBody t t'}, exec (outside.create requestBody) t = (.ok (), t') →
    ∃ saved, store.users t' = saved ::ₘ store.users t ∧ Carries requestBody (store.uids saved)
  modify : ∀ {requestBody user others t t'}, store.users t = user ::ₘ others →
    exec (outside.modify requestBody user) t = (.ok (), t') →
      ∃ saved, store.users t' = saved ::ₘ others ∧ Carries requestBody (store.uids saved)
  remove : ∀ {user others t t'}, store.users t = user ::ₘ others →
    exec (outside.remove user) t = (.ok (), t') → store.users t' = others

namespace KelvinPerSAUserDispatcher

open Action

/-- The uids at the target that are among the given ones. -/
def stored (store : UserStore T User) (own : List Uids) (s : Handling T User) : Multiset Uids :=
  keysIn store.uids own (store.users s.target)

variable {store : UserStore T User} {outside : Outside T User} {own : List Uids}

theorem stored_congr {s t : Handling T User} (same : store.users t.target = store.users s.target) :
    stored store own t = stored store own s := by
  unfold stored
  rw [same]

/-! ## Searching -/

theorem exec_call_ok {α : Type} {action : Action T HandlerError α} {s t : Handling T User} {a : α}
    (done : exec (call action) s = (.ok a, t)) :
    exec action s.target = (.ok a, t.target) ∧ t = { s with target := t.target } := by
  rw [exec_call] at done
  cases run : exec action s.target with
  | mk result target =>
      rw [run] at done
      cases done
      exact ⟨rfl, rfl⟩

theorem fetchObj_stored (api : KelvinTarget store outside) {recordUid sourceUid : String}
    (member : (recordUid, sourceUid) ∈ own) {s t : Handling T User} {found : Option User}
    (before : stored store own s = 0 ∨ stored store own s = {(recordUid, sourceUid)})
    (done : exec (fetchObj outside recordUid sourceUid) s = (.ok found, t)) :
    store.users t.target = store.users s.target ∧ t.schools = s.schools ∧
      match found with
      | none => stored store own s = 0
      | some user => store.uids user = (recordUid, sourceUid) ∧
          ∃ others, store.users s.target = user ::ₘ others ∧ keysIn store.uids own others = 0 := by
  unfold fetchObj at done
  obtain ⟨users, s₁, searched, rest⟩ := exec_bind_eq_ok.mp done
  obtain ⟨asked, same⟩ := exec_call_ok searched
  have exact_result := api.exact asked
  have kept : store.users s₁.target = store.users s.target := by
    have reading := api.search recordUid sourceUid s.target
    rw [asked] at reading
    exact reading
  have schools : s₁.schools = s.schools := by rw [same]
  split at rest
  · rw [exec_pure] at rest
    cases rest
    refine ⟨kept, schools, ?_⟩
    rcases before with nothing | single
    · exact nothing
    · obtain ⟨user, others, only, _⟩ := filter_eq_singleton single
      rw [only] at exact_result
      exact absurd exact_result (by simp)
  · rw [exec_pure] at rest
    cases rest
    refine ⟨kept, schools, ?_⟩
    rcases before with nothing | single
    · rw [filter_eq_zero nothing member] at exact_result
      exact absurd exact_result (by simp)
    · obtain ⟨user, others, only, split, uids, left⟩ := filter_eq_singleton single
      rw [only] at exact_result
      obtain rfl := by simpa using exact_result
      exact ⟨uids, others, split, left⟩
  · cases rest

/-- The search does not raise `MissingData`, so it is never taken for missing data. -/
theorem fetchObj_raises (api : KelvinTarget store outside) {recordUid sourceUid : String}
    {s t : Handling T User} {raised : HandlerError}
    (failed : exec (fetchObj outside recordUid sourceUid) s = (.error raised, t)) (param : String) :
    raised ≠ .missingData param := by
  unfold fetchObj at failed
  rw [exec_bind, exec_call] at failed
  cases run : exec (outside.search recordUid sourceUid) s.target with
  | mk result target =>
      rw [run] at failed
      cases result with
      | error other =>
          obtain ⟨reason, rfl⟩ := api.searchRaises run
          cases failed
          exact nofun
      | ok users =>
          dsimp only at failed
          split at failed
          · cases failed
          · cases failed
          · cases failed
            exact nofun

theorem isSet_some {uid : String} (set : uid ≠ "") : isSet (some uid) = true := by
  simpa [isSet] using set

/-- `exists_on_target` searches by the uids of the old data, or else by those of the object. -/
theorem exec_existsOnTarget_addModify {obj : ListenerUserAddModifyObject}
    {recordUid sourceUid : String} (record_set : recordUid ≠ "") (source_set : sourceUid ≠ "")
    (record : (formerEntry obj).recordUid = some recordUid)
    (source : (formerEntry obj).sourceUid = some sourceUid) (s : Handling T User) :
    exec (existsOnTarget outside (.addModify obj)) s =
      exec (fetchObj outside recordUid sourceUid) s := by
  have params : exec (searchParams outside (.addModify obj)) s =
      (.ok ⟨some recordUid, some sourceUid⟩, s) := by
    unfold formerEntry at record source
    cases old : obj.oldData with
    | none =>
        simp only [old, Option.getD_none] at record source
        simp [searchParams, listenerParams, listenerParams.overrideParams, old, record, source,
          isSet_some source_set, Dict.get]
    | some entry =>
        simp only [old, Option.getD_some] at record source
        simp [searchParams, listenerParams, listenerParams.overrideParams, old, record, source,
          isSet_some record_set, isSet_some source_set, Dict.get, Dict.set]
  unfold existsOnTarget
  rw [exec_bind_ok _ params]
  simp [isSet_some record_set, isSet_some source_set]

/-- A search that is logged instead of raised still has to return. -/
theorem loggingMissingData_ok {α : Type} {action : Action (Handling T User) HandlerError α}
    {s t : Handling T User} {found : Option α}
    (raises : ∀ raised t', exec action s = (.error raised, t') →
      ∀ param, raised ≠ .missingData param)
    (done : exec (loggingMissingData action) s = (.ok found, t)) :
    ∃ a, found = some a ∧ exec action s = (.ok a, t) := by
  rw [exec_loggingMissingData] at done
  cases run : exec action s with
  | mk result t' =>
      rw [run] at done
      cases result with
      | ok a =>
          cases done
          exact ⟨a, rfl, rfl⟩
      | error raised =>
          cases raised with
          | missingData param => exact absurd rfl (raises _ _ run param)
          | _ => cases done

/-- A search for own uids that does not raise, as `handle_remove` and `do_create_or_update`
    make it. -/
theorem logged_search_stored (api : KelvinTarget store outside)
    {action : Action (Handling T User) HandlerError (Option User)} {recordUid sourceUid : String}
    {s t : Handling T User} {found : Option (Option User)}
    (search : exec action s = exec (fetchObj outside recordUid sourceUid) s)
    (member : (recordUid, sourceUid) ∈ own)
    (before : stored store own s = 0 ∨ stored store own s = {(recordUid, sourceUid)})
    (done : exec (loggingMissingData action) s = (.ok found, t)) :
    store.users t.target = store.users s.target ∧ t.schools = s.schools ∧
      (found = some none ∧ stored store own t = 0 ∨
        ∃ user others, found = some (some user) ∧ store.users t.target = user ::ₘ others ∧
          keysIn store.uids own others = 0) := by
  obtain ⟨result, rfl, searched⟩ := loggingMissingData_ok (by
    rw [search]
    exact fun _ _ => fetchObj_raises api) done
  rw [search] at searched
  obtain ⟨users, schools, at_target⟩ := fetchObj_stored api member before searched
  refine ⟨users, schools, ?_⟩
  cases result with
  | none => exact Or.inl ⟨rfl, (stored_congr users).trans at_target⟩
  | some user =>
      obtain ⟨_, others, split, left⟩ := at_target
      exact Or.inr ⟨user, others, rfl, users.trans split, left⟩

/-! ## Changing the target -/

theorem doRemove_stored (api : KelvinTarget store outside) {user : User} {others : Multiset User}
    {s t : Handling T User} (split : store.users s.target = user ::ₘ others)
    (left : keysIn store.uids own others = 0)
    (done : exec (doRemove outside user) s = (.ok (), t)) :
    stored store own t = 0 ∧ t.schools = s.schools := by
  unfold doRemove at done
  obtain ⟨_, s₁, logged, called⟩ := exec_bind_eq_ok.mp done
  cases logged
  obtain ⟨removed, same⟩ := exec_call_ok called
  refine ⟨?_, by rw [same]⟩
  unfold stored
  rw [api.remove split removed]
  exact left

theorem doModify_stored (api : KelvinTarget store outside) {requestBody : JsonObject} {user : User}
    {others : Multiset User} {s t : Handling T User} {recordUid sourceUid : String}
    (split : store.users s.target = user ::ₘ others) (left : keysIn store.uids own others = 0)
    (record : requestBody.get "record_uid" = some (Json.str recordUid))
    (source : requestBody.get "source_uid" = some (Json.str sourceUid))
    (member : (recordUid, sourceUid) ∈ own)
    (done : exec (doModify outside requestBody user) s = (.ok (), t)) :
    stored store own t = {(recordUid, sourceUid)} ∧ t.schools = s.schools := by
  unfold doModify at done
  obtain ⟨_, s₁, logged, called⟩ := exec_bind_eq_ok.mp done
  cases logged
  obtain ⟨modified, same⟩ := exec_call_ok called
  obtain ⟨saved, users, carries⟩ := api.modify split modified
  have uids := carries _ _ record source
  refine ⟨?_, by rw [same]⟩
  unfold stored
  rw [users, keysIn_cons_own others (uids ▸ member), uids, left]
  rfl

theorem doCreate_stored (api : KelvinTarget store outside) {requestBody : JsonObject}
    {s t : Handling T User} {recordUid sourceUid : String} (nothing : stored store own s = 0)
    (record : requestBody.get "record_uid" = some (Json.str recordUid))
    (source : requestBody.get "source_uid" = some (Json.str sourceUid))
    (member : (recordUid, sourceUid) ∈ own)
    (done : exec (doCreate outside requestBody) s = (.ok (), t)) :
    stored store own t = {(recordUid, sourceUid)} ∧ t.schools = s.schools := by
  unfold doCreate at done
  obtain ⟨_, s₁, logged, called⟩ := exec_bind_eq_ok.mp done
  cases logged
  split at called
  · obtain ⟨created, same⟩ := exec_call_ok called
    obtain ⟨saved, users, carries⟩ := api.create created
    have uids := carries _ _ record source
    refine ⟨?_, by rw [same]⟩
    unfold stored at nothing ⊢
    rw [users, keysIn_cons_own _ (uids ▸ member), uids, nothing]
    rfl
  · simp [raising] at called

theorem handleRemove_stored (api : KelvinTarget store outside) {obj : ListenerUserRemoveObject}
    {old : ListenerUserOldDataEntry} {recordUid sourceUid : String} {s t : Handling T User}
    (has : obj.oldData = some old) (record : old.recordUid = some recordUid)
    (source : old.sourceUid = some sourceUid) (record_set : recordUid ≠ "")
    (source_set : sourceUid ≠ "") (member : (recordUid, sourceUid) ∈ own)
    (before : stored store own s = 0 ∨ stored store own s = {(recordUid, sourceUid)})
    (done : exec (handleRemove outside obj) s = (.ok (), t)) :
    stored store own t = 0 ∧ t.schools = s.schools := by
  have search : exec (existsOnTarget outside (.remove obj)) s =
      exec (fetchObj outside recordUid sourceUid) s := by
    rw [exec_existsOnTarget_remove has, record, source, if_pos (isSet_some source_set),
      if_pos (isSet_some record_set)]
    rfl
  unfold handleRemove at done
  obtain ⟨_, s₁, logged, rest⟩ := exec_bind_eq_ok.mp done
  obtain ⟨_, schools, ⟨rfl, nothing⟩ | ⟨user, others, rfl, split, left⟩⟩ :=
    logged_search_stored api search member before logged
  · cases rest
    exact ⟨nothing, schools⟩
  · obtain ⟨nothing, same⟩ := doRemove_stored api split left rest
    exact ⟨nothing, same.trans schools⟩

/-! ## The cached schools -/

section Dispatching

variable [CaseMapping] {mapped : String → Prop}

/-- The names are, up to case, those of the mapped schools. -/
def KnowsSchools (mapped : String → Prop) (names : List String) : Prop :=
  ∀ school, lower school ∈ names.map lower ↔ mapped school

/-- Nothing is cached or exactly the mapped schools. -/
def ValidCache (mapped : String → Prop) (cache : SchoolCache) : Prop :=
  cache.names = [] ∨ KnowsSchools mapped cache.names.keys

/-- The target reports exactly the mapped schools. -/
def ReportsSchools (mapped : String → Prop) (outside : Outside T User) : Prop :=
  ∀ t names t', exec outside.fetchSchools t = (.ok names, t') → KnowsSchools mapped names

theorem knowsSchools_ofPairs {names : List String} (known : KnowsSchools mapped names) :
    KnowsSchools mapped (Dict.keys (.ofPairs (names.map fun n => (n, n)))) := by
  intro school
  rw [← known school]
  have same_keys : ∀ name, name ∈ Dict.keys (Dict.ofPairs (names.map fun n => (n, n))) ↔
      name ∈ names := by
    intro name
    rw [Dict.ofPairs, Dict.mem_keys_update]
    simp [Dict.keys]
  simp only [List.mem_map, same_keys]

theorem GoesBy.knows {s : Handling T User} {names : Dict String String} {target : T}
    (reports : ReportsSchools mapped outside) (valid : ValidCache mapped s.schools)
    (list : GoesBy outside s names target) : KnowsSchools mapped names.keys := by
  cases list with
  | first unknown answer => exact knowsSchools_ofPairs (reports _ _ _ answer)
  | cached known fresh => exact valid.resolve_left known
  | expired known old answer => exact knowsSchools_ofPairs (reports _ _ _ answer)

theorem hasSchoolAmong_iff {obj : ListenerUserAddModifyObject} {names : List String}
    (known : KnowsSchools mapped names) :
    hasSchoolAmong obj names = true ↔ ∃ school ∈ obj.schools, mapped school := by
  simp [hasSchoolAmong, ← known _]

theorem preserves_refreshSchools (api : KelvinTarget store outside)
    (reports : ReportsSchools mapped outside) (uids : Multiset Uids) :
    Preserves (fun s => stored store own s = uids ∧ ValidCache mapped s.schools)
      (refreshSchools outside) := by
  intro s ⟨same, _⟩
  have kept := api.fetchSchools s.target
  unfold refreshSchools
  simp only [exec_bind, exec_modify, exec_call]
  cases answer : exec outside.fetchSchools s.target with
  | mk result target =>
      rw [answer] at kept
      cases result with
      | error raised => exact ⟨(stored_congr kept).trans same, Or.inl rfl⟩
      | ok names =>
          exact ⟨(stored_congr kept).trans same,
            Or.inr (knowsSchools_ofPairs (reports _ _ _ answer))⟩

/-- Reading neither changes the users nor spoils the cached schools. -/
theorem preservedByReads_stored (api : KelvinTarget store outside)
    (reports : ReportsSchools mapped outside) (uids : Multiset Uids) :
    PreservedByReads outside
      fun s => stored store own s = uids ∧ ValidCache mapped s.schools where
  now s same := ⟨(stored_congr (api.now s.target)).trans same.1, same.2⟩
  refreshSchools := preserves_refreshSchools api reports uids
  creation _ _ same := same
  fetchRoles s same := ⟨(stored_congr (api.fetchRoles s.target)).trans same.1, same.2⟩
  roles _ _ same := same
  search recordUid sourceUid s same :=
    ⟨(stored_congr (api.search recordUid sourceUid s.target)).trans same.1, same.2⟩
  handledSchools s same := ⟨(stored_congr (api.handledSchools s.target)).trans same.1, same.2⟩
  getSourceUid s same := ⟨(stored_congr (api.getSourceUid s.target)).trans same.1, same.2⟩
  randomPassword s same := ⟨(stored_congr (api.randomPassword s.target)).trans same.1, same.2⟩

/-! ## Handling an object -/

/-- Both uids are set and own ones. -/
structure OwnUids (own : List Uids) (recordUid sourceUid : Option String) (uids : Uids) : Prop where
  record : recordUid = some uids.1
  source : sourceUid = some uids.2
  record_set : uids.1 ≠ ""
  source_set : uids.2 ≠ ""
  member : uids ∈ own

variable {self : Dispatcher} {env : LdapEnvironment} {obj : ListenerUserAddModifyObject}
  {uids former : Uids} {s t : Handling T User}

theorem doCreateOrUpdate_stored (api : KelvinTarget store outside)
    (reports : ReportsSchools mapped outside) (sends : SendsUids self.attributeMapping)
    (has : OwnUids own obj.recordUid obj.sourceUid uids)
    (had : OwnUids own (formerEntry obj).recordUid (formerEntry obj).sourceUid former)
    (before : stored store own s = 0 ∨ stored store own s = {former})
    (valid : ValidCache mapped s.schools)
    (done : exec (doCreateOrUpdate outside self env obj) s = (.ok (), t)) :
    stored store own t = {uids} ∧ ValidCache mapped t.schools := by
  unfold doCreateOrUpdate at done
  obtain ⟨requestBody, s₁, computed, rest⟩ := exec_bind_eq_ok.mp done
  have reading := preserves_mapAttributes self env obj
    (preservedByServices (preservedByReads_stored api reports (stored store own s)))
    self.attributeMapping s ⟨rfl, valid⟩
  rw [computed] at reading
  obtain ⟨same, valid₁⟩ := reading
  obtain ⟨record, source⟩ := mapAttributes_sends sends has.record has.source has.source_set computed
  obtain ⟨_, s₂, logged, rest⟩ := exec_bind_eq_ok.mp rest
  have search : exec (existsOnTarget outside (.addModify obj)) s₁ =
      exec (fetchObj outside former.1 former.2) s₁ :=
    exec_existsOnTarget_addModify had.record_set had.source_set had.record had.source s₁
  obtain ⟨_, schools, ⟨rfl, nothing⟩ | ⟨user, others, rfl, split, left⟩⟩ :=
    logged_search_stored api search had.member (same.symm ▸ before) logged
  · obtain ⟨created, kept⟩ := doCreate_stored api nothing record source has.member rest
    exact ⟨created, by rw [kept, schools]; exact valid₁⟩
  · obtain ⟨modified, kept⟩ := doModify_stored api split left record source has.member rest
    exact ⟨modified, by rw [kept, schools]; exact valid₁⟩

omit [CaseMapping] in
theorem handleHasNoSchools_stored (api : KelvinTarget store outside)
    (had : OwnUids own (formerEntry obj).recordUid (formerEntry obj).sourceUid former)
    (before : stored store own s = 0 ∨ stored store own s = {former})
    (done : exec (handleHasNoSchools outside obj) s = (.ok (), t)) :
    stored store own t = 0 ∧ t.schools = s.schools := by
  unfold handleHasNoSchools username at done
  cases name : obj.object.get "username" with
  | none => simp [name, raising] at done
  | some text =>
      rw [name, exec_bind_ok _ (exec_pure _ s)] at done
      exact handleRemove_stored api rfl had.record had.source had.record_set had.source_set
        had.member before done

/-- After an object has been handled the target holds its uids if one of its schools is
    mapped to it, and none of the own uids otherwise. -/
theorem handleCreateOrUpdate_stored (api : KelvinTarget store outside)
    (reports : ReportsSchools mapped outside) (sends : SendsUids self.attributeMapping)
    (has : OwnUids own obj.recordUid obj.sourceUid uids)
    (had : OwnUids own (formerEntry obj).recordUid (formerEntry obj).sourceUid former)
    (before : stored store own s = 0 ∨ stored store own s = {former})
    (valid : ValidCache mapped s.schools)
    (done : exec (handleCreateOrUpdate outside self env obj) s = (.ok (), t)) :
    ((∃ school ∈ obj.schools, mapped school) → stored store own t = {uids}) ∧
      ((¬ ∃ school ∈ obj.schools, mapped school) → stored store own t = 0) ∧
      ValidCache mapped t.schools := by
  have reads : PreservedByReads outside fun other =>
      stored store own other = stored store own s ∧ ValidCache mapped other.schools :=
    preservedByReads_stored api reports _
  cases listed : exec (schoolsIdsOnTarget outside) s with
  | mk result s₁ =>
      have reading := preserves_schoolsIdsOnTarget reads s ⟨rfl, valid⟩
      rw [listed] at reading
      obtain ⟨same, valid₁⟩ := reading
      cases result with
      | error raised =>
          rw [exec_handleCreateOrUpdate_error self env listed] at done
          cases done
      | ok names =>
          have known := GoesBy.knows reports valid (goesBy_iff.mpr ⟨s₁, listed, rfl⟩)
          have among : hasSchoolAmong obj names.keys = true ↔ _ := hasSchoolAmong_iff known
          cases has_school : hasSchoolAmong obj names.keys with
          | true =>
              rw [exec_handleCreateOrUpdate_known self env listed has_school] at done
              obtain ⟨_, s₂, printed, rest⟩ := exec_bind_eq_ok.mp done
              have reading := preserves_printIds reads obj s₁ ⟨same, valid₁⟩
              rw [printed] at reading
              obtain ⟨after, kept⟩ := doCreateOrUpdate_stored api reports sends has had
                (reading.1.symm ▸ before) reading.2 rest
              exact ⟨fun _ => after, fun nowhere => absurd (among.mp has_school) nowhere, kept⟩
          | false =>
              rw [exec_handleCreateOrUpdate_unknown self env listed has_school] at done
              obtain ⟨after, kept⟩ := handleHasNoSchools_stored api had (same.symm ▸ before) done
              have nowhere : ¬ ∃ school ∈ obj.schools, mapped school := by
                rw [← among, has_school]
                exact Bool.false_ne_true
              exact ⟨fun somewhere => absurd somewhere nowhere, fun _ => after, kept ▸ valid₁⟩

end Dispatching

end KelvinPerSAUserDispatcher

end IdConnector
