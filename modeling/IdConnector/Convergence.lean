import IdConnector.Independence
import IdConnector.OldData
import IdConnector.Targets

/-! # Convergence of a user

Every event of one user passes through the in-queue, which adds the old data and chooses the
school authorities, and then through the dispatchers of these. After any history of events
the targets hold the user exactly where the last event says. The invariant ties the database
of the in-queue to the targets: its entry for the user has the uids under which the user is
stored, and names all schools on whose account it is stored anywhere.
-/

namespace IdConnector

open Library Library.Keyed Library.Action KelvinPerSAUserDispatcher

/-- The database of the in-queue, and the dispatcher of each school authority. -/
structure World (T User : Type) where
  oldData : OldDataDB ListenerUserOldDataEntry
  handling : (authority : String) → Handling T User

/-- An object when it arrives, and the password hashes that LDAP has for it. -/
structure Arrival where
  obj : ListenerUserObject
  now : Nat
  passwords : Option UserPasswords

namespace ListenerUserObject

def listenerObject : ListenerUserObject → ListenerObject
  | addModify obj => .userAddModify obj
  | remove obj => .userRemove obj

end ListenerUserObject

/-- The `preprocess_*` hooks for users. -/
def preprocess (db : OldDataDB ListenerUserOldDataEntry) (arrival : Arrival) :
    ListenerUserObject × OldDataDB ListenerUserOldDataEntry :=
  match arrival.obj with
  | .addModify obj =>
      let processed := preprocessAddModObject userObjectHandler db arrival.now arrival.passwords obj
      (.addModify processed.1, processed.2.1)
  | .remove obj =>
      let processed := preprocessRemoveObject userObjectHandler db arrival.now obj
      (.remove processed.1, processed.2.1)

section Histories

variable [CaseMapping] {T User : Type}

/-- What stays the same over a history. -/
structure Setting (T User : Type) where
  inQueue : InQueue
  env : LdapEnvironment
  dispatcher : (authority : String) → Dispatcher
  outside : (authority : String) → Outside T User
  store : UserStore T User

namespace Setting

variable (S : Setting T User)

def authorityOf (school : String) : Option String :=
  S.inQueue.schoolAuthorityMapping.entries.get (lower school)

/-- The authorities that get the object. -/
def selected (obj : ListenerUserObject) : List String :=
  schoolAuthoritiesToDistributeTo S.env S.inQueue obj.listenerObject

/-- `UserDispatcherPluginBase.handle_listener_object` -/
def handleListenerObject (authority : String) :
    ListenerUserObject → Action (Handling T User) HandlerError Unit
  | .addModify obj =>
      handleCreateOrUpdate (S.outside authority) (S.dispatcher authority) S.env obj
  | .remove obj => handleRemove (S.outside authority) obj

/-- An object passes through the in-queue and the selected dispatchers. -/
def process (w : World T User) (arrival : Arrival) : World T User :=
  let preprocessed := preprocess w.oldData arrival
  { oldData := preprocessed.2
    handling := fun authority =>
      if authority ∈ S.selected preprocessed.1 then
        (exec (S.handleListenerObject authority preprocessed.1) (w.handling authority)).2
      else w.handling authority }

/-- No selected dispatcher raises. -/
def Succeeds (w : World T User) (arrival : Arrival) : Prop :=
  ∀ authority ∈ S.selected (preprocess w.oldData arrival).1,
    (exec (S.handleListenerObject authority (preprocess w.oldData arrival).1)
      (w.handling authority)).1 = .ok ()

/-- Some school is mapped to the authority. -/
def Mapped (authority : String) : Prop := ∃ school, S.authorityOf school = some authority

/-- Mapped authorities have an active out queue of the Kelvin plugin and a target that knows
    exactly their schools, and the uids are sent to it. -/
structure Connected : Prop where
  queues : ∀ authority, S.Mapped authority → ∃ out ∈ S.inQueue.outQueues,
    out.schoolAuthority.name = authority ∧ kelvin ∈ out.schoolAuthority.plugins ∧
      out.schoolAuthority.active = true
  api : ∀ authority, S.Mapped authority → KelvinTarget S.store (S.outside authority)
  reports : ∀ authority, S.Mapped authority →
    ReportsSchools (fun school => S.authorityOf school = some authority) (S.outside authority)
  sends : ∀ authority, S.Mapped authority → SendsUids (S.dispatcher authority).attributeMapping

end Setting

/-- The objects of the history come with set uids that nobody else has. -/
def HasOwnUids (own : List Uids) : ListenerUserObject → Prop
  | .addModify obj => ∃ uids, OwnUids own obj.recordUid obj.sourceUid uids
  | .remove _ => True

/-- Something else happens: the targets keep the users with the given uids, and the database
    its entry. -/
structure Elsewhere (S : Setting T User) (own : List Uids) (id : String) (w w' : World T User) :
    Prop where
  entry : w'.oldData.entries.get id = w.oldData.entries.get id
  users : ∀ authority,
    stored S.store own (w'.handling authority) = stored S.store own (w.handling authority)
  cache : ∀ authority,
    ValidCache (fun school => S.authorityOf school = some authority)
        (w.handling authority).schools →
      ValidCache (fun school => S.authorityOf school = some authority)
        (w'.handling authority).schools

/-- The world follows from a history of events of the user with this id. -/
inductive Follows (S : Setting T User) (own : List Uids) (id : String) :
    List ListenerUserObject → World T User → Prop
  | start {w : World T User} (unknown : w.oldData.entries.get id = none)
      (absent : ∀ authority, stored S.store own (w.handling authority) = 0)
      (cache : ∀ authority, ValidCache (fun school => S.authorityOf school = some authority)
        (w.handling authority).schools) : Follows S own id [] w
  | event {history : List ListenerUserObject} {w : World T User}
      (before : Follows S own id history w) (arrival : Arrival) (of_user : arrival.obj.id = id) (has : HasOwnUids own arrival.obj)
      (succeeds : S.Succeeds w arrival) :
      Follows S own id (history ++ [arrival.obj]) (S.process w arrival)
  | elsewhere {history : List ListenerUserObject} {w w' : World T User}
      (before : Follows S own id history w) (other : Elsewhere S own id w w') :
      Follows S own id history w'

/-! ## What should be stored -/

def uidsOf (obj : ListenerUserAddModifyObject) : Uids :=
  (obj.recordUid.getD "", obj.sourceUid.getD "")

/-- The last event decides: the user belongs to the authorities of its schools. -/
def wanted (S : Setting T User) (history : List ListenerUserObject) (authority : String) :
    Multiset Uids :=
  match history.getLast? with
  | some (.addModify obj) =>
      if ∃ school ∈ obj.schools, S.authorityOf school = some authority then {uidsOf obj} else 0
  | some (.remove _) | none => 0

/-- The invariant of a history. -/
structure Synced (S : Setting T User) (own : List Uids) (id : String)
    (history : List ListenerUserObject) (w : World T User) : Prop where
  cache : ∀ authority, ValidCache (fun school => S.authorityOf school = some authority)
    (w.handling authority).schools
  entry : ∀ obj, history.getLast? = some (.addModify obj) →
    w.oldData.entries.get id = some (userObjectHandler.entry obj, none)
  known : ∀ entry, w.oldData.entries.get id = some entry →
    ∃ uids, OwnUids own entry.1.recordUid entry.1.sourceUid uids
  users : ∀ authority, stored S.store own (w.handling authority) = wanted S history authority

variable {S : Setting T User} {own : List Uids} {id : String}

omit [CaseMapping] in
theorem uidsOf_own {obj : ListenerUserAddModifyObject} {uids : Uids}
    (has : OwnUids own obj.recordUid obj.sourceUid uids) : uidsOf obj = uids := by
  simp [uidsOf, has.record, has.source]

@[simp] theorem wanted_addModify (history : List ListenerUserObject)
    (obj : ListenerUserAddModifyObject) (authority : String) :
    wanted S (history ++ [.addModify obj]) authority =
      if ∃ school ∈ obj.schools, S.authorityOf school = some authority then {uidsOf obj}
      else 0 := by
  simp [wanted]

@[simp] theorem wanted_remove (history : List ListenerUserObject) (obj : ListenerUserRemoveObject)
    (authority : String) : wanted S (history ++ [.remove obj]) authority = 0 := by
  simp [wanted]

theorem mem_selected (connected : S.Connected) {obj : ListenerUserObject} {authority : String} :
    authority ∈ S.selected obj ↔
      ∃ school ∈ obj.listenerObject.routedSchools, S.authorityOf school = some authority := by
  have no_class (pluginName : String) :
      groupAuthorities S.env pluginName S.inQueue obj.listenerObject = [] := by
    cases obj <;> rfl
  unfold Setting.selected
  rw [mem_schoolAuthoritiesToDistributeTo_iff]
  simp only [no_class, List.not_mem_nil, or_false]
  constructor
  · exact And.right
  · intro ⟨school, member, mapped⟩
    obtain ⟨out, registered, _, plugin, active⟩ := connected.queues authority ⟨school, mapped⟩
    exact ⟨⟨out, registered, plugin, active⟩, school, member, mapped⟩

/-! ## What the database knows -/

omit [CaseMapping] in
theorem get_some {db : OldDataDB ListenerUserOldDataEntry} {now : Nat}
    {entry : ListenerUserOldDataEntry} (found : db.get now id = some entry) :
    ∃ expires, db.entries.get id = some (entry, expires) := by
  obtain ⟨⟨other, expires⟩, present, rfl⟩ := Option.map_eq_some_iff.mp found
  exact ⟨expires, (Option.filter_eq_some_iff.mp present).1⟩

omit [CaseMapping] in
theorem removed_entry {db : OldDataDB ListenerUserOldDataEntry} {now : Nat}
    {obj : ListenerUserRemoveObject} {entry : ListenerUserOldDataEntry × Option Nat}
    (present : (preprocessRemoveObject userObjectHandler db now obj).2.1.entries.get obj.id =
      some entry) : db.entries.get obj.id = some entry ∨ db.get now obj.id = some entry.1 := by
  have same_id : userObjectHandler.removedId obj = obj.id := rfl
  unfold preprocessRemoveObject at present
  cases found : db.get now obj.id with
  | none =>
      left
      simpa [same_id, found] using present
  | some old =>
      right
      simp only [same_id, found, OldDataDB.touch, Option.isSome_some, if_true,
        Dict.get_set_self, Option.some.injEq] at present
      rw [← present]

variable {history : List ListenerUserObject} {w : World T User} {now : Nat}

/-- The entry that is found has the uids of the user and the schools by which it is stored. -/
theorem Synced.found (synced : Synced S own id history w) {entry : ListenerUserOldDataEntry}
    (found : w.oldData.get now id = some entry) :
    (∃ uids, OwnUids own entry.recordUid entry.sourceUid uids ∧ ∀ authority,
      stored S.store own (w.handling authority) = 0 ∨
        stored S.store own (w.handling authority) = {uids}) ∧
    ∀ authority, (¬ ∃ school ∈ entry.schools, S.authorityOf school = some authority) →
      stored S.store own (w.handling authority) = 0 := by
  obtain ⟨expires, present⟩ := get_some found
  obtain ⟨uids, has⟩ := synced.known _ present
  simp only [synced.users, wanted]
  cases last : history.getLast? with
  | none => exact ⟨⟨uids, has, fun _ => Or.inl rfl⟩, fun _ _ => rfl⟩
  | some event =>
      cases event with
      | remove obj => exact ⟨⟨uids, has, fun _ => Or.inl rfl⟩, fun _ _ => rfl⟩
      | addModify obj =>
          have latest := synced.entry obj last
          rw [present] at latest
          cases latest
          refine ⟨⟨uids, has, ?_⟩, ?_⟩
          · intro authority
            dsimp only
            rw [uidsOf_own has]
            split
            · exact Or.inr rfl
            · exact Or.inl rfl
          · intro authority nowhere
            exact if_neg nowhere

theorem Synced.not_found (synced : Synced S own id history w)
    (missing : w.oldData.get now id = none) (authority : String) :
    stored S.store own (w.handling authority) = 0 := by
  simp only [synced.users, wanted]
  cases last : history.getLast? with
  | none => rfl
  | some event =>
      cases event with
      | remove obj => rfl
      | addModify obj =>
          have latest := synced.entry obj last
          simp [OldDataDB.get, OldDataDB.live, latest] at missing

/-! ## One event -/

theorem mapped_of_selected (connected : S.Connected) {obj : ListenerUserObject} {authority : String}
    (selected : authority ∈ S.selected obj) : S.Mapped authority := by
  obtain ⟨school, _, mapped⟩ := (mem_selected connected).mp selected
  exact ⟨school, mapped⟩

/-- The uids by which a preprocessed object is searched for are those that may be stored. -/
theorem Synced.former (synced : Synced S own id history w) {obj : ListenerUserAddModifyObject}
    {uids : Uids} (old : obj.oldData = w.oldData.get now id)
    (has : OwnUids own obj.recordUid obj.sourceUid uids) (authority : String) :
    ∃ former, OwnUids own (formerEntry obj).recordUid (formerEntry obj).sourceUid former ∧
      (stored S.store own (w.handling authority) = 0 ∨
        stored S.store own (w.handling authority) = {former}) := by
  unfold formerEntry
  rw [old]
  cases found : w.oldData.get now id with
  | none => exact ⟨uids, has, Or.inl (synced.not_found found authority)⟩
  | some entry =>
      obtain ⟨⟨former, had, before⟩, _⟩ := synced.found found
      exact ⟨former, had, before authority⟩

/-- An authority that is not selected does not store the user. -/
theorem Synced.passed_over (synced : Synced S own id history w) (now : Nat) {authority : String}
    (nowhere : ¬ ∃ school ∈
      ((w.oldData.get now id).map ListenerUserOldDataEntry.schools).getD [],
        S.authorityOf school = some authority) :
    stored S.store own (w.handling authority) = 0 := by
  cases found : w.oldData.get now id with
  | none => exact synced.not_found found authority
  | some entry =>
      rw [found] at nowhere
      exact (synced.found found).2 authority nowhere

theorem Synced.addModify_at (connected : S.Connected) (synced : Synced S own id history w)
    {obj : ListenerUserAddModifyObject} {uids : Uids} (old : obj.oldData = w.oldData.get now id)
    (has : OwnUids own obj.recordUid obj.sourceUid uids) {authority : String}
    {t : Handling T User}
    (handled : if authority ∈ S.selected (.addModify obj) then
        exec (S.handleListenerObject authority (.addModify obj)) (w.handling authority) =
          (.ok (), t)
      else t = w.handling authority) :
    stored S.store own t = wanted S (history ++ [.addModify obj]) authority ∧
      ValidCache (fun school => S.authorityOf school = some authority) t.schools := by
  rw [wanted_addModify, uidsOf_own has]
  split at handled
  next selected =>
    have mapped := mapped_of_selected connected selected
    obtain ⟨former, had, before⟩ := synced.former old has authority
    obtain ⟨somewhere, nowhere, valid⟩ := handleCreateOrUpdate_stored
      (connected.api authority mapped) (connected.reports authority mapped)
      (connected.sends authority mapped) has had before (synced.cache authority) handled
    refine ⟨?_, valid⟩
    split
    next here => exact somewhere here
    next elsewhere => exact nowhere elsewhere
  next passed =>
    subst handled
    rw [mem_selected connected] at passed
    refine ⟨?_, synced.cache authority⟩
    rw [if_neg]
    · apply synced.passed_over now
      intro ⟨school, member, mapped⟩
      refine passed ⟨school, List.mem_append_right _ ?_, mapped⟩
      rw [old]
      exact member
    · intro ⟨school, member, mapped⟩
      exact passed ⟨school, List.mem_append_left _ member, mapped⟩

theorem Synced.remove_at (connected : S.Connected) (synced : Synced S own id history w)
    {obj : ListenerUserRemoveObject} (old : obj.oldData = w.oldData.get now id) {authority : String}
    {t : Handling T User}
    (handled : if authority ∈ S.selected (.remove obj) then
        exec (S.handleListenerObject authority (.remove obj)) (w.handling authority) = (.ok (), t)
      else t = w.handling authority) :
    stored S.store own t = 0 ∧
      ValidCache (fun school => S.authorityOf school = some authority) t.schools := by
  split at handled
  next selected =>
    have mapped := mapped_of_selected connected selected
    cases found : w.oldData.get now id with
    | none =>
        obtain ⟨school, member, _⟩ := (mem_selected connected).mp selected
        simp [ListenerUserObject.listenerObject, ListenerObject.routedSchools, old, found] at member
    | some entry =>
        obtain ⟨⟨uids, had, before⟩, _⟩ := synced.found found
        obtain ⟨nothing, same⟩ := handleRemove_stored (connected.api authority mapped)
          (old.trans found) had.record had.source had.record_set had.source_set had.member
          (before authority) handled
        exact ⟨nothing, same ▸ synced.cache authority⟩
  next passed =>
    subst handled
    rw [mem_selected connected] at passed
    refine ⟨?_, synced.cache authority⟩
    apply synced.passed_over now
    rintro ⟨school, member, mapped⟩
    refine passed ⟨school, ?_, mapped⟩
    simp only [ListenerUserObject.listenerObject, ListenerObject.routedSchools, old]
    exact member

theorem process_handled {arrival : Arrival} (succeeds : S.Succeeds w arrival) (authority : String) :
    if authority ∈ S.selected (preprocess w.oldData arrival).1 then
      exec (S.handleListenerObject authority (preprocess w.oldData arrival).1)
        (w.handling authority) = (.ok (), (S.process w arrival).handling authority)
    else (S.process w arrival).handling authority = w.handling authority := by
  unfold Setting.process
  split
  next selected =>
    simp only [if_pos selected]
    exact Prod.ext (succeeds authority selected) rfl
  next passed => simp only [if_neg passed]

theorem Synced.event (connected : S.Connected) (synced : Synced S own id history w)
    {arrival : Arrival} (of_user : arrival.obj.id = id) (has : HasOwnUids own arrival.obj)
    (succeeds : S.Succeeds w arrival) :
    Synced S own id (history ++ [arrival.obj]) (S.process w arrival) := by
  have handled := process_handled succeeds
  obtain ⟨obj, now, passwords⟩ := arrival
  cases obj with
  | addModify obj =>
      obtain ⟨uids, has⟩ := has
      have written : (S.process w ⟨.addModify obj, now, passwords⟩).oldData.entries.get obj.id =
          some (userObjectHandler.entry obj, none) := by
        show (preprocessAddModObject userObjectHandler w.oldData now passwords obj).2.1.entries.get
          obj.id = _
        rw [preprocessAddModObject_db]
        exact Dict.get_set_self _ _ _
      obtain rfl : obj.id = id := of_user
      have after := fun authority => synced.addModify_at connected
        (oldData_preprocessAddModObject userObjectHandler w.oldData now passwords obj) has
        (handled authority)
      refine ⟨fun authority => (after authority).2, ?_, ?_, ?_⟩
      · intro latest last
        obtain rfl : obj = latest := by simpa using last
        exact written
      · intro entry present
        obtain rfl := Option.some.inj (written.symm.trans present)
        exact ⟨uids, has⟩
      · intro authority
        refine (after authority).1.trans ?_
        rw [wanted_addModify, wanted_addModify]
        rfl
  | remove obj =>
      obtain rfl : obj.id = id := of_user
      have old : (preprocessRemoveObject userObjectHandler w.oldData now obj).1.oldData =
          w.oldData.get now obj.id := rfl
      have after := fun authority => synced.remove_at connected old (handled authority)
      refine ⟨fun authority => (after authority).2, by simp, ?_, ?_⟩
      · intro entry present
        rcases removed_entry present with same | found
        · exact synced.known entry same
        · obtain ⟨⟨uids, had, _⟩, _⟩ := synced.found found
          exact ⟨uids, had⟩
      · intro authority
        rw [wanted_remove]
        exact (after authority).1

theorem Synced.elsewhere (synced : Synced S own id history w) {w' : World T User}
    (other : Elsewhere S own id w w') : Synced S own id history w' where
  cache authority := other.cache authority (synced.cache authority)
  entry obj last := other.entry.trans (synced.entry obj last)
  known entry present := synced.known entry (other.entry ▸ present)
  users authority := (other.users authority).trans (synced.users authority)

theorem Follows.synced (connected : S.Connected) (follows : Follows S own id history w) :
    Synced S own id history w := by
  induction follows with
  | start unknown absent cache =>
      exact ⟨cache, by simp, by simp [unknown], absent⟩
  | event before arrival of_user has succeeds ih => exact ih.event connected of_user has succeeds
  | elsewhere before other ih => exact ih.elsewhere other

/-- After every history a target holds the user exactly if the last event says so, and then
    once, with the uids of that event. -/
theorem Follows.converges (connected : S.Connected) (follows : Follows S own id history w)
    (authority : String) :
    ((∃ user ∈ S.store.users (w.handling authority).target, S.store.uids user ∈ own) ↔
      ∃ obj, history.getLast? = some (.addModify obj) ∧
        ∃ school ∈ obj.schools, S.authorityOf school = some authority) ∧
    ∀ obj, history.getLast? = some (.addModify obj) →
      (∃ school ∈ obj.schools, S.authorityOf school = some authority) →
        ∃ user others, S.store.users (w.handling authority).target = user ::ₘ others ∧
          obj.recordUid = some (S.store.uids user).1 ∧
          obj.sourceUid = some (S.store.uids user).2 ∧
          ∀ other ∈ others, S.store.uids other ∉ own := by
  have synced := follows.synced connected
  have users := synced.users authority
  have single : ∀ obj, history.getLast? = some (.addModify obj) →
      (∃ school ∈ obj.schools, S.authorityOf school = some authority) →
        stored S.store own (w.handling authority) = {uidsOf obj} := by
    intro obj last somewhere
    rw [users, wanted, last]
    exact if_pos somewhere
  constructor
  · constructor
    · intro ⟨user, present, member⟩
      have used : stored S.store own (w.handling authority) ≠ 0 :=
        fun nothing => keysIn_eq_zero_iff.mp nothing user present member
      rw [users, wanted] at used
      split at used
      next obj last =>
        split at used
        next somewhere => exact ⟨obj, last, somewhere⟩
        next => exact absurd rfl used
      next => exact absurd rfl used
      next => exact absurd rfl used
    · intro ⟨obj, last, somewhere⟩
      have used : uidsOf obj ∈ stored S.store own (w.handling authority) := by
        simp [single obj last somewhere]
      obtain ⟨member, user, present, same⟩ := mem_keysIn.mp used
      exact ⟨user, present, same ▸ member⟩
  · intro obj last somewhere
    obtain ⟨user, others, _, split, same, left⟩ := filter_eq_singleton (single obj last somewhere)
    obtain ⟨uids, has⟩ := synced.known _ (synced.entry obj last)
    have uids_eq := same.trans (uidsOf_own has)
    exact ⟨user, others, split, uids_eq ▸ has.record, uids_eq ▸ has.source,
      keysIn_eq_zero_iff.mp left⟩

end Histories

section Examples

attribute [local instance] asciiCaseMapping

/-- A user of the example target. -/
structure RemoteUser where
  name : String
  uids : Uids
  deriving DecidableEq

/-- What is in a request body as a string. -/
def sent (requestBody : JsonObject) (key default : String) : String :=
  ((requestBody.get key).bind Json.str?).getD default

def demoSchools (authority : String) : List String :=
  if authority = "Traeger1" then ["DEMOSCHOOL"] else if authority = "Traeger2" then ["GYMNASIUM"]
  else []

/-- A target that just stores its users. -/
def demoTarget (authority : String) : Outside (List RemoteUser) RemoteUser where
  now users := (700, users)
  fetchSchools := pure (demoSchools authority)
  fetchRoles := pure ["student", "teacher"]
  search recordUid sourceUid := do
    return (← get).filter fun user => user.uids = (recordUid, sourceUid)
  create requestBody := modify fun users =>
    ⟨sent requestBody "name" "", sent requestBody "record_uid" "", sent requestBody "source_uid" ""⟩
      :: users
  modify requestBody user := modify fun users =>
    ⟨sent requestBody "name" user.name, sent requestBody "record_uid" user.uids.1,
      sent requestBody "source_uid" user.uids.2⟩ :: users.erase user
  remove user := modify fun users => users.erase user
  handledSchools := pure ((demoSchools authority).map lower)
  getSourceUid := pure "TESTID"
  randomPassword := pure "abc.def-ghi_jkl"

def demoStore : UserStore (List RemoteUser) RemoteUser where
  users users := users
  uids user := user.uids

private theorem erase_split {users : List RemoteUser} {user : RemoteUser}
    {others : Multiset RemoteUser} (split : (users : Multiset RemoteUser) = user ::ₘ others) :
    ((users.erase user : List RemoteUser) : Multiset RemoteUser) = others := by
  rw [← Multiset.coe_erase, split, Multiset.erase_cons_head]

theorem demoTarget_api (authority : String) : KelvinTarget demoStore (demoTarget authority) where
  now _ := rfl
  fetchSchools _ := rfl
  fetchRoles _ := rfl
  handledSchools _ := rfl
  getSourceUid _ := rfl
  randomPassword _ := rfl
  search _ _ _ := rfl
  exact := by
    intro recordUid sourceUid t t' found done
    cases done
    exact (Multiset.filter_coe _ _).symm
  searchRaises := by
    intro recordUid sourceUid t t' raised failed
    cases failed
  create := by
    intro requestBody t t' done
    cases done
    refine ⟨_, rfl, ?_⟩
    intro recordUid sourceUid record source
    simp [demoStore, sent, record, source, Json.str, Json.str?]
  modify := by
    intro requestBody user others t t' split done
    cases done
    refine ⟨⟨sent requestBody "name" user.name, sent requestBody "record_uid" user.uids.1,
      sent requestBody "source_uid" user.uids.2⟩, ?_, ?_⟩
    · rw [← erase_split split]
      rfl
    · intro recordUid sourceUid record source
      simp [demoStore, sent, record, source, Json.str, Json.str?]
  remove := by
    intro user others t t' split done
    cases done
    exact erase_split split

/-- Two authorities with a school each. -/
def demoInQueue : InQueue :=
  { demoQueuePair [kelvin] true with
    schoolAuthorityMapping :=
      { entries := [("demoschool", "Traeger1"), ("gymnasium", "Traeger2")]
        distinct := by decide
        lowered := by decide } }

def demoUsersMapping : List (String × Json) :=
  [("username", Json.str "name"), ("schools", Json.str "schools"),
    ("ucsschoolRecordUID", Json.str "record_uid"), ("ucsschoolSourceUID", Json.str "source_uid")]

def demoSetting : Setting (List RemoteUser) RemoteUser where
  inQueue := demoInQueue
  env := demoEnvironment
  dispatcher authority :=
    { demoDispatcher with
      schoolAuthority :=
        ⟨authority, true, "https://traeger/ucsschool/kelvin/v1/", [kelvin],
          [(kelvin, [("sync_password_hashes", Json.bool false)])], rfl⟩
      attributeMapping := .dict [("users", .dict demoUsersMapping)] }
  outside := demoTarget
  store := demoStore

private theorem demo_authorityOf (school : String) :
    demoSetting.authorityOf school =
      if lower school = "demoschool" then some "Traeger1"
      else if lower school = "gymnasium" then some "Traeger2" else none := by
  simp only [Setting.authorityOf, demoSetting, demoInQueue, Dict.get_cons, Dict.get_nil,
    eq_comm (a := lower school)]

private theorem demo_mapped {authority : String} (mapped : demoSetting.Mapped authority) :
    authority = "Traeger1" ∨ authority = "Traeger2" := by
  obtain ⟨school, found⟩ := mapped
  rw [demo_authorityOf] at found
  grind

theorem demoSetting_connected : demoSetting.Connected where
  queues := by
    intro authority mapped
    rcases demo_mapped mapped with rfl | rfl
    · exact ⟨_, List.mem_cons_self, rfl, List.mem_cons_self, rfl⟩
    · exact ⟨_, List.mem_cons_of_mem _ List.mem_cons_self, rfl, List.mem_cons_self, rfl⟩
  api authority _ := demoTarget_api authority
  reports := by
    intro authority mapped t names t' answer
    cases answer
    intro school
    simp only [demo_authorityOf]
    have first : lower "DEMOSCHOOL" = "demoschool" := by decide
    have second : lower "GYMNASIUM" = "gymnasium" := by decide
    rcases demo_mapped mapped with rfl | rfl
    · simp only [demoSchools, if_true, List.map_cons, List.map_nil, first, List.mem_singleton]
      grind
    · simp [demoSchools, second]
      grind
  sends := by
    intro authority _ key known entries found
    have users : entries = demoUsersMapping := by
      simp only [demoSetting, subscript, Dict.get_cons, Dict.get_nil] at found
      grind
    subst users
    exact ⟨⟨[_, _], [_], rfl, by simp [Json.str]⟩, Or.inl ⟨[_, _, _], [], rfl, by simp⟩⟩

/-- The user comes to the other school and gets new uids on the way. -/
def demoMove : ListenerUserAddModifyObject where
  dn := "uid=anna,cn=schueler,cn=users,ou=GYMNASIUM,dc=uni,dc=dtr"
  id := "9ad3"
  object :=
    [("username", Json.str "anna"), ("school", Json.strs ["GYMNASIUM"]),
      ("ucsschoolRecordUID", Json.str "anna2"), ("ucsschoolSourceUID", Json.str "GYM")]
  options := ["default", "ucsschoolStudent"]
  userPasswords := none
  oldData := none
  schools := ["GYMNASIUM"]
  schools_eq := rfl

/-- Nothing has happened yet. -/
def demoWorld : World (List RemoteUser) RemoteUser where
  oldData := ⟨[]⟩
  handling _ := ⟨[], ⟨[], 0⟩, [], []⟩

def demoFirst : Arrival := ⟨.addModify { pupil with oldData := none }, 10, none⟩

def demoSecond : Arrival := ⟨.addModify demoMove, 20, none⟩

/-- The uids that only this user has. -/
def demoUids : List Uids := [("anna", "TESTID"), ("anna2", "GYM")]

def demoMoved : World (List RemoteUser) RemoteUser :=
  demoSetting.process (demoSetting.process demoWorld demoFirst) demoSecond

private theorem demo_first : demoSetting.Succeeds demoWorld demoFirst := by
  have selected : demoSetting.selected (preprocess demoWorld.oldData demoFirst).1 =
      ["Traeger1"] := by decide +kernel
  intro authority member
  rw [selected, List.mem_singleton] at member
  subst member
  decide +kernel

private theorem demo_second :
    demoSetting.Succeeds (demoSetting.process demoWorld demoFirst) demoSecond := by
  have selected : demoSetting.selected
      (preprocess (demoSetting.process demoWorld demoFirst).oldData demoSecond).1 =
        ["Traeger1", "Traeger2"] := by decide +kernel
  intro authority member
  rw [selected, List.mem_pair] at member
  rcases member with rfl | rfl
  · decide +kernel
  · decide +kernel

private theorem demo_follows :
    Follows demoSetting demoUids "9ad3" [demoFirst.obj, demoSecond.obj] demoMoved := by
  have start : Follows demoSetting demoUids "9ad3" [] demoWorld :=
    Follows.start rfl (fun _ => rfl) fun _ => Or.inl rfl
  have added := start.event demoFirst rfl
    ⟨("anna", "TESTID"), rfl, rfl, by decide, by decide, by decide⟩ demo_first
  exact added.event demoSecond rfl ⟨("anna2", "GYM"), rfl, rfl, by decide, by decide, by decide⟩
    demo_second

theorem converges_demo :
    (∃ user ∈ demoStore.users (demoMoved.handling "Traeger2").target, user.uids ∈ demoUids) ∧
      ¬ ∃ user ∈ demoStore.users (demoMoved.handling "Traeger1").target, user.uids ∈ demoUids := by
  constructor
  · apply (Follows.converges demoSetting_connected demo_follows "Traeger2").1.mpr
    exact ⟨demoMove, rfl, "GYMNASIUM", List.mem_cons_self, by decide⟩
  · intro stored
    obtain ⟨obj, last, school, member, mapped⟩ :=
      (Follows.converges demoSetting_connected demo_follows "Traeger1").1.mp stored
    cases last
    obtain rfl := List.mem_singleton.mp member
    exact absurd mapped (by decide)

end Examples

end IdConnector
