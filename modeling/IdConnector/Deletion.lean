import IdConnector.Distribution
import IdConnector.Frames

/-! # When a user is deleted

A user add or modify object makes a dispatcher delete the user if none of its schools is in
the list of schools that the dispatcher goes by. This is the list that the target once
reported, as long as it has not expired, or what it reports now; the mapping of schools to
school authorities, by which the object came to the dispatcher, has no part in it.
-/

namespace IdConnector

open Library

/-- The users that `do_remove` was called with. -/
def Handling.removals {T User : Type} (s : Handling T User) : List User :=
  s.calls.filterMap fun made =>
    match made with
    | .remove user => some user
    | .create _ | .modify .. => none

namespace KelvinPerSAUserDispatcher

open Action

variable {T User : Type} {outside : Outside T User}

theorem exec_call {α : Type} (action : Action T HandlerError α) (s : Handling T User) :
    exec (call action) s =
      ((exec action s.target).1, { s with target := (exec action s.target).2 }) := rfl

theorem exec_now (s : Handling T User) :
    exec (now outside) s =
      (.ok (outside.now s.target).1, { s with target := (outside.now s.target).2 }) := rfl

/-! ## The list of schools -/

/-- The dispatcher goes by this list of schools, and the world is in this state when it has
    the list. -/
inductive GoesBy (outside : Outside T User) (s : Handling T User) : Dict String String → T → Prop
  /-- Nothing is known, so the target is asked. -/
  | first (unknown : s.schools.names = []) {names : List String} {target : T}
      (answer : exec outside.fetchSchools s.target = (.ok names, target)) :
      GoesBy outside s (.ofPairs (names.map fun n => (n, n))) (outside.now target).2
  | cached (known : s.schools.names ≠ [])
      (fresh : (outside.now s.target).1 ≤ s.schools.creation + apiSchoolCacheTtl) :
      GoesBy outside s s.schools.names (outside.now s.target).2
  | expired (known : s.schools.names ≠ [])
      (old : s.schools.creation + apiSchoolCacheTtl < (outside.now s.target).1)
      {names : List String} {target : T}
      (answer : exec outside.fetchSchools (outside.now s.target).2 = (.ok names, target)) :
      GoesBy outside s (.ofPairs (names.map fun n => (n, n))) (outside.now target).2

/-- Ask the target for its schools and remember them. -/
def afterRefresh (outside : Outside T User) (s : Handling T User) :
    Except HandlerError (Dict String String) × Handling T User :=
  match exec outside.fetchSchools s.target with
  | (.ok names, target) =>
      let names := Dict.ofPairs (names.map fun n => (n, n))
      (.ok names, { s with
        target := (outside.now target).2, schools := ⟨names, (outside.now target).1⟩ })
  | (.error raised, target) =>
      (.error raised, { s with target, schools := ⟨[], s.schools.creation⟩ })

theorem exec_refreshing (s : Handling T User) :
    exec (do
      refreshSchools outside
      let creation ← now outside
      modify fun s => { s with schools := { s.schools with creation } }
      return (← get).schools.names) s = afterRefresh outside s := by
  simp only [refreshSchools, exec_bind, exec_modify, exec_call, exec_now, exec_get, exec_pure,
    afterRefresh]
  cases exec outside.fetchSchools s.target with
  | mk result target => cases result <;> rfl

theorem exec_schoolsIdsOnTarget (s : Handling T User) :
    exec (schoolsIdsOnTarget outside) s =
      if s.schools.names = [] then afterRefresh outside s
      else if s.schools.creation + apiSchoolCacheTtl < (outside.now s.target).1 then
        afterRefresh outside { s with target := (outside.now s.target).2 }
      else (.ok s.schools.names, { s with target := (outside.now s.target).2 }) := by
  unfold schoolsIdsOnTarget
  rw [exec_bind_ok _ (exec_get s)]
  by_cases known : s.schools.names = []
  · simp only [known, if_true]
    exact exec_refreshing s
  · simp only [known, if_false]
    have read : exec ((fun time => decide (s.schools.creation + apiSchoolCacheTtl < time)) <$>
        now outside) s = (.ok (decide (s.schools.creation + apiSchoolCacheTtl <
          (outside.now s.target).1)), { s with target := (outside.now s.target).2 }) := rfl
    rw [exec_bind_ok _ read]
    by_cases old : s.schools.creation + apiSchoolCacheTtl < (outside.now s.target).1
    · simp only [old, decide_true, if_true]
      exact exec_refreshing _
    · simp only [old, decide_false, Bool.false_eq_true, if_false]
      rfl

theorem afterRefresh_ok {s : Handling T User} {names : Dict String String} {target : T} :
    (∃ t, afterRefresh outside s = (.ok names, t) ∧ t.target = target) ↔
      ∃ answer after, exec outside.fetchSchools s.target = (.ok answer, after) ∧
        names = .ofPairs (answer.map fun n => (n, n)) ∧ target = (outside.now after).2 := by
  unfold afterRefresh
  cases exec outside.fetchSchools s.target with
  | mk result after =>
      cases result with
      | error raised => simp
      | ok answer =>
          constructor
          · intro ⟨t, same, at_target⟩
            cases same
            exact ⟨answer, after, rfl, rfl, at_target.symm⟩
          · intro ⟨_, _, same, names_eq, at_target⟩
            cases same
            exact ⟨_, by rw [names_eq], at_target.symm⟩

theorem goesBy_iff {s : Handling T User} {names : Dict String String} {target : T} :
    GoesBy outside s names target ↔
      ∃ t, exec (schoolsIdsOnTarget outside) s = (.ok names, t) ∧ t.target = target := by
  rw [exec_schoolsIdsOnTarget]
  constructor
  · intro list
    cases list with
    | first unknown answer =>
        rw [if_pos unknown]
        exact afterRefresh_ok.mpr ⟨_, _, answer, rfl, rfl⟩
    | cached known fresh =>
        rw [if_neg known, if_neg (by omega)]
        exact ⟨_, rfl, rfl⟩
    | expired known old answer =>
        rw [if_neg known, if_pos old]
        exact afterRefresh_ok.mpr ⟨_, _, answer, rfl, rfl⟩
  · intro listed
    split at listed
    next unknown =>
      obtain ⟨answer, after, fetched, rfl, rfl⟩ := afterRefresh_ok.mp listed
      exact GoesBy.first unknown fetched
    next known =>
      split at listed
      next old =>
        obtain ⟨answer, after, fetched, rfl, rfl⟩ := afterRefresh_ok.mp listed
        exact GoesBy.expired known old fetched
      next fresh =>
        obtain ⟨t, same, rfl⟩ := listed
        cases same
        exact GoesBy.cached known (by omega)

/-- There is only one list to go by. -/
theorem GoesBy.unique {s : Handling T User} {names names' : Dict String String} {target target' : T}
    (list : GoesBy outside s names target) (other : GoesBy outside s names' target') :
    names = names' ∧ target = target' := by
  obtain ⟨t, listed, at_target⟩ := goesBy_iff.mp list
  obtain ⟨t', listed', at_target'⟩ := goesBy_iff.mp other
  rw [listed] at listed'
  cases listed'
  exact ⟨rfl, at_target.symm.trans at_target'⟩

/-! ## The search for the former user -/

/-- What `handle_has_no_schools` takes for the old data of an object. -/
def formerEntry (obj : ListenerUserAddModifyObject) : ListenerUserOldDataEntry :=
  obj.oldData.getD ⟨obj.schools, obj.recordUid, obj.sourceUid⟩

/-- The remove object has old data, so its own uids are never asked for. -/
theorem exec_searchParams_remove {obj : ListenerUserRemoveObject}
    {old : ListenerUserOldDataEntry} (has : obj.oldData = some old) (s : Handling T User) :
    exec (searchParams outside (.remove obj)) s =
      (if isSet old.sourceUid then
        if isSet old.recordUid then .ok ⟨old.recordUid, old.sourceUid⟩
        else .error (.python (.keyError "record_uid"))
      else .error (.python (.keyError "source_uid")), s) := by
  by_cases source : isSet old.sourceUid <;> by_cases record : isSet old.recordUid <;>
    simp [searchParams, listenerParams, listenerParams.overrideParams, has, source, record,
      raising, Dict.get, Dict.set]

theorem exec_existsOnTarget_remove {obj : ListenerUserRemoveObject}
    {old : ListenerUserOldDataEntry} (has : obj.oldData = some old) (s : Handling T User) :
    exec (existsOnTarget outside (.remove obj)) s =
      if isSet old.sourceUid then
        if isSet old.recordUid then
          exec (fetchObj outside (old.recordUid.getD "") (old.sourceUid.getD "")) s
        else (.error (.python (.keyError "record_uid")), s)
      else (.error (.python (.keyError "source_uid")), s) := by
  unfold existsOnTarget
  rw [exec_bind, exec_searchParams_remove has]
  by_cases source : isSet old.sourceUid <;> by_cases record : isSet old.recordUid <;>
    simp [source, record]

/-- The search by the former uids of the object finds exactly this user. -/
def FindsFormer (outside : Outside T User) (target : T) (obj : ListenerUserAddModifyObject)
    (user : User) : Prop :=
  isSet (formerEntry obj).sourceUid = true ∧ isSet (formerEntry obj).recordUid = true ∧
    (exec (outside.search ((formerEntry obj).recordUid.getD "")
      ((formerEntry obj).sourceUid.getD "")) target).1 = .ok [user]

theorem exec_fetchObj_user {recordUid sourceUid : String} {s : Handling T User} {user : User} :
    (exec (fetchObj outside recordUid sourceUid) s).1 = .ok (some user) ↔
      (exec (outside.search recordUid sourceUid) s.target).1 = .ok [user] := by
  unfold fetchObj
  rw [exec_bind, exec_call]
  cases exec (outside.search recordUid sourceUid) s.target with
  | mk result target =>
      cases result with
      | error raised => simp
      | ok users =>
          match users with
          | [] => simp
          | [found] => simp
          | first :: second :: rest => simp

theorem exec_existsOnTarget_former {obj : ListenerUserAddModifyObject} {s : Handling T User}
    {user : User} :
    (exec (existsOnTarget outside (.remove (removeObjectOf obj))) s).1 = .ok (some user) ↔
      FindsFormer outside s.target obj user := by
  have has : (removeObjectOf obj).oldData = some (formerEntry obj) := rfl
  unfold FindsFormer
  rw [exec_existsOnTarget_remove has, ← exec_fetchObj_user]
  by_cases source : isSet (formerEntry obj).sourceUid <;>
    by_cases record : isSet (formerEntry obj).recordUid <;> simp [source, record]

/-! ## Calls of `do_remove` -/

theorem keeps_removals {α : Type} {action : Action (Handling T User) HandlerError α}
    (preserved : ∀ calls, Preserves (fun s => s.calls = calls) action) :
    Keeps Handling.removals action := by
  intro s
  unfold Handling.removals
  rw [keeps_iff_preserves.mpr preserved s]

theorem removals_doRemove (user : User) (s : Handling T User) :
    (exec (doRemove outside user) s).2.removals = s.removals ++ [user] := by
  show (List.filterMap _ (s.calls ++ [TargetCall.remove user])) = _
  simp [Handling.removals]

theorem keeps_doCreate (requestBody : JsonObject) :
    Keeps Handling.removals (doCreate outside requestBody) := by
  apply keeps_bind
  · exact keeps_modify fun s => by simp [Handling.removals]
  · intro _
    split
    · exact fun _ => rfl
    · exact keeps_iff_preserves.mpr fun _ => preserves_raising _

theorem keeps_doModify (requestBody : JsonObject) (user : User) :
    Keeps Handling.removals (doModify outside requestBody user) := by
  apply keeps_bind
  · exact keeps_modify fun s => by simp [Handling.removals]
  · exact fun _ _ => rfl

theorem exec_loggingMissingData {α : Type} (action : Action (Handling T User) HandlerError α)
    (s : Handling T User) :
    exec (loggingMissingData action) s =
      match exec action s with
      | (.ok a, t) => (.ok (some a), t)
      | (.error (.missingData _), t) => (.ok none, t)
      | (.error raised, t) => (.error raised, t) := by
  unfold loggingMissingData
  rw [exec_tryCatch, exec_map]
  cases exec action s with
  | mk result t =>
      cases result with
      | ok a => rfl
      | error raised => cases raised <;> rfl

/-- `handle_remove` deletes the one user that it finds. -/
theorem removals_handleRemove (obj : ListenerUserRemoveObject) (s : Handling T User) :
    (exec (handleRemove outside obj) s).2.removals =
      match (exec (existsOnTarget outside (.remove obj)) s).1 with
      | .ok (some user) => s.removals ++ [user]
      | _ => s.removals := by
  have kept : (exec (existsOnTarget outside (.remove obj)) s).2.removals = s.removals :=
    keeps_removals (fun calls => preserves_existsOnTarget (preservedByReads_calls calls) _) s
  unfold handleRemove
  rw [exec_bind, exec_loggingMissingData]
  cases searched : exec (existsOnTarget outside (.remove obj)) s with
  | mk result t =>
      rw [searched] at kept
      cases result with
      | error raised => cases raised <;> exact kept
      | ok found =>
          cases found with
          | none => exact kept
          | some user => exact (removals_doRemove user t).trans (by rw [kept])

theorem removals_handleHasNoSchools (obj : ListenerUserAddModifyObject) (s : Handling T User) :
    ((exec (handleHasNoSchools outside obj) s).2.removals = s.removals ∧
      ∀ user, ¬ (obj.object.get "username" ≠ none ∧ FindsFormer outside s.target obj user)) ∨
    ∃ user, (exec (handleHasNoSchools outside obj) s).2.removals = s.removals ++ [user] ∧
      obj.object.get "username" ≠ none ∧ FindsFormer outside s.target obj user := by
  unfold handleHasNoSchools username
  cases name : obj.object.get "username" with
  | none => exact Or.inl ⟨rfl, by simp⟩
  | some username =>
      rw [exec_bind_ok _ (exec_pure _ s), removals_handleRemove]
      simp only [← exec_existsOnTarget_former]
      cases (exec (existsOnTarget outside (.remove (removeObjectOf obj))) s).1 with
      | error raised => simp
      | ok found => cases found <;> simp

section Dispatching

variable [CaseMapping] (self : Dispatcher) (env : LdapEnvironment)

theorem keeps_doCreateOrUpdate (obj : ListenerUserAddModifyObject) :
    Keeps Handling.removals (doCreateOrUpdate outside self env obj) := by
  apply keeps_bind
  · exact keeps_removals fun calls =>
      preserves_mapAttributes self env obj (preservedByServices (preservedByReads_calls calls)) _
  · intro requestBody
    apply keeps_bind
    · exact keeps_removals fun calls =>
        preserves_loggingMissingData (preserves_existsOnTarget (preservedByReads_calls calls) _)
    · intro found
      split
      · exact keeps_pure _
      · exact keeps_doModify _ _
      · exact keeps_doCreate _

/-- The object makes the dispatcher delete this user. -/
def Deletes (outside : Outside T User) (s : Handling T User) (obj : ListenerUserAddModifyObject)
    (user : User) : Prop :=
  ∃ names target, GoesBy outside s names target ∧ hasSchoolAmong obj names.keys = false ∧
    obj.object.get "username" ≠ none ∧ FindsFormer outside target obj user

theorem exec_handleCreateOrUpdate_known {obj : ListenerUserAddModifyObject}
    {s t : Handling T User} {names : Dict String String}
    (listed : exec (schoolsIdsOnTarget outside) s = (.ok names, t))
    (known : hasSchoolAmong obj names.keys = true) :
    exec (handleCreateOrUpdate outside self env obj) s =
      exec (do printIds outside obj; doCreateOrUpdate outside self env obj) t := by
  unfold handleCreateOrUpdate userHasSchools
  rw [exec_bind, exec_bind_ok _ listed, if_pos known, exec_pure]
  rfl

theorem exec_handleCreateOrUpdate_unknown {obj : ListenerUserAddModifyObject}
    {s t : Handling T User} {names : Dict String String}
    (listed : exec (schoolsIdsOnTarget outside) s = (.ok names, t))
    (unknown : hasSchoolAmong obj names.keys = false) :
    exec (handleCreateOrUpdate outside self env obj) s =
      exec (handleHasNoSchools outside obj) t := by
  unfold handleCreateOrUpdate userHasSchools
  rw [exec_bind, exec_bind_ok _ listed, if_neg (by simp [unknown]), exec_bind]
  cases exec (handleHasNoSchools outside obj) t with
  | mk result u => cases result <;> rfl

theorem exec_handleCreateOrUpdate_error {obj : ListenerUserAddModifyObject}
    {s t : Handling T User} {raised : HandlerError}
    (failed : exec (schoolsIdsOnTarget outside) s = (.error raised, t)) :
    exec (handleCreateOrUpdate outside self env obj) s = (.error raised, t) := by
  unfold handleCreateOrUpdate userHasSchools
  rw [exec_bind, exec_bind_error _ failed]

/-- Either nobody is deleted or the one user that the former uids find. -/
theorem removals_handleCreateOrUpdate (obj : ListenerUserAddModifyObject) (s : Handling T User) :
    ((exec (handleCreateOrUpdate outside self env obj) s).2.removals = s.removals ∧
      ∀ user, ¬ Deletes outside s obj user) ∨
    ∃ user, (exec (handleCreateOrUpdate outside self env obj) s).2.removals =
      s.removals ++ [user] ∧ Deletes outside s obj user := by
  have kept : (exec (schoolsIdsOnTarget outside) s).2.removals = s.removals :=
    keeps_removals (fun calls => preserves_schoolsIdsOnTarget (preservedByReads_calls calls)) s
  cases listed : exec (schoolsIdsOnTarget outside) s with
  | mk result t =>
      rw [listed] at kept
      cases result with
      | error raised =>
          left
          rw [exec_handleCreateOrUpdate_error self env listed]
          refine ⟨kept, ?_⟩
          intro user ⟨names, target, list, _⟩
          obtain ⟨t', listed', _⟩ := goesBy_iff.mp list
          rw [listed] at listed'
          cases listed'
      | ok names =>
          have list : GoesBy outside s names t.target := goesBy_iff.mpr ⟨t, listed, rfl⟩
          cases known : hasSchoolAmong obj names.keys with
          | true =>
              left
              have rest : Keeps Handling.removals
                  (do printIds outside obj; doCreateOrUpdate outside self env obj) :=
                keeps_bind (keeps_removals fun calls =>
                  preserves_printIds (preservedByReads_calls calls) obj)
                  fun _ => keeps_doCreateOrUpdate self env obj
              rw [exec_handleCreateOrUpdate_known self env listed known]
              refine ⟨(rest t).trans kept, ?_⟩
              intro user ⟨names', target, list', unknown, _⟩
              rw [(list'.unique list).1, known] at unknown
              cases unknown
          | false =>
              rw [exec_handleCreateOrUpdate_unknown self env listed known]
              rw [← show t.removals = s.removals from kept]
              rcases removals_handleHasNoSchools obj t with
                ⟨same, nobody⟩ | ⟨user, removed, named, found⟩
              · left
                refine ⟨same, ?_⟩
                intro user ⟨names', target, list', _, deleted⟩
                rw [(list'.unique list).2] at deleted
                exact nobody user deleted
              · right
                exact ⟨user, removed, names, t.target, list, known, named, found⟩

/-- An object makes the dispatcher call `do_remove` if none of its schools is in the list it
    goes by and the user is at the target, and only then. -/
theorem handleCreateOrUpdate_removes_iff (obj : ListenerUserAddModifyObject)
    (s : Handling T User) :
    ((exec (handleCreateOrUpdate outside self env obj) s).2.removals = s.removals ↔
      ∀ user, ¬ Deletes outside s obj user) ∧
    ∀ user, (exec (handleCreateOrUpdate outside self env obj) s).2.removals =
      s.removals ++ [user] ↔ Deletes outside s obj user := by
  rcases removals_handleCreateOrUpdate self env obj s with
    ⟨same, nobody⟩ | ⟨user, removed, deleted⟩
  · rw [same]
    simpa using nobody
  · rw [removed]
    constructor
    · simpa using ⟨user, deleted⟩
    · intro other
      constructor
      · intro both
        have one : user = other := by simpa using both
        exact one ▸ deleted
      · intro ⟨names, target, list, _, _, _, _, found⟩
        obtain ⟨names', target', list', _, _, _, _, found'⟩ := deleted
        rw [(list.unique list').2, found'] at found
        cases found
        rfl

end Dispatching

end KelvinPerSAUserDispatcher

section Examples

open KelvinPerSAUserDispatcher

attribute [local instance] asciiCaseMapping

/-- A target with some users, by their record uids, that reports no school. -/
def schoollessTarget : Outside (List String) String where
  now users := (700, users)
  fetchSchools := pure []
  fetchRoles := pure ["student", "teacher"]
  search recordUid _ := do return (← get).filter fun user => user = recordUid
  create _ := pure ()
  modify _ _ := pure ()
  remove user := modify fun users => users.erase user
  handledSchools := pure ["demoschool"]
  getSourceUid := pure "TESTID"
  randomPassword := pure "abc.def-ghi_jkl"

/-- A user at the only school of `demoQueue`. -/
def pupil : ListenerUserAddModifyObject where
  dn := "uid=anna,cn=schueler,cn=users,ou=DEMOSCHOOL,dc=uni,dc=dtr"
  id := "9ad3"
  object :=
    [("username", Json.str "anna"), ("school", Json.strs ["DEMOSCHOOL"]),
      ("ucsschoolRecordUID", Json.str "anna"), ("ucsschoolSourceUID", Json.str "TESTID")]
  options := ["default", "ucsschoolStudent"]
  userPasswords := none
  oldData := some ⟨["DEMOSCHOOL"], some "anna", some "TESTID"⟩
  schools := ["DEMOSCHOOL"]
  schools_eq := rfl

def demoDispatcher : Dispatcher where
  schoolAuthority := ⟨"Traeger1", true, "https://traeger1/ucsschool/kelvin/v1/", [kelvin], [],
    pluginConfigsPlainToSecret_nil⟩
  pluginName := kelvin
  attributeMapping := .dict [("users", .dict [("username", Json.str "name")])]
  session := ⟨Json.str "Administrator", "univention", "traeger1", []⟩

/-- A dispatcher that has done nothing yet. -/
def freshHandling : Handling (List String) String where
  target := ["anna"]
  schools := ⟨[], 0⟩
  roles := []
  calls := []

/-- The school of the user is mapped to the authority, and the object comes to its
    dispatcher, but the target reports no school: the user is deleted. -/
theorem mapped_user_deleted :
    (∃ school ∈ pupil.schools, (demoQueue [kelvin]).schoolAuthorityMapping.entries.get
      (lower school) = some demoDispatcher.schoolAuthority.name) ∧
      demoDispatcher.schoolAuthority.name ∈
        userAuthorities (demoQueue [kelvin]) (.userAddModify pupil) ∧
      freshHandling.removals = [] ∧
      (Action.exec (handleCreateOrUpdate schoollessTarget demoDispatcher demoEnvironment pupil)
        freshHandling).2.removals = ["anna"] :=
  ⟨⟨"DEMOSCHOOL", by decide, by decide⟩, by decide, rfl, by decide +kernel⟩

end Examples

end IdConnector
