import IdConnector.UserHandler

/-! # What handling a user leaves alone

Only three functions of a user dispatcher call the target to change something. The others
read from outside and write to the caches of the dispatcher; an invariant that survives
both survives them, whether they return or raise.
-/

namespace IdConnector

open Library

namespace KelvinPerSAUserDispatcher

open Action

/-! ## Mapping the attributes -/

/-- All services preserve the invariant. -/
structure PreservedByServices {σ : Type} (inv : σ → Prop)
    (services : Services (Action σ HandlerError)) : Prop where
  schoolsIdsOnTarget : Preserves inv services.schoolsIdsOnTarget
  rolesOnTarget : Preserves inv services.rolesOnTarget
  handledSchools : Preserves inv services.handledSchools
  getSourceUid : Preserves inv services.getSourceUid
  randomPassword : Preserves inv services.randomPassword

section Mapping

variable [CaseMapping] {σ : Type} {inv : σ → Prop} {services : Services (Action σ HandlerError)}
  (self : Dispatcher) (env : LdapEnvironment) (obj : ListenerUserAddModifyObject)

omit [CaseMapping] in
theorem preserves_raising {α : Type} (result : Except PyError α) :
    Preserves inv (raising result : Action σ HandlerError α) := by
  cases result with
  | ok a => exact preserves_pure a
  | error raised => exact preserves_throw _

omit [CaseMapping] in
theorem preserves_handleAttrDate (key : String) :
    Preserves inv (handleAttrDate obj key : Action σ HandlerError Json) := by
  unfold handleAttrDate
  split
  · refine preserves_ite (preserves_pure _) ?_
    split
    · exact preserves_pure _
    · exact preserves_throw _
  · exact preserves_ite (preserves_raising _) (preserves_pure _)

omit [CaseMapping] in
theorem preserves_syncPasswordHashes :
    Preserves inv (syncPasswordHashes self : Action σ HandlerError Bool) := by
  unfold syncPasswordHashes
  split
  · exact preserves_pure _
  · exact preserves_raising _

omit [CaseMapping] in
theorem preserves_handleAttrDisabled :
    Preserves inv (handleAttrDisabled obj : Action σ HandlerError Json) := by
  unfold handleAttrDisabled
  split
  · exact preserves_pure _
  · exact preserves_raising _

omit [CaseMapping] in
theorem preserves_handleAttrPassword (reads : PreservedByServices inv services) :
    Preserves inv (handleAttrPassword self services) := by
  refine preserves_bind (preserves_syncPasswordHashes self) ?_
  intro hashes
  refine preserves_ite (preserves_pure _) ?_
  exact preserves_bind reads.randomPassword fun _ => preserves_pure _

omit [CaseMapping] in
theorem preserves_handleAttrRoles (reads : PreservedByServices inv services) :
    Preserves inv (handleAttrRoles services obj) := by
  unfold handleAttrRoles
  split
  · apply preserves_bind
    · apply preserves_mapM
      intro role
      refine preserves_bind reads.rolesOnTarget ?_
      intro onTarget
      split
      · exact preserves_pure _
      · exact preserves_raising _
    · exact fun _ => preserves_pure _
  · exact preserves_throw _

theorem preserves_handleAttrSchool (reads : PreservedByServices inv services) :
    Preserves inv (handleAttrSchool services obj) := by
  refine preserves_bind reads.schoolsIdsOnTarget ?_
  intro onTarget
  dsimp only
  split
  · split
    · exact preserves_pure _
    · exact preserves_throw _
  · exact preserves_throw _

theorem preserves_handleAttrSchools (reads : PreservedByServices inv services) :
    Preserves inv (handleAttrSchools services obj) := by
  refine preserves_bind reads.schoolsIdsOnTarget ?_
  intro onTarget
  dsimp only
  split
  · split
    · exact preserves_throw _
    · exact preserves_pure _
  · exact preserves_throw _

theorem preserves_handleAttrSchoolClasses (reads : PreservedByServices inv services) :
    Preserves inv (handleAttrSchoolClasses env services obj) := by
  refine preserves_bind reads.schoolsIdsOnTarget ?_
  intro onTarget
  refine preserves_bind (preserves_raising _) ?_
  intro groupsDns
  exact preserves_bind (preserves_raising _) fun _ => preserves_pure _

omit [CaseMapping] in
theorem preserves_handleAttrSourceUid (reads : PreservedByServices inv services) :
    Preserves inv (handleAttrSourceUid services obj) := by
  refine preserves_ite (preserves_pure _) ?_
  exact preserves_bind reads.getSourceUid fun _ => preserves_pure _

theorem preserves_handleAttr (reads : PreservedByServices inv services) (keyHere : String)
    (meth : Action σ HandlerError (Option Json))
    (found : handleAttr self env services obj keyHere = some meth) : Preserves inv meth := by
  unfold handleAttr at found
  split at found <;> cases found
  · exact preserves_map _ (preserves_handleAttrDate obj _)
  · exact preserves_map _ (preserves_handleAttrDisabled obj)
  · exact preserves_handleAttrPassword self reads
  · exact preserves_map _ (preserves_handleAttrRoles obj reads)
  · exact preserves_map _ (preserves_handleAttrSchool obj reads)
  · exact preserves_map _ (preserves_handleAttrSchools obj reads)
  · exact preserves_map _ (preserves_handleAttrSchoolClasses env obj reads)
  · exact preserves_map _ (preserves_handleAttrSourceUid obj reads)
  · exact preserves_map _ (preserves_handleAttrDate obj _)

theorem preserves_valueHere (reads : PreservedByServices inv services) (keyHere : String) :
    Preserves inv (valueHere self env services obj keyHere) := by
  unfold valueHere
  dsimp only
  split
  next meth found =>
    refine preserves_bind (preserves_handleAttr self env obj reads keyHere meth found) ?_
    intro value
    split
    · exact preserves_pure _
    · exact preserves_pure _
  next =>
    refine preserves_bind (preserves_pure _) ?_
    intro value
    split
    · exact preserves_pure _
    · exact preserves_pure _

omit [CaseMapping] in
theorem preserves_updateBody (res update : JsonObject) :
    Preserves inv (updateBody res update : Action σ HandlerError JsonObject) := by
  unfold updateBody
  split
  · exact preserves_pure _
  · exact preserves_raising _

theorem preserves_mapAttribute (reads : PreservedByServices inv services) (res : JsonObject)
    (entry : String × Json) : Preserves inv (mapAttribute self env services obj res entry) := by
  refine preserves_bind (preserves_valueHere self env obj reads entry.1) ?_
  intro value
  split
  · exact preserves_bind (preserves_raising _) fun _ => preserves_updateBody _ _
  · exact preserves_pure _

omit [CaseMapping] in
theorem preserves_handlePasswordHashes :
    Preserves inv (handlePasswordHashes self obj : Action σ HandlerError JsonObject) := by
  refine preserves_bind (preserves_syncPasswordHashes self) ?_
  intro hashes
  apply preserves_ite
  · split
    · exact preserves_pure _
    · exact preserves_pure _
  · exact preserves_pure _

theorem preserves_getRoleSpecificMapping (reads : PreservedByServices inv services)
    (roles mapping : Json) :
    Preserves inv (getRoleSpecificMapping services roles mapping) := by
  refine preserves_bind reads.handledSchools ?_
  intro handled
  refine preserves_bind (preserves_raising _) ?_
  intro texts
  exact preserves_bind (preserves_raising _) fun _ => preserves_raising _

/-- Mapping the attributes changes nothing that the services leave alone. -/
theorem preserves_mapAttributes (reads : PreservedByServices inv services) (mapping : Json) :
    Preserves inv (mapAttributes self env services obj mapping) := by
  refine preserves_bind (preserves_getRoleSpecificMapping reads _ mapping) ?_
  intro selected
  split
  · refine preserves_bind (preserves_foldlM (preserves_mapAttribute self env obj reads) _ _) ?_
    intro res
    exact preserves_bind (preserves_handlePasswordHashes self obj) fun _ => preserves_updateBody _ _
  · exact preserves_raising _

end Mapping

/-! ## Reading -/

section Reading

variable {T User : Type} {outside : Outside T User} {inv : Handling T User → Prop}

/-- The invariant survives what is read from outside and what the caches take of it. -/
structure PreservedByReads (outside : Outside T User) (inv : Handling T User → Prop) : Prop where
  now : Preserves inv (now outside)
  refreshSchools : Preserves inv (refreshSchools outside)
  creation : ∀ s creation, inv s → inv { s with schools := { s.schools with creation } }
  fetchRoles : Preserves inv (call outside.fetchRoles)
  roles : ∀ s roles, inv s → inv { s with roles }
  search : ∀ recordUid sourceUid, Preserves inv (call (outside.search recordUid sourceUid))
  handledSchools : Preserves inv (call outside.handledSchools)
  getSourceUid : Preserves inv (call outside.getSourceUid)
  randomPassword : Preserves inv (call outside.randomPassword)

/-- Reading is not logged. -/
theorem preservedByReads_calls (calls : List (TargetCall User)) :
    PreservedByReads outside fun s => s.calls = calls where
  now _ same := same
  refreshSchools := by
    refine preserves_bind (preserves_modify fun _ same => same) ?_
    intro _
    exact preserves_bind (fun _ same => same) fun _ => preserves_modify fun _ same => same
  creation _ _ same := same
  fetchRoles _ same := same
  roles _ _ same := same
  search _ _ _ same := same
  handledSchools _ same := same
  getSourceUid _ same := same
  randomPassword _ same := same

theorem preserves_schoolsIdsOnTarget (reads : PreservedByReads outside inv) :
    Preserves inv (schoolsIdsOnTarget outside) := by
  refine preserves_bind preserves_get ?_
  intro s
  have last : Preserves inv (do return (← get).schools.names :
      Action (Handling T User) HandlerError (Dict String String)) :=
    preserves_bind preserves_get fun _ => preserves_pure _
  have refreshing (expired : Bool) : Preserves inv (do
      if expired then
        refreshSchools outside
        let creation ← now outside
        modify fun s => { s with schools := { s.schools with creation } }
      return (← get).schools.names :
      Action (Handling T User) HandlerError (Dict String String)) := by
    apply preserves_ite
    · refine preserves_bind reads.refreshSchools ?_
      intro _
      refine preserves_bind reads.now ?_
      intro creation
      exact preserves_bind (preserves_modify fun s => reads.creation s _) fun _ => last
    · exact last
  apply preserves_ite
  · exact refreshing true
  · exact preserves_bind (preserves_map _ reads.now) refreshing

theorem preserves_rolesOnTarget (reads : PreservedByReads outside inv) :
    Preserves inv (rolesOnTarget outside) := by
  have last : Preserves inv (do return (← get).roles :
      Action (Handling T User) HandlerError (Dict String String)) :=
    preserves_bind preserves_get fun _ => preserves_pure _
  refine preserves_bind preserves_get ?_
  intro s
  apply preserves_ite
  · refine preserves_bind reads.fetchRoles ?_
    intro names
    exact preserves_bind (preserves_modify fun s => reads.roles s _) fun _ => last
  · exact last

theorem preservedByServices (reads : PreservedByReads outside inv) :
    PreservedByServices inv (services outside) where
  schoolsIdsOnTarget := preserves_schoolsIdsOnTarget reads
  rolesOnTarget := preserves_rolesOnTarget reads
  handledSchools := reads.handledSchools
  getSourceUid := reads.getSourceUid
  randomPassword := reads.randomPassword

theorem preserves_searchParams (reads : PreservedByReads outside inv) (obj : ListenerUserObject) :
    Preserves inv (searchParams outside obj) := by
  unfold searchParams
  dsimp only
  split
  · apply preserves_ite
    · refine preserves_bind (preserves_pure _) ?_
      intro sourceUid
      split
      · exact preserves_pure _
      · exact preserves_raising _
    · refine preserves_bind (preserves_map _ reads.getSourceUid) ?_
      intro sourceUid
      split
      · exact preserves_pure _
      · exact preserves_raising _
  · exact preserves_raising _

theorem preserves_fetchObj (reads : PreservedByReads outside inv) (recordUid sourceUid : String) :
    Preserves inv (fetchObj outside recordUid sourceUid) := by
  refine preserves_bind (reads.search recordUid sourceUid) ?_
  intro users
  split
  · exact preserves_pure _
  · exact preserves_pure _
  · exact preserves_throw _

theorem preserves_existsOnTarget (reads : PreservedByReads outside inv) (obj : ListenerUserObject) :
    Preserves inv (existsOnTarget outside obj) := by
  refine preserves_bind (preserves_searchParams reads obj) ?_
  intro params
  have searched := preserves_fetchObj reads (params.recordUid.getD "") (params.sourceUid.getD "")
  have complete : Preserves inv (do
      if !isSet params.sourceUid then throw (.missingData "source_uid")
      fetchObj outside (params.recordUid.getD "") (params.sourceUid.getD "")) :=
    preserves_ite (preserves_bind (preserves_throw _) fun _ => searched) searched
  exact preserves_ite (preserves_bind (preserves_throw _) fun _ => complete) complete

theorem preserves_loggingMissingData {α : Type} {action : Action (Handling T User) HandlerError α}
    (reads : Preserves inv action) : Preserves inv (loggingMissingData action) := by
  refine preserves_tryCatch (preserves_map _ reads) ?_
  intro raised
  split
  · exact preserves_pure _
  · exact preserves_throw _

theorem preserves_username (obj : ListenerUserAddModifyObject) : Preserves inv (username obj) := by
  unfold username
  split
  · exact preserves_pure _
  · exact preserves_raising _

theorem preserves_printIds (reads : PreservedByReads outside inv)
    (obj : ListenerUserAddModifyObject) :
    Preserves inv (printIds outside obj) := by
  refine preserves_bind (preserves_schoolsIdsOnTarget reads) ?_
  intro _
  exact preserves_bind (preserves_username obj) fun _ => preserves_pure _

end Reading

end KelvinPerSAUserDispatcher

end IdConnector
