import IdConnector.Library.Action
import IdConnector.UserAttributes

/-! # Handling users at a target

`handle_create_or_update` and `handle_remove` of the Kelvin user dispatcher. Everything the
dispatcher calls (the clock, the API of the target, the configuration of the host) is an
action on an arbitrary state, so it may answer differently every time. The dispatcher
itself only keeps the schools and the roles that the target has reported.
-/

namespace IdConnector

open Library

/-- What a user dispatcher calls. `create` and `modify` include the second attempt to save. -/
structure Outside (T User : Type) where
  now : T → Nat × T
  /-- `SchoolResource(session=self.session).search()`, the names -/
  fetchSchools : Action T HandlerError (List String)
  /-- `RoleResource(session=self.session).search()`, the names -/
  fetchRoles : Action T HandlerError (List String)
  /-- `UserResource(session=self.session).search(record_uid=…, source_uid=…)` -/
  search : (recordUid sourceUid : String) → Action T HandlerError (List User)
  create : JsonObject → Action T HandlerError Unit
  modify : JsonObject → User → Action T HandlerError Unit
  remove : User → Action T HandlerError Unit
  handledSchools : Action T HandlerError (List String)
  getSourceUid : Action T HandlerError String
  randomPassword : Action T HandlerError String

/-- `_school_ids_on_target_cache` and the time of its creation. -/
structure SchoolCache where
  names : Dict String String
  creation : Nat
  deriving Repr, DecidableEq

/-- The calls of `do_create`, `do_modify` and `do_remove`. -/
inductive TargetCall (User : Type) where
  | create (requestBody : JsonObject)
  | modify (requestBody : JsonObject) (user : User)
  | remove (user : User)

/-- A dispatcher at work: its caches, what it has called so far and the rest of the world. -/
structure Handling (T User : Type) where
  target : T
  schools : SchoolCache
  roles : Dict String String
  calls : List (TargetCall User)

/-- In seconds, as all times here. -/
def apiSchoolCacheTtl : Nat := 600

/-- A user add or modify object, or a user remove object. -/
inductive ListenerUserObject where
  | addModify (obj : ListenerUserAddModifyObject)
  | remove (obj : ListenerUserRemoveObject)

namespace ListenerUserObject

def id : ListenerUserObject → String
  | addModify obj => obj.id
  | remove obj => obj.id

def oldData : ListenerUserObject → Option ListenerUserOldDataEntry
  | addModify obj => obj.oldData
  | remove obj => obj.oldData

end ListenerUserObject

/-- The parameters of the search for a user. -/
structure SearchParams where
  recordUid : Option String
  sourceUid : Option String
  deriving Repr, DecidableEq

/-- Neither `None` nor empty. -/
def isSet (uid : Option String) : Bool := uid.any (· ≠ "")

namespace KelvinPerSAUserDispatcher

variable {T User : Type}

section Caches

variable (outside : Outside T User)

/-- Call something outside. -/
def call {α : Type} (action : Action T HandlerError α) :
    Action (Handling T User) HandlerError α :=
  Action.zoom Handling.target (fun target s => { s with target }) action

/-- `datetime.datetime.now()` -/
def now : Action (Handling T User) HandlerError Nat := do
  let s ← get
  set { s with target := (outside.now s.target).2 }
  return (outside.now s.target).1

def refreshSchools : Action (Handling T User) HandlerError Unit := do
  modify fun s => { s with schools := { s.schools with names := [] } }
  let names ← call outside.fetchSchools
  modify fun s =>
    { s with schools := { s.schools with names := .ofPairs (names.map fun n => (n, n)) } }

def schoolsIdsOnTarget : Action (Handling T User) HandlerError (Dict String String) := do
  let cache := (← get).schools
  -- the clock is only read if there is something to expire
  let expired ←
    if cache.names = [] then pure true
    else (fun time => decide (cache.creation + apiSchoolCacheTtl < time)) <$> now outside
  if expired then
    refreshSchools outside
    let creation ← now outside
    modify fun s => { s with schools := { s.schools with creation } }
  return (← get).schools.names

def rolesOnTarget : Action (Handling T User) HandlerError (Dict String String) := do
  if (← get).roles = [] then
    let names ← call outside.fetchRoles
    modify fun s => { s with roles := .ofPairs (names.map fun n => (n, n)) }
  return (← get).roles

def services : Services (Action (Handling T User) HandlerError) where
  schoolsIdsOnTarget := schoolsIdsOnTarget outside
  rolesOnTarget := rolesOnTarget outside
  handledSchools := call outside.handledSchools
  getSourceUid := call outside.getSourceUid
  randomPassword := call outside.randomPassword

end Caches

/-! ## Searching -/

/-- The parameters before `source_uid` gets its default. -/
def listenerParams : ListenerUserObject → Dict String (Option String)
  | .addModify obj =>
      overrideParams [("entryUUID", some obj.id), ("record_uid", obj.recordUid),
        ("source_uid", obj.sourceUid)] obj.oldData
  | .remove obj => overrideParams [("entryUUID", some obj.id)] obj.oldData
where
  /-- What the old data has replaces the rest. -/
  overrideParams (params : Dict String (Option String)) :
      Option ListenerUserOldDataEntry → Dict String (Option String)
    | none => params
    | some old =>
        let params := if isSet old.recordUid then params.set "record_uid" old.recordUid else params
        if isSet old.sourceUid then params.set "source_uid" old.sourceUid else params

def searchParams (outside : Outside T User) (obj : ListenerUserObject) :
    Action (Handling T User) HandlerError SearchParams := do
  let params := listenerParams obj
  let some sourceUid := params.get "source_uid" | raising (.error (.keyError "source_uid"))
  let sourceUid ← if isSet sourceUid then pure sourceUid else some <$> call outside.getSourceUid
  let some recordUid := params.get "record_uid" | raising (.error (.keyError "record_uid"))
  return ⟨recordUid, sourceUid⟩

/-- `fetch_obj`; nothing stands for a `UserNotFoundError`. -/
def fetchObj (outside : Outside T User) (recordUid sourceUid : String) :
    Action (Handling T User) HandlerError (Option User) := do
  match ← call (outside.search recordUid sourceUid) with
  | [] => return none
  | [user] => return some user
  | _ => throw (.uniquenessError recordUid sourceUid)

def existsOnTarget (outside : Outside T User) (obj : ListenerUserObject) :
    Action (Handling T User) HandlerError (Option User) := do
  let params ← searchParams outside obj
  if !isSet params.recordUid then throw (.missingData "record_uid")
  if !isSet params.sourceUid then throw (.missingData "source_uid")
  fetchObj outside (params.recordUid.getD "") (params.sourceUid.getD "")

/-- Log `MissingData` and go on without a result. -/
def loggingMissingData {α : Type} (action : Action (Handling T User) HandlerError α) :
    Action (Handling T User) HandlerError (Option α) :=
  tryCatch (some <$> action) fun
    | .missingData _ => pure none
    | raised => throw raised

/-! ## Removing -/

def logCall (made : TargetCall User) : Action (Handling T User) HandlerError Unit :=
  modify fun s => { s with calls := s.calls ++ [made] }

def doRemove (outside : Outside T User) (user : User) :
    Action (Handling T User) HandlerError Unit := do
  logCall (.remove user)
  call (outside.remove user)

def handleRemove (outside : Outside T User) (obj : ListenerUserRemoveObject) :
    Action (Handling T User) HandlerError Unit := do
  match ← loggingMissingData (existsOnTarget outside (.remove obj)) with
  | some (some user) => doRemove outside user
  | _ => return

/-- `obj.username`, which the log messages need. -/
def username (obj : ListenerUserAddModifyObject) : Action (Handling T User) HandlerError Json :=
  match obj.object.get "username" with
  | some name => pure name
  | none => raising (.error (.keyError "username"))

/-- The remove object for a user without schools in the school authority. -/
def removeObjectOf (obj : ListenerUserAddModifyObject) : ListenerUserRemoveObject where
  dn := obj.dn
  id := obj.id
  oldData := some (obj.oldData.getD ⟨obj.schools, obj.recordUid, obj.sourceUid⟩)

def handleHasNoSchools (outside : Outside T User) (obj : ListenerUserAddModifyObject) :
    Action (Handling T User) HandlerError Unit := do
  let _ ← username obj
  handleRemove outside (removeObjectOf obj)

/-! ## Creating and modifying -/

section Dispatching

variable [CaseMapping]

/-- Some school of the object has one of the names, up to case. -/
def hasSchoolAmong (obj : ListenerUserAddModifyObject) (names : List String) : Bool :=
  obj.schools.any fun school => lower school ∈ names.map lower

def userHasSchools (outside : Outside T User) (obj : ListenerUserAddModifyObject) :
    Action (Handling T User) HandlerError Bool := do
  let apiSchools ← schoolsIdsOnTarget outside
  if hasSchoolAmong obj apiSchools.keys then return true
  handleHasNoSchools outside obj
  return false

/-- It only logs, but it reads what it logs. -/
def printIds (outside : Outside T User) (obj : ListenerUserAddModifyObject) :
    Action (Handling T User) HandlerError Unit := do
  let _ ← schoolsIdsOnTarget outside
  let _ ← username obj

def doCreate (outside : Outside T User) (requestBody : JsonObject) :
    Action (Handling T User) HandlerError Unit := do
  logCall (.create requestBody)
  match requestBody.get "name" with
  | some _ => call (outside.create requestBody)
  | none => raising (.error (.keyError "name"))

def doModify (outside : Outside T User) (requestBody : JsonObject) (user : User) :
    Action (Handling T User) HandlerError Unit := do
  logCall (.modify requestBody user)
  call (outside.modify requestBody user)

def doCreateOrUpdate (outside : Outside T User) (self : Dispatcher) (env : LdapEnvironment)
    (obj : ListenerUserAddModifyObject) : Action (Handling T User) HandlerError Unit := do
  let requestBody ← mapAttributes self env (services outside) obj self.attributeMapping
  match ← loggingMissingData (existsOnTarget outside (.addModify obj)) with
  | none => return
  | some (some user) => doModify outside requestBody user
  | some none => doCreate outside requestBody

def handleCreateOrUpdate (outside : Outside T User) (self : Dispatcher) (env : LdapEnvironment)
    (obj : ListenerUserAddModifyObject) : Action (Handling T User) HandlerError Unit := do
  if ← userHasSchools outside obj then
    printIds outside obj
    doCreateOrUpdate outside self env obj

end Dispatching

end KelvinPerSAUserDispatcher

end IdConnector
