import IdConnector.PartialGroupSync
import IdConnector.SentUids

/-! # Handling school classes at a target

`handle_create_or_update` and `handle_remove` of the two dispatchers for school classes, which
differ in the members that they send. A refusal to save a class with a member that the target
does not know is only logged, so the log is part of the state.
-/

namespace IdConnector

open Library

/-- The outcome of `school_class.save()`; `noObject` stands for `NoObject`. -/
inductive Saved where
  | done
  | noObject
  deriving Repr, DecidableEq

/-- What a dispatcher for school classes calls. -/
structure ClassOutside (T SchoolClass : Type) where
  /-- The clock, the schools and the mapping; nothing else of it is used. -/
  shared : Outside T SchoolClass
  name : SchoolClass → String
  school : SchoolClass → String
  users : SchoolClass → List String
  /-- `SchoolClassResource(session=self.session).search(name=…, school=…)` -/
  searchClasses : (name school : String) → Action T HandlerError (List SchoolClass)
  /-- `SchoolClassResource(session=self.session).get(name=…, school=…)`; nothing stands for
      `NoObject`. -/
  getClass : (name school : String) → Action T HandlerError (Option SchoolClass)
  /-- `SchoolClass(session=self.session, **request_body).save()` -/
  createClass : JsonObject → Action T HandlerError Saved
  /-- Set the attributes of the request body and save. -/
  modifyClass : JsonObject → SchoolClass → Action T HandlerError Saved
  deleteClass : SchoolClass → Action T HandlerError Unit
  /-- `self._ldap_access.get_user(username, attributes=["ucsschoolRole"])` -/
  getUser : String → Action T HandlerError (Option User)

/-- A dispatcher for school classes at work. -/
structure ClassHandling (T SchoolClass : Type) where
  base : Handling T SchoolClass
  /-- The request bodies that the target answered with "no object". -/
  refused : List JsonObject

/-- A group add or modify object, or a group remove object. -/
inductive ListenerGroupObject where
  | addModify (obj : ListenerGroupAddModifyObject)
  | remove (obj : ListenerGroupRemoveObject)

namespace ListenerGroupObject

def dn : ListenerGroupObject → String
  | addModify obj => obj.dn
  | remove obj => obj.dn

end ListenerGroupObject

/-- What a dispatcher for school classes awaits while it maps attributes. -/
structure ClassServices (m : Type → Type) where
  schoolsIdsOnTarget : m (Dict String String)
  /-- `_handle_attr_users`, which the derived class overrides. -/
  handleAttrUsers : ListenerGroupAddModifyObject → m (List String)

namespace KelvinPerSASchoolClassDispatcher

open KelvinPerSAUserDispatcher (raising targetSchools updateBody)

/-! ## The request body -/

section Mapping

variable [CaseMapping] {m : Type → Type} [Monad m] [MonadExceptOf HandlerError m]
  (env : LdapEnvironment) (services : ClassServices m) (obj : ListenerGroupAddModifyObject)

/-- Name of this school class on the target. -/
def handleAttrName : m Json := do
  return Json.str (← raising (searchParams env obj.dn)).name

/-- Name of school for this school class on the target. -/
def handleAttrSchool : m Json := do
  let target := targetSchools (← services.schoolsIdsOnTarget)
  let params ← raising (searchParams env obj.dn)
  match target.get (lower params.school) with
  | some school => return Json.str school
  | none => throw (HandlerError.unknownSchool [params.school] params.school)

/-- The `_handle_attr_*` method of an attribute, if there is one. -/
def handleAttr : String → Option (m Json)
  | "name" => some (handleAttrName env obj)
  | "school" => some (handleAttrSchool env services obj)
  | "users" => some (Json.strs <$> services.handleAttrUsers obj)
  | _ => none

/-- `_handle_none_value` skips `None`. -/
def unlessNone : Json → Option Json
  | .null => none
  | value => some value

/-- The value to send for an attribute, if any. -/
def valueHere (keyHere : String) : m (Option Json) :=
  match handleAttr env services obj keyHere with
  | some meth => unlessNone <$> meth
  | none => return unlessNone ((obj.object.get keyHere).getD .null)

def updateForMappingData (keyThere value : Json) : Except PyError JsonObject := do
  return [(← keyThere.dictKey, value)]

/-- One round of the loop over `mapping.items()`. -/
def mapAttribute (res : JsonObject) (entry : String × Json) : m JsonObject := do
  match ← valueHere env services obj entry.1 with
  | some value =>
      updateBody res (← raising (updateForMappingData entry.2 value))
  | none => return res

def mapAttributes : Json → m JsonObject
  | .dict entries => entries.foldlM (mapAttribute env services obj) []
  | _ => raising (.error (.attributeError "items"))

end Mapping

/-! ## Calls -/

section Calls

variable {T SchoolClass : Type} (outside : ClassOutside T SchoolClass)

/-- Do what all dispatchers do. -/
def shared {α : Type} (action : Action (Handling T SchoolClass) HandlerError α) :
    Action (ClassHandling T SchoolClass) HandlerError α :=
  Action.zoom ClassHandling.base (fun base s => { s with base }) action

/-- Call something outside. -/
def call {α : Type} (action : Action T HandlerError α) :
    Action (ClassHandling T SchoolClass) HandlerError α :=
  shared (KelvinPerSAUserDispatcher.call action)

def schoolsIdsOnTarget : Action (ClassHandling T SchoolClass) HandlerError (Dict String String) :=
  shared (KelvinPerSAUserDispatcher.schoolsIdsOnTarget outside.shared)

/-- `SchoolClassResource(session=self.session).get(…)` where nobody catches `NoObject`. -/
def getClass (name school : String) :
    Action (ClassHandling T SchoolClass) HandlerError SchoolClass := do
  match ← call (outside.getClass name school) with
  | some schoolClass => return schoolClass
  | none => throw (.client "NoObject")

/-- The error message about a refused request body. -/
def logRefusal (requestBody : JsonObject) :
    Saved → Action (ClassHandling T SchoolClass) HandlerError Unit
  | .done => return
  | .noObject => modify fun s => { s with refused := s.refused ++ [requestBody] }

def doCreate (requestBody : JsonObject) :
    Action (ClassHandling T SchoolClass) HandlerError Unit := do
  match requestBody.get "name" with
  | some _ => logRefusal requestBody (← call (outside.createClass requestBody))
  | none => raising (.error (.keyError "name"))

def doModify (requestBody : JsonObject) (found : SchoolClass) :
    Action (ClassHandling T SchoolClass) HandlerError Unit := do
  let schoolClass ← getClass outside (outside.name found) (outside.school found)
  logRefusal requestBody (← call (outside.modifyClass requestBody schoolClass))

def doRemove (found : SchoolClass) : Action (ClassHandling T SchoolClass) HandlerError Unit := do
  let schoolClass ← getClass outside (outside.name found) (outside.school found)
  call (outside.deleteClass schoolClass)

/-- Nothing stands for a `GroupNotFoundError`. -/
def fetchObj (params : ClassSearchParams) :
    Action (ClassHandling T SchoolClass) HandlerError (Option SchoolClass) := do
  match ← call (outside.searchClasses params.name params.school) with
  | [] => return none
  | [schoolClass] => return some schoolClass
  -- the text of the `UniquenessError` reads parameters of a search for users
  | _ => raising (.error (.keyError "source_uid"))

/-- Log `MissingData` and go on without a result. -/
def loggingMissingData {α : Type} (action : Action (ClassHandling T SchoolClass) HandlerError α) :
    Action (ClassHandling T SchoolClass) HandlerError (Option α) :=
  tryCatch (some <$> action) fun
    | .missingData _ => pure none
    | raised => throw raised

end Calls

/-! ## Handling an object -/

/-- `obj.name` -/
def className (obj : ListenerGroupAddModifyObject) : Except PyError Json :=
  match obj.object.get "name" with
  | some name => .ok name
  | none => .error (.keyError "name")

section Dispatching

variable [CaseMapping] {T SchoolClass : Type} (outside : ClassOutside T SchoolClass)
  (env : LdapEnvironment)

def isSchoolsClass (dn : String) : Bool := (schoolClassDnRegex env dn).isSome

def schoolClassSchoolExistsOnTarget (dn : String) :
    Action (ClassHandling T SchoolClass) HandlerError Bool := do
  let ou := (← raising (searchParams env dn)).school
  return lower ou ∈ (← schoolsIdsOnTarget outside).keys.map lower

def createOrUpdatePreconditionsMet (obj : ListenerGroupAddModifyObject) :
    Action (ClassHandling T SchoolClass) HandlerError Bool := do
  if !isSchoolsClass env obj.dn then return false
  if ← schoolClassSchoolExistsOnTarget outside env obj.dn then return true
  -- the message names the class
  let _ ← raising (className obj)
  return false

def removePreconditionsMet (obj : ListenerGroupRemoveObject) :
    Action (ClassHandling T SchoolClass) HandlerError Bool := do
  if !isSchoolsClass env obj.dn then return false
  schoolClassSchoolExistsOnTarget outside env obj.dn

def existsOnTarget (dn : String) :
    Action (ClassHandling T SchoolClass) HandlerError (Option SchoolClass) := do
  let params ← raising (searchParams env dn)
  if params.name = "" then throw (.missingData "name")
  fetchObj outside params

variable (services : ClassServices (Action (ClassHandling T SchoolClass) HandlerError))
  (self : Dispatcher)

def doCreateOrUpdate (obj : ListenerGroupAddModifyObject) :
    Action (ClassHandling T SchoolClass) HandlerError Unit := do
  let requestBody ← mapAttributes env services obj self.attributeMapping
  match ← loggingMissingData (existsOnTarget outside env obj.dn) with
  | none => return
  | some (some schoolClass) => doModify outside requestBody schoolClass
  | some none => doCreate outside requestBody

def handleCreateOrUpdate (obj : ListenerGroupAddModifyObject) :
    Action (ClassHandling T SchoolClass) HandlerError Unit := do
  if ← createOrUpdatePreconditionsMet outside env obj then
    doCreateOrUpdate outside env services self obj

def handleRemove (obj : ListenerGroupRemoveObject) :
    Action (ClassHandling T SchoolClass) HandlerError Unit := do
  if ← removePreconditionsMet outside env obj then
    match ← loggingMissingData (existsOnTarget outside env obj.dn) with
    | some (some schoolClass) => doRemove outside schoolClass
    | _ => return

/-- `GroupDispatcherPluginBase.handle_listener_object` -/
def handleListenerObject :
    ListenerGroupObject → Action (ClassHandling T SchoolClass) HandlerError Unit
  | .addModify obj => handleCreateOrUpdate outside env services self obj
  | .remove obj => handleRemove outside env obj

/-- The services of a `KelvinPerSASchoolClassDispatcher`. -/
def kelvinServices : ClassServices (Action (ClassHandling T SchoolClass) HandlerError) where
  schoolsIdsOnTarget := schoolsIdsOnTarget outside
  handleAttrUsers obj := ofExcept (handleAttrUsers obj)

end Dispatching

end KelvinPerSASchoolClassDispatcher

namespace KelvinPartialGroupSyncPerSASchoolClassDispatcher

open KelvinPerSASchoolClassDispatcher (call schoolsIdsOnTarget)

variable [CaseMapping] {T SchoolClass : Type} (outside : ClassOutside T SchoolClass)

def groupServices : GroupServices (Action (ClassHandling T SchoolClass) HandlerError) where
  getUser username := call (outside.getUser username)
  handledSchools := call outside.shared.handledSchools
  getSchoolClass name school :=
    Option.map outside.users <$> call (outside.getClass name school)

/-- The services of a `KelvinPartialGroupSyncPerSASchoolClassDispatcher`. -/
def partialServices (self : Dispatcher) :
    ClassServices (Action (ClassHandling T SchoolClass) HandlerError) where
  schoolsIdsOnTarget := schoolsIdsOnTarget outside
  handleAttrUsers obj := handleAttrUsers self (groupServices outside) obj

end KelvinPartialGroupSyncPerSASchoolClassDispatcher

end IdConnector
