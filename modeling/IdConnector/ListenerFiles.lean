import IdConnector.Base64
import IdConnector.Reload

/-! # Listener files

The four listener object models with all their fields, and how the handlers of
`listener_objects.py` write them to files and read them back. A file holds a JSON document
with sorted keys. An object that was read equals the one that was written, but for the order
of the keys in its `object`.
-/

namespace IdConnector

open Library Library.Document

/-- Validation of the types that only listener objects have. -/
class PydanticTypes extends Pydantic where
  int : Json → Except (String × String) Int
  bytes : Json → Except (String × String) (List UInt8)
  int_typed : ∀ n, int (.atom (.int n)) = .ok n
  bytes_str : ∀ s, bytes (Json.str s) = .ok (utf8 s.toList)

abbrev typedPydanticTypes : PydanticTypes where
  toPydantic := typedPydantic
  int
    | .atom (.int n) => .ok n
    | _ => .error ("value is not a valid integer", "type_error.integer")
  bytes
    | .atom (.str s) => .ok (utf8 s.toList)
    | _ => .error ("byte type expected", "type_error.bytes")
  int_typed _ := rfl
  bytes_str _ := rfl

/-! ## Models -/

/-- The actions of a listener file. -/
inductive ListenerActionEnum where
  | addMod
  | delete
  deriving Repr, DecidableEq

def ListenerActionEnum.value : ListenerActionEnum → String
  | addMod => "add_mod"
  | delete => "delete"

/-- The fields of `ListenerObject`. -/
structure ListenerFields where
  dn : String
  id : String
  udmObjectType : String
  action : ListenerActionEnum
  deriving Repr, DecidableEq

/-- One of them has to be among the options of a user. -/
def schoolUserObjectClasses : List String :=
  ["ucsschoolStaff", "ucsschoolStudent", "ucsschoolTeacher", "ucsschoolLegalGuardian"]

/-- `ListenerUserAddModifyObject` with its three validators. -/
structure ListenerUserAddModifyModel extends ListenerFields where
  object : JsonObject
  options : List String
  oldData : Option ListenerUserOldDataEntry
  userPasswords : Option UserPasswords
  supportedUdmObjectType : udmObjectType = "users/user"
  hasRequiredOc : "default" ∈ options ∧ ∃ oc ∈ schoolUserObjectClasses, oc ∈ options
  hasRequiredAttrs : ((Dict.get object "school").getD .null).truthy = true

/-- `ListenerUserRemoveObject`, which has no validator. -/
structure ListenerUserRemoveModel extends ListenerFields where
  oldData : Option ListenerUserOldDataEntry

/-- `ListenerGroupAddModifyObject` with its validator. -/
structure ListenerGroupAddModifyModel extends ListenerFields where
  object : JsonObject
  options : List String
  oldData : Option ListenerGroupOldDataEntry
  supportedUdmObjectType : udmObjectType = "groups/group"

/-- `ListenerGroupRemoveObject`, which has no validator. -/
structure ListenerGroupRemoveModel extends ListenerFields where
  oldData : Option ListenerGroupOldDataEntry

/-- A listener file as one of the four models. -/
inductive ListenerModel where
  | userAddModify (obj : ListenerUserAddModifyModel)
  | userRemove (obj : ListenerUserRemoveModel)
  | groupAddModify (obj : ListenerGroupAddModifyModel)
  | groupRemove (obj : ListenerGroupRemoveModel)

/-! ## Objects as dictionaries -/

def optional {α : Type} (f : α → Json) : Option α → Json
  | none => .null
  | some a => f a

def ListenerUserOldDataEntry.dict (old : ListenerUserOldDataEntry) : JsonObject :=
  [("schools", Json.strs old.schools), ("record_uid", optional Json.str old.recordUid),
    ("source_uid", optional Json.str old.sourceUid)]

def ListenerGroupOldDataEntry.dict (old : ListenerGroupOldDataEntry) : JsonObject :=
  [("users", Json.strs old.users)]

def UserPasswords.dictKrb5KeyBase64Encoded (passwords : UserPasswords) : JsonObject :=
  [("userPassword", Json.strs passwords.userPassword),
    ("sambaNTPassword", Json.str passwords.sambaNTPassword),
    ("krb5Key", Json.strs (passwords.krb5Key.map fun key => String.ofList (b64encode key))),
    ("krb5KeyVersionNumber", .atom (.int passwords.krb5KeyVersionNumber)),
    ("sambaPwdLastSet", .atom (.int passwords.sambaPwdLastSet))]

def ListenerFields.dict (fields : ListenerFields) : JsonObject :=
  [("dn", Json.str fields.dn), ("id", Json.str fields.id),
    ("udm_object_type", Json.str fields.udmObjectType), ("action", Json.str fields.action.value)]

/-- `.dict()`, but with base64 encoded password hashes: only the handler for users ever has to
    write an object with passwords. -/
def ListenerModel.dictKrb5KeyBase64Encoded : ListenerModel → JsonObject
  | userAddModify obj => obj.toListenerFields.dict ++
      [("object", .dict obj.object), ("options", Json.strs obj.options),
        ("old_data", optional (fun old => .dict old.dict) obj.oldData),
        ("user_passwords",
          optional (fun passwords => .dict passwords.dictKrb5KeyBase64Encoded) obj.userPasswords)]
  | userRemove obj => obj.toListenerFields.dict ++
      [("old_data", optional (fun old => .dict old.dict) obj.oldData)]
  | groupAddModify obj => obj.toListenerFields.dict ++
      [("object", .dict obj.object), ("options", Json.strs obj.options),
        ("old_data", optional (fun old => .dict old.dict) obj.oldData)]
  | groupRemove obj => obj.toListenerFields.dict ++
      [("old_data", optional (fun old => .dict old.dict) obj.oldData)]

/-! ## Objects from dictionaries

Nothing stands for a `ValidationError`, which the handlers only log. -/

section Parsing

variable [PydanticTypes]

def parseAction (default : ListenerActionEnum) (data : JsonObject) : Option ListenerActionEnum :=
  match data.get "action" with
  | none => some default
  | some v => [ListenerActionEnum.addMod, .delete].find? fun action => v = Json.str action.value

def ListenerFields.init (default : ListenerActionEnum) (data : JsonObject) :
    Option ListenerFields := do
  let dn ← (field data "dn" none (located ["dn"] ∘ Pydantic.str)).toOption
  let id ← (field data "id" none (located ["id"] ∘ Pydantic.str)).toOption
  let udmObjectType ←
    (field data "udm_object_type" none (located ["udm_object_type"] ∘ Pydantic.str)).toOption
  let action ← parseAction default data
  return ⟨dn, id, udmObjectType, action⟩

/-- A field that holds an instance of another model or `None`. -/
def optionalModel {α : Type} (data : JsonObject) (name : String) (init : JsonObject → Option α) :
    Option (Option α) :=
  match (data.get name).getD .null with
  | .null => some none
  | v => do
      let entries ← (Pydantic.dict v).toOption
      some <$> init entries

def ListenerUserOldDataEntry.init (data : JsonObject) : Option ListenerUserOldDataEntry := do
  let schools ← (field data "schools" none (listOfStr "schools")).toOption
  let recordUid ← (optionalField data "record_uid" (located ["record_uid"] ∘ Pydantic.str)).toOption
  let sourceUid ← (optionalField data "source_uid" (located ["source_uid"] ∘ Pydantic.str)).toOption
  return ⟨schools, recordUid, sourceUid⟩

def ListenerGroupOldDataEntry.init (data : JsonObject) : Option ListenerGroupOldDataEntry := do
  let users ← (field data "users" none (listOfStr "users")).toOption
  return ⟨users⟩

/-- `List[bytes]` -/
def listOfBytes (v : Json) : Option (List (List UInt8)) := do
  let items ← (Pydantic.list v).toOption
  items.mapM fun item => (PydanticTypes.bytes item).toOption

def UserPasswords.init (data : JsonObject) : Option UserPasswords := do
  let userPassword ← (field data "userPassword" none (listOfStr "userPassword")).toOption
  let sambaNTPassword ←
    (field data "sambaNTPassword" none (located ["sambaNTPassword"] ∘ Pydantic.str)).toOption
  let krb5Key ← listOfBytes (← data.get "krb5Key")
  let krb5KeyVersionNumber ← (PydanticTypes.int (← data.get "krb5KeyVersionNumber")).toOption
  let sambaPwdLastSet ← (PydanticTypes.int (← data.get "sambaPwdLastSet")).toOption
  return ⟨userPassword, sambaNTPassword, krb5Key, krb5KeyVersionNumber, sambaPwdLastSet⟩

def ListenerUserAddModifyModel.init (data : JsonObject) : Option ListenerUserAddModifyModel := do
  let fields ← ListenerFields.init .addMod data
  let object ← (field data "object" none (located ["object"] ∘ Pydantic.dict)).toOption
  let options ← (field data "options" none (listOfStr "options")).toOption
  let oldData ← optionalModel data "old_data" ListenerUserOldDataEntry.init
  let userPasswords ← optionalModel data "user_passwords" UserPasswords.init
  if valid : fields.udmObjectType = "users/user" ∧
      ("default" ∈ options ∧ ∃ oc ∈ schoolUserObjectClasses, oc ∈ options) ∧
      ((Dict.get object "school").getD .null).truthy = true then
    return ⟨fields, object, options, oldData, userPasswords, valid.1, valid.2.1, valid.2.2⟩
  else none

def ListenerUserRemoveModel.init (data : JsonObject) : Option ListenerUserRemoveModel := do
  let fields ← ListenerFields.init .delete data
  let oldData ← optionalModel data "old_data" ListenerUserOldDataEntry.init
  return ⟨fields, oldData⟩

def ListenerGroupAddModifyModel.init (data : JsonObject) : Option ListenerGroupAddModifyModel := do
  let fields ← ListenerFields.init .addMod data
  let object ← (field data "object" none (located ["object"] ∘ Pydantic.dict)).toOption
  let options ← (field data "options" none (listOfStr "options")).toOption
  let oldData ← optionalModel data "old_data" ListenerGroupOldDataEntry.init
  if valid : fields.udmObjectType = "groups/group" then
    return ⟨fields, object, options, oldData, valid⟩
  else none

def ListenerGroupRemoveModel.init (data : JsonObject) : Option ListenerGroupRemoveModel := do
  let fields ← ListenerFields.init .delete data
  let oldData ← optionalModel data "old_data" ListenerGroupOldDataEntry.init
  return ⟨fields, oldData⟩

/-! ## The handlers -/

/-- `ListenerGroupObjectHandlerImpl` and `ListenerUserObjectHandlerImpl`. -/
inductive ListenerFileHandler where
  | group
  | user
  deriving Repr, DecidableEq

/-- In the order in which the hooks run, the handler that was registered last comes first. -/
def listenerFileHandlers : List ListenerFileHandler := [.user, .group]

namespace ListenerFileHandler

def udmObjectType : ListenerFileHandler → String
  | group => "groups/group"
  | user => "users/user"

/-- Turn the base64 encoded hashes back into binary data, all of them or none. -/
def decodeKrb5Key (passwords : UserPasswords) : UserPasswords :=
  match passwords.krb5Key.mapM b64decode with
  | some krb5Key => { passwords with krb5Key }
  | none => passwords

def getListenerObject (handler : ListenerFileHandler) (objDict : JsonObject) :
    Option ListenerModel :=
  if objDict.get "udm_object_type" ≠ some (Json.str handler.udmObjectType) then none
  else if (objDict.get "object").getD .null = .null then
    match handler with
    | group => ListenerModel.groupRemove <$> ListenerGroupRemoveModel.init objDict
    | user => ListenerModel.userRemove <$> ListenerUserRemoveModel.init objDict
  else
    match handler with
    | group => ListenerModel.groupAddModify <$> ListenerGroupAddModifyModel.init objDict
    | user =>
        (ListenerUserAddModifyModel.init objDict).map fun obj =>
          .userAddModify { obj with userPasswords := obj.userPasswords.map decodeKrb5Key }

def objAsDict (handler : ListenerFileHandler) (obj : ListenerModel) : JsonObject :=
  let objAsDict := obj.dictKrb5KeyBase64Encoded
  match handler, obj with
  | user, .userAddModify _ | user, .userRemove _ =>
      -- an empty dictionary would not be valid old data
      if objAsDict.get "old_data" = some (.dict []) then objAsDict.del "old_data" else objAsDict
  | _, _ => objAsDict

end ListenerFileHandler

/-- `obj.udm_object_type` -/
def ListenerModel.udmObjectType : ListenerModel → String
  | userAddModify obj => obj.udmObjectType
  | userRemove obj => obj.udmObjectType
  | groupAddModify obj => obj.udmObjectType
  | groupRemove obj => obj.udmObjectType

/-- The document that the handler writes to the file, if it takes the object. -/
def ListenerFileHandler.saveListenerObject (handler : ListenerFileHandler)
    (obj : ListenerModel) : Option JsonObject :=
  if obj.udmObjectType = handler.udmObjectType then some (sortEntries (handler.objAsDict obj))
  else none

/-- `save_listener_file`: the contents of the file, or nothing for a `ListenerSavingError`. -/
def ListenerModel.saveListenerFile (obj : ListenerModel) : Option JsonObject :=
  listenerFileHandlers.findSome? fun handler => handler.saveListenerObject obj

/-- `load_listener_file`, with nothing for a `ListenerLoadingError`. -/
def ListenerModel.loadListenerFile (objDict : JsonObject) : Option ListenerModel :=
  listenerFileHandlers.findSome? fun handler => handler.getListenerObject objDict

/-- Write the object and read it back, a number of times. -/
def saveAndLoad : Nat → ListenerModel → Option ListenerModel
  | 0, obj => some obj
  | rounds + 1, obj => do
      let objDict ← ListenerModel.saveListenerFile obj
      let obj ← ListenerModel.loadListenerFile objDict
      saveAndLoad rounds obj

end Parsing

/-! ## Equal objects -/

theorem truthy_school_sortEntries (object : JsonObject) :
    Json.truthy ((Dict.get (sortEntries object) "school").getD .null) =
      Json.truthy ((Dict.get object "school").getD .null) := by
  rw [get_sortEntries]
  cases Dict.get object "school" with
  | none => rfl
  | some v => exact truthy_sortKeys v

/-- The object with sorted keys. -/
def ListenerModel.sorted : ListenerModel → ListenerModel
  | userAddModify obj => userAddModify { obj with
      object := sortEntries obj.object
      hasRequiredAttrs := (truthy_school_sortEntries obj.object).trans obj.hasRequiredAttrs }
  | groupAddModify obj => groupAddModify { obj with object := sortEntries obj.object }
  | userRemove obj => userRemove obj
  | groupRemove obj => groupRemove obj

/-- Both are of one type and have the same values: the order of keys does not count. -/
def ListenerModel.Same (a b : ListenerModel) : Prop := a.sorted = b.sorted

theorem ListenerModel.sorted_idem (obj : ListenerModel) : obj.sorted.sorted = obj.sorted := by
  have idem (object : JsonObject) : sortEntries (sortEntries object) = sortEntries object :=
    Document.dict.inj (sortKeys_idem (.dict object))
  cases obj with
  | userAddModify obj => simp only [sorted, idem]
  | groupAddModify obj => simp only [sorted, idem]
  | userRemove obj | groupRemove obj => rfl

/-- The `udm_object_type` that an object of this type should have. -/
def ListenerModel.ownUdmObjectType : ListenerModel → String
  | userAddModify _ | userRemove _ => "users/user"
  | groupAddModify _ | groupRemove _ => "groups/group"

@[simp] theorem ListenerModel.udmObjectType_sorted (obj : ListenerModel) :
    obj.sorted.udmObjectType = obj.udmObjectType := by
  cases obj <;> rfl

@[simp] theorem ListenerModel.ownUdmObjectType_sorted (obj : ListenerModel) :
    obj.sorted.ownUdmObjectType = obj.ownUdmObjectType := by
  cases obj <;> rfl

/-! ## Reading what was written -/

@[simp] theorem sortKeys_str (s : String) : (Json.str s).sortKeys = Json.str s := rfl

@[simp] theorem sortKeys_optional_str (o : Option String) :
    (optional Json.str o).sortKeys = optional Json.str o := by
  cases o <;> rfl

theorem located_ok {α : Type} (loc : List String) (a : α) : located loc (.ok a) = .ok a := rfl

theorem field_of_get {α : Type} {data : JsonObject} {name : String} {v : Json} {a : α}
    (default : Option α) {validate : Json → Except (List FieldError) α} (found : data.get name = some v)
    (valid : validate v = .ok a) : field data name default validate = .ok a := by
  simp only [field, found, valid]

section Reading

variable [PydanticTypes]

theorem optionalField_str {data : JsonObject} {name : String} {uid : Option String}
    (found : data.get name = some (optional Json.str uid)) :
    optionalField data name (located [name] ∘ Pydantic.str) = .ok uid := by
  apply field_of_get _ found
  cases uid with
  | none => rfl
  | some s =>
      simp only [optional, Json.str, Function.comp_apply, Pydantic.str_typed, located_ok]
      rfl

/-- The old data of a user, read from any document with its entries. -/
theorem userOldData_init {data : JsonObject} {old : ListenerUserOldDataEntry}
    (same : ∀ k, data.get k = (Dict.get old.dict k).map sortKeys) :
    ListenerUserOldDataEntry.init data = some old := by
  have schools : field data "schools" none (listOfStr "schools") = .ok old.schools :=
    field_of_get _ (by rw [same]; rfl) (by rw [sortKeys_strs, listOfStr_typed])
  have recordUid : optionalField data "record_uid" (located ["record_uid"] ∘ Pydantic.str) =
      .ok old.recordUid := optionalField_str (by rw [same]; simp [ListenerUserOldDataEntry.dict, Dict.get])
  have sourceUid : optionalField data "source_uid" (located ["source_uid"] ∘ Pydantic.str) =
      .ok old.sourceUid := optionalField_str (by rw [same]; simp [ListenerUserOldDataEntry.dict, Dict.get])
  simp [ListenerUserOldDataEntry.init, schools, recordUid, sourceUid, Except.toOption]

theorem groupOldData_init {data : JsonObject} {old : ListenerGroupOldDataEntry}
    (same : ∀ k, data.get k = (Dict.get old.dict k).map sortKeys) :
    ListenerGroupOldDataEntry.init data = some old := by
  have users : field data "users" none (listOfStr "users") = .ok old.users :=
    field_of_get _ (by rw [same]; rfl) (by rw [sortKeys_strs, listOfStr_typed])
  simp [ListenerGroupOldDataEntry.init, users, Except.toOption]

/-- The passwords as they are read from a file, before the keys are decoded. -/
def UserPasswords.encoded (passwords : UserPasswords) : UserPasswords :=
  { passwords with krb5Key := passwords.krb5Key.map fun key => utf8 (b64encode key) }

omit [PydanticTypes] in
theorem mapM_b64decode (keys : List (List UInt8)) :
    (keys.map fun key => utf8 (b64encode key)).mapM b64decode = some keys := by
  induction keys with
  | nil => rfl
  | cons key rest ih => simp [b64decode_encode, ih]

omit [PydanticTypes] in
theorem decodeKrb5Key_encoded (passwords : UserPasswords) :
    ListenerFileHandler.decodeKrb5Key passwords.encoded = passwords := by
  simp only [ListenerFileHandler.decodeKrb5Key, UserPasswords.encoded, mapM_b64decode]

theorem listOfBytes_strs (texts : List String) :
    listOfBytes (Json.strs texts) = some (texts.map fun text => utf8 text.toList) := by
  have items : (texts.map Json.str).mapM (fun item => (PydanticTypes.bytes item).toOption) =
      some (texts.map fun text => utf8 text.toList) := by
    induction texts with
    | nil => rfl
    | cons text rest ih =>
        rw [List.map_cons, List.mapM_cons, ih, PydanticTypes.bytes_str]
        rfl
  simpa [listOfBytes, Json.strs, Pydantic.list_typed, Except.toOption] using items

theorem userPasswords_init {data : JsonObject} {passwords : UserPasswords}
    (same : ∀ k, data.get k = (Dict.get passwords.dictKrb5KeyBase64Encoded k).map sortKeys) :
    UserPasswords.init data = some passwords.encoded := by
  have userPassword : field data "userPassword" none (listOfStr "userPassword") =
      .ok passwords.userPassword :=
    field_of_get _ (by rw [same]; rfl) (by rw [sortKeys_strs, listOfStr_typed])
  have sambaNTPassword : field data "sambaNTPassword" none
      (located ["sambaNTPassword"] ∘ Pydantic.str) = .ok passwords.sambaNTPassword :=
    field_of_get _ (by rw [same]; rfl) (by
      rw [sortKeys_str, Json.str, Function.comp_apply, Pydantic.str_typed, located_ok])
  have krb5Key : data.get "krb5Key" = some (Json.strs
      (passwords.krb5Key.map fun key => String.ofList (b64encode key))) := by
    rw [same]
    simp [UserPasswords.dictKrb5KeyBase64Encoded, Dict.get, sortKeys_strs]
  have numbers : data.get "krb5KeyVersionNumber" =
        some (.atom (.int passwords.krb5KeyVersionNumber)) ∧
      data.get "sambaPwdLastSet" = some (.atom (.int passwords.sambaPwdLastSet)) := by
    rw [same, same]
    exact ⟨rfl, rfl⟩
  simp [UserPasswords.init, userPassword, sambaNTPassword, krb5Key, numbers.1, numbers.2,
    listOfBytes_strs, PydanticTypes.int_typed, Except.toOption, UserPasswords.encoded]

theorem objectField_init {data object : JsonObject}
    (found : data.get "object" = some (Document.dict object).sortKeys) :
    field data "object" none (located ["object"] ∘ Pydantic.dict) = .ok (sortEntries object) :=
  field_of_get _ found (by rw [sortKeys, Function.comp_apply, Pydantic.dict_typed, located_ok])

theorem optionsField_init {data : JsonObject} {options : List String}
    (found : data.get "options" = some (Json.strs options).sortKeys) :
    field data "options" none (listOfStr "options") = .ok options :=
  field_of_get _ found (by rw [sortKeys_strs, listOfStr_typed])

theorem optionalModel_of_get {α β : Type} {data : JsonObject} (name : String) (a : Option α)
    {toDict : α → JsonObject} {init : JsonObject → Option β} (read : α → β)
    (found : data.get name = some (optional (fun a => .dict (toDict a)) a).sortKeys)
    (valid : ∀ a, init (sortEntries (toDict a)) = some (read a)) :
    optionalModel data name init = some (a.map read) := by
  unfold optionalModel
  rw [found]
  cases a with
  | none => rfl
  | some a =>
      simp only [optional, sortKeys, Option.getD_some, Pydantic.dict_typed, Except.toOption,
        Option.bind_eq_bind, Option.bind_some, valid]
      rfl

theorem listenerFields_init (default : ListenerActionEnum) {data : JsonObject}
    {fields : ListenerFields} {rest : JsonObject}
    (same : ∀ k, data.get k = (Dict.get (fields.dict ++ rest) k).map sortKeys) :
    ListenerFields.init default data = some fields := by
  have text (name value : String) (found : data.get name = some (Json.str value)) :
      field data name none (located [name] ∘ Pydantic.str) = .ok value :=
    field_of_get _ found (by rw [Json.str, Function.comp_apply, Pydantic.str_typed, located_ok])
  have dn := text "dn" fields.dn (by rw [same]; rfl)
  have id := text "id" fields.id (by rw [same]; rfl)
  have udmObjectType := text "udm_object_type" fields.udmObjectType (by rw [same]; rfl)
  have action : parseAction default data = some fields.action := by
    have found : data.get "action" = some (Json.str fields.action.value) := by rw [same]; rfl
    unfold parseAction
    rw [found]
    cases fields.action <;> rfl
  simp [ListenerFields.init, dn, id, udmObjectType, action, Except.toOption]

/-! ## Round trips -/

theorem userAddModify_init (obj : ListenerUserAddModifyModel) :
    ListenerUserAddModifyModel.init
        (sortEntries (ListenerModel.userAddModify obj).dictKrb5KeyBase64Encoded) =
      some { obj with
        object := sortEntries obj.object
        userPasswords := obj.userPasswords.map UserPasswords.encoded
        hasRequiredAttrs := (truthy_school_sortEntries obj.object).trans obj.hasRequiredAttrs } := by
  have same (k : String) := get_sortEntries
    (ListenerModel.userAddModify obj).dictKrb5KeyBase64Encoded k
  have fields := listenerFields_init .addMod same
  have object := objectField_init (by rw [same]; rfl)
  have options := optionsField_init (by rw [same]; rfl)
  have oldData := optionalModel_of_get "old_data" obj.oldData (fun old => old)
    (by rw [same]; rfl) fun old => userOldData_init (get_sortEntries old.dict)
  have userPasswords := optionalModel_of_get "user_passwords" obj.userPasswords UserPasswords.encoded
    (by rw [same]; rfl) fun passwords => userPasswords_init (get_sortEntries passwords.dictKrb5KeyBase64Encoded)
  have valid : obj.udmObjectType = "users/user" ∧
      ("default" ∈ obj.options ∧ ∃ oc ∈ schoolUserObjectClasses, oc ∈ obj.options) ∧
      Json.truthy ((Dict.get (sortEntries obj.object) "school").getD .null) = true :=
    ⟨obj.supportedUdmObjectType, obj.hasRequiredOc,
      (truthy_school_sortEntries obj.object).trans obj.hasRequiredAttrs⟩
  simp [ListenerUserAddModifyModel.init, fields, object, options, oldData, userPasswords,
    Except.toOption, valid]

theorem userRemove_init (obj : ListenerUserRemoveModel) :
    ListenerUserRemoveModel.init
      (sortEntries (ListenerModel.userRemove obj).dictKrb5KeyBase64Encoded) = some obj := by
  have same (k : String) := get_sortEntries
    (ListenerModel.userRemove obj).dictKrb5KeyBase64Encoded k
  have fields := listenerFields_init .delete same
  have oldData := optionalModel_of_get "old_data" obj.oldData (fun old => old)
    (by rw [same]; rfl) fun old => userOldData_init (get_sortEntries old.dict)
  simp [ListenerUserRemoveModel.init, fields, oldData]

theorem groupAddModify_init (obj : ListenerGroupAddModifyModel) :
    ListenerGroupAddModifyModel.init
        (sortEntries (ListenerModel.groupAddModify obj).dictKrb5KeyBase64Encoded) =
      some { obj with object := sortEntries obj.object } := by
  have same (k : String) := get_sortEntries
    (ListenerModel.groupAddModify obj).dictKrb5KeyBase64Encoded k
  have fields := listenerFields_init .addMod same
  have object := objectField_init (by rw [same]; rfl)
  have options := optionsField_init (by rw [same]; rfl)
  have oldData := optionalModel_of_get "old_data" obj.oldData (fun old => old)
    (by rw [same]; rfl) fun old => groupOldData_init (get_sortEntries old.dict)
  simp [ListenerGroupAddModifyModel.init, fields, object, options, oldData, Except.toOption,
    obj.supportedUdmObjectType]

theorem groupRemove_init (obj : ListenerGroupRemoveModel) :
    ListenerGroupRemoveModel.init
      (sortEntries (ListenerModel.groupRemove obj).dictKrb5KeyBase64Encoded) = some obj := by
  have same (k : String) := get_sortEntries
    (ListenerModel.groupRemove obj).dictKrb5KeyBase64Encoded k
  have fields := listenerFields_init .delete same
  have oldData := optionalModel_of_get "old_data" obj.oldData (fun old => old)
    (by rw [same]; rfl) fun old => groupOldData_init (get_sortEntries old.dict)
  simp [ListenerGroupRemoveModel.init, fields, oldData]

omit [PydanticTypes] in
/-- Old data is never written as an empty dictionary. -/
theorem objAsDict_eq (handler : ListenerFileHandler) (obj : ListenerModel) :
    handler.objAsDict obj = obj.dictKrb5KeyBase64Encoded := by
  have filled (old : Option ListenerUserOldDataEntry) :
      optional (fun old => .dict old.dict) old ≠ .dict [] := by
    cases old <;> simp [optional, ListenerUserOldDataEntry.dict]
  cases handler with
  | group => cases obj <;> rfl
  | user =>
      cases obj with
      | groupAddModify obj | groupRemove obj => rfl
      | userAddModify obj =>
          exact if_neg fun empty => filled obj.oldData (Option.some.inj empty)
      | userRemove obj =>
          exact if_neg fun empty => filled obj.oldData (Option.some.inj empty)

omit [PydanticTypes] in
theorem saveListenerFile_typed {obj : ListenerModel}
    (typed : obj.udmObjectType = obj.ownUdmObjectType) :
    ListenerModel.saveListenerFile obj = some (sortEntries obj.dictKrb5KeyBase64Encoded) := by
  simp only [ListenerModel.saveListenerFile, listenerFileHandlers, List.findSome?_cons,
    ListenerFileHandler.saveListenerObject, objAsDict_eq, typed]
  cases obj <;> rfl

/-- One round restores the object, with sorted keys. -/
theorem loadListenerFile_saved {obj : ListenerModel}
    (typed : obj.udmObjectType = obj.ownUdmObjectType) :
    ListenerModel.loadListenerFile (sortEntries obj.dictKrb5KeyBase64Encoded) = some obj.sorted := by
  have same (k : String) := get_sortEntries obj.dictKrb5KeyBase64Encoded k
  have type : (sortEntries obj.dictKrb5KeyBase64Encoded).get "udm_object_type" =
      some (Json.str obj.ownUdmObjectType) := by
    rw [same, ← typed]
    cases obj <;> rfl
  simp only [ListenerModel.loadListenerFile, listenerFileHandlers, List.findSome?_cons, List.findSome?_nil,
    ListenerFileHandler.getListenerObject, type]
  -- the presence of `object` tells the two types of one handler apart
  cases obj with
  | userAddModify obj =>
      have object : Dict.get (sortEntries
          (ListenerModel.userAddModify obj).dictKrb5KeyBase64Encoded) "object" =
            some (.dict (sortEntries obj.object)) := by rw [same]; rfl
      have decoded : (obj.userPasswords.map UserPasswords.encoded).map
          ListenerFileHandler.decodeKrb5Key = obj.userPasswords := by
        cases obj.userPasswords <;> simp [decodeKrb5Key_encoded]
      simp [ListenerModel.ownUdmObjectType, ListenerFileHandler.udmObjectType, object,
        userAddModify_init, decoded, ListenerModel.sorted]
  | userRemove obj =>
      have object : Dict.get (sortEntries
          (ListenerModel.userRemove obj).dictKrb5KeyBase64Encoded) "object" = none := by
        rw [same]; rfl
      simp [ListenerModel.ownUdmObjectType, ListenerFileHandler.udmObjectType, object,
        userRemove_init, ListenerModel.sorted]
  | groupAddModify obj =>
      have object : Dict.get (sortEntries
          (ListenerModel.groupAddModify obj).dictKrb5KeyBase64Encoded) "object" =
            some (.dict (sortEntries obj.object)) := by rw [same]; rfl
      simp [ListenerModel.ownUdmObjectType, ListenerFileHandler.udmObjectType, object,
        groupAddModify_init, ListenerModel.sorted, Json.str]
  | groupRemove obj =>
      have object : Dict.get (sortEntries
          (ListenerModel.groupRemove obj).dictKrb5KeyBase64Encoded) "object" = none := by
        rw [same]; rfl
      simp [ListenerModel.ownUdmObjectType, ListenerFileHandler.udmObjectType, object,
        groupRemove_init, ListenerModel.sorted, Json.str]

/-- A remove object of a foreign `udm_object_type` is valid as well, so it has to be excluded. -/
theorem listener_files_round_trip {obj : ListenerModel}
    (typed : obj.udmObjectType = obj.ownUdmObjectType) (rounds : Nat) :
    ∃ read, saveAndLoad rounds obj = some read ∧ read.Same obj := by
  induction rounds generalizing obj with
  | zero => exact ⟨obj, rfl, rfl⟩
  | succ rounds ih =>
      have typedRead : obj.sorted.udmObjectType = obj.sorted.ownUdmObjectType := by simpa using typed
      obtain ⟨read, run, same⟩ := ih typedRead
      refine ⟨read, ?_, same.trans obj.sorted_idem⟩
      simp [saveAndLoad, saveListenerFile_typed typed, loadListenerFile_saved typed, run]

end Reading

section Examples

attribute [local instance] typedPydanticTypes

/-- A user with passwords and old data. -/
def storedPupil : ListenerUserAddModifyModel where
  dn := "uid=anna,cn=schueler,cn=users,ou=DEMOSCHOOL,dc=example,dc=com"
  id := "4a1c"
  udmObjectType := "users/user"
  action := .addMod
  object := [("username", Json.str "anna"), ("school", Json.strs ["DEMOSCHOOL"])]
  options := ["default", "ucsschoolStudent"]
  oldData := some ⟨["DEMOSCHOOL"], some "anna", none⟩
  userPasswords := some ⟨["\x7bcrypt\x7d$6$"], "0CB6948805F797BF", [[0, 255, 61], [10]], 1, 0⟩
  supportedUdmObjectType := rfl
  hasRequiredOc := by decide
  hasRequiredAttrs := rfl

theorem stored_pupil_round_trip :
    ∃ read, saveAndLoad 3 (.userAddModify storedPupil) = some read ∧
      read.Same (.userAddModify storedPupil) :=
  listener_files_round_trip rfl 3

/-- The handler for groups takes this object, and reads it as the removal of a group. -/
theorem foreign_remove_object_changes_type :
    let obj := ListenerModel.userRemove ⟨⟨"uid=anna", "4a1c", "groups/group", .delete⟩, none⟩
    ¬ ∃ read, saveAndLoad 1 obj = some read ∧ read.Same obj := by
  intro obj
  have run : saveAndLoad 1 obj =
      some (.groupRemove ⟨⟨"uid=anna", "4a1c", "groups/group", .delete⟩, none⟩) := rfl
  rw [run]
  rintro ⟨read, same, equal⟩
  cases same
  cases equal

end Examples

end IdConnector
