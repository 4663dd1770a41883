import IdConnector.DictUpdate
import IdConnector.Dispatchers

/-! # Mapping the attributes of a user

The request body that a Kelvin user dispatcher makes of an object: `map_attributes` walks
the mapping for the roles of the user and merges what each entry contributes. What the
handlers of single attributes await is left to `Services`, so that the same code runs
against fixed answers and against a target that changes.
-/

namespace IdConnector

open Library

/-- What is raised while an object is handled for a target. -/
inductive HandlerError where
  | missingData (param : String)
  | uniquenessError (recordUid sourceUid : String)
  | unknownSchool (schools : List String) (school : String)
  | unknownSchoolUserRole (options : List String)
  /-- `ValueError` of `strptime` -/
  | notADate (value : String)
  | indexError
  /-- An exception of the Kelvin client. -/
  | client (reason : String)
  | python (raised : PyError)
  deriving DecidableEq

/-- What a dispatcher awaits while it maps attributes. -/
structure Services (m : Type → Type) where
  schoolsIdsOnTarget : m (Dict String String)
  rolesOnTarget : m (Dict String String)
  handledSchools : m (List String)
  getSourceUid : m String
  randomPassword : m String

/-! ## Python values -/

namespace Json

/-- The elements that a `for` loop goes through. -/
def iter : Json → Except PyError (List Json)
  | .list items => .ok items
  | .dict entries => .ok (entries.map fun entry => str entry.1)
  | .atom (.str s) | .atom (.url s) => .ok (s.toList.map fun c => str (String.singleton c))
  | v => .error (.typeError s!"'{typeName v}' object is not iterable")

/-- The text that a pattern is matched against. -/
def matchable : Json → Except PyError String
  | .atom (.str s) | .atom (.url s) => .ok s
  | v => .error (.typeError s!"expected string or bytes-like object, got '{typeName v}'")

/-- The key of a request body that a value becomes. -/
def dictKey : Json → Except PyError String
  | .null => .ok "null"
  | .atom (.bool b) => .ok (toString b)
  | .atom (.int n) => .ok (toString n)
  | .atom (.float literal) => .ok literal
  | .atom (.str s) | .atom (.secret s) | .atom (.url s) => .ok s
  | v => .error (.typeError s!"unhashable type: '{typeName v}'")

end Json

def isLeapYear (year : Nat) : Bool := year % 4 = 0 && (year % 100 ≠ 0 || year % 400 = 0)

def daysInMonth (year month : Nat) : Nat :=
  if month = 2 then if isLeapYear year then 29 else 28
  else if month ∈ [4, 6, 9, 11] then 30 else 31

/-- The value of one or more decimal digits. -/
def decimal (digits : List Char) : Option Nat :=
  if digits ≠ [] ∧ digits.all Char.isDigit then
    some (digits.foldl (fun n c => 10 * n + (c.toNat - '0'.toNat)) 0)
  else none

/-- `strptime(value, "%Y-%m-%d").date()`, without a result for a `ValueError`. Digits are those of
    ASCII; Python takes those of other scripts, too. -/
def strptimeDate (value : String) : Option (Nat × Nat × Nat) :=
  match value.toList.splitOn '-' with
  | [y, m, d] => do
      let year ← decimal y
      let month ← decimal m
      -- a blank may stand for the leading zero of the day
      let day ← decimal (if d.length = 2 ∧ d.head? = some ' ' then d.tail else d)
      if y.length = 4 ∧ m.length ≤ 2 ∧ d.length ≤ 2 ∧ 1 ≤ year ∧ 1 ≤ month ∧ month ≤ 12 ∧
          1 ≤ day ∧ day ≤ daysInMonth year month then
        return (year, month, day)
      else none
  | _ => none

def base64Digit (n : Nat) : Char :=
  "ABCDEFGHIJKLMNOPQRSTUVWXYZabcdefghijklmnopqrstuvwxyz0123456789+/".toList.getD n '='

/-- `base64.b64encode` -/
def b64encode : List UInt8 → List Char
  | [] => []
  | [a] =>
      let n := a.toNat * 65536
      [base64Digit (n / 262144), base64Digit (n / 4096 % 64), '=', '=']
  | [a, b] =>
      let n := a.toNat * 65536 + b.toNat * 256
      [base64Digit (n / 262144), base64Digit (n / 4096 % 64), base64Digit (n / 64 % 64), '=']
  | a :: b :: c :: rest =>
      let n := a.toNat * 65536 + b.toNat * 256 + c.toNat
      [base64Digit (n / 262144), base64Digit (n / 4096 % 64), base64Digit (n / 64 % 64),
        base64Digit (n % 64)] ++ b64encode rest

/-! ## Properties of a user object -/

/-- The roles of a school user. -/
inductive SchoolUserRole where
  | staff
  | student
  | teacher
  | legalGuardian
  deriving Repr, DecidableEq

/-- `school_role_to_api_role` -/
def SchoolUserRole.apiRole : SchoolUserRole → String
  | staff => "staff"
  | student => "student"
  | teacher => "teacher"
  | legalGuardian => "legal_guardian"

namespace ListenerUserAddModifyObject

/-- The OU of the DN if the user is a member of it, else the first school; an object without
    schools has neither. -/
def school (obj : ListenerUserAddModifyObject) : Option String :=
  match ouFromDn obj.dn with
  | some ou => if ou ∈ obj.schools then some ou else (obj.schools.insertionSort (· ≤ ·)).head?
  | none => (obj.schools.insertionSort (· ≤ ·)).head?

/-- Without a result for an `UnknownSchoolUserRole`. -/
def schoolUserRoles (obj : ListenerUserAddModifyObject) : Option (List SchoolUserRole) :=
  if "ucsschoolTeacher" ∈ obj.options ∧ "ucsschoolStaff" ∈ obj.options then
    some [.staff, .teacher]
  else if "ucsschoolTeacher" ∈ obj.options then some [.teacher]
  else if "ucsschoolStaff" ∈ obj.options then some [.staff]
  else if "ucsschoolStudent" ∈ obj.options then some [.student]
  else if "ucsschoolLegalGuardian" ∈ obj.options then some [.legalGuardian]
  else none

/-- `sorted(set([obj.school] + obj.schools))` -/
def sortedSchools (obj : ListenerUserAddModifyObject) (school : String) : List String :=
  (school :: obj.schools).dedup.insertionSort (· ≤ ·)

end ListenerUserAddModifyObject

/-- `UserPasswords` as the Kelvin client takes them. -/
def UserPasswords.hashes (passwords : UserPasswords) : PasswordsHashes where
  userPassword := passwords.userPassword
  sambaNtPassword := passwords.sambaNTPassword
  krb5Key := passwords.krb5Key.map fun key => String.ofList (b64encode key)
  krb5KeyVersionNumber := passwords.krb5KeyVersionNumber
  sambaPwdLastSet := passwords.sambaPwdLastSet

def kelvinApiSchoolAttributes : List String :=
  ["name", "birthday", "disabled", "email", "expiration_date", "firstname", "lastname", "password",
    "record_uid", "roles", "school", "school_classes", "schools", "source_uid", "legal_wards",
    "legal_guardians", "ucsschool_roles"]

def kelvinApiPasswordHashesAttribute : String := "kelvin_password_hashes"

namespace KelvinPerSAUserDispatcher

section Mapping

variable {m : Type → Type} [Monad m] [MonadExceptOf HandlerError m] [CaseMapping]

/-- Let an exception of Python itself pass. -/
def raising {α : Type} : Except PyError α → m α
  | .ok a => pure a
  | .error raised => throw (HandlerError.python raised)

/-! ## Handlers of single attributes -/

/-- `_handle_attr_birthday` and `_handle_attr_userexpiry`, which differ in the attribute. -/
def handleAttrDate (obj : ListenerUserAddModifyObject) (key : String) : m Json :=
  match (obj.object.get key).getD .null with
  | .atom (.str s) =>
      if s = "" then pure .null
      else
        match strptimeDate s with
        | some (year, month, day) => pure (.atom (.date year month day))
        | none => throw (HandlerError.notADate s)
  | v =>
      if v.truthy then
        raising (.error (.typeError s!"strptime() argument 1 must be str, not {typeName v}"))
      else pure .null

def handleAttrDisabled (obj : ListenerUserAddModifyObject) : m Json :=
  match obj.object.get "disabled" with
  | some v => pure (Json.bool (v = Json.bool true || v = Json.str "1"))
  | none => raising (.error (.keyError "disabled"))

/-- `self.school_authority.plugin_configs[self.plugin_name].get("sync_password_hashes", False)` -/
def syncPasswordHashes (self : Dispatcher) : m Bool :=
  match self.schoolAuthority.pluginConfigs.get self.pluginName with
  | some settings =>
      pure ((Dict.get settings "sync_password_hashes").getD (Json.bool false)).truthy
  | none => raising (.error (.keyError self.pluginName))

/-- Nothing stands for `SkipAttribute`. -/
def handleAttrPassword (self : Dispatcher) (services : Services m) : m (Option Json) := do
  if ← syncPasswordHashes self then return none
  return some (Json.str (← services.randomPassword))

def handleAttrRoles (services : Services m) (obj : ListenerUserAddModifyObject) : m Json := do
  let some roles := obj.schoolUserRoles | throw (HandlerError.unknownSchoolUserRole obj.options)
  let ids ← roles.mapM fun role => do
    let onTarget ← services.rolesOnTarget
    match onTarget.get role.apiRole with
    | some id => pure (Json.str id)
    | none => raising (.error (.keyError role.apiRole))
  return .list ids

/-- The schools of the target by their lower-cased names. -/
def targetSchools (onTarget : Dict String String) : Dict String String :=
  Dict.ofPairs (onTarget.map fun school => (lower school.1, school.2))

def handleAttrSchool (services : Services m) (obj : ListenerUserAddModifyObject) : m Json := do
  let target := targetSchools (← services.schoolsIdsOnTarget)
  let some school := obj.school | throw HandlerError.indexError
  let schools := school :: (obj.sortedSchools school).erase school
  match schools.findSome? fun school => target.get (lower school) with
  | some id => return Json.str id
  | none => throw (HandlerError.unknownSchool schools school)

def handleAttrSchools (services : Services m) (obj : ListenerUserAddModifyObject) : m Json := do
  let target := targetSchools (← services.schoolsIdsOnTarget)
  let some school := obj.school | throw HandlerError.indexError
  let schools := obj.sortedSchools school
  match schools.filterMap fun school => target.get (lower school) with
  | [] => throw (HandlerError.unknownSchool schools school)
  | ids => return Json.strs ids

/-- One round of the loop over `groups_dns`: the classes by OU. -/
def addSchoolClass (env : LdapEnvironment) (known : List String) (res : Dict String (List String))
    (groupDn : Json) : Except PyError (Dict String (List String)) := do
  match schoolClassDnRegex env (← groupDn.matchable) with
  | some group =>
      if lower group.ou ∈ known then
        return res.set group.ou ((res.get group.ou).getD [] ++ [group.name])
      else return res
  | none => return res

def handleAttrSchoolClasses (env : LdapEnvironment) (services : Services m)
    (obj : ListenerUserAddModifyObject) : m Json := do
  let known := (← services.schoolsIdsOnTarget).keys.map lower
  let groupsDns ← raising ((obj.object.get "groups").getD (.list [])).iter
  let res ← raising (groupsDns.foldlM (addSchoolClass env known) [])
  return .dict (res.map fun entry => (entry.1, Json.strs entry.2))

def handleAttrSourceUid (services : Services m) (obj : ListenerUserAddModifyObject) : m Json := do
  let uid := (obj.object.get "ucsschoolSourceUID").getD .null
  if uid.truthy then return uid else return Json.str (← services.getSourceUid)

/-- The `_handle_attr_*` method of an attribute, if there is one. -/
def handleAttr (self : Dispatcher) (env : LdapEnvironment) (services : Services m)
    (obj : ListenerUserAddModifyObject) : String → Option (m (Option Json))
  | "birthday" => some (some <$> handleAttrDate obj "birthday")
  | "disabled" => some (some <$> handleAttrDisabled obj)
  | "password" => some (handleAttrPassword self services)
  | "roles" => some (some <$> handleAttrRoles services obj)
  | "school" => some (some <$> handleAttrSchool services obj)
  | "schools" => some (some <$> handleAttrSchools services obj)
  | "school_classes" => some (some <$> handleAttrSchoolClasses env services obj)
  | "source_uid" => some (some <$> handleAttrSourceUid services obj)
  | "userexpiry" => some (some <$> handleAttrDate obj "userexpiry")
  | _ => none

/-! ## The request body -/

/-- Nothing stands for `SkipAttribute`. -/
def handleNoneValue (keyHere : String) : Option Json :=
  if keyHere ∈ ["birthday", "userexpiry"] then some .null
  else if keyHere ∈ ["ucsschoolLegalGuardian", "ucsschoolLegalWard"] then some (.list [])
  else none

/-- The value to send for an attribute, if any. -/
def valueHere (self : Dispatcher) (env : LdapEnvironment) (services : Services m)
    (obj : ListenerUserAddModifyObject) (keyHere : String) : m (Option Json) := do
  let value ← match handleAttr self env services obj keyHere with
    | some meth => meth
    | none => pure (some ((obj.object.get keyHere).getD .null))
  match value with
  | some .null => return handleNoneValue keyHere
  | value => return value

def updateForMappingData (keyThere value : Json) : Except PyError JsonObject := do
  let key ← keyThere.dictKey
  if keyThere.str? = some key ∧ key ∈ kelvinApiSchoolAttributes then return [(key, value)]
  else return [("udm_properties", .dict [(key, value)])]

/-- `recursive_dict_update(res, update)` -/
def updateBody (res update : JsonObject) : m JsonObject :=
  match recursiveDictUpdate true res update with
  | (res, none) => pure res
  | (_, some error) => raising (.error (.cannotUpdateDict error.k error.ori error.v))

/-- One round of the loop over `mapping.items()`. -/
def mapAttribute (self : Dispatcher) (env : LdapEnvironment) (services : Services m)
    (obj : ListenerUserAddModifyObject) (res : JsonObject) (entry : String × Json) :
    m JsonObject := do
  match ← valueHere self env services obj entry.1 with
  | some value => updateBody res (← raising (updateForMappingData entry.2 value))
  | none => return res

def handlePasswordHashes (self : Dispatcher) (obj : ListenerUserAddModifyObject) :
    m JsonObject := do
  if ← syncPasswordHashes self then
    match obj.userPasswords with
    | some passwords =>
        return [(kelvinApiPasswordHashesAttribute, .atom (.hashes passwords.hashes))]
    | none => return []
  else return []

/-- The roles of `users_*` mappings, in the order in which they are tried. -/
def specialRoles : List String := ["school_admin", "staff", "teacher", "legal_guardian", "student"]

def mappingKey (mapping : Json) (userRoles : List String) : List String → Except PyError String
  | [] => .ok "users"
  | role :: rest => do
      if role ∈ userRoles then
        if ← contains s!"users_{role}" mapping then return s!"users_{role}"
      mappingKey mapping userRoles rest

/-- The roles that the user has in the handled schools. -/
def userRoles (handledSchools : List String) (roles : List String) : List String :=
  (roles.filterMap ucsschoolRoleRegex).filterMap fun role =>
    if role.contextType = "school" ∧ lower role.context ∈ handledSchools then some role.role
    else none

def getRoleSpecificMapping (services : Services m) (roles mapping : Json) : m Json := do
  let handled := (← services.handledSchools).map lower
  let texts ← raising (roles.iter.bind (List.mapM Json.matchable))
  let key ← raising (mappingKey mapping (userRoles handled texts) specialRoles)
  raising (subscript mapping key)

def mapAttributes (self : Dispatcher) (env : LdapEnvironment) (services : Services m)
    (obj : ListenerUserAddModifyObject) (mapping : Json) : m JsonObject := do
  let roles := (obj.object.get "ucsschoolRole").getD (.list [])
  match ← getRoleSpecificMapping services roles mapping with
  | .dict entries =>
      let res ← entries.foldlM (mapAttribute self env services obj) []
      updateBody res (← handlePasswordHashes self obj)
  | _ => raising (.error (.attributeError "items"))

end Mapping

end KelvinPerSAUserDispatcher

end IdConnector
