import IdConnector.Library.Document

/-! # Listener objects

The values the queues pass around, as `models.py` declares them. A document
read from a listener file or a configuration is a `Json` tree; the leaves also
cover the Python values that later replace JSON ones (secrets, URLs, dates and
password hashes).
-/

namespace IdConnector

open Library

/-- The password hashes of a user. -/
structure UserPasswords where
  userPassword : List String
  sambaNTPassword : String
  krb5Key : List (List UInt8)
  krb5KeyVersionNumber : Int
  sambaPwdLastSet : Int
  deriving Repr, DecidableEq

/-- `PasswordsHashes` of the Kelvin client, with the keys base64 encoded. -/
structure PasswordsHashes where
  userPassword : List String
  sambaNtPassword : String
  krb5Key : List String
  krb5KeyVersionNumber : Int
  sambaPwdLastSet : Int
  deriving Repr, DecidableEq

/-- The values that are neither lists nor dictionaries. -/
inductive Leaf where
  | bool (value : Bool)
  | int (value : Int)
  /-- A JSON number with a fraction or an exponent, as it is written. -/
  | float (literal : String)
  | str (value : String)
  /-- `SecretStr` -/
  | secret (value : String)
  /-- `AnyUrl` -/
  | url (value : String)
  | date (year month day : Nat)
  | hashes (value : PasswordsHashes)
  deriving Repr, DecidableEq

abbrev Json := Document Leaf

abbrev JsonObject := Dict String Json

namespace Json

def str (s : String) : Json := .atom (.str s)

def bool (b : Bool) : Json := .atom (.bool b)

def strs (ss : List String) : Json := .list (ss.map str)

/-- The value of a `str` field; everything else reads as unset. -/
def str? : Json → Option String
  | .atom (.str s) => some s
  | _ => none

/-- Python truth value. -/
def truthy : Json → Bool
  | .null => false
  | .atom (.bool b) => b
  | .atom (.int n) => n ≠ 0
  | .atom (.float literal) => literal ∉ ["0.0", "-0.0"]
  | .atom (.str s) | .atom (.secret s) | .atom (.url s) => s ≠ ""
  | .atom (.date ..) | .atom (.hashes _) => true
  | .list items => !items.isEmpty
  | .dict entries => !entries.isEmpty

end Json

/-- What is kept of a group for its removal. -/
structure ListenerGroupOldDataEntry where
  users : List String
  deriving Repr, DecidableEq

/-- What is kept of a user for its removal. -/
structure ListenerUserOldDataEntry where
  schools : List String
  recordUid : Option String
  sourceUid : Option String
  deriving Repr, DecidableEq

/-- `schools` is the UDM property `school` of the object, a list of OU names. -/
structure ListenerUserAddModifyObject where
  dn : String
  id : String
  object : JsonObject
  options : List String
  userPasswords : Option UserPasswords
  oldData : Option ListenerUserOldDataEntry
  schools : List String
  schools_eq : object.get "school" = some (Json.strs schools)

/-- The removal of a user. -/
structure ListenerUserRemoveObject where
  dn : String
  id : String
  oldData : Option ListenerUserOldDataEntry
  deriving Repr, DecidableEq

/-- `users` is the UDM property of that name, a list of DNs. -/
structure ListenerGroupAddModifyObject where
  dn : String
  id : String
  object : JsonObject
  options : List String
  oldData : Option ListenerGroupOldDataEntry
  users : List String
  users_eq : object.get "users" = some (Json.strs users)

/-- The removal of a group. -/
structure ListenerGroupRemoveObject where
  dn : String
  id : String
  oldData : Option ListenerGroupOldDataEntry
  deriving Repr, DecidableEq

namespace ListenerUserAddModifyObject

def recordUid (obj : ListenerUserAddModifyObject) : Option String :=
  (obj.object.get "ucsschoolRecordUID").bind Json.str?

def sourceUid (obj : ListenerUserAddModifyObject) : Option String :=
  (obj.object.get "ucsschoolSourceUID").bind Json.str?

end ListenerUserAddModifyObject

/-- The four concrete listener object types. -/
inductive ListenerObject where
  | userAddModify (obj : ListenerUserAddModifyObject)
  | userRemove (obj : ListenerUserRemoveObject)
  | groupAddModify (obj : ListenerGroupAddModifyObject)
  | groupRemove (obj : ListenerGroupRemoveObject)

namespace ListenerObject

def dn : ListenerObject → String
  | .userAddModify obj => obj.dn
  | .userRemove obj => obj.dn
  | .groupAddModify obj => obj.dn
  | .groupRemove obj => obj.dn

def id : ListenerObject → String
  | .userAddModify obj => obj.id
  | .userRemove obj => obj.id
  | .groupAddModify obj => obj.id
  | .groupRemove obj => obj.id

/-- Each type's validator accepts only its own value. -/
def udmObjectType : ListenerObject → String
  | .userAddModify _ | .userRemove _ => "users/user"
  | .groupAddModify _ | .groupRemove _ => "groups/group"

end ListenerObject

/-- What a queue needs to know of a listener object. A plugin can bring types of its own. -/
class UdmObject (O : Type) where
  udmObjectType : O → String

instance : UdmObject ListenerObject := ⟨ListenerObject.udmObjectType⟩

end IdConnector
