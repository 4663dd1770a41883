import IdConnector.Models
import IdConnector.Library.Text

/-! # School authority configurations

`SchoolAuthorityConfiguration` and its patch document, from the raw documents
of a request or a file to the validated values. What pydantic does with a single
field is an instance of `Pydantic`: the source only relies on values of the
declared type passing unchanged.
-/

namespace IdConnector

open Library

/-- One error of a `ValidationError`. -/
structure FieldError where
  loc : List String
  msg : String
  type : String
  deriving Repr, DecidableEq

/-- The exceptions raised while a request is served. -/
inductive PyError where
  | validationError (errors : List FieldError)
  | noObject (key value : String)
  | objectExists (key value : String)
  /-- `ValueError` of the enumeration `RPCCommand` -/
  | notAnRpcCommand (value : Json)
  | jsonDecodeError
  | typeError (msg : String)
  | valueError (msg : String)
  /-- `ValueError` of `recursive_dict_update` -/
  | cannotUpdateDict (k : String) (ori : JsonObject) (v : Json)
  /-- The two `ValueError`s of `kelvin_client_session`, which print the configuration. -/
  | badKelvinUrl (url : String)
  | missingInKelvinConfiguration (key : String)
  | attributeError (name : String)
  | keyError (key : String)
  | osError (operation : String)
  | runtimeError (msg : String)
  deriving DecidableEq

/-- Validation of one field by pydantic: a failure is a message and a type. -/
class Pydantic where
  str : Json → Except (String × String) String
  bool : Json → Except (String × String) Bool
  anyUrl : Json → Except (String × String) String
  list : Json → Except (String × String) (List Json)
  dict : Json → Except (String × String) JsonObject
  str_typed : ∀ s, str (.atom (.str s)) = .ok s
  bool_typed : ∀ b, bool (.atom (.bool b)) = .ok b
  anyUrl_typed : ∀ u, anyUrl (.atom (.url u)) = .ok u
  list_typed : ∀ items, list (.list items) = .ok items
  dict_typed : ∀ entries, dict (.dict entries) = .ok entries

/-- Validation that accepts the values of the declared types and strings as URLs. -/
abbrev typedPydantic : Pydantic where
  str
    | .atom (.str s) => .ok s
    | _ => .error ("str type expected", "type_error.str")
  bool
    | .atom (.bool b) => .ok b
    | _ => .error ("value could not be parsed to a boolean", "type_error.bool")
  anyUrl
    | .atom (.url u) => .ok u
    | .atom (.str u) => .ok u
    | _ => .error ("invalid or missing URL scheme", "value_error.url.scheme")
  list
    | .list items => .ok items
    | _ => .error ("value is not a valid list", "type_error.list")
  dict
    | .dict entries => .ok entries
    | _ => .error ("value is not a valid dict", "type_error.dict")
  str_typed _ := rfl
  bool_typed _ := rfl
  anyUrl_typed _ := rfl
  list_typed _ := rfl
  dict_typed _ := rfl

/-! ## Secrets -/

def secretKeys : List String := ["key", "password", "token"]

def plainToSecret (key : String) : Json → Json
  | .atom (.str s) => if key ∈ secretKeys then .atom (.secret s) else .atom (.str s)
  | .atom (.url s) => if key ∈ secretKeys then .atom (.secret s) else .atom (.url s)
  | v => v

def secretToPlain (key : String) : Json → Json
  | .atom (.secret s) => if key ∈ secretKeys then .atom (.str s) else .atom (.secret s)
  | v => v

/-- Rewrite every value of every plugin configuration, by its key. -/
def mapPluginConfigs (f : String → Json → Json) (configs : Dict String JsonObject) :
    Dict String JsonObject :=
  configs.map fun plugin => (plugin.1, plugin.2.map fun entry => (entry.1, f entry.1 entry.2))

def pluginConfigsPlainToSecret : Dict String JsonObject → Dict String JsonObject :=
  mapPluginConfigs plainToSecret

theorem pluginConfigsPlainToSecret_nil : pluginConfigsPlainToSecret [] = [] := rfl

theorem plainToSecret_idem (key : String) (v : Json) :
    plainToSecret key (plainToSecret key v) = plainToSecret key v := by
  cases v with
  | atom leaf => cases leaf <;> by_cases member : key ∈ secretKeys <;> simp [plainToSecret, member]
  | null | list | dict => rfl

theorem pluginConfigsPlainToSecret_idem (configs : Dict String JsonObject) :
    pluginConfigsPlainToSecret (pluginConfigsPlainToSecret configs) =
      pluginConfigsPlainToSecret configs := by
  simp only [pluginConfigsPlainToSecret, mapPluginConfigs, List.map_map]
  refine List.map_congr_left fun plugin _ => ?_
  simp only [Function.comp_apply, List.map_map]
  congr 1
  exact List.map_congr_left fun entry _ => by simp [plainToSecret_idem]

def pluginConfigsSecretsToPlain : Dict String JsonObject → Dict String JsonObject :=
  mapPluginConfigs secretToPlain

/-! ## Models -/

/-- The names of the two plugins that come with the connector. -/
def kelvin : String := "kelvin"

def kelvinPartialGroupSync : String := "kelvin-partial-group-sync"

/-- `hidden`: the constructor has replaced every secret by a `SecretStr`. -/
structure SchoolAuthorityConfiguration where
  name : String
  active : Bool
  url : String
  plugins : List String
  pluginConfigs : Dict String JsonObject
  hidden : pluginConfigsPlainToSecret pluginConfigs = pluginConfigs
  deriving DecidableEq

/-- A patch document, with its secrets hidden. -/
structure SchoolAuthorityConfigurationPatchDocument where
  active : Option Bool
  url : Option String
  plugins : Option (List String)
  pluginConfigs : Option (Dict String JsonObject)
  hidden : ∀ configs ∈ pluginConfigs, pluginConfigsPlainToSecret configs = configs

section Fields

variable [Pydantic]

/-- All results, or the errors of all that failed. -/
def collect {α : Type} : List (Except (List FieldError) α) → Except (List FieldError) (List α)
  | [] => .ok []
  | .ok a :: rest => (collect rest).map (a :: ·)
  | .error errors :: rest =>
      match collect rest with
      | .ok _ => .error errors
      | .error more => .error (errors ++ more)

def located {α : Type} (loc : List String) (result : Except (String × String) α) :
    Except (List FieldError) α :=
  result.mapError (fun problem => [⟨loc, problem.1, problem.2⟩])

/-- `List[str]` -/
def listOfStr (loc : String) (v : Json) : Except (List FieldError) (List String) :=
  (located [loc] (Pydantic.list v)).bind fun items =>
    collect (items.mapIdx fun i item => located [loc, toString i] (Pydantic.str item))

/-- `Dict[str, str]` -/
def dictOfStr (loc : String) (v : Json) : Except (List FieldError) (Dict String String) :=
  (located [loc] (Pydantic.dict v)).bind fun entries =>
    collect (entries.map fun entry =>
      (located [loc, entry.1] (Pydantic.str entry.2)).map (entry.1, ·))

/-- `Dict[str, Dict[str, Any]]` -/
def dictOfDict (loc : String) (v : Json) : Except (List FieldError) (Dict String JsonObject) :=
  (located [loc] (Pydantic.dict v)).bind fun entries =>
    collect (entries.map fun entry =>
      (located [loc, entry.1] (Pydantic.dict entry.2)).map (entry.1, ·))

/-- A field of a model: its default where the document has no such key. -/
def field {α : Type} (data : JsonObject) (name : String) (default : Option α)
    (validate : Json → Except (List FieldError) α) : Except (List FieldError) α :=
  match data.get name, default with
  | some v, _ => validate v
  | none, some value => .ok value
  | none, none => .error [⟨[name], "field required", "value_error.missing"⟩]

/-- A field whose default is `None`, which makes `None` an accepted value. -/
def optionalField {α : Type} (data : JsonObject) (name : String)
    (validate : Json → Except (List FieldError) α) : Except (List FieldError) (Option α) :=
  field data name (some none) fun v =>
    match v with
    | .null => .ok none
    | v => (validate v).map some

end Fields

/-! ## Validation -/

def typeName : Json → String
  | .null => "NoneType"
  | .atom (.bool _) => "bool"
  | .atom (.int _) => "int"
  | .atom (.float _) => "float"
  | .atom (.str _) => "str"
  | .atom (.secret _) => "SecretStr"
  | .atom (.url _) => "AnyUrl"
  | .atom (.date ..) => "date"
  | .atom (.hashes _) => "PasswordsHashes"
  | .list _ => "list"
  | .dict _ => "dict"

/-- Python's `key in value`. -/
def contains (key : String) : Json → Except PyError Bool
  | .dict entries => .ok (Dict.get entries key).isSome
  | .list items => .ok (items.contains (Json.str key))
  | .atom (.str s) | .atom (.url s) => .ok (decide (key.toList <:+: s.toList))
  | v => .error (.typeError s!"argument of type '{typeName v}' is not iterable")

/-- Python's `mapping.get(key, {})`. -/
def getMapping (mapping : Json) (key : String) : Except PyError Json :=
  match mapping with
  | .dict entries => .ok ((Dict.get entries key).getD (.dict []))
  | _ => .error (.attributeError "get")

/-- `not special and key in users or key in special` -/
def configured (key : String) (users special : Json) : Except PyError Bool :=
  if special.truthy then contains key special
  else do
    if ← contains key users then return true
    contains key special

def hasRequiredAttrCombination (value : Dict String JsonObject) : Except PyError Unit := do
  let mapping := (Dict.get ((value.get "kelvin").getD []) "mapping").getD (.dict [])
  let users ← getMapping mapping "users"
  let student ← getMapping mapping "users_student"
  let legalGuardian ← getMapping mapping "users_legal_guardian"
  let legalGuardians ← configured "ucsschoolLegalGuardian" users student
  let legalWards ← configured "ucsschoolLegalWard" users legalGuardian
  if legalGuardians ≠ legalWards then
    let msg := "Configuration for legal_guardians and legal_wards must either both be configured," ++
      " or not at all. "
    throw (.valueError (msg ++
      if legalGuardians then "legal_guardians has been configured, but not legal_wards."
      else "legal_wards has been configured, but not legal_guardians."))

/-- Pydantic turns a `TypeError` and a `ValueError` of a validator into an error
    of its field and lets every other exception through. -/
def validatorError (loc : String) : PyError → Except PyError (List FieldError)
  | .typeError msg => .ok [⟨[loc], msg, "type_error"⟩]
  | .valueError msg => .ok [⟨[loc], msg, "value_error"⟩]
  | other => .error other

def pluginConfigsField [Pydantic] (data : JsonObject) :
    Except PyError (Except (List FieldError) (Dict String JsonObject)) :=
  match field data "plugin_configs" none (dictOfDict "plugin_configs") with
  | .error errors => .ok (.error errors)
  | .ok value =>
      match hasRequiredAttrCombination value with
      | .ok () => .ok (.ok value)
      | .error raised => (validatorError "plugin_configs" raised).map .error

def errorsOf {α : Type} : Except (List FieldError) α → List FieldError
  | .ok _ => []
  | .error errors => errors

/-- Plugin configurations as the entries of a document. -/
def asEntries (configs : Dict String JsonObject) : JsonObject :=
  configs.map fun plugin => (plugin.1, .dict plugin.2)

namespace SchoolAuthorityConfiguration

/-- `SchoolAuthorityConfiguration(**data)`, secrets hidden. It does not look at other keys, so not
    at `self` either, for which Python raises a `TypeError`. -/
def init [Pydantic] (data : JsonObject) : Except PyError SchoolAuthorityConfiguration := do
  let name := field data "name" none (located ["name"] ∘ Pydantic.str)
  let active := field data "active" (some false) (located ["active"] ∘ Pydantic.bool)
  let url := field data "url" none (located ["url"] ∘ Pydantic.anyUrl)
  let plugins := field data "plugins" (some []) (listOfStr "plugins")
  let pluginConfigs ← pluginConfigsField data
  match name, active, url, plugins, pluginConfigs with
  | .ok name, .ok active, .ok url, .ok plugins, .ok pluginConfigs =>
      return ⟨name, active, url, plugins, pluginConfigsPlainToSecret pluginConfigs,
        pluginConfigsPlainToSecret_idem pluginConfigs⟩
  | name, active, url, plugins, pluginConfigs =>
      throw (.validationError (errorsOf name ++ errorsOf active ++ errorsOf url ++
        errorsOf plugins ++ errorsOf pluginConfigs))

/-- The fields as a dictionary, with the given plugin configurations. -/
def fields (config : SchoolAuthorityConfiguration) (pluginConfigs : Dict String JsonObject) :
    JsonObject :=
  [("name", Json.str config.name), ("active", Json.bool config.active),
    ("url", .atom (.url config.url)), ("plugins", Json.strs config.plugins),
    ("plugin_configs", .dict (asEntries pluginConfigs))]

/-- `.dict()` -/
def dict (config : SchoolAuthorityConfiguration) : JsonObject :=
  config.fields config.pluginConfigs

/-- `.dict_secrets_as_str()` -/
def dictSecretsAsStr (config : SchoolAuthorityConfiguration) : JsonObject :=
  config.fields (pluginConfigsSecretsToPlain config.pluginConfigs)

end SchoolAuthorityConfiguration

namespace SchoolAuthorityConfigurationPatchDocument

def init [Pydantic] (data : JsonObject) :
    Except PyError SchoolAuthorityConfigurationPatchDocument :=
  let active := optionalField data "active" (located ["active"] ∘ Pydantic.bool)
  let url := optionalField data "url" (located ["url"] ∘ Pydantic.anyUrl)
  let plugins := optionalField data "plugins" (listOfStr "plugins")
  let pluginConfigs := optionalField data "plugin_configs" (dictOfDict "plugin_configs")
  match active, url, plugins, pluginConfigs with
  | .ok active, .ok url, .ok plugins, .ok pluginConfigs =>
      .ok ⟨active, url, plugins, pluginConfigs.map pluginConfigsPlainToSecret, by
        rintro configs member
        obtain ⟨raw, _, rfl⟩ := Option.map_eq_some_iff.mp member
        exact pluginConfigsPlainToSecret_idem raw⟩
  | active, url, plugins, pluginConfigs =>
      .error (.validationError (errorsOf active ++ errorsOf url ++ errorsOf plugins ++
        errorsOf pluginConfigs))

/-- `.dict()`: every field is present, the unset ones as `None`. -/
def dict (doc : SchoolAuthorityConfigurationPatchDocument) : JsonObject :=
  [("active", (doc.active.map Json.bool).getD .null),
    ("url", (doc.url.map fun url => .atom (.url url)).getD .null),
    ("plugins", (doc.plugins.map Json.strs).getD .null),
    ("plugin_configs", (doc.pluginConfigs.map fun configs => .dict (asEntries configs)).getD .null)]

end SchoolAuthorityConfigurationPatchDocument

end IdConnector
