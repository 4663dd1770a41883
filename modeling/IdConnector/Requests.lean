import IdConnector.Configuration

/-! # RPC requests and responses

The messages of the RPC socket. A message is a JSON document or, when
it cannot be parsed, nothing. A response reports an exception by its kind and
the exception itself, whose text is a function of it.
-/

namespace IdConnector

open Library

/-- The commands of a request. -/
inductive RpcCommand where
  | getQueue
  | getQueues
  | getSchoolAuthority
  | getSchoolAuthorities
  | getSchoolToAuthorityMapping
  | createSchoolAuthority
  | deleteSchoolAuthority
  | patchSchoolAuthority
  | putSchoolToAuthorityMapping
  deriving Repr, DecidableEq

namespace RpcCommand

def value : RpcCommand → String
  | .getQueue => "get_queue"
  | .getQueues => "get_queues"
  | .getSchoolAuthority => "get_school_authority"
  | .getSchoolAuthorities => "get_school_authorities"
  | .getSchoolToAuthorityMapping => "get_school_to_authority_mapping"
  | .createSchoolAuthority => "create_school_authority"
  | .deleteSchoolAuthority => "delete_school_authority"
  | .patchSchoolAuthority => "patch_school_authority"
  | .putSchoolToAuthorityMapping => "put_school_to_authority_mapping"

def all : List RpcCommand :=
  [.getQueue, .getQueues, .getSchoolAuthority, .getSchoolAuthorities,
    .getSchoolToAuthorityMapping, .createSchoolAuthority, .deleteSchoolAuthority,
    .patchSchoolAuthority, .putSchoolToAuthorityMapping]

/-- `RPCCommand(value)` -/
def ofValue (v : Option Json) : Except PyError RpcCommand :=
  match all.find? fun cmd => v = some (Json.str cmd.value) with
  | some cmd => .ok cmd
  | none => .error (.notAnRpcCommand (v.getD .null))

/-- `RPCCommandsRequiredArgs` -/
def requiredArgs : RpcCommand → List String
  | .getQueue | .getSchoolAuthority | .deleteSchoolAuthority => ["name"]
  | .createSchoolAuthority => ["school_authority"]
  | .patchSchoolAuthority => ["name", "school_authority"]
  | .putSchoolToAuthorityMapping => ["school_to_authority_mapping"]
  | .getQueues | .getSchoolAuthorities | .getSchoolToAuthorityMapping => []

end RpcCommand

/-- A request as the server reads it. -/
structure RpcRequest where
  cmd : RpcCommand
  name : String
  schoolAuthority : JsonObject
  schoolToAuthorityMapping : JsonObject
  deriving DecidableEq

namespace RpcRequest

/-- The validator of the fields `name` and `school_authority`. -/
def requiredArgsPresent {α : Type} (cmd : RpcCommand) (fieldName : String) (empty : α → Bool)
    (value : α) : Except (List FieldError) α :=
  if fieldName ∈ cmd.requiredArgs ∧ empty value then
    .error [⟨[fieldName], s!"value is missing or empty \"{fieldName}\"",
      "value_error.missing_argument"⟩]
  else .ok value

def init [Pydantic] (cmd : RpcCommand) (req : JsonObject) : Except PyError RpcRequest :=
  let name := (field req "name" (some "") (located ["name"] ∘ Pydantic.str)).bind
    (requiredArgsPresent cmd "name" fun name => name = "")
  let schoolAuthority :=
    (field req "school_authority" (some []) (located ["school_authority"] ∘ Pydantic.dict)).bind
      (requiredArgsPresent cmd "school_authority" List.isEmpty)
  let mapping := field req "school_to_authority_mapping" (some [])
    (located ["school_to_authority_mapping"] ∘ Pydantic.dict)
  match name, schoolAuthority, mapping with
  | .ok name, .ok schoolAuthority, .ok mapping => .ok ⟨cmd, name, schoolAuthority, mapping⟩
  | name, schoolAuthority, mapping =>
      .error (.validationError (errorsOf name ++ errorsOf schoolAuthority ++ errorsOf mapping))

/-- From the received message to a validated request. -/
def ofMessage [Pydantic] : Option Json → Except PyError RpcRequest
  | none => .error .jsonDecodeError
  | some (.dict req) => do
      let cmd ← RpcCommand.ofValue (Dict.get req "cmd")
      init cmd req
  | some _ => .error (.attributeError "get")

end RpcRequest

/-- `School2SchoolAuthorityMapping(**data)` -/
def School2SchoolAuthorityMapping.init [Pydantic] (data : JsonObject) :
    Except PyError (Dict String String) :=
  (field data "mapping" none (dictOfStr "mapping")).mapError .validationError

/-- How an error is put into the response. -/
inductive ErrorKind where
  /-- loc `("errors", 0)`, msg `TypeError: {exc}` -/
  | typeError
  /-- The errors of the `ValidationError` itself. -/
  | validation
  /-- loc `("errors", 0)`, msg `{type(exc).__name__}: {exc}` -/
  | object
  /-- loc `("errors", 0)`, msg `Unknown error: {exc}` -/
  | unknown
  deriving Repr, DecidableEq

/-- The response to a request. -/
inductive RpcResponse where
  | result (value : Option Json)
  | errors (kind : ErrorKind) (raised : PyError)
  deriving DecidableEq

namespace RpcResponse

def hasErrors : RpcResponse → Bool
  | .result _ => false
  | .errors _ _ => true

/-- The `except` clauses of `simple_rpc_server`. -/
def ofException (raised : PyError) : RpcResponse :=
  match raised with
  | .typeError _ => .errors .typeError raised
  | .validationError _ => .errors .validation raised
  | .objectExists _ _ | .noObject _ _ => .errors .object raised
  | _ => .errors .unknown raised

def ofResult : Except PyError (Option Json) → RpcResponse
  | .ok value => .result value
  | .error raised => ofException raised

@[simp] theorem hasErrors_ofException (raised : PyError) :
    (ofException raised).hasErrors = true := by
  unfold ofException
  split <;> rfl

theorem hasErrors_ofResult (outcome : Except PyError (Option Json)) :
    (ofResult outcome).hasErrors = true ↔ ∃ raised, outcome = .error raised := by
  cases outcome with
  | ok value => simp [ofResult, hasErrors]
  | error raised => simp [ofResult]

end RpcResponse

end IdConnector
