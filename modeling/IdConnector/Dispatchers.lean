import IdConnector.Configuration
import IdConnector.Patterns

/-! # Dispatchers and their caches

A Kelvin plugin object does nothing itself: users and school classes go to two
nested plugin objects, each of which keeps one dispatcher for every pair of
authority name and plugin name. A dispatcher is built from the configuration
of the call that first needs it.
-/

namespace IdConnector

open Library

/-- What the Kelvin client library does with the data of a session, which may raise. -/
class KelvinClient where
  newSession : (username : Json) → (password host : String) → (sslContext : JsonObject) →
    Except PyError Unit

/-- A client that accepts all session data. -/
abbrev plainKelvinClient : KelvinClient where
  newSession _ _ _ _ := .ok ()

/-- The credentials and the target of a Kelvin session. -/
structure Session where
  username : Json
  password : String
  host : String
  sslContext : JsonObject
  deriving DecidableEq

/-- The two dispatcher classes `KelvinPerSAUserDispatcher` and
    `KelvinPerSASchoolClassDispatcher`. -/
inductive DispatcherClass where
  | user
  | schoolClass
  deriving Repr, DecidableEq

/-- A dispatcher of a plugin for one school authority. -/
structure Dispatcher where
  schoolAuthority : SchoolAuthorityConfiguration
  pluginName : String
  attributeMapping : Json
  session : Session
  deriving DecidableEq

/-- Python's `value[key]`. -/
def subscript (value : Json) (key : String) : Except PyError Json :=
  match value with
  | .dict entries =>
      match Dict.get entries key with
      | some v => .ok v
      | none => .error (.keyError key)
  | .list _ => .error (.typeError "list indices must be integers or slices, not str")
  | .atom (.str _) | .atom (.url _) =>
      .error (.typeError "string indices must be integers, not 'str'")
  | other => .error (.typeError s!"'{typeName other}' object is not subscriptable")

/-- `school_authority.plugin_configs[plugin_name][key]` -/
def pluginSetting (config : SchoolAuthorityConfiguration) (pluginName key : String) :
    Except PyError Json :=
  match config.pluginConfigs.get pluginName with
  | some settings => subscript (.dict settings) key
  | none => .error (.keyError pluginName)

/-- A missing key becomes a `ValueError`; everything else passes. -/
def missingAsValueError {α : Type} : Except PyError α → Except PyError α
  | .error (.keyError key) => .error (.missingInKelvinConfiguration key)
  | result => result

def getSecretValue : Json → Except PyError String
  | .atom (.secret value) => .ok value
  | _ => .error (.attributeError "get_secret_value")

def kelvinClientSession [KelvinClient] (config : SchoolAuthorityConfiguration)
    (pluginName : String) : Except PyError Session := do
  let some host := kelvinUrlRegex config.url | throw (.badKelvinUrl config.url)
  let username ← missingAsValueError (pluginSetting config pluginName "username")
  let secret ← missingAsValueError (pluginSetting config pluginName "password")
  let password ← getSecretValue secret
  let sslContext ←
    match Dict.get ((config.pluginConfigs.get pluginName).getD []) "ssl_context" with
    | none => pure []
    | some (.dict entries) => pure entries
    | some _ => throw (.attributeError "items")
  KelvinClient.newSession username password host sslContext
  return ⟨username, password, host, sslContext⟩

namespace Dispatcher

/-- The `attribute_mapping` of a dispatcher. -/
def attributeMappingOf (kind : DispatcherClass) (config : SchoolAuthorityConfiguration)
    (pluginName : String) : Except PyError Json := do
  let mapping ← pluginSetting config pluginName "mapping"
  match kind with
  | .user => return mapping
  | .schoolClass => subscript mapping "school_classes"

/-- `per_s_a_handler_class(school_authority, plugin_name)` -/
def init [KelvinClient] (kind : DispatcherClass) (config : SchoolAuthorityConfiguration)
    (pluginName : String) : Except PyError Dispatcher := do
  let attributeMapping ← attributeMappingOf kind config pluginName
  let session ← kelvinClientSession config pluginName
  return ⟨config, pluginName, attributeMapping, session⟩

theorem init_schoolAuthority [KelvinClient] {kind : DispatcherClass}
    {config : SchoolAuthorityConfiguration} {pluginName : String} {dispatcher : Dispatcher}
    (built : init kind config pluginName = .ok dispatcher) :
    dispatcher.schoolAuthority = config := by
  unfold init at built
  cases mapping : attributeMappingOf kind config pluginName with
  | error raised => simp [mapping, bind, Except.bind] at built
  | ok attributeMapping =>
      cases opened : kelvinClientSession config pluginName with
      | error raised => simp [mapping, opened, bind, Except.bind] at built
      | ok session =>
          simp only [mapping, opened, bind, Except.bind, pure, Except.pure] at built
          injection built with same
          rw [← same]

end Dispatcher

/-- `_per_s_a_handlers`, keyed by the authority and the plugin name. -/
abbrev Handlers := Dict (String × String) Dispatcher

/-- `DispatcherPluginBase.handler`: the dispatcher and the cache afterwards. -/
def handler [KelvinClient] (kind : DispatcherClass) (handlers : Handlers)
    (config : SchoolAuthorityConfiguration) (pluginName : String) :
    Except PyError Dispatcher × Handlers :=
  match handlers.get (config.name, pluginName) with
  | some dispatcher => (.ok dispatcher, handlers)
  | none =>
      match Dispatcher.init kind config pluginName with
      | .ok dispatcher => (.ok dispatcher, handlers.set (config.name, pluginName) dispatcher)
      | .error raised => (.error raised, handlers)

/-- `KelvinHandler` and the plugins built like it: the cache of the registered
    object and those of its `user_handler` and `school_class_handler`. -/
structure DispatcherPlugin where
  perSAHandlers : Handlers
  userHandler : Handlers
  schoolClassHandler : Handlers
  deriving DecidableEq

namespace DispatcherPlugin

def handlersFor (plugin : DispatcherPlugin) : DispatcherClass → Handlers
  | .user => plugin.userHandler
  | .schoolClass => plugin.schoolClassHandler

/-- Let the nested plugin object choose the dispatcher. -/
def dispatch [KelvinClient] (plugin : DispatcherPlugin) (kind : DispatcherClass)
    (config : SchoolAuthorityConfiguration) (pluginName : String) :
    Except PyError Dispatcher × DispatcherPlugin :=
  match kind with
  | .user =>
      let chosen := handler .user plugin.userHandler config pluginName
      (chosen.1, { plugin with userHandler := chosen.2 })
  | .schoolClass =>
      let chosen := handler .schoolClass plugin.schoolClassHandler config pluginName
      (chosen.1, { plugin with schoolClassHandler := chosen.2 })

/-- The nested plugin object that `handle_listener_object` calls for an object. -/
def classOf : ListenerObject → DispatcherClass
  | .userAddModify _ | .userRemove _ => .user
  | .groupAddModify _ | .groupRemove _ => .schoolClass

theorem handlersFor_dispatch [KelvinClient] (plugin : DispatcherPlugin)
    (kind other : DispatcherClass) (config : SchoolAuthorityConfiguration) (pluginName : String) :
    (plugin.dispatch kind config pluginName).2.handlersFor other =
      if other = kind then (handler kind (plugin.handlersFor kind) config pluginName).2
      else plugin.handlersFor other := by
  cases kind <;> cases other <;> rfl

theorem dispatch_result [KelvinClient] (plugin : DispatcherPlugin) (kind : DispatcherClass)
    (config : SchoolAuthorityConfiguration) (pluginName : String) :
    (plugin.dispatch kind config pluginName).1 =
      (handler kind (plugin.handlersFor kind) config pluginName).1 := by
  cases kind <;> rfl

end DispatcherPlugin

end IdConnector
