import IdConnector.LdapAccess
import IdConnector.Library.Attempts
import IdConnector.Mapping
import IdConnector.UserHandler
import Mathlib.Data.List.Dedup
import Mathlib.Data.List.ReduceOption
import Mathlib.Tactic.Tauto

/-! # School classes and their members

The dispatchers for school classes, as far as they name a class and compute its members.
With partial group sync the members are those of the local class without the users whose
role is to be ignored, and those of the class at the target that have such a role or that
nobody knows here.
-/

namespace IdConnector

open Library Library.Text KelvinPerSAUserDispatcher

/-- What the dispatcher awaits while it computes the members of a class. -/
structure GroupServices (m : Type → Type) where
  /-- `self._ldap_access.get_user(username, attributes=["ucsschoolRole"])` -/
  getUser : String → m (Option User)
  handledSchools : m (List String)
  /-- `SchoolClassResource(session=self.session).get(name=…, school=…)`, the users; nothing
      stands for `NoObject`. -/
  getSchoolClass : (name school : String) → m (Option (List String))

/-- The parameters of the search for a school class. -/
structure ClassSearchParams where
  name : String
  school : String
  deriving Repr, DecidableEq

namespace Json

/-- An element of a Python set. -/
def hashable : Json → Except PyError Json
  | v@(.list _) | v@(.dict _) => .error (.typeError s!"unhashable type: '{typeName v}'")
  | v => .ok v

end Json

namespace KelvinPerSASchoolClassDispatcher

def searchParams [CaseMapping] (env : LdapEnvironment) (dn : String) :
    Except PyError ClassSearchParams :=
  match schoolClassDnRegex env dn with
  | some m => .ok ⟨m.name, m.ou⟩
  | none => .error (.attributeError "groupdict")

/-- `dn.split(",", 1)[0].split("=", 1)[1]` -/
def usernameOfDn (dn : String) : Except HandlerError String :=
  match splitOnce '=' (dn.toList.takeWhile (· ≠ ',')) with
  | some (_, username) => .ok (String.ofList username)
  | none => .error .indexError

/-- Usernames of members of this school class. -/
def handleAttrUsers (obj : ListenerGroupAddModifyObject) : Except HandlerError (List String) :=
  obj.users.mapM usernameOfDn

end KelvinPerSASchoolClassDispatcher

namespace KelvinPartialGroupSyncPerSASchoolClassDispatcher

/-- `set(….plugin_configs[self.plugin_name].get("school_classes_ignore_roles", []))` -/
def rolesToIgnore (self : Dispatcher) : Except PyError (List Json) :=
  match self.schoolAuthority.pluginConfigs.get self.pluginName with
  | some settings =>
      ((Dict.get settings "school_classes_ignore_roles").getD (.list [])).iter.bind
        (List.mapM Json.hashable)
  | none => .error (.keyError self.pluginName)

/-- `obj.object["name"].split("-", 1)`, unpacked to a school and a name. -/
def schoolAndName (obj : ListenerGroupAddModifyObject) : Except PyError (String × String) :=
  match obj.object.get "name" with
  | none => .error (.keyError "name")
  | some (.atom (.str name)) | some (.atom (.url name)) =>
      match splitOnce '-' name.toList with
      | some (school, name) => .ok (String.ofList school, String.ofList name)
      | none => .error (.valueError "not enough values to unpack (expected 2, got 1)")
  | some _ => .error (.attributeError "split")

section Members

variable [CaseMapping] {m : Type → Type} [Monad m] [MonadExceptOf HandlerError m]

/-- Some role in a handled school is to be ignored. -/
def checkUserIgnore (self : Dispatcher) (services : GroupServices m) (roles : List String) :
    m Bool := do
  let handledSchools ← services.handledSchools
  let ignored ← raising (rolesToIgnore self)
  return (userRoles handledSchools roles).any fun role => ignored.contains (Json.str role)

/-- `[user.username for user in users if await self._check_user_ignore(…)]` -/
def ignoredUsernames (self : Dispatcher) (services : GroupServices m) :
    List (Option User) → m (List String)
  | [] => pure []
  | none :: _ => raising (.error (.attributeError "attributes"))
  | some user :: rest => do
      let ignore ← checkUserIgnore self services ((user.attributes.get "ucsschoolRole").getD [])
      let more ← ignoredUsernames self services rest
      return if ignore then user.username :: more else more

def getRemoteUsernames (services : GroupServices m) (name school : String) : m (List String) := do
  return (← services.getSchoolClass name school).getD []

/-- The new members of the school class; the order of the list is that of a set. -/
def handleAttrUsers (self : Dispatcher) (services : GroupServices m)
    (obj : ListenerGroupAddModifyObject) : m (List String) := do
  let (school, name) ← raising (schoolAndName obj)
  let localUsernames ← ofExcept (KelvinPerSASchoolClassDispatcher.handleAttrUsers obj)
  let localUsers ← localUsernames.mapM services.getUser
  let localIgnoreUsers ← ignoredUsernames self services localUsers
  let remoteUsernames ← getRemoteUsernames services name school
  let found ← remoteUsernames.mapM services.getUser
  let remoteUsers := found.filter Option.isSome
  let remoteUnknownUsernames :=
    ((remoteUsernames.zip found).filter fun user => user.2.isNone).map Prod.fst
  let remoteKeepUsers ← ignoredUsernames self services remoteUsers
  return (localUsernames.filter (· ∉ localIgnoreUsers) ++ remoteKeepUsers ++
    remoteUnknownUsernames).dedup

end Members

/-! ## The law of the new members -/

section Law

variable [CaseMapping]

/-- The services while LDAP, the mapping and the classes of the target stay as they are. -/
def steadyServices (ldap : Ldap) (now : Int) (authority : String) (mapping : LoweredDict String)
    (classes : String → String → Option (List String)) :
    GroupServices (Except HandlerError) where
  getUser username := raising (LdapAccess.getUser ldap now none username true)
  handledSchools := .ok (handledSchools authority mapping)
  getSchoolClass name school := .ok (classes name school)

variable (ldap : Ldap) (now : Int)

/-- LDAP has a user of exactly this name, or none. -/
def Finds (username : String) : Prop :=
  ∃ found, LdapAccess.getUser ldap now none username true = .ok found ∧
    ∀ user ∈ found, user.username = username

def Known (username : String) : Prop :=
  ∃ user, LdapAccess.getUser ldap now none username true = .ok (some user)

/-- The user is known and has a role in a handled school that is to be ignored. -/
def Ignored (authority : String) (mapping : LoweredDict String) (ignoreRoles : List String)
    (username : String) : Prop :=
  ∃ user, LdapAccess.getUser ldap now none username true = .ok (some user) ∧
    ∃ text ∈ (user.attributes.get "ucsschoolRole").getD [], ∃ role school,
      IsRoleString text role "school" school ∧ role ∈ ignoreRoles ∧
        lower school ∈ handledSchools authority mapping

/-- The roles that the configuration of the dispatcher says to ignore. -/
def IgnoresRoles (self : Dispatcher) (ignoreRoles : List String) : Prop :=
  ∃ settings, self.schoolAuthority.pluginConfigs.get self.pluginName = some settings ∧
    (Dict.get settings "school_classes_ignore_roles").getD (.list []) = Json.strs ignoreRoles

/-- The members are the local ones that are not ignored, and of those at the target the
    ignored and the unknown ones. -/
def MembershipLaw (authority : String) (mapping : LoweredDict String)
    (ignoreRoles localUsernames remoteUsernames : List String)
    (result : Except HandlerError (List String)) : Prop :=
  ∃ members, result = .ok members ∧ members.Nodup ∧ ∀ username, username ∈ members ↔
    username ∈ localUsernames ∧ ¬ Ignored ldap now authority mapping ignoreRoles username ∨
    username ∈ remoteUsernames ∧ (Ignored ldap now authority mapping ignoreRoles username ∨
      ¬ Known ldap now username)

omit [CaseMapping] in
theorem rolesToIgnore_ok {self : Dispatcher} {ignoreRoles : List String}
    (ignores : IgnoresRoles self ignoreRoles) :
    rolesToIgnore self = .ok (ignoreRoles.map Json.str) := by
  obtain ⟨settings, configured, roles⟩ := ignores
  have hashed : (ignoreRoles.map Json.str).mapM Json.hashable =
      .ok (ignoreRoles.map Json.str) := by
    rw [Attempts.mapM_ok_iff, List.map_map, List.map_map]
    rfl
  simp only [rolesToIgnore, configured, roles, Json.strs, Json.iter, Except.bind, hashed]

theorem any_userRoles_iff {handled roles ignoreRoles : List String} :
    ((userRoles handled roles).any fun role => (ignoreRoles.map Json.str).contains (Json.str role)) =
        true ↔
      ∃ text ∈ roles, ∃ role school, IsRoleString text role "school" school ∧
        role ∈ ignoreRoles ∧ lower school ∈ handled := by
  have ignored (role : String) : (ignoreRoles.map Json.str).contains (Json.str role) = true ↔
      role ∈ ignoreRoles := by
    simp [Json.str]
  simp only [List.any_eq_true, ignored, userRoles, List.mem_filterMap, Option.ite_none_right_eq_some,
    Option.some.injEq]
  constructor
  · rintro ⟨role, ⟨m, ⟨text, member, matched⟩, ⟨context, school⟩, rfl⟩, ignore⟩
    have parts := ucsschoolRoleRegex_eq_some.mp matched
    exact ⟨text, member, m.role, m.context, context ▸ parts, ignore, school⟩
  · rintro ⟨text, member, role, school, parts, ignore, handledSchool⟩
    have matched : ucsschoolRoleRegex text = some ⟨role, "school", school⟩ :=
      ucsschoolRoleRegex_eq_some.mpr parts
    exact ⟨role, ⟨_, ⟨text, member, matched⟩, ⟨rfl, handledSchool⟩, rfl⟩, ignore⟩

section Loops

variable {self : Dispatcher} {services : GroupServices (Except HandlerError)}
  {handled ignoreRoles : List String}

/-- What `_check_user_ignore` returns for a user. -/
def ignoreUser (handled ignoreRoles : List String) (user : User) : Bool :=
  (userRoles handled ((user.attributes.get "ucsschoolRole").getD [])).any
    fun role => (ignoreRoles.map Json.str).contains (Json.str role)

/-- The names of the users that are ignored. -/
def ignoredNames (handled ignoreRoles : List String) (users : List (Option User)) : List String :=
  (users.reduceOption.filter (ignoreUser handled ignoreRoles)).map User.username

theorem checkUserIgnore_ok (ignores : IgnoresRoles self ignoreRoles)
    (schools : services.handledSchools = .ok handled) (user : User) :
    checkUserIgnore self services ((user.attributes.get "ucsschoolRole").getD []) =
      .ok (ignoreUser handled ignoreRoles user) := by
  unfold checkUserIgnore ignoreUser
  rw [schools, rolesToIgnore_ok ignores]
  rfl

theorem ignoredUsernames_ok (ignores : IgnoresRoles self ignoreRoles)
    (schools : services.handledSchools = .ok handled) {users : List (Option User)}
    (known : none ∉ users) :
    ignoredUsernames self services users = .ok (ignoredNames handled ignoreRoles users) := by
  induction users with
  | nil => rfl
  | cons user rest ih =>
      rw [List.mem_cons, not_or] at known
      cases user with
      | none => exact absurd rfl known.1
      | some user =>
          unfold ignoredUsernames
          rw [checkUserIgnore_ok ignores schools, ih known.2]
          unfold ignoredNames
          rw [List.reduceOption_cons_of_some]
          cases ignored : ignoreUser handled ignoreRoles user with
          | true => simp [ignored, bind, Except.bind, pure, Except.pure]
          | false => simp [ignored, bind, Except.bind, pure, Except.pure]

variable (self services) in
theorem ignoredUsernames_none {users : List (Option User)} (unknown : none ∈ users) :
    ∃ raised, ignoredUsernames self services users = .error raised := by
  induction users with
  | nil => cases unknown
  | cons user rest ih =>
      cases user with
      | none => exact ⟨_, rfl⟩
      | some user =>
          obtain ⟨raised, failed⟩ := ih (by simpa using unknown)
          unfold ignoredUsernames
          cases checkUserIgnore self services ((user.attributes.get "ucsschoolRole").getD []) with
          | error raised => exact ⟨raised, rfl⟩
          | ok ignore =>
              rw [failed]
              exact ⟨raised, rfl⟩

end Loops

/-! ## Looking up users -/

section Lookup

variable {ldap now} {authority : String} {mapping : LoweredDict String}
  {ignoreRoles names : List String}

/-- The user of that name, if any. -/
def lookup (ldap : Ldap) (now : Int) (username : String) : Option User :=
  (LdapAccess.getUser ldap now none username true).toOption.join

theorem lookup_eq_some {username : String} {user : User} :
    lookup ldap now username = some user ↔
      LdapAccess.getUser ldap now none username true = .ok (some user) := by
  unfold lookup
  cases LdapAccess.getUser ldap now none username true with
  | error raised => simp [Except.toOption]
  | ok found => simp [Except.toOption]

theorem ignored_iff {username : String} :
    Ignored ldap now authority mapping ignoreRoles username ↔
      ∃ user, lookup ldap now username = some user ∧
        ignoreUser (handledSchools authority mapping) ignoreRoles user = true := by
  simp only [Ignored, lookup_eq_some, ignoreUser, any_userRoles_iff]

theorem known_iff {username : String} :
    Known ldap now username ↔ lookup ldap now username ≠ none := by
  simp only [Known, ← lookup_eq_some, Option.ne_none_iff_exists']

theorem mapM_getUser {classes : String → String → Option (List String)}
    (finds : ∀ username ∈ names, Finds ldap now username) :
    names.mapM (steadyServices ldap now authority mapping classes).getUser =
      .ok (names.map (lookup ldap now)) := by
  rw [Attempts.mapM_ok_iff, List.map_map]
  refine List.map_congr_left fun username member => ?_
  obtain ⟨found, same, _⟩ := finds username member
  simp only [steadyServices, Function.comp_apply, lookup, same]
  rfl

/-- The names of the users that are ignored are the names that were looked up. -/
theorem mem_ignored {username : String} {users : List (Option User)}
    (finds : ∀ username ∈ names, Finds ldap now username)
    (found : ∀ user, some user ∈ users ↔ ∃ name ∈ names, lookup ldap now name = some user) :
    username ∈ ignoredNames (handledSchools authority mapping) ignoreRoles users ↔
      username ∈ names ∧ Ignored ldap now authority mapping ignoreRoles username := by
  have named {name : String} {user : User} (member : name ∈ names)
      (looked : lookup ldap now name = some user) : user.username = name := by
    obtain ⟨other, same, own⟩ := finds name member
    rw [lookup_eq_some, same, Except.ok.injEq] at looked
    exact own user looked
  simp only [ignoredNames, List.mem_map, List.mem_filter, List.reduceOption_mem_iff, found,
    ignored_iff]
  constructor
  · rintro ⟨user, ⟨⟨name, member, looked⟩, ignore⟩, rfl⟩
    rw [named member looked]
    exact ⟨member, user, looked, ignore⟩
  · rintro ⟨member, user, looked, ignore⟩
    exact ⟨user, ⟨⟨username, member, looked⟩, ignore⟩, named member looked⟩

end Lookup

omit [CaseMapping] in
theorem names_without_user (find : String → Option User) (names : List String) :
    ((names.zip (names.map find)).filter fun user => user.2.isNone).map Prod.fst =
      names.filter fun username => (find username).isNone := by
  rw [← List.map_prod_left_eq_zip, List.filter_map, List.map_map]
  exact List.map_id _

section Result

variable {ldap now} {self : Dispatcher} {mapping : LoweredDict String}
  {classes : String → String → Option (List String)} {obj : ListenerGroupAddModifyObject}
  {ignoreRoles localUsernames : List String} {school name : String}

/-- What `_handle_attr_users` returns if every local member is known. -/
theorem handleAttrUsers_ok (ignores : IgnoresRoles self ignoreRoles)
    (named : schoolAndName obj = .ok (school, name))
    (members : KelvinPerSASchoolClassDispatcher.handleAttrUsers obj = .ok localUsernames)
    (finds : ∀ username ∈ localUsernames ++ (classes name school).getD [],
      Finds ldap now username)
    (known : ∀ username ∈ localUsernames, Known ldap now username) :
    handleAttrUsers self (steadyServices ldap now self.schoolAuthority.name mapping classes) obj =
      .ok (localUsernames.filter (· ∉ ignoredNames
          (handledSchools self.schoolAuthority.name mapping) ignoreRoles
          (localUsernames.map (lookup ldap now))) ++
        ignoredNames (handledSchools self.schoolAuthority.name mapping) ignoreRoles
          ((((classes name school).getD []).map (lookup ldap now)).filter Option.isSome) ++
        ((classes name school).getD []).filter fun username =>
          (lookup ldap now username).isNone).dedup := by
  rw [List.forall_mem_append] at finds
  have looked : none ∉ localUsernames.map (lookup ldap now) := by
    intro member
    obtain ⟨username, here, unknown⟩ := List.mem_map.mp member
    exact known_iff.mp (known username here) unknown
  have filtered : none ∉ (((classes name school).getD []).map (lookup ldap now)).filter
      Option.isSome := by
    simp
  unfold handleAttrUsers getRemoteUsernames
  rw [named, members]
  simp only [raising, pure, Except.pure, bind, Except.bind, ofExcept]
  rw [mapM_getUser finds.1]
  dsimp only
  rw [ignoredUsernames_ok ignores rfl looked]
  have fetched : (steadyServices ldap now self.schoolAuthority.name mapping classes).getSchoolClass
      name school = .ok (classes name school) := rfl
  rw [fetched]
  dsimp only
  rw [mapM_getUser finds.2]
  dsimp only
  rw [ignoredUsernames_ok ignores rfl filtered, names_without_user]

variable (self mapping classes) in
theorem handleAttrUsers_unknown (named : schoolAndName obj = .ok (school, name))
    (members : KelvinPerSASchoolClassDispatcher.handleAttrUsers obj = .ok localUsernames)
    (finds : ∀ username ∈ localUsernames, Finds ldap now username)
    (unknown : ¬ ∀ username ∈ localUsernames, Known ldap now username) :
    ∃ raised, handleAttrUsers self
      (steadyServices ldap now self.schoolAuthority.name mapping classes) obj = .error raised := by
  have none_looked : none ∈ localUsernames.map (lookup ldap now) := by
    push Not at unknown
    obtain ⟨username, member, stranger⟩ := unknown
    rw [known_iff, ne_eq, not_not] at stranger
    exact List.mem_map.mpr ⟨username, member, stranger⟩
  obtain ⟨raised, failed⟩ := ignoredUsernames_none self
    (steadyServices ldap now self.schoolAuthority.name mapping classes) none_looked
  refine ⟨raised, ?_⟩
  unfold handleAttrUsers
  rw [named, members]
  simp only [raising, pure, Except.pure, bind, Except.bind, ofExcept]
  rw [mapM_getUser finds]
  dsimp only
  rw [failed]

end Result

/-- The law holds for the members that `_handle_attr_users` computes exactly if LDAP knows
    every local member. -/
theorem membership_law_iff {self : Dispatcher} {mapping : LoweredDict String}
    {classes : String → String → Option (List String)} {obj : ListenerGroupAddModifyObject}
    {ignoreRoles localUsernames : List String} {school name : String}
    (ignores : IgnoresRoles self ignoreRoles)
    (named : schoolAndName obj = .ok (school, name))
    (members : KelvinPerSASchoolClassDispatcher.handleAttrUsers obj = .ok localUsernames)
    (finds : ∀ username ∈ localUsernames ++ (classes name school).getD [],
      Finds ldap now username) :
    MembershipLaw ldap now self.schoolAuthority.name mapping ignoreRoles localUsernames
        ((classes name school).getD [])
        (handleAttrUsers self (steadyServices ldap now self.schoolAuthority.name mapping classes)
          obj) ↔
      ∀ username ∈ localUsernames, Known ldap now username := by
  have finds' := List.forall_mem_append.mp finds
  constructor
  · rintro ⟨result, returned, -⟩
    by_contra unknown
    obtain ⟨raised, failed⟩ :=
      handleAttrUsers_unknown self mapping classes named members finds'.1 unknown
    rw [failed] at returned
    cases returned
  · intro known
    refine ⟨_, handleAttrUsers_ok ignores named members finds known, List.nodup_dedup _, ?_⟩
    intro username
    have ignoredLocal : username ∈ ignoredNames (handledSchools self.schoolAuthority.name mapping)
          ignoreRoles (localUsernames.map (lookup ldap now)) ↔
        username ∈ localUsernames ∧
          Ignored ldap now self.schoolAuthority.name mapping ignoreRoles username :=
      mem_ignored finds'.1 (by simp)
    have keptRemote : username ∈ ignoredNames (handledSchools self.schoolAuthority.name mapping)
          ignoreRoles
          ((((classes name school).getD []).map (lookup ldap now)).filter Option.isSome) ↔
        username ∈ (classes name school).getD [] ∧
          Ignored ldap now self.schoolAuthority.name mapping ignoreRoles username :=
      mem_ignored finds'.2 (by simp)
    simp only [List.mem_dedup, List.mem_append, List.mem_filter, decide_eq_true_eq, ignoredLocal,
      keptRemote, known_iff, ne_eq, not_not, Option.isNone_iff_eq_none]
    tauto

end Law

end KelvinPartialGroupSyncPerSASchoolClassDispatcher

section Examples

open KelvinPartialGroupSyncPerSASchoolClassDispatcher

attribute [local instance] asciiCaseMapping

def schoolUser (uid role : String) : LdapEntry where
  dn := s!"uid={uid},cn=users,ou=DEMOSCHOOL,dc=uni,dc=dtr"
  uid := uid
  displayName := none
  objectClasses := ["ucsschoolStudent"]
  sambaAcctFlags := some "[U          ]"
  krb5KDCFlags := some 126
  shadowExpire := none
  attributes := [("ucsschoolRole", [s!"{role}:school:DEMOSCHOOL"])]

/-- A student and a teacher. -/
def classLdap : Ldap where
  entries := [schoolUser "anna" "student", schoolUser "frieda" "teacher"]
  adminGroups := []
  accepts _ _ := false
  machinePassword := "secret"

/-- What a search for this user finds. -/
def foundUser (uid role : String) : User :=
  ⟨uid, none, false, (schoolUser uid role).dn, (schoolUser uid role).attributes⟩

/-- Teachers are to be ignored. -/
def partialDispatcher : Dispatcher where
  schoolAuthority :=
    ⟨"Traeger1", true, "https://traeger1/ucsschool/kelvin/v1/", [kelvinPartialGroupSync],
      [(kelvinPartialGroupSync, [("school_classes_ignore_roles", Json.strs ["teacher"])])], rfl⟩
  pluginName := kelvinPartialGroupSync
  attributeMapping := .dict [("users", Json.str "users")]
  session := ⟨Json.str "Administrator", "univention", "traeger1", []⟩

def schoolClass (members : List String) : ListenerGroupAddModifyObject where
  dn := "cn=DEMOSCHOOL-1a,cn=klassen,cn=schueler,cn=groups,ou=DEMOSCHOOL,dc=uni,dc=dtr"
  id := "7be0"
  object := [("name", Json.str "DEMOSCHOOL-1a"), ("users", Json.strs members)]
  options := ["default"]
  oldData := none
  users := members
  users_eq := rfl

/-- The services when the target has these members. -/
def classServices (remoteUsernames : List String) : GroupServices (Except HandlerError) :=
  steadyServices classLdap 1000 "Traeger1" (.lowerKeys [("DEMOSCHOOL", "Traeger1")])
    fun _ _ => some remoteUsernames

private theorem classLdap_getUser :
    LdapAccess.getUser classLdap 1000 none "anna" true = .ok (some (foundUser "anna" "student")) ∧
      LdapAccess.getUser classLdap 1000 none "frieda" true =
        .ok (some (foundUser "frieda" "teacher")) ∧
      LdapAccess.getUser classLdap 1000 none "gast" true = .ok none := by
  decide +kernel

private theorem classLdap_finds :
    ∀ username ∈ ["anna", "frieda", "gast"], Finds classLdap 1000 username := by
  obtain ⟨anna, frieda, gast⟩ := classLdap_getUser
  simp only [List.forall_mem_cons, List.not_mem_nil, false_implies, implies_true, and_true]
  exact ⟨⟨_, anna, by simp [foundUser]⟩, ⟨_, frieda, by simp [foundUser]⟩, ⟨_, gast, by simp⟩⟩

theorem teacher_kept_at_target :
    MembershipLaw classLdap 1000 "Traeger1" (.lowerKeys [("DEMOSCHOOL", "Traeger1")]) ["teacher"]
      ["anna"] ["frieda", "gast"]
      (handleAttrUsers partialDispatcher (classServices ["frieda", "gast"])
        (schoolClass ["uid=anna,cn=users,ou=DEMOSCHOOL,dc=uni,dc=dtr"])) := by
  refine (membership_law_iff classLdap 1000 ⟨_, rfl, rfl⟩
    (show schoolAndName _ = .ok ("DEMOSCHOOL", "1a") from by decide +kernel)
    (show KelvinPerSASchoolClassDispatcher.handleAttrUsers _ = .ok ["anna"] from by decide +kernel)
    ?_).mpr ?_
  · exact fun username member => classLdap_finds username member
  · intro username member
    obtain rfl : username = "anna" := by simpa using member
    exact ⟨_, classLdap_getUser.1⟩

/-- The member `gast` is not a user of a school here: nothing is computed. -/
theorem member_without_ldap_entry :
    (∀ username ∈ ["anna", "gast"], Finds classLdap 1000 username) ∧
      let computed := handleAttrUsers partialDispatcher (classServices [])
        (schoolClass ["uid=anna,cn=users,ou=DEMOSCHOOL,dc=uni,dc=dtr",
          "uid=gast,cn=users,dc=uni,dc=dtr"])
      computed = .error (.python (.attributeError "attributes")) ∧
        ¬ MembershipLaw classLdap 1000 "Traeger1" (.lowerKeys [("DEMOSCHOOL", "Traeger1")])
          ["teacher"] ["anna", "gast"] [] computed := by
  have raised : handleAttrUsers partialDispatcher (classServices [])
      (schoolClass ["uid=anna,cn=users,ou=DEMOSCHOOL,dc=uni,dc=dtr",
        "uid=gast,cn=users,dc=uni,dc=dtr"]) =
        .error (.python (.attributeError "attributes")) := by decide +kernel
  refine ⟨fun username member => classLdap_finds username (by simp at member ⊢; tauto), raised, ?_⟩
  rintro ⟨members, returned, -⟩
  rw [raised] at returned
  cases returned

end Examples

end IdConnector
