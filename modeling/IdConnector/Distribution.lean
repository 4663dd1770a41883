import IdConnector.Patterns
import IdConnector.Queue

/-! # Routing of listener objects

The three `school_authorities_to_distribute_to` hooks and their union, by which
the in-queue decides which out queues receive a file. Users and groups are
routed by separate hooks with separate filters on the plugins of an authority
and on its active flag; `routing_agrees_iff` says when the two come to the
same decision.
-/

namespace IdConnector

open Library

section Hooks

variable [CaseMapping]

namespace InQueue

/-- `_get_school_authority_configs`: the active configurations with the Kelvin plugin. -/
def activeKelvinConfigs (q : InQueue) : List SchoolAuthorityConfiguration :=
  (q.outQueues.map OutQueue.schoolAuthority).filter
    fun config => kelvin ∈ config.plugins ∧ config.active

/-- Add the authorities of schools to a set of names; schools without one are ignored. -/
def addAuthorities (q : InQueue) (names : List String) (schools : List String) : List String :=
  schools.foldl (fun names school =>
    match q.schoolAuthorityMapping.entries.get (lower school) with
    | some authority => names.insert authority
    | none => names) names

end InQueue

/-- `UserDistributionImpl.school_authorities_to_distribute_to` -/
def userAuthorities (q : InQueue) (obj : ListenerObject) : List String :=
  if q.activeKelvinConfigs = [] then []
  else
    match obj with
    | .userAddModify user =>
        q.addAuthorities (q.addAuthorities [] user.schools)
          ((user.oldData.map ListenerUserOldDataEntry.schools).getD [])
    | .userRemove user =>
        q.addAuthorities [] ((user.oldData.map ListenerUserOldDataEntry.schools).getD [])
    | .groupAddModify _ | .groupRemove _ => []

/-- `GroupDistributionImplBase.school_authorities`, as the set of their names. -/
def ourSchoolAuthorityNames (pluginName : String) (q : InQueue) : List String :=
  ((q.outQueues.map OutQueue.schoolAuthority).filter fun config => pluginName ∈ config.plugins).map
    SchoolAuthorityConfiguration.name

def schoolAuthorityMappingFiltered (pluginName : String) (q : InQueue) : Dict String String :=
  Dict.ofPairs ((q.schoolAuthorityMapping.entries.filter
    fun entry => entry.2 ∈ ourSchoolAuthorityNames pluginName q).map
      fun entry => (lower entry.1, entry.2))

/-- `GroupDistributionImplBase.school_authorities_to_distribute_to` -/
def groupAuthorities (env : LdapEnvironment) (pluginName : String) (q : InQueue)
    (obj : ListenerObject) : List String :=
  match obj with
  | .userAddModify _ | .userRemove _ => []
  | .groupAddModify _ | .groupRemove _ =>
      match schoolClassDnRegex env obj.dn with
      | none => []
      | some group =>
          if ourSchoolAuthorityNames pluginName q = [] then []
          else ((schoolAuthorityMappingFiltered pluginName q).get (lower group.ou)).toList

/-- `KelvinGroupDistribution.school_authorities_to_distribute_to` -/
def kelvinGroupAuthorities (env : LdapEnvironment) (q : InQueue) (obj : ListenerObject) :
    List String :=
  if q.activeKelvinConfigs = [] then [] else groupAuthorities env kelvin q obj

/-- `KelvinPartialGroupSyncGroupDistribution`, which overrides nothing. -/
def partialGroupSyncAuthorities (env : LdapEnvironment) (q : InQueue) (obj : ListenerObject) :
    List String :=
  groupAuthorities env kelvinPartialGroupSync q obj

/-- The union of all `school_authorities_to_distribute_to` hooks. -/
def schoolAuthoritiesToDistributeTo (env : LdapEnvironment) (q : InQueue)
    (obj : ListenerObject) : List String :=
  userAuthorities q obj ∪ (kelvinGroupAuthorities env q obj ∪ partialGroupSyncAuthorities env q obj)

/-! ## What each hook selects -/

/-- Some registered authority of this name has the plugin. -/
def InQueue.HasPlugin (q : InQueue) (authority pluginName : String) : Prop :=
  ∃ out ∈ q.outQueues,
    out.schoolAuthority.name = authority ∧ pluginName ∈ out.schoolAuthority.plugins

/-- Some registered authority has the Kelvin plugin and is active. -/
def InQueue.HasActiveKelvin (q : InQueue) : Prop :=
  ∃ out ∈ q.outQueues, kelvin ∈ out.schoolAuthority.plugins ∧ out.schoolAuthority.active = true

/-- The schools of a user object; a remove object only has those of its old data. -/
def ListenerObject.userSchools : ListenerObject → Option (List String)
  | .userAddModify user => some user.schools
  | .userRemove user => user.oldData.map ListenerUserOldDataEntry.schools
  | .groupAddModify _ | .groupRemove _ => none

/-- A group object whose DN is that of a school class of the OU, up to case. -/
def ListenerObject.IsClassOf (env : LdapEnvironment) (ou : String) : ListenerObject → Prop
  | .userAddModify _ | .userRemove _ => False
  | obj => ∃ group, schoolClassDnRegex env obj.dn = some group ∧ lower group.ou = lower ou

theorem activeKelvinConfigs_ne_nil (q : InQueue) :
    q.activeKelvinConfigs ≠ [] ↔ q.HasActiveKelvin := by
  constructor
  · intro nonempty
    obtain ⟨config, member⟩ := List.exists_mem_of_ne_nil _ nonempty
    obtain ⟨mapped, plugin, active⟩ := by
      simpa [InQueue.activeKelvinConfigs] using member
    obtain ⟨out, registered, rfl⟩ := mapped
    exact ⟨out, registered, plugin, active⟩
  · rintro ⟨out, registered, plugin, active⟩
    have member : out.schoolAuthority ∈ q.activeKelvinConfigs := by
      simp only [InQueue.activeKelvinConfigs, List.mem_filter, List.mem_map]
      exact ⟨⟨out, registered, rfl⟩, by simp [plugin, active]⟩
    exact List.ne_nil_of_mem member

theorem mem_addAuthorities {q : InQueue} {schools names : List String} {authority : String} :
    authority ∈ q.addAuthorities names schools ↔
      authority ∈ names ∨
        ∃ school ∈ schools, q.schoolAuthorityMapping.entries.get (lower school) = some authority := by
  induction schools generalizing names with
  | nil => simp [InQueue.addAuthorities]
  | cons school rest ih =>
      have step : q.addAuthorities names (school :: rest) =
          q.addAuthorities (match q.schoolAuthorityMapping.entries.get (lower school) with
            | some authority => names.insert authority
            | none => names) rest := rfl
      rw [step, ih]
      cases found : q.schoolAuthorityMapping.entries.get (lower school) with
      | none => simp [found]
      | some selected =>
          simp only [List.mem_insert_iff, List.mem_cons, exists_eq_or_imp, found,
            Option.some.injEq, eq_comm (a := selected)]
          tauto

/-- A user goes to the authorities of its present and previous schools, as long as any
    authority at all is an active Kelvin one. -/
theorem mem_userAuthorities {q : InQueue} {obj : ListenerObject} {schools : List String}
    {ou authority : String} (of_schools : obj.userSchools = some schools) (member : ou ∈ schools)
    (mapped : q.schoolAuthorityMapping.entries.get (lower ou) = some authority) :
    authority ∈ userAuthorities q obj ↔ q.HasActiveKelvin := by
  rw [← activeKelvinConfigs_ne_nil]
  unfold userAuthorities
  split
  next none_active => simp [none_active]
  next some_active =>
    refine ⟨fun _ => some_active, fun _ => ?_⟩
    cases obj with
    | userAddModify user =>
        obtain rfl : user.schools = schools := by simpa [ListenerObject.userSchools] using of_schools
        exact mem_addAuthorities.mpr (.inl (mem_addAuthorities.mpr (.inr ⟨ou, member, mapped⟩)))
    | userRemove user =>
        have old : user.oldData.map ListenerUserOldDataEntry.schools = some schools := of_schools
        simp only [old, Option.getD_some]
        exact mem_addAuthorities.mpr (.inr ⟨ou, member, mapped⟩)
    | groupAddModify group | groupRemove group => simp [ListenerObject.userSchools] at of_schools

theorem mem_ourSchoolAuthorityNames {q : InQueue} {pluginName authority : String} :
    authority ∈ ourSchoolAuthorityNames pluginName q ↔ q.HasPlugin authority pluginName := by
  simp only [ourSchoolAuthorityNames, List.mem_map, List.mem_filter, decide_eq_true_eq]
  constructor
  · rintro ⟨_, ⟨⟨out, registered, rfl⟩, plugin⟩, name⟩
    exact ⟨out, registered, name, plugin⟩
  · rintro ⟨out, registered, name, plugin⟩
    exact ⟨out.schoolAuthority, ⟨⟨out, registered, rfl⟩, plugin⟩, name⟩

/-- The keys are lower-case already, so lower-casing them again collapses nothing. -/
theorem schoolAuthorityMappingFiltered_eq (pluginName : String) (q : InQueue) :
    schoolAuthorityMappingFiltered pluginName q = q.schoolAuthorityMapping.entries.filter
      fun entry => entry.2 ∈ ourSchoolAuthorityNames pluginName q := by
  let kept : Dict String String := q.schoolAuthorityMapping.entries.filter
    fun entry => entry.2 ∈ ourSchoolAuthorityNames pluginName q
  have sub : kept.Sublist q.schoolAuthorityMapping.entries := List.filter_sublist
  have same : kept.map (fun entry => (lower entry.1, entry.2)) = kept := by
    calc kept.map (fun entry => (lower entry.1, entry.2))
        = kept.map id := List.map_congr_left fun entry member => by
          have key : entry.1 ∈ q.schoolAuthorityMapping.entries.keys :=
            List.mem_map_of_mem (sub.subset member)
          rw [q.schoolAuthorityMapping.lowered _ key]
          rfl
      _ = kept := List.map_id kept
  have distinct : (Dict.keys kept).Nodup :=
    q.schoolAuthorityMapping.distinct.sublist (sub.map Prod.fst)
  calc schoolAuthorityMappingFiltered pluginName q
      = Dict.ofPairs (kept.map fun entry => (lower entry.1, entry.2)) := rfl
    _ = Dict.ofPairs kept := by rw [same]
    _ = kept := Dict.ofPairs_eq distinct

theorem schoolAuthorityMappingFiltered_get {pluginName : String} {q : InQueue} {key : String}
    {authority : String} :
    (schoolAuthorityMappingFiltered pluginName q).get key = some authority ↔
      q.schoolAuthorityMapping.entries.get key = some authority ∧
        q.HasPlugin authority pluginName := by
  have sub : (schoolAuthorityMappingFiltered pluginName q).Sublist
      q.schoolAuthorityMapping.entries := by
    rw [schoolAuthorityMappingFiltered_eq]
    exact List.filter_sublist
  rw [Dict.get_eq_some_iff (q.schoolAuthorityMapping.distinct.sublist (sub.map Prod.fst)),
    Dict.get_eq_some_iff q.schoolAuthorityMapping.distinct, schoolAuthorityMappingFiltered_eq,
    List.mem_filter, decide_eq_true_eq, mem_ourSchoolAuthorityNames]

/-- A school class goes to the authority of its OU when that authority has the plugin. -/
theorem mem_groupAuthorities {env : LdapEnvironment} {pluginName : String} {q : InQueue}
    {obj : ListenerObject} {ou authority : String} (isClass : obj.IsClassOf env ou)
    (mapped : q.schoolAuthorityMapping.entries.get (lower ou) = some authority) :
    authority ∈ groupAuthorities env pluginName q obj ↔ q.HasPlugin authority pluginName := by
  obtain ⟨group, dn, sameOu⟩ : ∃ group, schoolClassDnRegex env obj.dn = some group ∧
      lower group.ou = lower ou := by
    cases obj <;> first | exact isClass.elim | exact isClass
  have looked : authority ∈ ((schoolAuthorityMappingFiltered pluginName q).get
      (lower group.ou)).toList ↔ q.HasPlugin authority pluginName := by
    rw [Option.mem_toList, schoolAuthorityMappingFiltered_get, sameOu, mapped]
    simp
  have decided : groupAuthorities env pluginName q obj =
      if ourSchoolAuthorityNames pluginName q = [] then []
      else ((schoolAuthorityMappingFiltered pluginName q).get (lower group.ou)).toList := by
    cases obj with
    | userAddModify user | userRemove user => exact isClass.elim
    | groupAddModify _ | groupRemove _ => simp only [groupAuthorities, dn]
  rw [decided]
  split
  next none_named =>
    have unnamed : authority ∉ ourSchoolAuthorityNames pluginName q := by simp [none_named]
    simpa [mem_ourSchoolAuthorityNames] using unnamed
  next => exact looked

/-- The schools by which a user object is routed: its present ones and those of its old data. -/
def ListenerObject.routedSchools : ListenerObject → List String
  | .userAddModify user =>
      user.schools ++ (user.oldData.map ListenerUserOldDataEntry.schools).getD []
  | .userRemove user => (user.oldData.map ListenerUserOldDataEntry.schools).getD []
  | .groupAddModify _ | .groupRemove _ => []

theorem mem_userAuthorities_iff {q : InQueue} {obj : ListenerObject} {authority : String} :
    authority ∈ userAuthorities q obj ↔
      q.HasActiveKelvin ∧ ∃ school ∈ obj.routedSchools,
        q.schoolAuthorityMapping.entries.get (lower school) = some authority := by
  rw [← activeKelvinConfigs_ne_nil]
  unfold userAuthorities
  split
  next none_active => simp [none_active]
  next some_active =>
    rw [and_iff_right some_active]
    cases obj with
    | userAddModify user =>
        simp [ListenerObject.routedSchools, mem_addAuthorities, or_and_right, exists_or]
    | userRemove user => simp [ListenerObject.routedSchools, mem_addAuthorities]
    | groupAddModify _ | groupRemove _ => simp [ListenerObject.routedSchools]

theorem mem_groupAuthorities_iff {env : LdapEnvironment} {pluginName : String} {q : InQueue}
    {obj : ListenerObject} {authority : String} :
    authority ∈ groupAuthorities env pluginName q obj ↔
      q.HasPlugin authority pluginName ∧ ∃ ou, obj.IsClassOf env ou ∧
        q.schoolAuthorityMapping.entries.get (lower ou) = some authority := by
  constructor
  · intro selected
    obtain ⟨group, dn, isClass⟩ : ∃ group, schoolClassDnRegex env obj.dn = some group ∧
        obj.IsClassOf env group.ou := by
      cases dn : schoolClassDnRegex env obj.dn with
      | none => cases obj <;> simp [groupAuthorities, dn] at selected
      | some group =>
          cases obj with
          | userAddModify _ | userRemove _ => simp [groupAuthorities] at selected
          | groupAddModify _ | groupRemove _ => exact ⟨group, rfl, group, dn, rfl⟩
    have looked : (schoolAuthorityMappingFiltered pluginName q).get (lower group.ou) =
        some authority := by
      cases obj with
      | userAddModify _ | userRemove _ => exact isClass.elim
      | groupAddModify _ | groupRemove _ =>
          simp only [groupAuthorities, dn] at selected
          split at selected
          · simp at selected
          · exact Option.mem_toList.mp selected
    obtain ⟨mapped, plugin⟩ := schoolAuthorityMappingFiltered_get.mp looked
    exact ⟨plugin, group.ou, isClass, mapped⟩
  · rintro ⟨plugin, ou, isClass, mapped⟩
    exact (mem_groupAuthorities isClass mapped).mpr plugin

theorem mem_kelvinGroupAuthorities_iff {env : LdapEnvironment} {q : InQueue}
    {obj : ListenerObject} {authority : String} :
    authority ∈ kelvinGroupAuthorities env q obj ↔
      q.HasActiveKelvin ∧ authority ∈ groupAuthorities env kelvin q obj := by
  rw [← activeKelvinConfigs_ne_nil, kelvinGroupAuthorities]
  split
  next none_active => simp [none_active]
  next some_active => exact (and_iff_right some_active).symm

theorem groupAuthorities_of_user {env : LdapEnvironment} {pluginName : String} {q : InQueue}
    {obj : ListenerObject} {schools : List String} (user : obj.userSchools = some schools) :
    groupAuthorities env pluginName q obj = [] := by
  cases obj with
  | userAddModify _ | userRemove _ => rfl
  | groupAddModify _ | groupRemove _ => simp [ListenerObject.userSchools] at user

theorem userAuthorities_of_class {env : LdapEnvironment} {q : InQueue} {obj : ListenerObject}
    {ou : String} (isClass : obj.IsClassOf env ou) : userAuthorities q obj = [] := by
  cases obj with
  | userAddModify _ | userRemove _ => exact isClass.elim
  | groupAddModify _ | groupRemove _ => simp [userAuthorities]

/-! ## The union of the hooks -/

theorem user_routed_iff {env : LdapEnvironment} {q : InQueue} {user : ListenerObject}
    {schools : List String} {ou authority : String} (of_schools : user.userSchools = some schools)
    (member : ou ∈ schools)
    (mapped : q.schoolAuthorityMapping.entries.get (lower ou) = some authority) :
    authority ∈ schoolAuthoritiesToDistributeTo env q user ↔ q.HasActiveKelvin := by
  simp [schoolAuthoritiesToDistributeTo, kelvinGroupAuthorities, partialGroupSyncAuthorities,
    groupAuthorities_of_user of_schools, mem_userAuthorities of_schools member mapped]

theorem class_routed_iff {env : LdapEnvironment} {q : InQueue} {group : ListenerObject}
    {ou authority : String} (isClass : group.IsClassOf env ou)
    (mapped : q.schoolAuthorityMapping.entries.get (lower ou) = some authority) :
    authority ∈ schoolAuthoritiesToDistributeTo env q group ↔
      (q.HasActiveKelvin ∧ q.HasPlugin authority kelvin) ∨
        q.HasPlugin authority kelvinPartialGroupSync := by
  simp [schoolAuthoritiesToDistributeTo, userAuthorities_of_class isClass,
    mem_kelvinGroupAuthorities_iff, partialGroupSyncAuthorities, mem_groupAuthorities isClass mapped]

/-- The hooks route the classes and the users of an OU alike exactly if some authority is
    an active Kelvin one or the authority of the OU does without the partial group sync. -/
theorem routing_agrees_iff (env : LdapEnvironment) (q : InQueue) (ou authority : String)
    (user group : ListenerObject)
    (mapped : q.schoolAuthorityMapping.entries.get (lower ou) = some authority)
    (plugin : q.HasPlugin authority kelvin ∨ q.HasPlugin authority kelvinPartialGroupSync)
    (ofSchool : user.userSchools = some [ou]) (isClass : group.IsClassOf env ou) :
    (authority ∈ schoolAuthoritiesToDistributeTo env q group ↔
        authority ∈ schoolAuthoritiesToDistributeTo env q user) ↔
      q.HasActiveKelvin ∨ ¬ q.HasPlugin authority kelvinPartialGroupSync := by
  rw [user_routed_iff ofSchool (List.mem_singleton_self ou) mapped, class_routed_iff isClass mapped]
  tauto

end Hooks

section Examples

attribute [local instance] asciiCaseMapping

/-- One authority for the OU DEMOSCHOOL, with the given plugins. -/
def demoQueue (plugins : List String) : InQueue where
  outQueues :=
    [.fromSchoolAuthority ⟨"Traeger1", true, "https://traeger1/ucsschool/kelvin/v1/", plugins, [], rfl⟩]
  schoolAuthorityMapping :=
    { entries := [("demoschool", "Traeger1")]
      distinct := by decide
      lowered := by decide }

def demoUser : ListenerObject := .userAddModify
  { dn := "uid=anna,cn=schueler,cn=users,ou=DEMOSCHOOL,dc=uni,dc=dtr"
    id := "9ad3"
    object := [("school", Json.strs ["DEMOSCHOOL"])]
    options := ["default", "ucsschoolStudent"]
    userPasswords := none
    oldData := none
    schools := ["DEMOSCHOOL"]
    schools_eq := rfl }

def demoClass : ListenerObject := .groupRemove
  ⟨"cn=DEMOSCHOOL-1a,cn=klassen,cn=schueler,cn=groups,ou=DEMOSCHOOL,dc=uni,dc=dtr", "51f0", none⟩

def demoEnvironment : LdapEnvironment where
  ldapBase := "dc=uni,dc=dtr"

private theorem demoClass_isClass : demoClass.IsClassOf demoEnvironment "DEMOSCHOOL" :=
  ⟨⟨"DEMOSCHOOL", "1a"⟩, by decide +kernel, rfl⟩

theorem routing_agrees_kelvin :
    let q := demoQueue [kelvin]
    ("Traeger1" ∈ schoolAuthoritiesToDistributeTo demoEnvironment q demoClass ↔
        "Traeger1" ∈ schoolAuthoritiesToDistributeTo demoEnvironment q demoUser) ↔
      q.HasActiveKelvin ∨ ¬ q.HasPlugin "Traeger1" kelvinPartialGroupSync :=
  routing_agrees_iff _ (demoQueue [kelvin]) "DEMOSCHOOL" "Traeger1" demoUser demoClass (by decide)
    (.inl ⟨_, List.mem_singleton_self _, rfl, List.mem_singleton_self _⟩) rfl demoClass_isClass

/-- With the partial group sync in the place of the Kelvin plugin the classes of the OU
    still arrive, its users do not. -/
theorem partial_group_sync_drops_users :
    let q := demoQueue [kelvinPartialGroupSync]
    q.schoolAuthorityMapping.entries.get (lower "DEMOSCHOOL") = some "Traeger1" ∧
      q.HasPlugin "Traeger1" kelvinPartialGroupSync ∧
      demoUser.userSchools = some ["DEMOSCHOOL"] ∧ demoClass.IsClassOf demoEnvironment "DEMOSCHOOL" ∧
      "Traeger1" ∈ schoolAuthoritiesToDistributeTo demoEnvironment q demoClass ∧
      "Traeger1" ∉ schoolAuthoritiesToDistributeTo demoEnvironment q demoUser :=
  ⟨by decide, ⟨_, List.mem_singleton_self _, rfl, List.mem_singleton_self _⟩, rfl,
    demoClass_isClass, by decide +kernel, by decide⟩

end Examples

end IdConnector
