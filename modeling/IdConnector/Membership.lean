import IdConnector.ClassConvergence

/-! # Membership under partial group sync

The members that partial group sync sends depend on those that the target has. Still, after
any run the members of a class do not depend on what happened in between: they are the ones of
the last object that are not ignored, and the ones at the beginning that are ignored or that
nobody knows here.
-/

namespace IdConnector

open Library Library.Action Library.Records KelvinPerSASchoolClassDispatcher
  KelvinPartialGroupSyncPerSASchoolClassDispatcher
open KelvinPerSAUserDispatcher (raising)

section PartialGroupSync

variable [CaseMapping] {T SchoolClass : Type}

/-- The names in a list of users. -/
def usersOf (attributes : Attributes) : List String :=
  match attributes "users" with
  | some (.list items) => items.filterMap Json.str?
  | _ => []

/-- What `get` finds at a target with these classes. -/
def remoteClasses (classes : Classes) (name school : String) : Option (List String) :=
  (classes (classKey name school)).map usersOf

namespace ClassTarget

/-- The services of the dispatcher, while LDAP and the mapping stay as they are. -/
def steadyGroupServices (K : ClassTarget T SchoolClass) (ldap : Ldap) (now : Int)
    (mapping : LoweredDict String) (classes : Classes) : GroupServices (Except HandlerError) :=
  steadyServices ldap now K.self.schoolAuthority.name mapping (remoteClasses classes)

/-- The target with a `KelvinPartialGroupSyncPerSASchoolClassDispatcher`. -/
def partialGroupSync (K : ClassTarget T SchoolClass) (ldap : Ldap) (now : Int)
    (mapping : LoweredDict String) : ClassSetting T SchoolClass where
  toClassTarget := K
  services := partialServices K.outside K.self
  members classes obj := KelvinPartialGroupSyncPerSASchoolClassDispatcher.handleAttrUsers K.self
    (K.steadyGroupServices ldap now mapping classes) obj

/-- LDAP and the mapping stay as they are. -/
structure Steady (K : ClassTarget T SchoolClass) (ldap : Ldap) (now : Int)
    (mapping : LoweredDict String) : Prop extends K.Serves where
  getUser : ∀ {username t found t'}, exec (K.outside.getUser username) t = (.ok found, t') →
    LdapAccess.getUser ldap now none username true = .ok found
  handledSchools : ∀ {t schools t'}, exec K.outside.shared.handledSchools t = (.ok schools, t') →
    schools = handledSchools K.self.schoolAuthority.name mapping

variable {K : ClassTarget T SchoolClass} {ldap : Ldap} {now : Int} {mapping : LoweredDict String}
  {classes : Classes} {refused : List JsonObject}

/-! ## What the dispatcher computes -/

omit [CaseMapping] in
theorem usersOf_strs {attributes : Attributes} {usernames : List String}
    (users : attributes "users" = some (Json.strs usernames)) : usersOf attributes = usernames := by
  unfold usersOf
  rw [users]
  simp [Json.strs, Json.str, Json.str?, List.filterMap_map, Function.comp_def]

omit [CaseMapping] in
theorem computes_call {α : Type} {inv : ClassHandling T SchoolClass → Prop}
    {action : Action T HandlerError α} {x : Except HandlerError α}
    (kept : Preserves inv (call action))
    (returns : ∀ s, inv s → ∀ a t, exec action s.base.target = (.ok a, t) → x = .ok a) :
    Computes inv (call action) x where
  preserves := kept
  returns s holds a done := returns s holds a _ (Prod.ext done rfl)

theorem computes_getUser (steady : K.Steady ldap now mapping) (username : String) :
    Computes ((K.partialGroupSync ldap now mapping).Shows classes refused)
      ((groupServices K.outside).getUser username)
      ((K.steadyGroupServices ldap now mapping classes).getUser username) := by
  refine computes_call (ClassSetting.preserves_call (steady.api.getUser username)) ?_
  intro s _ found t done
  have same : (K.steadyGroupServices ldap now mapping classes).getUser username =
      raising (LdapAccess.getUser ldap now none username true) := rfl
  rw [same, steady.getUser done]
  rfl

theorem computes_handledSchools (steady : K.Steady ldap now mapping) :
    Computes ((K.partialGroupSync ldap now mapping).Shows classes refused)
      (groupServices K.outside).handledSchools
      (K.steadyGroupServices ldap now mapping classes).handledSchools := by
  refine computes_call (ClassSetting.preserves_call steady.api.handledSchools) ?_
  intro s _ schools t done
  rw [steady.handledSchools done]
  rfl

theorem computes_getSchoolClass (steady : K.Steady ldap now mapping) (name school : String) :
    Computes ((K.partialGroupSync ldap now mapping).Shows classes refused)
      ((groupServices K.outside).getSchoolClass name school)
      ((K.steadyGroupServices ldap now mapping classes).getSchoolClass name school) where
  preserves := preserves_map _ (ClassSetting.preserves_call (steady.api.getClass name school))
  returns s shown users done := by
    have remote : (K.steadyGroupServices ldap now mapping classes).getSchoolClass name school =
        .ok (remoteClasses classes name school) := rfl
    have represents : Represents K.outside.key K.store.attributes
      (K.store.classes s.base.target) classes := shown.represents
    have called : (exec (call (K.outside.getClass name school)) s).1.map
        (Option.map K.outside.users) = .ok users := by
      rw [← done]
      exact congrArg Prod.fst (exec_map _ _ s).symm
    rw [remote]
    rw [ClassSetting.exec_call] at called
    cases answer : exec (K.outside.getClass name school) s.base.target with
    | mk result target =>
        rw [answer] at called
        cases result with
        | error raised => cases called
        | ok found =>
            cases called
            cases found with
            | none =>
                have absent := represents.absent_iff.mpr (steady.api.missing answer)
                rw [remoteClasses, absent]
                rfl
            | some schoolClass =>
                obtain ⟨member, key⟩ := steady.api.got answer
                have entry := represents.get_of_mem member
                rw [key] at entry
                rw [remoteClasses, entry, Option.map_some, usersOf_strs (steady.api.users schoolClass)]
                rfl

theorem computes_checkUserIgnore (steady : K.Steady ldap now mapping) (roles : List String) :
    Computes ((K.partialGroupSync ldap now mapping).Shows classes refused)
      (checkUserIgnore K.self (groupServices K.outside) roles)
      (checkUserIgnore K.self (K.steadyGroupServices ldap now mapping classes) roles) := by
  unfold checkUserIgnore
  refine (computes_handledSchools steady).bind fun schools _ => ?_
  exact (ClassSetting.computes_raising _).bind fun ignored _ => .pure _

theorem computes_ignoredUsernames (steady : K.Steady ldap now mapping)
    (users : List (Option User)) :
    Computes ((K.partialGroupSync ldap now mapping).Shows classes refused)
      (ignoredUsernames K.self (groupServices K.outside) users)
      (ignoredUsernames K.self (K.steadyGroupServices ldap now mapping classes) users) := by
  induction users with
  | nil => exact .pure _
  | cons user rest ih =>
      cases user with
      | none => exact ClassSetting.computes_raising _
      | some user =>
          unfold ignoredUsernames
          refine (computes_checkUserIgnore steady _).bind fun ignore _ => ?_
          exact ih.bind fun more _ => .pure _

theorem computes_handleAttrUsers (steady : K.Steady ldap now mapping)
    (obj : ListenerGroupAddModifyObject) :
    Computes ((K.partialGroupSync ldap now mapping).Shows classes refused)
      ((partialServices K.outside K.self).handleAttrUsers obj)
      ((K.partialGroupSync ldap now mapping).members classes obj) := by
  have parsed (x : Except HandlerError (List String)) :
      Computes ((K.partialGroupSync ldap now mapping).Shows classes refused)
        (ofExcept x : Action _ HandlerError (List String))
        (ofExcept x : Except HandlerError (List String)) := by
    cases x with
    | ok a => exact .pure a
    | error raised => exact .throw raised
  unfold partialServices partialGroupSync
    KelvinPartialGroupSyncPerSASchoolClassDispatcher.handleAttrUsers getRemoteUsernames
  refine (ClassSetting.computes_raising _).bind fun named _ => ?_
  refine (parsed _).bind fun localUsernames _ => ?_
  refine (Computes.mapM (computes_getUser steady) _).bind fun localUsers _ => ?_
  refine (computes_ignoredUsernames steady _).bind fun localIgnoreUsers _ => ?_
  refine ((computes_getSchoolClass steady _ _).bind fun _ _ => .pure _).bind fun remote _ => ?_
  refine (Computes.mapM (computes_getUser steady) _).bind fun found _ => ?_
  exact (computes_ignoredUsernames steady _).bind fun remoteKeepUsers _ => .pure _

theorem Steady.partialGroupSync (steady : K.Steady ldap now mapping) :
    (K.partialGroupSync ldap now mapping).Connected where
  toServes := steady.toServes
  schoolsIdsOnTarget := rfl
  members _ _ := computes_handleAttrUsers steady

/-! ## One event -/

/-- The members that the map has for a class. -/
def membersAt (classes : Classes) (key : ClassKey) : List String :=
  ((classes key).map usersOf).getD []

/-- The dispatcher keeps the user where the target has them. -/
def Keeps (K : ClassTarget T SchoolClass) (ldap : Ldap) (now : Int) (mapping : LoweredDict String)
    (ignoreRoles : List String) (username : String) : Prop :=
  Ignored ldap now K.self.schoolAuthority.name mapping ignoreRoles username ∨
    ¬ Known ldap now username

/-- The object names the class as its DN does, and LDAP has its members under exactly the names
    that their DNs give them. -/
structure WellNamed (K : ClassTarget T SchoolClass) (ldap : Ldap) (now : Int) (key : ClassKey)
    (obj : ListenerGroupAddModifyObject) : Prop where
  named : ∀ {school name}, schoolAndName obj = .ok (school, name) → classKey name school = key
  finds : ∀ {localUsernames}, KelvinPerSASchoolClassDispatcher.handleAttrUsers obj =
    .ok localUsernames → ∀ username ∈ localUsernames, Finds ldap now username

variable {ignoreRoles : List String} {key : ClassKey} {after : Classes}

/-- The members that an object brings about, from those that the class has. -/
theorem members_law (ignores : IgnoresRoles K.self ignoreRoles)
    {obj : ListenerGroupAddModifyObject} (well : K.WellNamed ldap now key obj)
    (finds : ∀ username ∈ membersAt classes key, Finds ldap now username) {usernames : List String}
    (computed : (K.partialGroupSync ldap now mapping).members classes obj = .ok usernames) :
    ∃ localUsernames, KelvinPerSASchoolClassDispatcher.handleAttrUsers obj = .ok localUsernames ∧
      (∀ username ∈ localUsernames, Known ldap now username) ∧
      ∀ username, username ∈ usernames ↔
        username ∈ localUsernames ∧ ¬ Ignored ldap now K.self.schoolAuthority.name mapping
          ignoreRoles username ∨
        username ∈ membersAt classes key ∧ K.Keeps ldap now mapping ignoreRoles username := by
  have returned : KelvinPartialGroupSyncPerSASchoolClassDispatcher.handleAttrUsers K.self
    (K.steadyGroupServices ldap now mapping classes) obj = .ok usernames := computed
  cases parsed : schoolAndName obj with
  | error raised =>
      unfold KelvinPartialGroupSyncPerSASchoolClassDispatcher.handleAttrUsers at returned
      rw [parsed] at returned
      cases returned
  | ok names =>
      obtain ⟨school, name⟩ := names
      cases members : KelvinPerSASchoolClassDispatcher.handleAttrUsers obj with
      | error raised =>
          unfold KelvinPartialGroupSyncPerSASchoolClassDispatcher.handleAttrUsers at returned
          rw [parsed, members] at returned
          cases returned
      | ok localUsernames =>
          have remote : (remoteClasses classes name school).getD [] = membersAt classes key := by
            rw [remoteClasses, well.named parsed, membersAt]
          have finds_all : ∀ username ∈
              localUsernames ++ (remoteClasses classes name school).getD [],
              Finds ldap now username :=
            List.forall_mem_append.mpr ⟨well.finds members, remote ▸ finds⟩
          have known : ∀ username ∈ localUsernames, Known ldap now username := by
            by_contra unknown
            obtain ⟨raised, failed⟩ := handleAttrUsers_unknown K.self mapping
              (remoteClasses classes) parsed members (well.finds members) unknown
            cases returned.symm.trans failed
          obtain ⟨result, same, _, law⟩ :=
            (membership_law_iff ldap now ignores parsed members finds_all).mpr known
          obtain rfl := Except.ok.inj (returned.symm.trans same)
          rw [remote] at law
          exact ⟨localUsernames, rfl, known, law⟩

/-- What an object makes of the members that the map has. -/
theorem membersAt_put (sends : SendsLast K.self.attributeMapping "users" "users")
    {obj : ListenerGroupAddModifyObject} {requestBody : JsonObject}
    (computed : (K.partialGroupSync ldap now mapping).requestBody classes obj = .ok requestBody) :
    (K.partialGroupSync ldap now mapping).members classes obj =
      .ok (membersAt ((K.partialGroupSync ldap now mapping).put classes key requestBody) key) := by
  obtain ⟨usernames, sent, members⟩ := ClassSetting.requestBody_users sends computed
  have stored : membersAt ((K.partialGroupSync ldap now mapping).put classes key requestBody) key =
      usernames := by
    unfold membersAt ClassSetting.put
    rw [Function.update_self, Option.map_some, Option.getD_some]
    apply usersOf_strs
    rw [overlay, sent]
    rfl
  rw [stored, members]

/-- An object is about another class, or it is an add or modify object that is well named. -/
def Updates (K : ClassTarget T SchoolClass) (ldap : Ldap) (now : Int) (mapping : LoweredDict String)
    (key : ClassKey) (obj : ListenerGroupObject) : Prop :=
  (K.partialGroupSync ldap now mapping).subject obj.dn = some key →
    ∃ group, obj = .addModify group ∧ K.WellNamed ldap now key group

/-- What stays true of the members: LDAP has them under their names, and those that are kept are
    those of the beginning. -/
structure Kept (K : ClassTarget T SchoolClass) (ldap : Ldap) (now : Int)
    (mapping : LoweredDict String) (ignoreRoles : List String) (start members : List String) :
    Prop where
  finds : ∀ username ∈ members, Finds ldap now username
  same : ∀ username, K.Keeps ldap now mapping ignoreRoles username →
    (username ∈ members ↔ username ∈ start)

variable {start : List String}

/-- An object about the class, which is applied. -/
theorem apply_members (sends : SendsLast K.self.attributeMapping "users" "users")
    {obj : ListenerGroupAddModifyObject}
    (about : (K.partialGroupSync ldap now mapping).subject obj.dn = some key)
    (applied : (K.partialGroupSync ldap now mapping).apply classes (.addModify obj) = .ok after) :
    (K.partialGroupSync ldap now mapping).members classes obj = .ok (membersAt after key) := by
  rcases ClassSetting.apply_ok applied with ⟨nothing, _⟩ | ⟨own, subject, change⟩
  · cases about.symm.trans nothing
  · obtain rfl : key = own := Option.some.inj (about.symm.trans subject)
    rcases change with ⟨group, requestBody, same, computed, rfl⟩ | ⟨⟨group, same⟩, _⟩
    · cases same
      exact membersAt_put sends computed
    · cases same

theorem apply_kept (ignores : IgnoresRoles K.self ignoreRoles)
    (sends : SendsLast K.self.attributeMapping "users" "users") {obj : ListenerGroupObject}
    (updates : K.Updates ldap now mapping key obj)
    (kept : K.Kept ldap now mapping ignoreRoles start (membersAt classes key))
    (applied : (K.partialGroupSync ldap now mapping).apply classes obj = .ok after) :
    K.Kept ldap now mapping ignoreRoles start (membersAt after key) := by
  by_cases about : (K.partialGroupSync ldap now mapping).subject obj.dn = some key
  · obtain ⟨group, rfl, well⟩ := updates about
    obtain ⟨localUsernames, locals, known, law⟩ :=
      members_law ignores well kept.finds (apply_members sends about applied)
    constructor
    · intro username member
      rcases (law username).mp member with ⟨here, _⟩ | ⟨there, _⟩
      · exact well.finds locals username here
      · exact kept.finds username there
    · intro username keeps
      rw [law username, ← kept.same username keeps]
      constructor
      · rintro (⟨here, present⟩ | ⟨there, _⟩)
        · rcases keeps with ignored | unknown
          · exact absurd ignored present
          · exact absurd (known username here) unknown
        · exact there
      · intro there
        exact Or.inr ⟨there, keeps⟩
  · have same : membersAt after key = membersAt classes key := by
      rw [membersAt, ClassSetting.apply_other about applied, membersAt]
    rwa [same]

theorem replaysAll_kept (ignores : IgnoresRoles K.self ignoreRoles)
    (sends : SendsLast K.self.attributeMapping "users" "users")
    {events : List (ListenerGroupObject × Fate)}
    (updates : ∀ event ∈ events, K.Updates ldap now mapping key event.1)
    (kept : K.Kept ldap now mapping ignoreRoles start (membersAt classes key))
    (replays : (K.partialGroupSync ldap now mapping).ReplaysAll classes events after) :
    K.Kept ldap now mapping ignoreRoles start (membersAt after key) := by
  induction events generalizing classes with
  | nil =>
      obtain rfl : after = classes := replays
      exact kept
  | cons event rest ih =>
      obtain ⟨between, this, later⟩ := replays
      refine ih (fun e member => updates e (List.mem_cons_of_mem _ member)) ?_ later
      have own := updates event List.mem_cons_self
      obtain ⟨obj, fate⟩ := event
      cases fate with
      | refused =>
          obtain rfl : between = classes := this
          exact kept
      | handled => exact apply_kept ignores sends own kept this
      | failed =>
          rcases this with rfl | applied
          · exact kept
          · exact apply_kept ignores sends own kept applied

/-! ## Runs -/

/-- The user is a member of the class at the target. -/
def MemberAt (K : ClassTarget T SchoolClass) (key : ClassKey) (s : ClassHandling T SchoolClass)
    (username : String) : Prop :=
  ∃ schoolClass ∈ K.store.classes s.base.target, K.outside.key schoolClass = key ∧
    username ∈ K.outside.users schoolClass

theorem memberAt_iff (steady : K.Steady ldap now mapping) {s : ClassHandling T SchoolClass}
    (shown : (K.partialGroupSync ldap now mapping).Shows classes refused s) {username : String} :
    K.MemberAt key s username ↔ username ∈ membersAt classes key := by
  have represents : Represents K.outside.key K.store.attributes
    (K.store.classes s.base.target) classes := shown.represents
  unfold MemberAt membersAt
  constructor
  · rintro ⟨schoolClass, present, rfl, member⟩
    rw [represents.get_of_mem present, Option.map_some, Option.getD_some,
      usersOf_strs (steady.api.users schoolClass)]
    exact member
  · intro member
    cases entry : classes key with
    | none => simp [entry] at member
    | some attributes =>
        obtain ⟨schoolClass, present, same, rfl⟩ := (represents.shows key attributes).mp entry
        rw [entry, Option.map_some, Option.getD_some,
          usersOf_strs (steady.api.users schoolClass)] at member
        exact ⟨schoolClass, present, same, member⟩

variable {first s : ClassHandling T SchoolClass} {history : List (ListenerGroupObject × Fate)}

/-- Whatever happens, the members that are ignored or that nobody knows here stay. -/
theorem kept_members_untouched (steady : K.Steady ldap now mapping)
    (ignores : IgnoresRoles K.self ignoreRoles)
    (sends : SendsLast K.self.attributeMapping "users" "users")
    (shown : (K.partialGroupSync ldap now mapping).Shows classes refused first)
    (finds : ∀ username, K.MemberAt key first username → Finds ldap now username)
    (run : (K.partialGroupSync ldap now mapping).Run first history s)
    (literal : ∀ event ∈ history, LiteralName K.env event.1.dn)
    (updates : ∀ event ∈ history, K.Updates ldap now mapping key event.1) {username : String}
    (keeps : K.Keeps ldap now mapping ignoreRoles username) :
    K.MemberAt key s username ↔ K.MemberAt key first username := by
  obtain ⟨final, refused', replays, shown'⟩ :=
    ClassSetting.run_replays steady.partialGroupSync shown run literal
  have kept : K.Kept ldap now mapping ignoreRoles (membersAt classes key) (membersAt classes key) :=
    ⟨fun username member => finds username ((memberAt_iff steady shown).mpr member),
      fun _ _ => Iff.rfl⟩
  rw [memberAt_iff steady shown', memberAt_iff steady shown]
  exact (replaysAll_kept ignores sends updates kept replays).same username keeps

/-- After any run the class has the members of the last object that was handled, except those
    that are ignored, and those of the beginning that are ignored or that nobody knows here. -/
theorem members_converge (steady : K.Steady ldap now mapping)
    (ignores : IgnoresRoles K.self ignoreRoles)
    (sends : SendsLast K.self.attributeMapping "users" "users")
    (shown : (K.partialGroupSync ldap now mapping).Shows classes refused first)
    (finds : ∀ username, K.MemberAt key first username → Finds ldap now username)
    (run : (K.partialGroupSync ldap now mapping).Run first history s)
    (literal : ∀ event ∈ history, LiteralName K.env event.1.dn)
    {earlier later : List (ListenerGroupObject × Fate)} {obj : ListenerGroupAddModifyObject}
    (split : history = earlier ++ (.addModify obj, .handled) :: later)
    (updates : ∀ event ∈ earlier, K.Updates ldap now mapping key event.1)
    (about : (K.partialGroupSync ldap now mapping).subject obj.dn = some key)
    (well : K.WellNamed ldap now key obj)
    (quiet : ∀ event ∈ later, (K.partialGroupSync ldap now mapping).subject event.1.dn = some key →
      event.2 = .refused) :
    ∃ localUsernames, KelvinPerSASchoolClassDispatcher.handleAttrUsers obj = .ok localUsernames ∧
      ∀ username, K.MemberAt key s username ↔
        username ∈ localUsernames ∧ ¬ Ignored ldap now K.self.schoolAuthority.name mapping
          ignoreRoles username ∨
        K.MemberAt key first username ∧ K.Keeps ldap now mapping ignoreRoles username := by
  obtain ⟨final, refused', replays, shown'⟩ :=
    ClassSetting.run_replays steady.partialGroupSync shown run literal
  rw [split, ClassSetting.replaysAll_append] at replays
  obtain ⟨before, front, after, applied, back⟩ := replays
  have kept :
      K.Kept ldap now mapping ignoreRoles (membersAt classes key) (membersAt before key) := by
    refine replaysAll_kept ignores sends updates ?_ front
    · exact ⟨fun username member => finds username ((memberAt_iff steady shown).mpr member),
        fun _ _ => Iff.rfl⟩
  obtain ⟨localUsernames, locals, known, law⟩ :=
    members_law ignores well kept.finds (apply_members sends about applied)
  refine ⟨localUsernames, locals, fun username => ?_⟩
  have last : membersAt final key = membersAt after key := by
    rw [membersAt, ClassSetting.replaysAll_quiet quiet back, membersAt]
  rw [memberAt_iff steady shown', last, law username, memberAt_iff steady shown]
  constructor
  · rintro (here | ⟨there, keeps⟩)
    · exact Or.inl here
    · exact Or.inr ⟨(kept.same username keeps).mp there, keeps⟩
  · rintro (here | ⟨there, keeps⟩)
    · exact Or.inl here
    · exact Or.inr ⟨(kept.same username keeps).mpr there, keeps⟩

end ClassTarget

end PartialGroupSync

/-! ## A class with a teacher and a guest -/

section Examples

attribute [local instance] asciiCaseMapping

def demoMapping : LoweredDict String := .lowerKeys [("DEMOSCHOOL", "Traeger1")]

theorem demoKelvin_steady : demoKelvin.Steady classLdap 1000 demoMapping where
  toServes := demoKelvin_serves
  getUser done := (KelvinPerSAUserDispatcher.exec_raising_ok.mp done).1
  handledSchools := by
    rintro t schools t' ⟨⟩
    decide +kernel

def demoRemoteClass : DemoClass :=
  ⟨["frieda", "extern"], [("name", Json.str "1a"), ("school", Json.str "DEMOSCHOOL")]⟩

def oneClassHandling : ClassHandling (List DemoClass) DemoClass :=
  ⟨⟨[demoRemoteClass], ⟨[], 0⟩, [], []⟩, []⟩

def demoPartial : ClassSetting (List DemoClass) DemoClass :=
  demoKelvin.partialGroupSync classLdap 1000 demoMapping

theorem oneClassHandling_shows : demoPartial.Shows
    (Function.update (fun _ => none) demoRemoteClass.key (some demoRemoteClass.attributes)) []
    oneClassHandling where
  represents := Represents.insert (a := demoRemoteClass) (.empty _ _) rfl
  cache := Or.inl rfl
  log := rfl

theorem classLdap_getUser' :
    LdapAccess.getUser classLdap 1000 none "anna" true = .ok (some (foundUser "anna" "student")) ∧
      LdapAccess.getUser classLdap 1000 none "frieda" true =
        .ok (some (foundUser "frieda" "teacher")) ∧
      LdapAccess.getUser classLdap 1000 none "extern" true = .ok none := by
  decide +kernel

def annaEvent : ListenerGroupAddModifyObject :=
  schoolClass ["uid=anna,cn=users,ou=DEMOSCHOOL,dc=uni,dc=dtr"]

theorem annaEvent_run : demoPartial.Run oneClassHandling [(.addModify annaEvent, .handled)]
    (demoPartial.handle (.addModify annaEvent) oneClassHandling).2 :=
  .event .start _ (by decide +kernel)

theorem annaEvent_wellNamed :
    demoKelvin.WellNamed classLdap 1000 demoRemoteClass.key annaEvent where
  named := by
    have named : schoolAndName annaEvent = .ok ("DEMOSCHOOL", "1a") := by decide +kernel
    intro school name parsed
    cases named.symm.trans parsed
    rfl
  finds := by
    have locals : KelvinPerSASchoolClassDispatcher.handleAttrUsers annaEvent = .ok ["anna"] := by
      decide +kernel
    intro localUsernames computed username member
    cases locals.symm.trans computed
    obtain rfl := List.mem_singleton.mp member
    exact ⟨_, classLdap_getUser'.1, by simp [foundUser]⟩

theorem annaEvent_updates : ∀ event ∈ [(ListenerGroupObject.addModify annaEvent, Fate.handled)],
    demoKelvin.Updates classLdap 1000 demoMapping demoRemoteClass.key event.1 := by
  intro event member _
  obtain rfl := List.mem_singleton.mp member
  exact ⟨annaEvent, rfl, annaEvent_wellNamed⟩

theorem demoRemote_finds : ∀ username,
    demoKelvin.MemberAt demoRemoteClass.key oneClassHandling username →
      Finds classLdap 1000 username := by
  rintro username ⟨schoolClass, present, _, member⟩
  obtain rfl := Multiset.mem_singleton.mp present
  have listed : username ∈ ["frieda", "extern"] := member
  have names : username = "frieda" ∨ username = "extern" := by simpa using listed
  rcases names with rfl | rfl
  · exact ⟨_, classLdap_getUser'.2.1, by simp [foundUser]⟩
  · exact ⟨_, classLdap_getUser'.2.2, by simp⟩

theorem demoPartial_ignores : IgnoresRoles demoKelvin.self ["teacher"] := ⟨_, rfl, rfl⟩

theorem demoPartial_sends : SendsLast demoKelvin.self.attributeMapping "users" "users" :=
  ⟨[_, _, _], _, rfl, by decide⟩

theorem extern_keeps :
    demoKelvin.Keeps classLdap 1000 demoMapping ["teacher"] "extern" := by
  right
  rintro ⟨user, found⟩
  cases classLdap_getUser'.2.2.symm.trans found

/-- The guest is a member before and after. -/
theorem guest_untouched :
    demoKelvin.MemberAt demoRemoteClass.key
        (demoPartial.handle (.addModify annaEvent) oneClassHandling).2 "extern" ↔
      demoKelvin.MemberAt demoRemoteClass.key oneClassHandling "extern" :=
  ClassTarget.kept_members_untouched demoKelvin_steady demoPartial_ignores demoPartial_sends
    oneClassHandling_shows demoRemote_finds annaEvent_run (by decide +kernel) annaEvent_updates
    extern_keeps

/-- The pupil comes from here, the guest stays. -/
theorem class_with_pupil_and_guest :
    ∃ localUsernames,
      KelvinPerSASchoolClassDispatcher.handleAttrUsers annaEvent = .ok localUsernames ∧
      ∀ username, demoKelvin.MemberAt demoRemoteClass.key
          (demoPartial.handle (.addModify annaEvent) oneClassHandling).2 username ↔
        username ∈ localUsernames ∧
          ¬ Ignored classLdap 1000 "Traeger1" demoMapping ["teacher"] username ∨
        demoKelvin.MemberAt demoRemoteClass.key oneClassHandling username ∧
          demoKelvin.Keeps classLdap 1000 demoMapping ["teacher"] username :=
  ClassTarget.members_converge demoKelvin_steady demoPartial_ignores demoPartial_sends
    oneClassHandling_shows demoRemote_finds annaEvent_run (by decide +kernel)
    (show _ = [] ++ _ :: [] from rfl) nofun (by decide +kernel) annaEvent_wellNamed nofun

end Examples

end IdConnector
