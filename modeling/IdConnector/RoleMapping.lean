import IdConnector.Mapping
import IdConnector.UserAttributes
import IdConnector.Library.Attempts

/-! # The mapping for the roles of a user

A role string names a role and the school it is held in. Of the mappings for roles the first
one is used whose role the user has in a school of the authority.
-/

namespace IdConnector

open Library

namespace KelvinPerSAUserDispatcher

/-- The result is the mapping of the first role that the user has and that has a mapping, or
    the general mapping. -/
structure PicksFirst (mapping : JsonObject) (has : String → Prop)
    (result : Except HandlerError Json) : Prop where
  special : ∀ {front role back used}, specialRoles = front ++ role :: back → has role →
    mapping.get s!"users_{role}" = some used →
    (∀ r ∈ front, has r → mapping.get s!"users_{r}" = none) → result = .ok used
  general : (∀ role ∈ specialRoles, has role → mapping.get s!"users_{role}" = none) →
    result = match mapping.get "users" with
      | some used => .ok used
      | none => .error (.python (.keyError "users"))

/-- Some role string is for this role in one of the schools. -/
def HasRoleIn (school : String → Prop) (roles : List String) (role : String) : Prop :=
  ∃ s, s!"{role}:school:{s}" ∈ roles ∧ school s

/-- The same roles in these schools, whatever the role strings say about other ones. -/
def SameRolesIn (school : String → Prop) (roles roles' : List String) : Prop :=
  ∀ role s : String, school s → (s!"{role}:school:{s}" ∈ roles ↔ s!"{role}:school:{s}" ∈ roles')

theorem mappingKey_skip {mapping : Json} {userRoles rest : List String} {role : String}
    (absent : role ∉ userRoles) :
    mappingKey mapping userRoles (role :: rest) = mappingKey mapping userRoles rest := by
  rw [mappingKey, if_neg absent]

theorem mappingKey_dict (mapping : JsonObject) (userRoles roles : List String) :
    mappingKey (.dict mapping) userRoles roles =
      .ok (((roles.find? fun role =>
        role ∈ userRoles ∧ (mapping.get s!"users_{role}").isSome).map
          fun role => s!"users_{role}").getD "users") := by
  induction roles with
  | nil => rfl
  | cons role rest ih =>
      by_cases member : role ∈ userRoles
      · rw [mappingKey, if_pos member, ih]
        cases configured : mapping.get s!"users_{role}" with
        | none =>
            have absent : contains s!"users_{role}" (.dict mapping) = .ok false := by
              rw [contains, configured]
              rfl
            rw [absent, List.find?_cons_of_neg (by simp [configured])]
            rfl
        | some used =>
            have present : contains s!"users_{role}" (.dict mapping) = .ok true := by
              rw [contains, configured]
              rfl
            rw [present, List.find?_cons_of_pos (by simp [member, configured])]
            rfl
      · rw [mappingKey_skip member, ih, List.find?_cons_of_neg (by simp [member])]

section Roles

variable [CaseMapping]

/-- Of the entries whose school is this one up to case the last one is for the authority. -/
def MappedTo (schools : Dict String String) (authority school : String) : Prop :=
  ∃ k, Dict.LastUnder lower schools k authority ∧ lower k = lower school

/-- A role string can have a role in the school, and the school is mapped to the authority. -/
structure CountsFor (schools : Dict String String) (authority school : String) : Prop where
  filled : school ≠ ""
  clean : ':' ∉ school.toList
  mapped : MappedTo schools authority school

/-- The services of a dispatcher for the authority, with this mapping of the schools. -/
def withSchools (services : Services (Except HandlerError)) (schools : Dict String String)
    (authority : String) : Services (Except HandlerError) :=
  { services with handledSchools := .ok (handledSchools authority (.lowerKeys schools)) }

omit [CaseMapping] in
/-- The only way to split a role string for a school. -/
theorem isRoleString_school_iff {text role school : String} (named : role ≠ "" ∧ ':' ∉ role.toList) :
    IsRoleString text role "school" school ↔
      text = s!"{role}:school:{school}" ∧ school ≠ "" ∧ ':' ∉ school.toList := by
  have joined : role ++ ":" ++ "school" ++ ":" ++ school = s!"{role}:school:{school}" := by
    apply String.toList_inj.mp
    simp [toString]
  constructor
  · intro parts
    exact ⟨parts.joined.trans joined, parts.filled.2.2, parts.clean.2.2⟩
  · rintro ⟨same, filled, clean⟩
    exact ⟨same.trans joined.symm, ⟨named.1, by decide, filled⟩, named.2, by decide, clean⟩

theorem mem_userRoles {schools : Dict String String} {authority role : String}
    {texts : List String} (named : role ≠ "" ∧ ':' ∉ role.toList) :
    role ∈ userRoles ((handledSchools authority (.lowerKeys schools)).map lower) texts ↔
      HasRoleIn (CountsFor schools authority) texts role := by
  have handled (school : String) :
      lower school ∈ (handledSchools authority (.lowerKeys schools)).map lower ↔
        MappedTo schools authority school := by
    have lowered : (handledSchools authority (.lowerKeys schools)).map lower =
        handledSchools authority (.lowerKeys schools) := by
      simp [handledSchools]
    rw [lowered, MappedService.mem_handledSchools]
    exact Dict.get_ofPairs_map lower schools (lower school) authority
  simp only [userRoles, List.mem_filterMap, Option.ite_none_right_eq_some, Option.some.injEq,
    handled]
  constructor
  · rintro ⟨m, ⟨text, member, matched⟩, ⟨context, mapped⟩, rfl⟩
    have parts := ucsschoolRoleRegex_eq_some.mp matched
    rw [context] at parts
    obtain ⟨rfl, filled, clean⟩ := (isRoleString_school_iff named).mp parts
    exact ⟨m.context, member, filled, clean, mapped⟩
  · rintro ⟨school, member, filled, clean, mapped⟩
    have parts := (isRoleString_school_iff named).mpr ⟨rfl, filled, clean⟩
    have matched : ucsschoolRoleRegex s!"{role}:school:{school}" = some ⟨role, "school", school⟩ :=
      ucsschoolRoleRegex_eq_some.mpr parts
    exact ⟨_, ⟨_, member, matched⟩, ⟨rfl, mapped⟩, rfl⟩

theorem getRoleSpecificMapping_strs {services : Services (Except HandlerError)}
    {handled : List String} (schools : services.handledSchools = .ok handled)
    (texts : List String) (mapping : Json) :
    getRoleSpecificMapping services (Json.strs texts) mapping =
      raising ((mappingKey mapping (userRoles (handled.map lower) texts) specialRoles).bind
        (subscript mapping)) := by
  have matched : (texts.map Json.str).mapM Json.matchable = .ok texts := by
    rw [Attempts.mapM_ok_iff, List.map_map]
    rfl
  unfold getRoleSpecificMapping
  simp only [schools, Json.strs, Json.iter, Except.bind, matched, raising, bind, pure, Except.pure]
  cases mappingKey mapping (userRoles (handled.map lower) texts) specialRoles with
  | error raised => rfl
  | ok key => rfl

omit [CaseMapping] in
theorem specialRoles_named {role : String} (listed : role ∈ specialRoles) :
    role ≠ "" ∧ ':' ∉ role.toList := by
  revert role
  decide

theorem getRoleSpecificMapping_picks (services : Services (Except HandlerError))
    (mapping : JsonObject) (schools : Dict String String) (authority : String)
    (roles : List String) :
    PicksFirst mapping (HasRoleIn (CountsFor schools authority) roles)
      (getRoleSpecificMapping (withSchools services schools authority) (Json.strs roles)
        (.dict mapping)) := by
  let own := withSchools services schools authority
  have known : own.handledSchools = .ok (handledSchools authority (.lowerKeys schools)) := rfl
  have run := getRoleSpecificMapping_strs known roles (.dict mapping)
  have has (role : String) (listed : role ∈ specialRoles) :
      role ∈ userRoles ((handledSchools authority (.lowerKeys schools)).map lower) roles ↔
        HasRoleIn (CountsFor schools authority) roles role :=
    mem_userRoles (specialRoles_named listed)
  rw [mappingKey_dict, Except.bind] at run
  rw [run]
  constructor
  · intro front role back used parts has_role found earlier
    have listed (r : String) (member : r ∈ front ++ [role]) : r ∈ specialRoles := by
      rw [parts, List.append_cons]
      exact List.mem_append_left back member
    have first : specialRoles.find? (fun role =>
        role ∈ userRoles ((handledSchools authority (.lowerKeys schools)).map lower) roles ∧
          (mapping.get s!"users_{role}").isSome) = some role := by
      refine List.find?_eq_some_iff_append.mpr ⟨?_, front, back, parts, fun r member => ?_⟩
      · simp [has role (listed role (by simp)), has_role, found]
      · have missing := earlier r member
        simpa [has r (listed r (by simp [member])), imp_iff_not_or] using missing
    rw [first, Option.map_some, Option.getD_some, subscript, found]
    rfl
  · intro absent
    have none : specialRoles.find? (fun role =>
        role ∈ userRoles ((handledSchools authority (.lowerKeys schools)).map lower) roles ∧
          (mapping.get s!"users_{role}").isSome) = none := by
      refine List.find?_eq_none.mpr fun role listed => ?_
      simpa [has role listed] using absent role listed
    rw [none, Option.map_none, Option.getD_none, subscript]
    cases mapping.get "users" <;> rfl

omit [CaseMapping] in
theorem PicksFirst.unique {mapping : JsonObject} {has has' : String → Prop}
    {result result' : Except HandlerError Json} (picks : PicksFirst mapping has result)
    (picks' : PicksFirst mapping has' result')
    (same : ∀ role ∈ specialRoles, has role ↔ has' role) : result = result' := by
  classical
  let applies (role : String) : Bool := has role ∧ mapping.get s!"users_{role}" ≠ none
  cases first : specialRoles.find? applies with
  | none =>
      have absent : ∀ role ∈ specialRoles, has role → mapping.get s!"users_{role}" = none := by
        intro role listed has_role
        simpa [applies, has_role] using List.find?_eq_none.mp first role listed
      rw [picks.general absent, picks'.general]
      intro role listed has_role
      exact absent role listed ((same role listed).mpr has_role)
  | some role =>
      obtain ⟨chosen, front, back, parts, earlier⟩ := List.find?_eq_some_iff_append.mp first
      obtain ⟨has_role, configured⟩ := of_decide_eq_true chosen
      obtain ⟨used, found⟩ := Option.ne_none_iff_exists'.mp configured
      have passed : ∀ r ∈ front, has r → mapping.get s!"users_{r}" = none := by
        intro r member has_r
        simpa [applies, has_r] using earlier r member
      have listed (r : String) (member : r ∈ front ++ [role]) : r ∈ specialRoles := by
        rw [parts, List.append_cons]
        exact List.mem_append_left back member
      rw [picks.special parts has_role found passed]
      refine (picks'.special parts ((same role ?_).mp has_role) found fun r member has_r => ?_).symm
      · exact listed role (by simp)
      · exact passed r member ((same r (listed r (by simp [member]))).mpr has_r)

/-- The first mapping for a role is picked, whatever else the role strings and the mapping of
    the schools say. -/
theorem role_mapping_selected (services : Services (Except HandlerError)) (mapping : JsonObject)
    (schools : Dict String String) (authority : String) (roles : List String) :
    PicksFirst mapping (HasRoleIn (CountsFor schools authority) roles)
        (getRoleSpecificMapping (withSchools services schools authority) (Json.strs roles)
          (.dict mapping)) ∧
      ∀ roles', SameRolesIn (CountsFor schools authority) roles roles' →
        getRoleSpecificMapping (withSchools services schools authority) (Json.strs roles')
            (.dict mapping) =
          getRoleSpecificMapping (withSchools services schools authority) (Json.strs roles)
            (.dict mapping) := by
  have picks := getRoleSpecificMapping_picks services mapping schools authority
  refine ⟨picks roles, fun roles' same => ?_⟩
  refine (picks roles').unique (picks roles) fun role _ => ?_
  constructor
  · rintro ⟨s, member, counts⟩
    exact ⟨s, (same role s counts).mpr member, counts⟩
  · rintro ⟨s, member, counts⟩
    exact ⟨s, (same role s counts).mp member, counts⟩

end Roles

section Examples

attribute [local instance] asciiCaseMapping

/-- Some entry for the authority has this school up to case. -/
def SomeKeyFor (schools : Dict String String) (authority school : String) : Prop :=
  ∃ k, (k, authority) ∈ schools ∧ lower k = lower school

def studentMapping : JsonObject :=
  [("users", .dict []), ("users_student", .dict [("username", Json.str "name")])]

/-- Nothing but the mapping of the schools and the role strings matters here. -/
def noServices : Services (Except HandlerError) where
  schoolsIdsOnTarget := .ok []
  rolesOnTarget := .ok []
  handledSchools := .ok []
  getSourceUid := .ok ""
  randomPassword := .ok ""

private theorem student_passed_over {schools : Dict String String} {role : String}
    (student : HasRoleIn (SomeKeyFor schools "Traeger1") [role] "student")
    (run : getRoleSpecificMapping (withSchools noServices schools "Traeger1") (Json.strs [role])
      (.dict studentMapping) = .ok (.dict [])) :
    ¬ PicksFirst studentMapping (HasRoleIn (SomeKeyFor schools "Traeger1") [role])
      (getRoleSpecificMapping (withSchools noServices schools "Traeger1") (Json.strs [role])
        (.dict studentMapping)) := by
  intro picks
  have unmapped : ∀ r ∈ ["school_admin", "staff", "teacher", "legal_guardian"],
      studentMapping.get s!"users_{r}" = none := by
    simp only [List.forall_mem_cons]
    exact ⟨rfl, rfl, rfl, rfl, nofun⟩
  have last : specialRoles =
      ["school_admin", "staff", "teacher", "legal_guardian"] ++ "student" :: [] := rfl
  have chosen := picks.special last student rfl fun r member _ => unmapped r member
  rw [run] at chosen
  cases chosen

theorem entry_without_effect :
    ¬ PicksFirst studentMapping
        (HasRoleIn (SomeKeyFor [("a:b", "Traeger1")] "Traeger1") ["student:school:a:b"])
        (getRoleSpecificMapping (withSchools noServices [("a:b", "Traeger1")] "Traeger1")
          (Json.strs ["student:school:a:b"]) (.dict studentMapping)) ∧
      ¬ PicksFirst studentMapping
        (HasRoleIn (SomeKeyFor [("DEMO", "Traeger1"), ("demo", "Traeger2")] "Traeger1")
          ["student:school:DEMO"])
        (getRoleSpecificMapping
          (withSchools noServices [("DEMO", "Traeger1"), ("demo", "Traeger2")] "Traeger1")
          (Json.strs ["student:school:DEMO"]) (.dict studentMapping)) := by
  constructor
  · exact student_passed_over ⟨"a:b", by decide, "a:b", by decide, rfl⟩ rfl
  · exact student_passed_over ⟨"DEMO", by decide, "DEMO", by decide, rfl⟩ rfl

end Examples

end KelvinPerSAUserDispatcher

end IdConnector
