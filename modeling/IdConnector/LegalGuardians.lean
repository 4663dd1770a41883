import IdConnector.Reload
import IdConnector.RoleMapping
import Mathlib.Tactic.Tauto

/-! # Legal guardians and legal wards

The validator of a configuration wants the attributes for legal guardians and legal wards to
be configured both or not at all. It only looks at the plugin kelvin, and it takes a mapping
for a role that is there but empty for one that is missing. A dispatcher selects the empty
mapping.
-/

namespace IdConnector

open Library

/-! ## What the validator sees -/

/-- The mapping of a plugin as the validator reads it. -/
def validatedMapping (configs : Dict String JsonObject) (pluginName : String) : Json :=
  (Dict.get ((configs.get pluginName).getD []) "mapping").getD (.dict [])

/-- What the validator computes for an attribute and the mapping of the role that has it. -/
def configuredFor (mapping : Json) (special attr : String) : Except PyError Bool := do
  configured attr (← getMapping mapping "users") (← getMapping mapping special)

/-- The mapping for the role is there but empty, and the general one has the attribute. -/
def Hides (mapping : Json) (special attr : String) : Prop :=
  ∃ entries empty users, mapping = .dict entries ∧ Dict.get entries special = some empty ∧
    Json.truthy empty = false ∧ Dict.get entries "users" = some users ∧
      contains attr users = .ok true

/-- For the plugin kelvin the validator has made sure that both attributes are configured or
    none is. -/
def GuardiansCondition (configs : Dict String JsonObject) (pluginName : String) : Prop :=
  let mapping := validatedMapping configs pluginName
  let guardiansHidden := Hides mapping "users_student" "ucsschoolLegalGuardian"
  let wardsHidden := Hides mapping "users_legal_guardian" "ucsschoolLegalWard"
  if pluginName = kelvin then guardiansHidden ↔ wardsHidden
  else
    (configuredFor mapping "users_student" "ucsschoolLegalGuardian" = .ok true ∧ ¬ guardiansHidden ↔
      configuredFor mapping "users_legal_guardian" "ucsschoolLegalWard" = .ok true ∧ ¬ wardsHidden)

theorem contains_falsy {key : String} (nonempty : key ≠ "") {v : Json} (falsy : Json.truthy v = false) :
    contains key v ≠ .ok true := by
  cases v with
  | null => simp [contains]
  | list items =>
      obtain rfl : items = [] := by simpa [Json.truthy] using falsy
      simp [contains]
  | dict entries =>
      obtain rfl : entries = [] := by simpa [Json.truthy] using falsy
      simp [contains]
  | atom leaf =>
      cases leaf with
      | str s | url s =>
          obtain rfl : s = "" := by simpa [Json.truthy] using falsy
          simpa [contains] using nonempty
      | bool | int | float | secret | date | hashes => simp [contains]

theorem configured_falsy {attr : String} (nonempty : attr ≠ "") {v : Json}
    (falsy : Json.truthy v = false) (users : Json) :
    configured attr users v = .ok true ↔ contains attr users = .ok true := by
  have nothing := contains_falsy nonempty falsy
  unfold configured
  rw [falsy]
  cases asked : contains attr users with
  | error raised => simp [bind, Except.bind]
  | ok here => cases here <;> simp [bind, Except.bind, pure, Except.pure, nothing]

theorem hides_configured {mapping : Json} {special attr : String} (nonempty : attr ≠ "")
    (hidden : Hides mapping special attr) : configuredFor mapping special attr = .ok true := by
  obtain ⟨entries, empty, users, rfl, role, falsy, general, has⟩ := hidden
  simp only [configuredFor, getMapping, role, general, bind, Except.bind, Option.getD_some]
  exact (configured_falsy nonempty falsy users).mpr has

/-- The mapping that is selected has the attribute if the validator counts it and it is not
    hidden. -/
theorem selected_iff {mapping : Json} {special attr : String} (nonempty : attr ≠ "") :
    (∃ entries used, mapping = .dict entries ∧
        Dict.get entries (if (Dict.get entries special).isSome = true then special else "users") =
          some used ∧ contains attr used = .ok true) ↔
      configuredFor mapping special attr = .ok true ∧ ¬ Hides mapping special attr := by
  cases mapping with
  | null | list | atom => simp [configuredFor, getMapping, bind, Except.bind]
  | dict entries =>
      have empty : contains attr (.dict []) = .ok false := rfl
      simp only [configuredFor, getMapping, Hides, bind, Except.bind]
      cases role : Dict.get entries special with
      | none =>
          rw [Option.getD_none, configured_falsy nonempty rfl]
          cases users : Dict.get entries "users" with
          | none => simp [users, role, empty]
          | some v => simp [users, role]
      | some v =>
          cases truth : Json.truthy v with
          | true =>
              have special : configured attr ((Dict.get entries "users").getD (.dict [])) v =
                  contains attr v := by
                unfold configured
                rw [if_pos truth]
              rw [Option.getD_some, special]
              simp [role, truth]
          | false =>
              rw [Option.getD_some, configured_falsy nonempty truth]
              have nothing := contains_falsy nonempty truth
              cases users : Dict.get entries "users" with
              | none => simp [role, users, empty, nothing]
              | some w => simp [role, users, truth, nothing]

theorem hasRequiredAttrCombination_ok {value : Dict String JsonObject}
    (required : hasRequiredAttrCombination value = .ok ()) :
    configuredFor (validatedMapping value kelvin) "users_student" "ucsschoolLegalGuardian" =
      configuredFor (validatedMapping value kelvin) "users_legal_guardian" "ucsschoolLegalWard" := by
  unfold hasRequiredAttrCombination at required
  unfold configuredFor validatedMapping
  simp only [kelvin, bind, Except.bind] at required ⊢
  generalize (Dict.get ((value.get "kelvin").getD []) "mapping").getD (.dict []) = mapping
    at required ⊢
  cases users : getMapping mapping "users" with
  | error raised => simp [users] at required
  | ok users' =>
      cases student : getMapping mapping "users_student" with
      | error raised => simp [users, student] at required
      | ok student' =>
          cases guardian : getMapping mapping "users_legal_guardian" with
          | error raised => simp [users, student, guardian] at required
          | ok guardian' =>
              simp only [users, student, guardian] at required ⊢
              cases first : configured "ucsschoolLegalGuardian" users' student' with
              | error raised => simp [first] at required
              | ok guardians =>
                  cases second : configured "ucsschoolLegalWard" users' guardian' with
                  | error raised => simp [first, second] at required
                  | ok wards =>
                      by_cases same : guardians = wards
                      · rw [same]
                      · simp [first, second, same, throw, throwThe, MonadExceptOf.throw] at required

/-! ## What a dispatcher selects -/

namespace KelvinPerSAUserDispatcher

variable [CaseMapping]

/-- The user has this role in the handled schools, and no other one. -/
def OnlyRole (services : Services (Except HandlerError)) (roles : Json) (role : String) : Prop :=
  ∃ handled texts, services.handledSchools = .ok handled ∧ roles = Json.strs texts ∧
    ∀ r, r ∈ userRoles (handled.map lower) texts ↔ r = role

/-- The mapping that is selected for a user with these roles contains the attribute. -/
def Selects (config : SchoolAuthorityConfiguration) (pluginName : String)
    (services : Services (Except HandlerError)) (roles : Json) (attr : String) : Prop :=
  ∃ mapping used, Dispatcher.attributeMappingOf .user config pluginName = .ok mapping ∧
    getRoleSpecificMapping services roles mapping = .ok used ∧ contains attr used = .ok true

omit [CaseMapping] in
theorem mappingKey_absent {mapping : Json} {userRoles roles : List String}
    (absent : ∀ role ∈ roles, role ∉ userRoles) :
    mappingKey mapping userRoles roles = .ok "users" := by
  induction roles with
  | nil => rfl
  | cons role rest ih =>
      rw [mappingKey_skip (absent role List.mem_cons_self)]
      exact ih fun r member => absent r (List.mem_cons_of_mem role member)

omit [CaseMapping] in
theorem mappingKey_only {mapping : Json} {userRoles roles : List String} {role : String}
    (listed : role ∈ roles) (distinct : roles.Nodup) (only : ∀ r, r ∈ userRoles ↔ r = role) :
    mappingKey mapping userRoles roles =
      (contains s!"users_{role}" mapping).map
        fun here => if here then s!"users_{role}" else "users" := by
  induction roles with
  | nil => exact absurd listed List.not_mem_nil
  | cons first rest ih =>
      rw [List.nodup_cons] at distinct
      by_cases same : first = role
      · subst same
        have others : mappingKey mapping userRoles rest = .ok "users" :=
          mappingKey_absent fun r member has => distinct.1 ((only r).mp has ▸ member)
        rw [mappingKey, if_pos ((only first).mpr rfl), others]
        cases contains s!"users_{first}" mapping with
        | error raised => rfl
        | ok here => cases here <;> rfl
      · have listedRest : role ∈ rest := (List.mem_cons.mp listed).resolve_left (Ne.symm same)
        rw [mappingKey_skip fun has => same ((only first).mp has)]
        exact ih listedRest distinct.2

omit [CaseMapping] in
theorem subscript_eq_ok_iff {mapping used : Json} {key : String} {here : Bool}
    (asked : contains key mapping = .ok here) :
    subscript mapping (if here = true then key else "users") = .ok used ↔
      ∃ entries, mapping = .dict entries ∧
        Dict.get entries (if (Dict.get entries key).isSome = true then key else "users") =
          some used := by
  cases mapping with
  | dict entries =>
      obtain rfl : (Dict.get entries key).isSome = here := Except.ok.inj asked
      simp only [subscript, Document.dict.injEq, exists_eq_left']
      cases Dict.get entries (if (Dict.get entries key).isSome = true then key else "users") with
      | none => simp
      | some v => simp
  | null | list => simp [subscript]
  | atom leaf => cases leaf <;> simp [subscript]

theorem getRoleSpecificMapping_only {services : Services (Except HandlerError)}
    {roles mapping used : Json} {role : String}
    (special : role ∈ specialRoles) (only : OnlyRole services roles role) :
    getRoleSpecificMapping services roles mapping = .ok used ↔
      ∃ entries, mapping = .dict entries ∧
        Dict.get entries (if (Dict.get entries s!"users_{role}").isSome then s!"users_{role}"
          else "users") = some used := by
  obtain ⟨handled, texts, schools, rfl, only⟩ := only
  rw [getRoleSpecificMapping_strs schools, mappingKey_only special (by decide) only]
  cases asked : contains s!"users_{role}" mapping with
  | error raised =>
      simp only [Except.map, Except.bind, raising, throw, throwThe, MonadExceptOf.throw,
        reduceCtorEq, false_iff, not_exists, not_and]
      rintro entries rfl
      cases asked
  | ok here =>
      simp only [Except.map, Except.bind]
      rw [← subscript_eq_ok_iff asked]
      cases subscript mapping (if here = true then s!"users_{role}" else "users") with
      | ok v => simp [raising, pure, Except.pure]
      | error raised => simp [raising, throw, throwThe, MonadExceptOf.throw]

/-- A dispatcher selects a mapping with the attribute exactly if the validator counts it, in
    this plugin, and it is not hidden. -/
theorem selects_iff {config : SchoolAuthorityConfiguration} {pluginName : String}
    {services : Services (Except HandlerError)} {roles : Json} {role attr : String}
    (special : role ∈ specialRoles) (only : OnlyRole services roles role)
    (nonempty : attr ≠ "") :
    Selects config pluginName services roles attr ↔
      configuredFor (validatedMapping config.pluginConfigs pluginName) s!"users_{role}" attr =
          .ok true ∧
        ¬ Hides (validatedMapping config.pluginConfigs pluginName) s!"users_{role}" attr := by
  rw [← selected_iff nonempty]
  unfold Selects Dispatcher.attributeMappingOf pluginSetting validatedMapping
  cases settings : config.pluginConfigs.get pluginName with
  | none => simp [bind, Except.bind]
  | some values =>
      cases mapping : Dict.get values "mapping" with
      | none => simp [subscript, mapping, bind, Except.bind]
      | some v =>
          simp only [subscript, mapping, bind, Except.bind, pure, Except.pure, Except.ok.injEq,
            Option.getD_some]
          constructor
          · rintro ⟨_, used, rfl, selected, has⟩
            obtain ⟨entries, same, found⟩ := (getRoleSpecificMapping_only special only).mp selected
            exact ⟨entries, used, same, found, has⟩
          · rintro ⟨entries, used, same, found, has⟩
            exact ⟨_, used, rfl,
              (getRoleSpecificMapping_only special only).mpr ⟨entries, same, found⟩, has⟩

omit [CaseMapping] in
theorem validatedMapping_accepted {value : Dict String JsonObject} {pluginName : String} :
    validatedMapping (pluginConfigsPlainToSecret value) pluginName =
      validatedMapping value pluginName := by
  unfold validatedMapping pluginConfigsPlainToSecret
  rw [get_mapPluginConfigs]
  cases value.get pluginName with
  | none => rfl
  | some settings =>
      have plain : "mapping" ∉ secretKeys := by decide
      simp only [Option.map_some, Option.getD_some, get_mapEntries]
      cases Dict.get settings "mapping" with
      | none => rfl
      | some mapping => exact plainToSecret_other plain mapping

/-- In an accepted configuration the attributes for legal guardians and legal wards are selected
    both or not at all exactly under the condition. -/
theorem guardians_match_iff [Pydantic] {data : JsonObject} {config : SchoolAuthorityConfiguration}
    (accepted : SchoolAuthorityConfiguration.init data = .ok config) {pluginName : String}
    {services : Services (Except HandlerError)} {studentRoles guardianRoles : Json}
    (student : OnlyRole services studentRoles "student")
    (guardian : OnlyRole services guardianRoles "legal_guardian") :
    (Selects config pluginName services studentRoles "ucsschoolLegalGuardian" ↔
        Selects config pluginName services guardianRoles "ucsschoolLegalWard") ↔
      GuardiansCondition config.pluginConfigs pluginName := by
  rw [selects_iff (by decide) student (by decide), selects_iff (by decide) guardian (by decide)]
  unfold GuardiansCondition
  dsimp only
  split
  next isKelvin =>
    subst isKelvin
    obtain ⟨-, -, -, -, value, -, required, configs⟩ := init_ok_iff.mp accepted
    have same := hasRequiredAttrCombination_ok required
    rw [← validatedMapping_accepted, ← configs] at same
    have guardians (hidden : Hides (validatedMapping config.pluginConfigs kelvin) "users_student"
        "ucsschoolLegalGuardian") := hides_configured (by decide) hidden
    have wards (hidden : Hides (validatedMapping config.pluginConfigs kelvin)
        "users_legal_guardian" "ucsschoolLegalWard") := hides_configured (by decide) hidden
    rw [same] at guardians
    have student_key {role : String} (same : role = "student") :
        s!"users_{role}" = "users_student" := by rw [same]; rfl
    have guardian_key {role : String} (same : role = "legal_guardian") :
        s!"users_{role}" = "users_legal_guardian" := by rw [same]; rfl
    rw [student_key rfl, guardian_key rfl, same]
    tauto
  next => rfl

end KelvinPerSAUserDispatcher

section Examples

open KelvinPerSAUserDispatcher

attribute [local instance] asciiCaseMapping typedPydantic

/-- A school authority with these mappings of its two plugins. -/
def guardianAuthority (kelvinMapping partialMapping : JsonObject) : JsonObject :=
  [("name", Json.str "Traeger1"), ("url", Json.str "https://traeger1/ucsschool/kelvin/v1/"),
    ("plugin_configs", .dict [(kelvin, .dict [("mapping", .dict kelvinMapping)]),
      (kelvinPartialGroupSync, .dict [("mapping", .dict partialMapping)])])]

def guardianConfig (kelvinMapping partialMapping : JsonObject) : SchoolAuthorityConfiguration :=
  ⟨"Traeger1", false, "https://traeger1/ucsschool/kelvin/v1/", [],
    [(kelvin, [("mapping", .dict kelvinMapping)]),
      (kelvinPartialGroupSync, [("mapping", .dict partialMapping)])], rfl⟩

/-- Both attributes in the mapping for all users. -/
def bothConfigured : String × Json :=
  ("users", .dict [("ucsschoolLegalGuardian", Json.str "legal_guardians"),
    ("ucsschoolLegalWard", Json.str "legal_wards")])

/-- The services of a dispatcher that handles one school. -/
def oneSchoolServices : Services (Except HandlerError) where
  schoolsIdsOnTarget := .ok []
  rolesOnTarget := .ok []
  handledSchools := .ok ["demoschool"]
  getSourceUid := .ok "TESTID"
  randomPassword := .ok "abc.def-ghi_jkl"

def rolesAtSchool (role : String) : Json := Json.strs [s!"{role}:school:DEMOSCHOOL"]

private theorem onlyRole_atSchool {role : String}
    (single : userRoles (["demoschool"].map lower) [s!"{role}:school:DEMOSCHOOL"] = [role]) :
    OnlyRole oneSchoolServices (rolesAtSchool role) role :=
  ⟨_, _, rfl, rfl, fun r => by rw [single, List.mem_singleton]⟩

private theorem selects_mapping {config : SchoolAuthorityConfiguration} {pluginName attr : String}
    {roles mapping used : Json}
    (configured : Dispatcher.attributeMappingOf .user config pluginName = .ok mapping)
    (selected : getRoleSpecificMapping oneSchoolServices roles mapping = .ok used) :
    Selects config pluginName oneSchoolServices roles attr ↔ contains attr used = .ok true := by
  simp [Selects, configured, selected]

theorem general_mapping_matches :
    let config := guardianConfig [bothConfigured] []
    Selects config kelvin oneSchoolServices (rolesAtSchool "student") "ucsschoolLegalGuardian" ↔
      Selects config kelvin oneSchoolServices (rolesAtSchool "legal_guardian")
        "ucsschoolLegalWard" := by
  have accepted : SchoolAuthorityConfiguration.init (guardianAuthority [bothConfigured] []) =
      .ok (guardianConfig [bothConfigured] []) := rfl
  refine (guardians_match_iff accepted (onlyRole_atSchool (by decide +kernel))
    (onlyRole_atSchool (by decide +kernel))).mpr ?_
  have nothing (special attr : String) (other : special ≠ "users") :
      ¬ Hides (.dict [bothConfigured]) special attr := by
    rintro ⟨entries, empty, users, same, role, -⟩
    obtain rfl := Document.dict.inj same
    simp [bothConfigured, Dict.get_cons, Ne.symm other] at role
  exact iff_of_false (nothing "users_student" _ (by decide))
    (nothing "users_legal_guardian" _ (by decide))

theorem guardians_without_wards :
    let mappings : JsonObject × JsonObject :=
      ([bothConfigured, ("users_student", .dict [])],
        [("users", .dict [("ucsschoolLegalGuardian", Json.str "legal_guardians")])])
    let config := guardianConfig mappings.1 mappings.2
    SchoolAuthorityConfiguration.init (guardianAuthority mappings.1 mappings.2) = .ok config ∧
      OnlyRole oneSchoolServices (rolesAtSchool "student") "student" ∧
      OnlyRole oneSchoolServices (rolesAtSchool "legal_guardian") "legal_guardian" ∧
      ∀ pluginName ∈ [kelvin, kelvinPartialGroupSync],
        ¬ (Selects config pluginName oneSchoolServices (rolesAtSchool "student")
            "ucsschoolLegalGuardian" ↔
          Selects config pluginName oneSchoolServices (rolesAtSchool "legal_guardian")
            "ucsschoolLegalWard") := by
  refine ⟨rfl, onlyRole_atSchool (by decide +kernel), onlyRole_atSchool (by decide +kernel), ?_⟩
  simp only [List.forall_mem_cons, List.not_mem_nil, false_implies, implies_true, and_true]
  constructor
  · rw [selects_mapping rfl rfl, selects_mapping rfl rfl]
    decide +kernel
  · rw [selects_mapping rfl rfl, selects_mapping rfl rfl]
    decide +kernel

end Examples

end IdConnector
