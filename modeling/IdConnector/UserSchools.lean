import IdConnector.Deletion
import IdConnector.Library.First
import Mathlib.Data.List.Dedup

/-! # The schools of a user at the target

Four methods of the user dispatcher match the schools of a user against those of the target up
to case. Three of them go by what the target calls a school, `_handle_attr_school_classes` by what
the DN of a class does. The primary school of a user is only found in the DN if it is spelled there
as in the list of schools.
-/

namespace IdConnector

open Library

namespace KelvinPerSAUserDispatcher

open Action

variable {T User : Type} [CaseMapping] {outside : Outside T User} {s s' : Handling T User}
  {obj : ListenerUserAddModifyObject} {onTarget : Dict String String}

/-- The dispatcher takes these for the schools of the target. -/
def Knows (outside : Outside T User) (onTarget : Dict String String) (s : Handling T User) : Prop :=
  ∃ s', exec (schoolsIdsOnTarget outside) s = (.ok onTarget, s')

omit [CaseMapping] in
theorem knows_cached (known : s.schools.names ≠ [])
    (fresh : (outside.now s.target).1 ≤ s.schools.creation + apiSchoolCacheTtl) :
    Knows outside s.schools.names s := by
  have list : GoesBy outside s s.schools.names (outside.now s.target).2 := .cached known fresh
  obtain ⟨t, read, -⟩ := goesBy_iff.mp list
  exact ⟨t, read⟩

/-- What the target calls a school. -/
def idOnTarget (onTarget : Dict String String) (school : String) : Option String :=
  (targetSchools onTarget).get (lower school)

/-- The target calls a school of the user so. -/
def IdOfUser (onTarget : Dict String String) (obj : ListenerUserAddModifyObject) (id : String) :
    Prop :=
  ∃ school ∈ obj.schools, idOnTarget onTarget school = some id

omit [CaseMapping] in
theorem school_mem {school : String} (primary : obj.school = some school) :
    school ∈ obj.schools := by
  have first (found : (obj.schools.insertionSort (· ≤ ·)).head? = some school) :
      school ∈ obj.schools :=
    (List.mem_insertionSort _).mp (List.mem_of_mem_head? found)
  unfold ListenerUserAddModifyObject.school at primary
  split at primary
  next =>
    split at primary
    next member =>
      cases primary
      exact member
    next => exact first primary
  next => exact first primary

omit [CaseMapping] in
theorem school_eq_none_iff : obj.school = none ↔ obj.schools = [] := by
  have first : (obj.schools.insertionSort (· ≤ ·)).head? = none ↔ obj.schools = [] := by
    rw [List.head?_eq_none_iff, ← List.length_eq_zero_iff, List.length_insertionSort,
      List.length_eq_zero_iff]
  unfold ListenerUserAddModifyObject.school
  split
  next =>
    split
    next member => simpa using List.ne_nil_of_mem member
    next => exact first
  next => exact first

omit [CaseMapping] in
theorem mem_sortedSchools {primary school : String} (known : obj.school = some primary) :
    school ∈ obj.sortedSchools primary ↔ school ∈ obj.schools := by
  unfold ListenerUserAddModifyObject.sortedSchools
  rw [List.mem_insertionSort, List.mem_dedup, List.mem_cons]
  constructor
  · rintro (rfl | member)
    · exact school_mem known
    · exact member
  · exact Or.inr

theorem idOnTarget_eq_none_iff {school : String} :
    idOnTarget onTarget school = none ↔ lower school ∉ onTarget.keys.map lower := by
  rw [idOnTarget, targetSchools, Dict.get_ofPairs_map_none]
  simp

theorem hasSchoolAmong_iff_idOfUser :
    hasSchoolAmong obj onTarget.keys = true ↔ ∃ id, IdOfUser onTarget obj id := by
  have known (school : String) :
      lower school ∈ onTarget.keys.map lower ↔ ∃ id, idOnTarget onTarget school = some id := by
    rw [← not_iff_not, ← idOnTarget_eq_none_iff, Option.eq_none_iff_forall_ne_some, not_exists]
  simp only [hasSchoolAmong, List.any_eq_true, decide_eq_true_eq, known, IdOfUser]
  constructor
  · rintro ⟨school, member, id, found⟩
    exact ⟨id, school, member, found⟩
  · rintro ⟨id, school, member, found⟩
    exact ⟨school, member, id, found⟩

/-! ## What the methods return -/

theorem userHasSchools_iff (knows : Knows outside onTarget s) :
    (exec (userHasSchools outside obj) s).1 = .ok true ↔ ∃ id, IdOfUser onTarget obj id := by
  obtain ⟨s', known⟩ := knows
  rw [← hasSchoolAmong_iff_idOfUser, userHasSchools, exec_bind_ok _ known]
  cases hasSchoolAmong obj onTarget.keys with
  | true => simp
  | false =>
      simp only [Bool.false_eq_true, if_false, iff_false]
      rw [exec_bind]
      cases exec (handleHasNoSchools outside obj) s' with
      | mk result after => cases result <;> simp

theorem idOnTarget_eq :
    (fun school => (targetSchools onTarget).get (lower school)) = idOnTarget onTarget := rfl

theorem handleAttrSchools_returns (knows : Knows outside onTarget s) :
    ∃ ids : List String, (∀ id, id ∈ ids ↔ IdOfUser onTarget obj id) ∧ ∀ v,
      (exec (handleAttrSchools (services outside) obj) s).1 = .ok v ↔ ids ≠ [] ∧ v = Json.strs ids := by
  obtain ⟨s', known⟩ := knows
  have read : exec (services outside).schoolsIdsOnTarget s = (.ok onTarget, s') := known
  rw [handleAttrSchools, exec_bind_ok _ read]
  cases primary : obj.school with
  | none =>
      refine ⟨[], fun id => ?_, fun v => by simp⟩
      simp [IdOfUser, school_eq_none_iff.mp primary]
  | some school =>
      refine ⟨(obj.sortedSchools school).filterMap (idOnTarget onTarget), fun id => ?_, fun v => ?_⟩
      · simp only [List.mem_filterMap, mem_sortedSchools primary, IdOfUser]
      · dsimp only
        rw [idOnTarget_eq]
        cases (obj.sortedSchools school).filterMap (idOnTarget onTarget) with
        | nil => simp
        | cons id rest => simp [eq_comm]

/-- The primary school is tried first, then the others in code-point order. -/
theorem handleAttrSchool_returns (knows : Knows outside onTarget s) (v : Json) :
    (exec (handleAttrSchool (services outside) obj) s).1 = .ok v ↔
      ∃ school id, obj.school = some school ∧ v = Json.str id ∧
        (school :: (obj.sortedSchools school).erase school).findSome? (idOnTarget onTarget) =
          some id := by
  obtain ⟨s', known⟩ := knows
  have read : exec (services outside).schoolsIdsOnTarget s = (.ok onTarget, s') := known
  rw [handleAttrSchool, exec_bind_ok _ read]
  cases primary : obj.school with
  | none => simp
  | some school =>
      dsimp only
      rw [idOnTarget_eq]
      cases found : (school :: (obj.sortedSchools school).erase school).findSome?
        (idOnTarget onTarget) with
      | none =>
          refine iff_of_false (by simp) ?_
          rintro ⟨_, _, ⟨⟩, -, other⟩
          cases found.symm.trans other
      | some id =>
          constructor
          · intro returned
            exact ⟨school, id, rfl, (Except.ok.inj returned).symm, found⟩
          · rintro ⟨_, _, ⟨⟩, rfl, other⟩
            cases found.symm.trans other
            rfl

omit [CaseMapping] in
theorem mem_tried {primary school : String} (known : obj.school = some primary) :
    school ∈ primary :: (obj.sortedSchools primary).erase primary ↔ school ∈ obj.schools := by
  have listed : primary ∈ obj.sortedSchools primary :=
    (mem_sortedSchools known).mpr (school_mem known)
  rw [← (List.perm_cons_erase listed).mem_iff, mem_sortedSchools known]

theorem handleAttrSchool_idOfUser (knows : Knows outside onTarget s) {id : String}
    (returned : (exec (handleAttrSchool (services outside) obj) s).1 = .ok (Json.str id)) :
    IdOfUser onTarget obj id := by
  obtain ⟨primary, id', known, same, found⟩ := (handleAttrSchool_returns knows _).mp returned
  obtain rfl : id = id' := by simpa [Json.str] using same
  obtain ⟨school, tried, hit⟩ := List.exists_of_findSome?_eq_some found
  exact ⟨school, (mem_tried known).mp tried, hit⟩

theorem handleAttrSchool_returns_iff (knows : Knows outside onTarget s) :
    (∃ id, (exec (handleAttrSchool (services outside) obj) s).1 = .ok (Json.str id)) ↔
      ∃ id, IdOfUser onTarget obj id := by
  constructor
  · rintro ⟨id, returned⟩
    exact ⟨id, handleAttrSchool_idOfUser knows returned⟩
  · rintro ⟨id, school, member, hit⟩
    cases known : obj.school with
    | none =>
        rw [school_eq_none_iff.mp known] at member
        cases member
    | some primary =>
        cases found : (primary :: (obj.sortedSchools primary).erase primary).findSome?
          (idOnTarget onTarget) with
        | none =>
            have missed := List.findSome?_eq_none_iff.mp found school ((mem_tried known).mpr member)
            cases missed.symm.trans hit
        | some first => exact ⟨first, (handleAttrSchool_returns knows _).mpr ⟨_, _, known, rfl, found⟩⟩

/-- The DNs of the groups of the user, if they are texts. -/
def groupDns (obj : ListenerUserAddModifyObject) : Except PyError (List String) :=
  ((obj.object.get "groups").getD (.list [])).iter.bind (List.mapM Json.matchable)

/-- Some of the DNs is that of a class of this OU, and the target knows the OU. -/
def ClassOu (env : LdapEnvironment) (onTarget : Dict String String) (dns : List String)
    (ou : String) : Prop :=
  ∃ dn ∈ dns, ∃ group, schoolClassDnRegex env dn = some group ∧ group.ou = ou ∧
    lower ou ∈ onTarget.keys.map lower

/-- Add a class under its OU. -/
def addClass (env : LdapEnvironment) (known : List String) (res : Dict String (List String))
    (dn : String) : Dict String (List String) :=
  match schoolClassDnRegex env dn with
  | some group =>
      if lower group.ou ∈ known then
        res.set group.ou ((res.get group.ou).getD [] ++ [group.name])
      else res
  | none => res

theorem addSchoolClass_eq (env : LdapEnvironment) (known : List String)
    (res : Dict String (List String)) (groupDn : Json) :
    addSchoolClass env known res groupDn = groupDn.matchable.map (addClass env known res) := by
  unfold addSchoolClass addClass
  cases groupDn.matchable with
  | error raised => rfl
  | ok dn =>
      simp only [bind, Except.bind, Except.map]
      cases schoolClassDnRegex env dn with
      | none => rfl
      | some group =>
          dsimp only
          split <;> rfl

theorem foldlM_addSchoolClass (env : LdapEnvironment) (known : List String) (items : List Json)
    (res : Dict String (List String)) :
    items.foldlM (addSchoolClass env known) res =
      (items.mapM Json.matchable).map fun dns => dns.foldl (addClass env known) res := by
  induction items generalizing res with
  | nil => rfl
  | cons item rest ih =>
      rw [List.foldlM_cons, List.mapM_cons, addSchoolClass_eq]
      cases item.matchable with
      | error raised => rfl
      | ok dn =>
          change rest.foldlM (addSchoolClass env known) (addClass env known res dn) = _
          rw [ih]
          cases rest.mapM Json.matchable <;> rfl

theorem mem_keys_foldl_addClass (env : LdapEnvironment) (onTarget : Dict String String)
    (dns : List String) (res : Dict String (List String)) (ou : String) :
    ou ∈ (dns.foldl (addClass env (onTarget.keys.map lower)) res).keys ↔
      ou ∈ res.keys ∨ ClassOu env onTarget dns ou := by
  induction dns generalizing res with
  | nil => simp [ClassOu]
  | cons dn rest ih =>
      rw [List.foldl_cons, ih]
      simp only [ClassOu, List.exists_mem_cons_iff]
      rw [← or_assoc]
      refine or_congr_left ?_
      unfold addClass
      cases matched : schoolClassDnRegex env dn with
      | none => simp
      | some group =>
          dsimp only
          split
          next known =>
            rw [Dict.mem_keys_set, or_comm]
            refine or_congr_right ⟨?_, ?_⟩
            · rintro rfl
              exact ⟨group, rfl, rfl, known⟩
            · rintro ⟨_, ⟨⟩, rfl, -⟩
              rfl
          next unknown =>
            refine (or_iff_left ?_).symm
            rintro ⟨_, ⟨⟩, rfl, known⟩
            exact unknown known

theorem handleAttrSchoolClasses_returns (env : LdapEnvironment) (knows : Knows outside onTarget s)
    (v : Json) :
    (exec (handleAttrSchoolClasses env (services outside) obj) s).1 = .ok v ↔
      ∃ dns, groupDns obj = .ok dns ∧
        v = .dict ((dns.foldl (addClass env (onTarget.keys.map lower)) []).map
          fun entry => (entry.1, Json.strs entry.2)) := by
  obtain ⟨s', known⟩ := knows
  have read : exec (services outside).schoolsIdsOnTarget s = (.ok onTarget, s') := known
  rw [handleAttrSchoolClasses, exec_bind_ok _ read, groupDns]
  cases ((obj.object.get "groups").getD (.list [])).iter with
  | error raised => simp [raising, Except.bind]
  | ok items =>
      simp only [raising, pure_bind, foldlM_addSchoolClass, Except.bind]
      cases items.mapM Json.matchable with
      | error raised => simp [Except.map]
      | ok dns => simp [Except.map, eq_comm]

theorem handleAttrSchoolClasses_keys {env : LdapEnvironment} (knows : Knows outside onTarget s)
    {entries : JsonObject}
    (returned : (exec (handleAttrSchoolClasses env (services outside) obj) s).1 =
      .ok (.dict entries)) :
    ∃ dns, groupDns obj = .ok dns ∧ ∀ ou, ou ∈ Dict.keys entries ↔ ClassOu env onTarget dns ou := by
  obtain ⟨dns, texts, same⟩ := (handleAttrSchoolClasses_returns env knows _).mp returned
  obtain rfl := Document.dict.inj same
  refine ⟨dns, texts, fun ou => ?_⟩
  simpa [Dict.keys] using mem_keys_foldl_addClass env onTarget dns [] ou

/-! ## Whether the attributes agree -/

/-- A school of the user up to case. -/
def OwnSchool (obj : ListenerUserAddModifyObject) (ou : String) : Prop :=
  ∃ school ∈ obj.schools, lower school = lower ou

/-- What the four methods come to for one user. -/
structure SchoolAttributesAgree (obj : ListenerUserAddModifyObject)
    (hasSchools : Except HandlerError Bool) (schools school classes : Except HandlerError Json) :
    Prop where
  schools_iff : hasSchools = .ok true ↔ ∃ ids, ids ≠ [] ∧ schools = .ok (Json.strs ids)
  school_iff : hasSchools = .ok true ↔ ∃ id, school = .ok (Json.str id)
  primary : ∀ ids id, schools = .ok (Json.strs ids) → school = .ok (Json.str id) → id ∈ ids
  keys : ∀ ids entries, schools = .ok (Json.strs ids) → classes = .ok (.dict entries) →
    ∀ ou ∈ Dict.keys entries, OwnSchool obj ou → ou ∈ ids
  oneKey : ∀ ids entries, schools = .ok (Json.strs ids) → classes = .ok (.dict entries) →
    ∀ ou ∈ Dict.keys entries, ∀ ou' ∈ Dict.keys entries, lower ou = lower ou' → ou = ou'

/-- The DNs of the classes have the OUs as the target calls the schools of the user, and one
    OU in one spelling. -/
def SpelledAsOnTarget (env : LdapEnvironment) (onTarget : Dict String String)
    (obj : ListenerUserAddModifyObject) : Prop :=
  ∀ dns, groupDns obj = .ok dns → (∃ id, IdOfUser onTarget obj id) →
    (∀ ou, ClassOu env onTarget dns ou → OwnSchool obj ou → IdOfUser onTarget obj ou) ∧
      ∀ ou ou', ClassOu env onTarget dns ou → ClassOu env onTarget dns ou' →
        lower ou = lower ou' → ou = ou'

/-- If the target calls a school by its name, there is one spelling for each OU. -/
theorem idOfUser_iff_of_names (names : ∀ entry ∈ onTarget, entry.1 = entry.2) {ou : String}
    (own : OwnSchool obj ou) : IdOfUser onTarget obj ou ↔ idOnTarget onTarget ou = some ou := by
  have sameName {school id : String} (found : idOnTarget onTarget school = some id) :
      lower id = lower school := by
    obtain ⟨name, last, same⟩ := (Dict.get_ofPairs_map lower onTarget (lower school) id).mp found
    obtain ⟨front, back, rfl, -⟩ := last
    have nameIsId : name = id := names (name, id) (by simp)
    rw [← same, nameIsId]
  constructor
  · rintro ⟨school, member, found⟩
    rw [← found, idOnTarget, idOnTarget, sameName found]
  · intro found
    obtain ⟨school, member, same⟩ := own
    refine ⟨school, member, ?_⟩
    rw [idOnTarget, same]
    exact found

/-- The attributes agree exactly if the DNs of the classes are spelled as on the target. -/
theorem school_attributes_agree_iff (env : LdapEnvironment) (obj : ListenerUserAddModifyObject)
    {s₁ s₂ s₃ s₄ : Handling T User} (knows₁ : Knows outside onTarget s₁)
    (knows₂ : Knows outside onTarget s₂) (knows₃ : Knows outside onTarget s₃)
    (knows₄ : Knows outside onTarget s₄) :
    SchoolAttributesAgree obj (exec (userHasSchools outside obj) s₁).1
        (exec (handleAttrSchools (services outside) obj) s₂).1
        (exec (handleAttrSchool (services outside) obj) s₃).1
        (exec (handleAttrSchoolClasses env (services outside) obj) s₄).1 ↔
      SpelledAsOnTarget env onTarget obj := by
  obtain ⟨ids, mem_ids, schools⟩ :
      ∃ ids : List String, (∀ id, id ∈ ids ↔ IdOfUser onTarget obj id) ∧ _ :=
    handleAttrSchools_returns knows₂
  have returned {other : List String}
      (same : (exec (handleAttrSchools (services outside) obj) s₂).1 = .ok (Json.strs other)) :
      ids ≠ [] ∧ other = ids := by
    obtain ⟨nonempty, same⟩ := (schools _).mp same
    refine ⟨nonempty, (List.map_inj_right fun a b equal => ?_).mp (Document.list.inj same)⟩
    simpa [Json.str] using equal
  have known : ids ≠ [] ↔ ∃ id, IdOfUser onTarget obj id := by
    simp only [← mem_ids]
    exact ⟨List.exists_mem_of_ne_nil ids, fun ⟨id, member⟩ => List.ne_nil_of_mem member⟩
  constructor
  · intro agree dns texts hasKnown
    have someSchools := (schools _).mpr ⟨known.mpr hasKnown, rfl⟩
    have classes := (handleAttrSchoolClasses_returns env knows₄ _).mpr ⟨dns, texts, rfl⟩
    obtain ⟨_, texts', keys⟩ := handleAttrSchoolClasses_keys knows₄ classes
    cases texts.symm.trans texts'
    refine ⟨fun ou isClass own => (mem_ids ou).mp ?_, fun ou ou' isClass isClass' same => ?_⟩
    · exact agree.keys ids _ someSchools classes ou ((keys ou).mpr isClass) own
    · exact agree.oneKey ids _ someSchools classes ou ((keys ou).mpr isClass) ou'
        ((keys ou').mpr isClass') same
  · intro spelled
    refine ⟨?_, ?_, ?_, ?_, ?_⟩
    · rw [userHasSchools_iff knows₁, ← known]
      constructor
      · exact fun nonempty => ⟨ids, nonempty, (schools _).mpr ⟨nonempty, rfl⟩⟩
      · rintro ⟨other, -, same⟩
        exact (returned same).1
    · rw [userHasSchools_iff knows₁, handleAttrSchool_returns_iff knows₃]
    · rintro other id same school
      rw [(returned same).2, mem_ids]
      exact handleAttrSchool_idOfUser knows₃ school
    · intro other entries same classes ou listed own
      obtain ⟨dns, texts, keys⟩ := handleAttrSchoolClasses_keys knows₄ classes
      rw [(returned same).2, mem_ids]
      exact (spelled dns texts (known.mp (returned same).1)).1 ou ((keys ou).mp listed) own
    · intro other entries same classes ou listed ou' listed' equal
      obtain ⟨dns, texts, keys⟩ := handleAttrSchoolClasses_keys knows₄ classes
      exact (spelled dns texts (known.mp (returned same).1)).2 ou ou' ((keys ou).mp listed)
        ((keys ou').mp listed') equal

/-! ## The primary school -/

/-- The target calls the first school of the user that it knows so. -/
def FirstKnown (onTarget : Dict String String) (obj : ListenerUserAddModifyObject) (id : String) :
    Prop :=
  ∃ school ∈ obj.schools, idOnTarget onTarget school = some id ∧
    ∀ earlier ∈ obj.schools, earlier < school → idOnTarget onTarget earlier = none

omit [CaseMapping] in
theorem tried_sorted {primary : String} (known : obj.school = some primary)
    (least : ∀ school ∈ obj.schools, primary ≤ school) :
    (primary :: (obj.sortedSchools primary).erase primary).Pairwise (· < ·) := by
  have distinct : (obj.sortedSchools primary).Nodup :=
    (List.perm_insertionSort _ _).nodup_iff.mpr (List.nodup_dedup _)
  have sorted : (obj.sortedSchools primary).Pairwise (· ≤ ·) := List.pairwise_insertionSort _ _
  rw [List.pairwise_cons]
  constructor
  · intro school later
    obtain ⟨different, member⟩ := (distinct.mem_erase_iff).mp later
    exact lt_of_le_of_ne (least school ((mem_sortedSchools known).mp member)) (Ne.symm different)
  · have strict := (sorted.and distinct).imp fun both => lt_of_le_of_ne both.1 both.2
    exact strict.sublist List.erase_sublist

omit [CaseMapping] in
theorem school_least {primary : String} (known : obj.school = some primary)
    (other : ∀ ou, ouFromDn obj.dn = some ou → ou ∉ obj.schools) :
    ∀ school ∈ obj.schools, primary ≤ school := by
  have first : (obj.schools.insertionSort (· ≤ ·)).head? = some primary := by
    unfold ListenerUserAddModifyObject.school at known
    split at known
    next ou found => rwa [if_neg (other ou found)] at known
    next => exact known
  intro school member
  have sorted : (obj.schools.insertionSort (· ≤ ·)).Pairwise (· ≤ ·) :=
    List.pairwise_insertionSort _ _
  have listed := (List.mem_insertionSort (· ≤ ·)).mpr member
  cases schools : obj.schools.insertionSort (· ≤ ·) with
  | nil => simp [schools] at first
  | cons head rest =>
      rw [schools] at first sorted listed
      obtain rfl : head = primary := by simpa using first
      rcases List.mem_cons.mp listed with rfl | later
      · exact le_refl school
      · exact (List.pairwise_cons.mp sorted).1 school later

/-- The user gets the target's school for the OU of its DN, which has no other OU or is all in one
    line, exactly if the OU is found and spelled as in the list of schools, or else no other known
    school of the user comes first. -/
theorem primary_school_kept_iff {front ou rest : String}
    (parts : OuAboveBase obj.dn front ou rest)
    (single : ¬ ",ou=".toList <:+: front.toList ∨ OneLine front ou rest)
    (knows : Knows outside onTarget s) {id : String} (known : idOnTarget onTarget ou = some id) :
    (exec (handleAttrSchool (services outside) obj) s).1 = .ok (Json.str id) ↔
      (OneLine front ou rest ∧ ou ∈ obj.schools) ∨ FirstKnown onTarget obj id := by
  rw [handleAttrSchool_returns knows]
  by_cases own : OneLine front ou rest ∧ ou ∈ obj.schools
  · have primary : obj.school = some ou := by
      rw [ListenerUserAddModifyObject.school, ouFromDn_of_oneLine parts own.1]
      exact if_pos own.2
    refine iff_of_true ⟨ou, id, primary, rfl, ?_⟩ (Or.inl own)
    rw [List.findSome?_cons, known]
  · rw [or_iff_right own]
    have other : ∀ ou', ouFromDn obj.dn = some ou' → ou' ∉ obj.schools := by
      intro ou' here member
      by_cases oneLine : OneLine front ou rest
      · cases here.symm.trans (ouFromDn_of_oneLine parts oneLine)
        exact own ⟨oneLine, member⟩
      · cases here.symm.trans (ouFromDn_of_lineEnd parts (single.resolve_right oneLine) oneLine)
    cases primary : obj.school with
    | none => simp [FirstKnown, school_eq_none_iff.mp primary]
    | some school =>
        have sorted := tried_sorted primary (school_least primary other)
        have first := First.findSome?_sorted (g := idOnTarget onTarget) (b := id) sorted
        simp only [mem_tried primary] at first
        refine Iff.trans ⟨?_, fun hit => ⟨school, id, rfl, rfl, hit⟩⟩ first
        rintro ⟨_, id', ⟨⟩, same, hit⟩
        obtain rfl : id = id' := by simpa [Json.str] using same
        exact hit

end KelvinPerSAUserDispatcher

section Examples

open KelvinPerSAUserDispatcher

attribute [local instance] asciiCaseMapping

/-- The dispatcher has these schools cached. -/
def withCachedSchools (names : Dict String String) : Handling (List String) String :=
  { freshHandling with schools := ⟨names, 700⟩ }

def userFront : String := "uid=anna,cn=schueler,cn=users"

def baseRest : String := "uni,dc=dtr"

/-- A user of these schools in a class. The OU is spelled the same in the DNs of both. -/
def classMember (ou : String) (schools : List String) : ListenerUserAddModifyObject where
  dn := s!"{userFront},ou={ou},dc={baseRest}"
  id := "9ad3"
  object :=
    [("username", Json.str "anna"), ("school", Json.strs schools),
      ("groups", Json.strs [s!"cn={ou}-1a,cn=klassen,cn=schueler,cn=groups,ou={ou},dc=uni,dc=dtr"])]
  options := ["default", "ucsschoolStudent"]
  userPasswords := none
  oldData := none
  schools := schools
  schools_eq := rfl

def uniDtr : LdapEnvironment where
  ldapBase := "dc=uni,dc=dtr"

theorem knows_withCachedSchools {names : Dict String String} (known : names ≠ []) :
    Knows schoollessTarget names (withCachedSchools names) :=
  knows_cached known (by simp [withCachedSchools, schoollessTarget, apiSchoolCacheTtl])

def oneSchool : Dict String String := [("DEMOSCHOOL", "DEMOSCHOOL")]

def twoSchools : Dict String String := [("AAA", "AAA"), ("DEMOSCHOOL", "DEMOSCHOOL")]

theorem class_outside_schools :
    let obj := classMember "demoschool" ["DEMOSCHOOL"]
    let s := withCachedSchools oneSchool
    ¬ SchoolAttributesAgree obj (Action.exec (userHasSchools schoollessTarget obj) s).1
      (Action.exec (handleAttrSchools (services schoollessTarget) obj) s).1
      (Action.exec (handleAttrSchool (services schoollessTarget) obj) s).1
      (Action.exec (handleAttrSchoolClasses uniDtr (services schoollessTarget) obj) s).1 := by
  intro obj s agree
  have listed := agree.keys ["DEMOSCHOOL"] [("demoschool", Json.strs ["1a"])]
    (by decide +kernel) (by decide +kernel) "demoschool" (by decide) ⟨"DEMOSCHOOL", by decide, by decide⟩
  exact absurd listed (by decide)

theorem class_inside_schools :
    let obj := classMember "DEMOSCHOOL" ["DEMOSCHOOL"]
    let s := withCachedSchools oneSchool
    SchoolAttributesAgree obj (Action.exec (userHasSchools schoollessTarget obj) s).1
      (Action.exec (handleAttrSchools (services schoollessTarget) obj) s).1
      (Action.exec (handleAttrSchool (services schoollessTarget) obj) s).1
      (Action.exec (handleAttrSchoolClasses uniDtr (services schoollessTarget) obj) s).1 := by
  intro obj s
  have knows : Knows schoollessTarget oneSchool s := knows_withCachedSchools (by decide)
  refine (school_attributes_agree_iff uniDtr obj knows knows knows knows).mpr fun dns texts _ => ?_
  obtain rfl : ["cn=DEMOSCHOOL-1a,cn=klassen,cn=schueler,cn=groups,ou=DEMOSCHOOL,dc=uni,dc=dtr"] =
    dns := Except.ok.inj texts
  have only {ou : String} (isClass : ClassOu uniDtr oneSchool
      ["cn=DEMOSCHOOL-1a,cn=klassen,cn=schueler,cn=groups,ou=DEMOSCHOOL,dc=uni,dc=dtr"] ou) :
      ou = "DEMOSCHOOL" := by
    obtain ⟨dn, member, group, matched, rfl, -⟩ := isClass
    obtain rfl := List.mem_singleton.mp member
    have parsed : schoolClassDnRegex uniDtr
        "cn=DEMOSCHOOL-1a,cn=klassen,cn=schueler,cn=groups,ou=DEMOSCHOOL,dc=uni,dc=dtr" =
          some ⟨"DEMOSCHOOL", "1a"⟩ := by decide +kernel
    cases matched.symm.trans parsed
    rfl
  refine ⟨fun ou isClass _ => ?_, fun ou ou' isClass isClass' _ => ?_⟩
  · rw [only isClass]
    exact ⟨"DEMOSCHOOL", by decide, by decide⟩
  · rw [only isClass, only isClass']

theorem classMember_ouAboveBase (ou : String) (filled : ou ≠ "") (component : ',' ∉ ou.toList)
    (schools : List String) :
    OuAboveBase (classMember ou schools).dn userFront ou baseRest where
  parts := rfl
  filled := ⟨by decide, filled, by decide⟩
  component := component
  base inside := by
    have o : 'o' ∈ "dc=".toList ++ baseRest.toList := inside.mem (by decide)
    exact absurd o (by decide)

theorem primary_school_lost :
    let obj := classMember "demoschool" ["AAA", "DEMOSCHOOL"]
    OuAboveBase obj.dn userFront "demoschool" baseRest ∧
      lower "demoschool" ∈ obj.schools.map lower ∧
      idOnTarget twoSchools "demoschool" = some "DEMOSCHOOL" ∧
      Knows schoollessTarget twoSchools (withCachedSchools twoSchools) ∧
      (Action.exec (handleAttrSchool (services schoollessTarget) obj)
        (withCachedSchools twoSchools)).1 = .ok (Json.str "AAA") :=
  ⟨classMember_ouAboveBase _ (by decide) (by decide) _, by decide, by decide,
    knows_withCachedSchools (by decide), by decide +kernel⟩

theorem primary_school_kept :
    (Action.exec (handleAttrSchool (services schoollessTarget)
      (classMember "DEMOSCHOOL" ["AAA", "DEMOSCHOOL"]))
        (withCachedSchools twoSchools)).1 = .ok (Json.str "DEMOSCHOOL") := by
  have oneLine : OneLine userFront "DEMOSCHOOL" baseRest :=
    ⟨by decide, by decide, by decide⟩
  have knows : Knows schoollessTarget twoSchools (withCachedSchools twoSchools) :=
    knows_withCachedSchools (by decide)
  have known : idOnTarget twoSchools "DEMOSCHOOL" =
      some "DEMOSCHOOL" := by decide
  have parts := classMember_ouAboveBase "DEMOSCHOOL" (by decide) (by decide) ["AAA", "DEMOSCHOOL"]
  exact (primary_school_kept_iff parts (Or.inr oneLine) knows known).mpr
    (Or.inl ⟨oneLine, by decide⟩)

end Examples

end IdConnector
