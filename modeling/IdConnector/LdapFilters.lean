import IdConnector.LdapAccess
import IdConnector.Library.LdapFilter

/-! # The filters of searches

The filters of `ldap_access.py` and `school_scheduler.py`, as the texts that are put together
from the names of users, groups and schools. A name can have any characters: after
`escape_filter_chars` every text is read as the filter that was meant, and selects the entries
that `LdapAccess.matchesFilter` selects.
-/

namespace IdConnector

open Library Library.LdapFilter LdapAccess

/-! ## Attributes -/

def uidAttribute : AttributeName := ⟨"uid".toList, by decide, by decide⟩

def cnAttribute : AttributeName := ⟨"cn".toList, by decide, by decide⟩

def objectClassAttribute : AttributeName := ⟨"objectClass".toList, by decide, by decide⟩

def schoolAttribute : AttributeName := ⟨"ucsschoolSchool".toList, by decide, by decide⟩

def roleAttribute : AttributeName := ⟨"ucsschoolRole".toList, by decide, by decide⟩

/-! ## The texts -/

section Texts

variable (escapeFilterChars : String → String)

/-- Also the filter of `get_passwords`. -/
def getDnOfUserFilter (username : String) : String :=
  "(uid=" ++ escapeFilterChars username ++ ")"

def getUserFilter (username : String) (schoolOnly : Bool) : String :=
  let filter := "(uid=" ++ escapeFilterChars username ++ ")"
  if schoolOnly then
    "(&" ++ filter ++ "(|" ++ "(objectClass=ucsschoolStaff)" ++ "(objectClass=ucsschoolStudent)" ++
      "(objectClass=ucsschoolTeacher)" ++ "(objectClass=ucsschoolLegalGuardian)" ++ "))"
  else filter

def getGroupFilter (groupname : String) (schoolOnly : Bool) : String :=
  let filter := "(cn=" ++ escapeFilterChars groupname ++ ")"
  if schoolOnly then "(&" ++ filter ++ "(|(objectClass=ucsschoolGroup)))" else filter

def extendedAttributeLdapMappingFilter (udmPropertyName : String) : String :=
  "(&(objectClass=univentionUDMProperty)(cn=" ++ escapeFilterChars udmPropertyName ++ "))"

def getSchoolGroupsFilter (school : String) : String :=
  "(&(cn=" ++ escapeFilterChars school ++ "-*)" ++
    "(|(ucsschoolRole=school_class:school:" ++ escapeFilterChars school ++ ")" ++
    "(ucsschoolRole=workgroup:school:" ++ escapeFilterChars school ++ ")))"

def getSchoolUsersFilter (school : String) : String :=
  "(&(ucsschoolSchool=" ++ escapeFilterChars school ++ ")" ++
    "(|(ucsschoolRole=teacher:school:" ++ escapeFilterChars school ++ ")" ++
    "(ucsschoolRole=student:school:" ++ escapeFilterChars school ++ ")" ++
    "(ucsschoolRole=staff:school:" ++ escapeFilterChars school ++ ")" ++
    "(ucsschoolRole=legal_guardian:school:" ++ escapeFilterChars school ++ ")" ++ "))"

end Texts

/-! ## The filters that are meant -/

def equals (name : AttributeName) (value : String) : LdapFilter := .item name value.toList []

def isUser (username : String) (schoolOnly : Bool) : LdapFilter :=
  if schoolOnly then
    .and [equals uidAttribute username, .or (schoolObjectClasses.map (equals objectClassAttribute))]
  else equals uidAttribute username

def isGroup (groupname : String) (schoolOnly : Bool) : LdapFilter :=
  if schoolOnly then
    .and [equals cnAttribute groupname, .or [equals objectClassAttribute "ucsschoolGroup"]]
  else equals cnAttribute groupname

def isExtendedAttribute (udmPropertyName : String) : LdapFilter :=
  .and [equals objectClassAttribute "univentionUDMProperty", equals cnAttribute udmPropertyName]

def hasRole (school role : String) : LdapFilter :=
  equals roleAttribute (role ++ ":school:" ++ school)

def schoolGroupRoles : List String := ["school_class", "workgroup"]

def schoolUserRoles : List String := ["teacher", "student", "staff", "legal_guardian"]

def isSchoolGroup (school : String) : LdapFilter :=
  .and [.item cnAttribute (school ++ "-").toList [[]], .or (schoolGroupRoles.map (hasRole school))]

def isSchoolUser (school : String) : LdapFilter :=
  .and [equals schoolAttribute school, .or (schoolUserRoles.map (hasRole school))]

/-! ## Reading the texts -/

section Reading

variable {escapeFilterChars : String → String}
  (escapes : ∀ text, escapeFilterChars text = String.ofList (escape text.toList))

include escapes

theorem text_equals (name : AttributeName) (value : String) :
    (equals name value).text =
      "(" ++ String.ofList name.chars ++ "=" ++ escapeFilterChars value ++ ")" := by
  rw [equals, text_item, escapes]
  simp [writeLater]

/-- `front` is a text that the source has in front of a name. -/
theorem escape_behind {front : String} (plain : escape front.toList = front.toList)
    (name : String) :
    escapeFilterChars (front ++ name) = front ++ escapeFilterChars name := by
  apply String.toList_injective
  rw [escapes, escapes, String.toList_append, escape_append, plain]
  simp

theorem escape_constant {text : String} (plain : escape text.toList = text.toList) :
    escapeFilterChars text = text := by
  rw [escapes, plain, String.ofList_toList]

theorem text_hasRole (school role : String)
    (plain : escape (role ++ ":school:").toList = (role ++ ":school:").toList) :
    (hasRole school role).text =
      "(ucsschoolRole=" ++ (role ++ ":school:") ++ escapeFilterChars school ++ ")" := by
  have name : "(ucsschoolRole=" = "(" ++ String.ofList roleAttribute.chars ++ "=" := rfl
  rw [hasRole, text_equals escapes, escape_behind escapes plain, name]
  simp only [String.append_assoc]

theorem getDnOfUserFilter_eq (username : String) :
    getDnOfUserFilter escapeFilterChars username = (equals uidAttribute username).text := by
  have name : "(uid=" = "(" ++ String.ofList uidAttribute.chars ++ "=" := rfl
  rw [text_equals escapes, ← name]
  rfl

theorem text_objectClass (name : String) (plain : escape name.toList = name.toList) :
    (equals objectClassAttribute name).text = "(objectClass=" ++ name ++ ")" := by
  have start :
      "(objectClass=" = "(" ++ String.ofList objectClassAttribute.chars ++ "=" := rfl
  rw [text_equals escapes, escape_constant escapes plain, ← start]

theorem getUserFilter_eq (username : String) (schoolOnly : Bool) :
    getUserFilter escapeFilterChars username schoolOnly = (isUser username schoolOnly).text := by
  have user := getDnOfUserFilter_eq escapes username
  unfold getDnOfUserFilter at user
  unfold getUserFilter
  cases schoolOnly with
  | false => exact user
  | true =>
      have ending : "))" = ")" ++ ")" := rfl
      have staff : "(objectClass=ucsschoolStaff)" = "(objectClass=" ++ "ucsschoolStaff" ++ ")" := rfl
      have student : "(objectClass=ucsschoolStudent)" =
          "(objectClass=" ++ "ucsschoolStudent" ++ ")" := rfl
      have teacher : "(objectClass=ucsschoolTeacher)" =
          "(objectClass=" ++ "ucsschoolTeacher" ++ ")" := rfl
      have guardian : "(objectClass=ucsschoolLegalGuardian)" =
          "(objectClass=" ++ "ucsschoolLegalGuardian" ++ ")" := rfl
      simp only [user, staff, student, teacher, guardian, ending, isUser, schoolObjectClasses,
        text_and, text_or, List.map_cons, List.map_nil, texts_cons, texts_nil, if_true,
        text_objectClass escapes "ucsschoolStaff" rfl,
        text_objectClass escapes "ucsschoolStudent" rfl,
        text_objectClass escapes "ucsschoolTeacher" rfl,
        text_objectClass escapes "ucsschoolLegalGuardian" rfl,
        String.append_assoc, String.append_empty]

theorem text_cn (name : String) :
    (equals cnAttribute name).text = "(cn=" ++ escapeFilterChars name ++ ")" := by
  have cn : "(cn=" = "(" ++ String.ofList cnAttribute.chars ++ "=" := rfl
  rw [text_equals escapes, ← cn]

theorem getGroupFilter_eq (groupname : String) (schoolOnly : Bool) :
    getGroupFilter escapeFilterChars groupname schoolOnly =
      (isGroup groupname schoolOnly).text := by
  have group := text_cn escapes groupname
  unfold getGroupFilter
  cases schoolOnly with
  | false => exact group.symm
  | true =>
      have schoolGroup := text_objectClass escapes "ucsschoolGroup" rfl
      have classes : "(|(objectClass=ucsschoolGroup)))" =
          "(|" ++ ("(objectClass=" ++ ("ucsschoolGroup" ++ (")" ++ (")" ++ ")")))) := rfl
      simp only [classes, group, schoolGroup, isGroup, text_and, text_or, texts_cons, texts_nil,
        if_true, String.append_assoc, String.append_empty]

theorem extendedAttributeLdapMappingFilter_eq (udmPropertyName : String) :
    extendedAttributeLdapMappingFilter escapeFilterChars udmPropertyName =
      (isExtendedAttribute udmPropertyName).text := by
  have property := text_objectClass escapes "univentionUDMProperty" rfl
  have start : "(&(objectClass=univentionUDMProperty)(cn=" =
      "(&" ++ ("(objectClass=" ++ ("univentionUDMProperty" ++ (")" ++ "(cn="))) := rfl
  have ending : "))" = ")" ++ ")" := rfl
  unfold extendedAttributeLdapMappingFilter
  simp only [start, ending, property, text_cn escapes, isExtendedAttribute, text_and, texts_cons,
    texts_nil, String.append_assoc, String.append_empty]

/-- The wildcard is not escaped, the name in front of it is. -/
theorem text_named (school : String) :
    (LdapFilter.item cnAttribute (school ++ "-").toList [[]]).text =
      "(cn=" ++ escapeFilterChars school ++ "-*)" := by
  have cn : "(cn=" = "(" ++ String.ofList cnAttribute.chars ++ "=" := rfl
  have wildcard : "-*)" = "-" ++ (String.ofList (writeLater [[]]) ++ ")") := rfl
  have name : String.ofList (escape (school ++ "-").toList) = escapeFilterChars school ++ "-" := by
    apply String.toList_injective
    simp [escapes, escape, escapeChar]
  rw [text_item, name, cn, wildcard]
  simp only [String.append_assoc]

theorem getSchoolGroupsFilter_eq (school : String) :
    getSchoolGroupsFilter escapeFilterChars school = (isSchoolGroup school).text := by
  have start : "(&(cn=" = "(&" ++ "(cn=" := rfl
  have schoolClass : "(|(ucsschoolRole=school_class:school:" =
      "(|" ++ ("(ucsschoolRole=" ++ ("school_class" ++ ":school:")) := rfl
  have workgroup : "(ucsschoolRole=workgroup:school:" =
      "(ucsschoolRole=" ++ ("workgroup" ++ ":school:") := rfl
  have ending : ")))" = ")" ++ (")" ++ ")") := rfl
  unfold getSchoolGroupsFilter
  simp only [start, schoolClass, workgroup, ending, isSchoolGroup, schoolGroupRoles, text_and,
    text_or, List.map_cons, List.map_nil, texts_cons, texts_nil, text_named escapes,
    text_hasRole escapes school "school_class" rfl, text_hasRole escapes school "workgroup" rfl,
    String.append_assoc, String.append_empty]

theorem getSchoolUsersFilter_eq (school : String) :
    getSchoolUsersFilter escapeFilterChars school = (isSchoolUser school).text := by
  have start : "(&(ucsschoolSchool=" =
      "(&" ++ ("(" ++ (String.ofList schoolAttribute.chars ++ "=")) := rfl
  have teacher : "(|(ucsschoolRole=teacher:school:" =
      "(|" ++ ("(ucsschoolRole=" ++ ("teacher" ++ ":school:")) := rfl
  have student : "(ucsschoolRole=student:school:" =
      "(ucsschoolRole=" ++ ("student" ++ ":school:") := rfl
  have staff : "(ucsschoolRole=staff:school:" = "(ucsschoolRole=" ++ ("staff" ++ ":school:") := rfl
  have guardian : "(ucsschoolRole=legal_guardian:school:" =
      "(ucsschoolRole=" ++ ("legal_guardian" ++ ":school:") := rfl
  have ending : "))" = ")" ++ ")" := rfl
  unfold getSchoolUsersFilter
  simp only [start, teacher, student, staff, guardian, ending, isSchoolUser, schoolUserRoles,
    text_and, text_or, List.map_cons, List.map_nil, texts_cons, texts_nil, text_equals escapes,
    text_hasRole escapes school "teacher" rfl, text_hasRole escapes school "student" rfl,
    text_hasRole escapes school "staff" rfl, text_hasRole escapes school "legal_guardian" rfl,
    String.append_assoc, String.append_empty]

/-- No name can change what is searched for: every text is read as the filter that is meant. -/
theorem every_filter_is_read (name : String) (schoolOnly : Bool) :
    parse (getDnOfUserFilter escapeFilterChars name) = some (equals uidAttribute name) ∧
      parse (getUserFilter escapeFilterChars name schoolOnly) = some (isUser name schoolOnly) ∧
      parse (getGroupFilter escapeFilterChars name schoolOnly) = some (isGroup name schoolOnly) ∧
      parse (extendedAttributeLdapMappingFilter escapeFilterChars name) =
        some (isExtendedAttribute name) ∧
      parse (getSchoolGroupsFilter escapeFilterChars name) = some (isSchoolGroup name) ∧
      parse (getSchoolUsersFilter escapeFilterChars name) = some (isSchoolUser name) := by
  rw [getDnOfUserFilter_eq escapes, getUserFilter_eq escapes, getGroupFilter_eq escapes,
    extendedAttributeLdapMappingFilter_eq escapes, getSchoolGroupsFilter_eq escapes,
    getSchoolUsersFilter_eq escapes]
  exact ⟨parse_text _, parse_text _, parse_text _, parse_text _, parse_text _, parse_text _⟩

end Reading

/-- A name that closes the filter is still nothing but a name. -/
theorem name_with_parentheses_is_read :
    let escapeFilterChars := fun text : String => String.ofList (escape text.toList)
    let name := "*)(uid=*"
    parse (getDnOfUserFilter escapeFilterChars name) = some (equals uidAttribute name) ∧
      parse (getUserFilter escapeFilterChars name true) = some (isUser name true) ∧
      parse (getGroupFilter escapeFilterChars name true) = some (isGroup name true) ∧
      parse (extendedAttributeLdapMappingFilter escapeFilterChars name) =
        some (isExtendedAttribute name) ∧
      parse (getSchoolGroupsFilter escapeFilterChars name) = some (isSchoolGroup name) ∧
      parse (getSchoolUsersFilter escapeFilterChars name) = some (isSchoolUser name) :=
  every_filter_is_read (fun _ => rfl) _ _

/-! ## What the filters select -/

/-- A group that is found by its name. -/
structure LdapGroup where
  dn : String
  cn : String
  objectClasses : List String
  attributes : Dict String (List String)
  deriving Repr, DecidableEq

def valuesOf (attributes : Dict String (List String)) (name : AttributeName) : List (List Char) :=
  ((attributes.get (String.ofList name.chars)).getD []).map String.toList

def LdapEntry.values (entry : LdapEntry) : AttributeName → List (List Char) :=
  valuesOf (("uid", [entry.uid]) :: ("objectClass", entry.objectClasses) :: entry.attributes)

def LdapGroup.values (group : LdapGroup) : AttributeName → List (List Char) :=
  valuesOf (("cn", [group.cn]) :: ("objectClass", group.objectClasses) :: group.attributes)

section Selecting

variable (norm : AttributeName → List Char → List Char)

/-- The entries that a filter selects, where `norm` is what the values of an attribute are
    compared by. A text that is not a filter raises an exception. -/
def searchText {E : Type} (values : E → AttributeName → List (List Char)) (text : String)
    (entries : List E) : Except PyError (List E) :=
  match parse text with
  | some filter => .ok (entries.filter fun entry => holds norm (values entry) filter)
  | none => .error (.valueError "malformed filter")

variable {norm}

theorem holds_equals {values : AttributeName → List (List Char)} (name : AttributeName)
    (value : String) :
    holds norm values (equals name value) = true ↔
      ∃ v ∈ values name, norm name v = norm name value.toList :=
  holds_equality name value.toList

theorem LdapEntry.values_uid (entry : LdapEntry) :
    entry.values uidAttribute = [entry.uid.toList] := by
  have name : String.ofList uidAttribute.chars = "uid" := rfl
  rw [values, valuesOf, name]
  rfl

theorem LdapEntry.values_objectClass (entry : LdapEntry) :
    entry.values objectClassAttribute = entry.objectClasses.map String.toList := by
  have name : String.ofList objectClassAttribute.chars = "objectClass" := rfl
  rw [values, valuesOf, name]
  rfl

theorem LdapGroup.values_cn (group : LdapGroup) : group.values cnAttribute = [group.cn.toList] := by
  have name : String.ofList cnAttribute.chars = "cn" := rfl
  rw [values, valuesOf, name]
  rfl

/-- The filter of `get_group`. -/
theorem holds_isGroup (group : LdapGroup) (groupname : String) :
    holds norm group.values (isGroup groupname true) =
      (decide (norm cnAttribute group.cn.toList = norm cnAttribute groupname.toList) &&
        holds norm group.values (equals objectClassAttribute "ucsschoolGroup")) := by
  have named : holds norm group.values (equals cnAttribute groupname) =
      decide (norm cnAttribute group.cn.toList = norm cnAttribute groupname.toList) := by
    rw [Bool.eq_iff_iff, holds_equals, decide_eq_true_eq, group.values_cn]
    simp
  rw [isGroup, if_pos rfl, holds_and, List.all_cons, List.all_cons, List.all_nil, Bool.and_true,
    holds_or, List.any_cons, List.any_nil, Bool.or_false, named]

variable [CaseMapping]

/-- The filter of `get_user`, for entries whose object classes are spelled like in the schema. -/
theorem holds_isUser
    (ignoresCase : ∀ text, norm uidAttribute text = (lower (String.ofList text)).toList)
    {entry : LdapEntry}
    (spelled : ∀ oc ∈ entry.objectClasses, ∀ known ∈ schoolObjectClasses,
      norm objectClassAttribute oc.toList = norm objectClassAttribute known.toList → oc = known)
    (username : String) (schoolOnly : Bool) :
    holds norm entry.values (isUser username schoolOnly) =
      matchesFilter username schoolOnly entry := by
  have user : holds norm entry.values (equals uidAttribute username) =
      decide (lower entry.uid = lower username) := by
    rw [Bool.eq_iff_iff, holds_equals, decide_eq_true_eq, entry.values_uid]
    simp [ignoresCase, String.toList_inj]
  have schoolUser : (schoolObjectClasses.any fun known =>
        holds norm entry.values (equals objectClassAttribute known)) =
      schoolObjectClasses.any fun known => known ∈ entry.objectClasses := by
    rw [Bool.eq_iff_iff, List.any_eq_true, List.any_eq_true]
    refine exists_congr fun known => and_congr_right fun member => ?_
    rw [holds_equals, entry.values_objectClass, decide_eq_true_eq]
    constructor
    · rintro ⟨_, found, same⟩
      obtain ⟨oc, present, rfl⟩ := List.mem_map.mp found
      rwa [← spelled oc present known member same]
    · intro present
      exact ⟨known.toList, List.mem_map_of_mem present, rfl⟩
  cases schoolOnly with
  | false => simp [isUser, matchesFilter, user]
  | true =>
      rw [isUser, if_pos rfl, holds_and, List.all_cons, List.all_cons, List.all_nil, holds_or,
        List.any_map, user, matchesFilter, Bool.and_true]
      exact congrArg _ schoolUser

end Selecting

end IdConnector
