import IdConnector.Frames
import IdConnector.PartialGroupSync

/-! # Names of school classes

A class is named after its OU and itself, with a hyphen between the two. The search for a
class takes them apart with the help of the DN, partial group sync at the first hyphen.
-/

namespace IdConnector

open Library Library.Text

/-- The DN of a class, where the OU stands in two places. -/
def classDn (env : LdapEnvironment) (o n ou : String) : String :=
  s!"cn={o}-{n},cn={env.containerClass},cn={env.containerPupils},cn=groups,ou={ou},{env.ldapBase}"

/-! ## The regular expression -/

section Regex

variable [CaseMapping]

/-- Only a comma is a comma up to case. -/
def CommaAlone : Prop := ∀ c d, CaseMapping.sameLetter c d = true → (c = ',' ↔ d = ',')

/-- What `schoolClassDnRegex` matches behind the group `name`. -/
def matchName (containers base ou name afterName : List Char) : Option ClassDn := do
  let back ← skipLiteral containers afterName
  let rest ← skipLiteral ou back
  let _ ← skipLiteral (',' :: base) rest
  return ⟨String.ofList ou, String.ofList name⟩

/-- What `schoolClassDnRegex` matches behind the group `ou`. -/
def matchOu (containers base ou afterOu : List Char) : Option ClassDn :=
  (skipLiteral ['-'] afterOu).bind (lazyGroup ',' (matchName containers base ou) [])

theorem skipLiteral_comma (alone : CommaAlone) {literal rest : List Char} {c : Char}
    (other : c ≠ ',') : skipLiteral (',' :: literal) (c :: rest) = none := by
  rw [skipLiteral, if_neg]
  intro same
  exact other ((alone ',' c same).mp rfl)

variable {containers base ou ou' name rest : List Char}

/-- An OU that is too short is not followed by the comma before the base. -/
theorem matchName_short (alone : CommaAlone) (clean : ',' ∉ ou')
    (shorter : ou.length < ou'.length) :
    matchName containers base ou name (containers ++ (ou' ++ rest)) = none := by
  unfold matchName
  rw [skipLiteral_self]
  simp only [Option.bind_eq_bind, Option.bind_some]
  cases skipped : skipLiteral ou (ou' ++ rest) with
  | none => rfl
  | some left =>
      obtain ⟨c, tail, member, rfl⟩ := skipLiteral_short shorter skipped
      rw [Option.bind_some, skipLiteral_comma alone fun same => clean (same ▸ member)]
      rfl

theorem matchName_same (same : SameLetters ou ou') :
    matchName containers base ou name (containers ++ (ou' ++ ',' :: base)) =
      some ⟨String.ofList ou, String.ofList name⟩ := by
  unfold matchName
  rw [skipLiteral_self]
  simp only [Option.bind_eq_bind, Option.bind_some]
  have ended := skipLiteral_self (',' :: base) []
  rw [List.append_nil] at ended
  rw [skipLiteral_append same, Option.bind_some, ended]
  rfl

theorem matchName_inside (alone : CommaAlone) {q : List Char} (clean : ',' ∉ q) (inside : q ≠ []) :
    matchName (',' :: containers) base ou name (q ++ rest) = none := by
  cases q with
  | nil => exact absurd rfl inside
  | cons c q =>
      have other : c ≠ ',' := fun same => clean (same ▸ List.mem_cons_self)
      unfold matchName
      rw [List.cons_append, skipLiteral_comma alone other]
      rfl

theorem matchOu_short (alone : CommaAlone) {front : List Char} (clean : ',' ∉ front)
    (clean' : ',' ∉ ou') (shorter : ou.length < ou'.length) :
    matchOu (',' :: containers) base ou (front ++ ',' :: (containers ++ (ou' ++ rest))) = none := by
  have failing {front : List Char} (clean : ',' ∉ front) :
      lazyGroup ',' (matchName (',' :: containers) base ou) []
        (front ++ ',' :: (containers ++ (ou' ++ rest))) = none := by
    apply lazyGroup_none clean
    rintro p q rfl -
    by_cases inside : q = []
    · subst inside
      exact matchName_short alone clean' shorter
    · exact matchName_inside alone (fun member => clean (List.mem_append_right p member)) inside
  unfold matchOu
  cases front with
  | nil =>
      rw [List.nil_append, skipLiteral, if_neg]
      · rfl
      · intro same
        have hyphen := (alone '-' ',' same).mpr rfl
        exact absurd hyphen (by decide)
  | cons c front =>
      rw [List.cons_append, skipLiteral]
      split
      · exact failing fun member => clean (List.mem_cons_of_mem _ member)
      · rfl

theorem matchOu_same (alone : CommaAlone) (clean : ',' ∉ name) (nonempty : name ≠ [])
    (same : SameLetters ou ou') :
    matchOu (',' :: containers) base ou
        ('-' :: (name ++ ',' :: (containers ++ (ou' ++ ',' :: base)))) =
      some ⟨String.ofList ou, String.ofList name⟩ := by
  unfold matchOu
  rw [skipLiteral, if_pos (CaseMapping.sameLetter_refl '-'), skipLiteral, Option.bind_some]
  apply lazyGroup_some clean nonempty
  · rintro p q rfl - inside
    exact matchName_inside alone (fun member => clean (List.mem_append_right p member)) inside
  · exact matchName_same same

theorem SameLetters.clean (alone : CommaAlone) (same : SameLetters ou ou') (clean : ',' ∉ ou) :
    ',' ∉ ou' := by
  induction same with
  | nil => simp
  | cons letter _ ih =>
      rw [List.mem_cons, not_or] at clean ⊢
      exact ⟨fun comma => clean.1 ((alone _ _ letter).mpr comma.symm).symm, ih clean.2⟩

/-- The back-reference makes the group `ou` end where the OU ends, whatever hyphens it has. -/
theorem schoolClassDnRegex_classDn (alone : CommaAlone) {env : LdapEnvironment} {o n o' : String}
    (filled : o ≠ "" ∧ n ≠ "") (clean : ',' ∉ o.toList ∧ ',' ∉ n.toList)
    (same : SameLetters o.toList o'.toList) :
    schoolClassDnRegex env (classDn env o n o') = some ⟨o, n⟩ := by
  have length : o.toList.length = o'.toList.length := same.length_eq
  have clean' : ',' ∉ o'.toList := SameLetters.clean alone same clean.1
  rw [ne_eq, ne_eq, ← String.toList_eq_nil_iff, ← String.toList_eq_nil_iff] at filled
  -- the first comma of the containers is the one that ends the name
  let containers := "cn=".toList ++ (env.containerClass.toList ++ (",cn=".toList ++
    (env.containerPupils.toList ++ ",cn=groups,ou=".toList)))
  have text : s!",cn={env.containerClass},cn={env.containerPupils},cn=groups,ou=".toList =
      ',' :: containers := by
    simp only [toString, String.toList_append, List.append_assoc]
    rfl
  have dn : (classDn env o n o').toList = "cn=".toList ++ (o.toList ++ ('-' :: (n.toList ++
      ',' :: (containers ++ (o'.toList ++ ',' :: env.ldapBase.toList))))) := by
    delta classDn
    simp only [toString, String.toList_append, List.append_assoc, containers]
    rfl
  unfold schoolClassDnRegex
  rw [dn, text]
  rw [skipLiteral_self, Option.bind_some]
  apply lazyGroup_some clean.1 filled.1
  · rintro p q parts - inside
    have clean_front : ',' ∉ q ++ '-' :: n.toList := by
      have clean_q : ',' ∉ q := fun member => clean.1 (parts ▸ List.mem_append_right p member)
      simp [clean_q, clean.2]
    have shorter : p.length < o'.toList.length := by
      have positive := List.length_pos_iff.mpr inside
      have sum := congrArg List.length parts
      rw [List.length_append] at sum
      omega
    have short : matchOu (',' :: containers) env.ldapBase.toList p ((q ++ '-' :: n.toList) ++
        ',' :: (containers ++ (o'.toList ++ ',' :: env.ldapBase.toList))) = none :=
      matchOu_short alone clean_front clean' shorter
    rw [List.append_assoc, List.cons_append] at short
    exact short
  · have hit : matchOu (',' :: containers) env.ldapBase.toList o.toList ('-' :: (n.toList ++
        ',' :: (containers ++ (o'.toList ++ ',' :: env.ldapBase.toList)))) =
          some ⟨String.ofList o.toList, String.ofList n.toList⟩ :=
      matchOu_same alone clean.2 filled.2 same
    rw [String.ofList_toList, String.ofList_toList] at hit
    exact hit

end Regex

/-! ## The two ways to take a name apart -/

namespace KelvinPartialGroupSyncPerSASchoolClassDispatcher

open Action

/-- `fetched` shows which classes of the target have been fetched, by name and school. -/
structure NotesFetches {T : Type} (services : GroupServices (Action T HandlerError))
    (fetched : T → List (String × String)) : Prop where
  getUser : ∀ username, Keeps fetched (services.getUser username)
  handledSchools : Keeps fetched services.handledSchools
  getSchoolClass : ∀ name school s,
    fetched (exec (services.getSchoolClass name school) s).2 = fetched s ++ [(name, school)]

section Fetching

variable [CaseMapping] {T : Type} {services : GroupServices (Action T HandlerError)}
  {fetched : T → List (String × String)} {self : Dispatcher} {obj : ListenerGroupAddModifyObject}

omit [CaseMapping] in
theorem keeps_raising {α : Type} (result : Except PyError α) :
    Keeps fetched (KelvinPerSAUserDispatcher.raising result : Action T HandlerError α) :=
  keeps_iff_preserves.mpr fun _ => KelvinPerSAUserDispatcher.preserves_raising result

theorem keeps_ignoredUsernames (notes : NotesFetches services fetched)
    (users : List (Option User)) : Keeps fetched (ignoredUsernames self services users) := by
  induction users with
  | nil => exact keeps_pure _
  | cons user rest ih =>
      cases user with
      | none => exact keeps_raising _
      | some user =>
          refine keeps_bind ?_ fun _ => keeps_bind ih fun _ => keeps_pure _
          exact keeps_bind notes.handledSchools fun _ =>
            keeps_bind (keeps_raising _) fun _ => keeps_pure _

theorem handleAttrUsers_fetches (notes : NotesFetches services fetched) {school name : String}
    (named : schoolAndName obj = .ok (school, name)) :
    LogsAtMost fetched (name, school) (handleAttrUsers self services obj) := by
  unfold handleAttrUsers
  rw [named, KelvinPerSAUserDispatcher.raising, pure_bind]
  refine logsAtMost_bind_left (keeps_ofExcept _) fun localUsernames => ?_
  refine logsAtMost_bind_left (keeps_mapM notes.getUser _) fun localUsers => ?_
  refine logsAtMost_bind_left (keeps_ignoredUsernames notes _) fun localIgnoreUsers => ?_
  refine logsAtMost_bind_right ?_ fun remoteUsernames => ?_
  · exact logsAtMost_bind_right (fun s => Or.inr (notes.getSchoolClass name school s))
      fun _ => keeps_pure _
  · exact keeps_bind (keeps_mapM notes.getUser _) fun found =>
      keeps_bind (keeps_ignoredUsernames notes _) fun _ => keeps_pure _

omit [CaseMapping] in
theorem schoolAndName_iff {o n : String} (named : obj.object.get "name" = some (Json.str (o ++ "-" ++ n))) :
    schoolAndName obj = .ok (o, n) ↔ '-' ∉ o.toList := by
  have text : (o ++ "-" ++ n).toList = o.toList ++ '-' :: n.toList := by
    simp only [String.toList_append, List.append_assoc]
    rfl
  unfold schoolAndName
  rw [named]
  simp only [Json.str, text]
  constructor
  · intro split hyphen
    obtain ⟨front, rest, same, clean⟩ := List.eq_append_cons_of_mem hyphen
    rw [same, List.append_assoc, List.cons_append, splitOnce_append clean] at split
    simp only [Except.ok.injEq, Prod.mk.injEq] at split
    rw [← split.1, String.toList_ofList] at hyphen
    exact clean hyphen
  · intro clean
    rw [splitOnce_append clean]
    simp

end Fetching

/-- Both ways to take the name of a class apart give its OU and its name, and no other class is
    fetched for it, exactly if the OU has no hyphen. -/
theorem class_names_agree_iff [CaseMapping] (alone : CommaAlone) (env : LdapEnvironment)
    (self : Dispatcher) (obj : ListenerGroupAddModifyObject) (o n o' : String)
    (filled : o ≠ "" ∧ n ≠ "") (clean : ',' ∉ o.toList ∧ ',' ∉ n.toList)
    (same : SameLetters o.toList o'.toList) (dn : obj.dn = classDn env o n o')
    (named : obj.object.get "name" = some (Json.str (o ++ "-" ++ n))) :
    (KelvinPerSASchoolClassDispatcher.searchParams env obj.dn = .ok ⟨n, o⟩ ∧
      schoolAndName obj = .ok (o, n) ∧
      ∀ {T : Type} (services : GroupServices (Action T HandlerError))
        (fetched : T → List (String × String)), NotesFetches services fetched →
        LogsAtMost fetched (n, o) (handleAttrUsers self services obj)) ↔
      '-' ∉ o.toList := by
  rw [← schoolAndName_iff named]
  constructor
  · exact fun agree => agree.2.1
  · intro split
    refine ⟨?_, split, fun services fetched notes => handleAttrUsers_fetches notes split⟩
    unfold KelvinPerSASchoolClassDispatcher.searchParams
    rw [dn, schoolClassDnRegex_classDn alone filled clean same]

end KelvinPartialGroupSyncPerSASchoolClassDispatcher

section Examples

open KelvinPartialGroupSyncPerSASchoolClassDispatcher

attribute [local instance] asciiCaseMapping

theorem comma_alone : CommaAlone := by
  have lowered (c : Char) : c.toLower = ',' ↔ c = ',' := by
    unfold Char.toLower
    split
    next upper =>
      constructor
      · intro comma
        have lower : 65 ≤ c.val.toNat := UInt32.le_iff_toNat_le.mp upper.1
        have higher : c.val.toNat ≤ 90 := UInt32.le_iff_toNat_le.mp upper.2
        have value : (c.val + 32).toNat = 44 := congrArg (fun d : Char => d.val.toNat) comma
        have sum : (c.val.toNat + 32) % 2 ^ 32 = 44 := (UInt32.toNat_add c.val 32).symm.trans value
        omega
      · rintro rfl
        exact absurd upper (by decide)
    next => rfl
  intro c d same
  have lower_eq : c.toLower = d.toLower := of_decide_eq_true same
  rw [← lowered c, lower_eq, lowered d]

def schoolEnvironment : LdapEnvironment where
  ldapBase := "dc=uni,dc=dtr"

/-- A school class of this OU, without members. -/
def emptyClass (o n : String) : ListenerGroupAddModifyObject where
  dn := classDn schoolEnvironment o n (lower o)
  id := "7be0"
  object := [("name", Json.str (o ++ "-" ++ n)), ("users", Json.strs [])]
  options := ["default"]
  oldData := none
  users := []
  users_eq := rfl

/-- A target without classes that notes what is fetched. -/
def notingServices : GroupServices (Action (List (String × String)) HandlerError) where
  getUser _ := pure none
  handledSchools := pure []
  getSchoolClass name school := do
    modify (· ++ [(name, school)])
    return none

theorem notingServices_notes : NotesFetches notingServices id where
  getUser _ := Action.keeps_pure _
  handledSchools := Action.keeps_pure _
  getSchoolClass _ _ _ := rfl

theorem hyphened_class_agrees :
    KelvinPerSASchoolClassDispatcher.searchParams schoolEnvironment (emptyClass "Demo" "1-a").dn =
        .ok ⟨"1-a", "Demo"⟩ ∧
      Action.LogsAtMost id ("1-a", "Demo")
        (handleAttrUsers partialDispatcher notingServices (emptyClass "Demo" "1-a")) := by
  have same : SameLetters "Demo".toList "demo".toList :=
    .cons (by decide) (.cons (by decide) (.cons (by decide) (.cons (by decide) .nil)))
  have agree := (class_names_agree_iff comma_alone schoolEnvironment partialDispatcher
    (emptyClass "Demo" "1-a") "Demo" "1-a" "demo" (by decide) (by decide) same rfl rfl).mpr
      (by decide)
  exact ⟨agree.1, agree.2.2 notingServices id notingServices_notes⟩

/-- A hyphen in the OU makes partial group sync fetch another class. -/
theorem hyphened_ou_differs :
    KelvinPerSASchoolClassDispatcher.searchParams schoolEnvironment (emptyClass "Demo-1" "a").dn =
        .ok ⟨"a", "Demo-1"⟩ ∧
      (Action.exec (handleAttrUsers partialDispatcher notingServices (emptyClass "Demo-1" "a")) []).2 =
        [("1-a", "Demo")] :=
  ⟨by decide +kernel, by decide +kernel⟩

end Examples

end IdConnector
