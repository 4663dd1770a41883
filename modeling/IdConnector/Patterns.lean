import IdConnector.Library.Text

/-! # Patterns for distinguished names and roles

The compiled patterns of `utils.py`, matched the way `re.match` tries
alternatives. The LDAP base and the container names come from the environment.
-/

namespace IdConnector

open Library Library.Text

/-- What the DN patterns take from the environment. -/
structure LdapEnvironment where
  ldapBase : String
  containerClass : String := "klassen"
  containerPupils : String := "schueler"

/-- The named groups of `schoolClassDnRegex`. -/
structure ClassDn where
  ou : String
  name : String
  deriving Repr, DecidableEq

/-- Match 'cn=DEMOSCHOOL-1a,cn=klassen,cn=schueler,cn=groups,ou=DEMOSCHOOL,...'. The LDAP base
    stands for itself, as it does in the pattern if it has no characters special to one. -/
def schoolClassDnRegex [CaseMapping] (env : LdapEnvironment) (dn : String) : Option ClassDn :=
  let containers :=
    s!",cn={env.containerClass},cn={env.containerPupils},cn=groups,ou=".toList
  (skipLiteral "cn=".toList dn.toList).bind
    (lazyGroup ',' (fun ou afterOu =>
      (skipLiteral ['-'] afterOu).bind
        (lazyGroup ',' (fun name afterName => do
          let back ← skipLiteral containers afterName
          let base ← skipLiteral ou back
          let _ ← skipLiteral (',' :: env.ldapBase.toList) base
          return ⟨String.ofList ou, String.ofList name⟩) [])) [])

/-- The group `host` of `^https://(?P<host>.+?)/ucsschool/kelvin/v(?P<version>.+?)/?`. -/
def kelvinUrlRegex (url : String) : Option String :=
  ("https://".toList.isPrefixOf? url.toList).bind
    (lazyGroup '\n' (fun host afterHost => do
      let version ← "/ucsschool/kelvin/v".toList.isPrefixOf? afterHost
      let first ← version.head?
      if first = '\n' then none else return String.ofList host) [])

/-- The group of `.+,ou=(.+?),dc=.+`. -/
def ouFromDn (dn : String) : Option String :=
  greedyGroup '\n' (fun afterFront => do
    let rest ← ",ou=".toList.isPrefixOf? afterFront
    lazyGroup '\n' (fun ou afterOu => do
      let base ← ",dc=".toList.isPrefixOf? afterOu
      let first ← base.head?
      if first = '\n' then none else return String.ofList ou) [] rest) dn.toList

/-- The named groups of `ucsschoolRoleRegex`. -/
structure UcsschoolRole where
  role : String
  contextType : String
  context : String
  deriving Repr, DecidableEq

/-- `^(?P<role>[^:]+):(?P<context_type>[^:]+):(?P<context>[^:]+)$` -/
def ucsschoolRoleRegex (role : String) : Option UcsschoolRole :=
  match role.toList.splitOn ':' with
  | [role, contextType, context] =>
      if role = [] ∨ contextType = [] ∨ context = [] then none
      else some ⟨String.ofList role, String.ofList contextType, String.ofList context⟩
  | _ => none

/-- A role string has three parts, none of them empty. -/
structure IsRoleString (text role contextType context : String) : Prop where
  joined : text = role ++ ":" ++ contextType ++ ":" ++ context
  filled : role ≠ "" ∧ contextType ≠ "" ∧ context ≠ ""
  clean : ':' ∉ role.toList ∧ ':' ∉ contextType.toList ∧ ':' ∉ context.toList

theorem ucsschoolRoleRegex_eq_some {text : String} {m : UcsschoolRole} :
    ucsschoolRoleRegex text = some m ↔ IsRoleString text m.role m.contextType m.context := by
  constructor
  · intro matched
    unfold ucsschoolRoleRegex at matched
    split at matched
    next role contextType context parts =>
      split at matched
      next => cases matched
      next filled =>
        cases matched
        have joined : [':'].intercalate (text.toList.splitOn ':') = text.toList :=
          List.intercalate_splitOn ':'
        have clean (part : List Char) (member : part ∈ text.toList.splitOn ':') : ':' ∉ part :=
          not_mem_of_mem_splitOn member
        simp only [parts, List.forall_mem_cons] at joined clean
        simp only [not_or] at filled
        refine ⟨?_, ?_, ?_⟩
        · apply String.toList_inj.mp
          rw [← joined]
          simp [List.intercalate]
        · simpa [String.ext_iff] using filled
        · simpa using ⟨clean.1, clean.2.1, clean.2.2.1⟩
    next => cases matched
  · rintro ⟨rfl, filled, clean⟩
    have parts : (m.role ++ ":" ++ m.contextType ++ ":" ++ m.context).toList.splitOn ':' =
        [m.role.toList, m.contextType.toList, m.context.toList] := by
      simp only [String.toList_append, List.append_assoc]
      have colon : ":".toList = [':'] := rfl
      rw [colon, List.singleton_append, List.splitOn_append_cons_self_of_not_mem clean.1,
        List.singleton_append, List.splitOn_append_cons_self_of_not_mem clean.2.1,
        List.splitOn_eq_singleton clean.2.2]
    simp only [ne_eq, ← String.toList_eq_nil_iff] at filled
    unfold ucsschoolRoleRegex
    rw [parts]
    simp [filled]

/-! ## The OU of a user -/

/-- The DN of a user whose OU is right above the base of the directory. -/
structure OuAboveBase (dn front ou rest : String) : Prop where
  parts : dn = s!"{front},ou={ou},dc={rest}"
  filled : front ≠ "" ∧ ou ≠ "" ∧ rest ≠ ""
  component : ',' ∉ ou.toList
  base : ¬ ",ou=".toList <:+: "dc=".toList ++ rest.toList

/-- No line ends in the part of the DN that the pattern has to match. -/
structure OneLine (front ou rest : String) : Prop where
  front : '\n' ∉ front.toList
  ou : '\n' ∉ ou.toList
  rest : rest.toList.head? ≠ some '\n'

/-- What `ouFromDn` matches behind the OU. -/
def matchBase (ou afterOu : List Char) : Option String := do
  let base ← ",dc=".toList.isPrefixOf? afterOu
  let first ← base.head?
  if first = '\n' then none else return String.ofList ou

/-- What `ouFromDn` matches behind the front. -/
def matchFromOu (afterFront : List Char) : Option String := do
  let rest ← ",ou=".toList.isPrefixOf? afterFront
  lazyGroup '\n' matchBase [] rest

theorem isPrefixOf?_append (front rest : List Char) :
    front.isPrefixOf? (front ++ rest) = some rest :=
  List.isPrefixOf?_eq_some_iff_append_eq.mpr rfl

theorem matchFromOu_ou (text : List Char) :
    matchFromOu (",ou=".toList ++ text) = lazyGroup '\n' matchBase [] text := by
  rw [matchFromOu, isPrefixOf?_append, Option.bind_eq_bind, Option.bind_some]

theorem matchFromOu_eq_none {text : List Char} (other : ¬ ",ou=".toList <+: text) :
    matchFromOu text = none := by
  unfold matchFromOu
  cases found : ",ou=".toList.isPrefixOf? text with
  | none => rfl
  | some rest => exact absurd ⟨rest, List.isPrefixOf?_eq_some_iff_append_eq.mp found⟩ other

theorem matchBase_eq_none {ou text : List Char}
    (other : ∀ rest, ",dc=".toList ++ rest = text → rest.head? = none ∨ rest.head? = some '\n') :
    matchBase ou text = none := by
  unfold matchBase
  cases found : ",dc=".toList.isPrefixOf? text with
  | none => rfl
  | some rest =>
      rcases other rest (List.isPrefixOf?_eq_some_iff_append_eq.mp found) with head | head
      · simp [head]
      · simp [head]

theorem matchBase_of_other {ou text : List Char} {c : Char} (other : c ≠ ',') :
    matchBase ou (c :: text) = none := by
  apply matchBase_eq_none
  intro rest same
  exact absurd (List.cons.inj same).1.symm other

section Dn

variable {dn front ou rest : String}

theorem matchFromOu_of_oneLine (filled : ou ≠ "" ∧ rest ≠ "") (component : ',' ∉ ou.toList)
    (clean : '\n' ∉ ou.toList) (first : rest.toList.head? ≠ some '\n') :
    matchFromOu (",ou=".toList ++ (ou.toList ++ (",dc=".toList ++ rest.toList))) = some ou := by
  rw [matchFromOu_ou]
  apply lazyGroup_some clean
  · simpa [String.toList_eq_nil_iff] using filled.1
  · rintro p q parts - inside
    obtain ⟨c, q, rfl⟩ := List.exists_cons_of_ne_nil inside
    apply matchBase_of_other
    rintro rfl
    exact component (parts ▸ by simp)
  · obtain ⟨c, tail, same⟩ := List.exists_cons_of_ne_nil
      (fun empty => filled.2 (String.toList_eq_nil_iff.mp empty) : rest.toList ≠ [])
    rw [matchBase, isPrefixOf?_append, Option.bind_eq_bind, Option.bind_some]
    rw [same] at first ⊢
    have other : c ≠ '\n' := by simpa using first
    simp [other]

/-- A line end in the OU, or right behind `dc=`. -/
theorem matchFromOu_of_lineEnd (component : ',' ∉ ou.toList)
    (lineEnd : '\n' ∈ ou.toList ∨ rest.toList.head? = some '\n') :
    matchFromOu (",ou=".toList ++ (ou.toList ++ (",dc=".toList ++ rest.toList))) = none := by
  rw [matchFromOu_ou]
  by_cases inOu : '\n' ∈ ou.toList
  · obtain ⟨init, tail, parts, clean⟩ := List.eq_append_cons_of_mem inOu
    rw [parts, List.append_assoc, List.cons_append]
    apply lazyGroup_none clean
    rintro p q rfl -
    cases q with
    | nil => exact matchBase_of_other (by decide)
    | cons c q =>
        apply matchBase_of_other
        rintro rfl
        exact component (parts ▸ by simp)
  · have head : rest.toList.head? = some '\n' := lineEnd.resolve_left inOu
    obtain ⟨tail, same⟩ : ∃ tail, rest.toList = '\n' :: tail := by
      cases chars : rest.toList with
      | nil => simp [chars] at head
      | cons c tail =>
          obtain rfl : c = '\n' := by simpa [chars] using head
          exact ⟨tail, rfl⟩
    rw [same, ← List.append_assoc]
    apply lazyGroup_none
    · simp [inOu]
    · intro p q parts nonempty
      apply matchBase_eq_none
      intro base starts
      -- the only comma is the one in front of `dc=`
      have atComma (same : q = ",dc=".toList) : base.head? = none ∨ base.head? = some '\n' := by
        rw [same] at starts
        rw [List.append_cancel_left starts]
        exact Or.inr rfl
      rcases List.append_eq_append_iff.mp parts with ⟨m, rfl, same⟩ | ⟨m, same, rfl⟩
      · cases m with
        | nil => exact atComma same.symm
        | cons c m =>
            have tail : "dc=".toList = m ++ q := (List.cons.inj same).2
            have clean : ',' ∉ q := by
              intro comma
              have inTail : ',' ∈ "dc=".toList := tail ▸ List.mem_append_right m comma
              exact absurd inTail (by decide)
            cases q with
            | nil => exact absurd (List.cons.inj starts).1 (by decide)
            | cons d q => exact absurd ((List.cons.inj starts).1 ▸ List.mem_cons_self) clean
      · cases m with
        | nil => exact atComma rfl
        | cons c m =>
            have comma : ',' = c := (List.cons.inj starts).1
            exact absurd (same ▸ comma ▸ by simp) component

/-- Behind the OU the pattern finds no other one. -/
theorem matchFromOu_later (component : ',' ∉ ou.toList)
    (base : ¬ ",ou=".toList <:+: "dc=".toList ++ rest.toList) {p q : List Char}
    (parts : ",ou=".toList ++ (ou.toList ++ (",dc=".toList ++ rest.toList)) = p ++ q)
    (nonempty : p ≠ []) : matchFromOu q = none := by
  apply matchFromOu_eq_none
  intro starts
  have atBase (same : q = ",dc=".toList ++ rest.toList) : False := by
    obtain ⟨after, same'⟩ := starts
    rw [same] at same'
    exact absurd (List.cons.inj (List.cons.inj same').2).1 (by decide)
  rw [← List.append_assoc] at parts
  rcases List.append_eq_append_iff.mp parts with ⟨m, rfl, same⟩ | ⟨m, same, rfl⟩
  · cases m with
    | nil => exact atBase same.symm
    | cons c m =>
        have tail : "dc=".toList ++ rest.toList = m ++ q := (List.cons.inj same).2
        exact base (tail ▸ starts.isInfix.trans (List.suffix_append m q).isInfix)
  · cases m with
    | nil => exact atBase rfl
    | cons c m =>
        have inside : ",ou=".toList <+: c :: m :=
          prefix_of_prefix_append (by decide) (by simp) starts
        have comma : ',' ∈ c :: m := inside.mem (by decide)
        obtain ⟨d, p, rfl⟩ := List.exists_cons_of_ne_nil nonempty
        have tail : "ou=".toList ++ ou.toList = p ++ (c :: m) := (List.cons.inj same).2
        rcases List.mem_append.mp (tail ▸ List.mem_append_right p comma) with early | late
        · exact absurd early (by decide)
        · exact component late

theorem OuAboveBase.toList (dn_parts : OuAboveBase dn front ou rest) :
    dn.toList = front.toList ++ (",ou=".toList ++ (ou.toList ++ (",dc=".toList ++ rest.toList))) := by
  rw [dn_parts.parts]
  simp [toString]

theorem ouFromDn_of_oneLine (dn_parts : OuAboveBase dn front ou rest)
    (oneLine : OneLine front ou rest) : ouFromDn dn = some ou := by
  change greedyGroup '\n' matchFromOu dn.toList = _
  rw [dn_parts.toList]
  apply greedyGroup_some
  · simpa [String.toList_eq_nil_iff] using dn_parts.filled.1
  · exact oneLine.front
  · exact matchFromOu_of_oneLine dn_parts.filled.2 dn_parts.component oneLine.ou oneLine.rest
  · intro p q
    exact matchFromOu_later dn_parts.component dn_parts.base

/-- A line end keeps the pattern from the only OU. -/
theorem ouFromDn_of_lineEnd (dn_parts : OuAboveBase dn front ou rest)
    (alone : ¬ ",ou=".toList <:+: front.toList) (lineEnd : ¬ OneLine front ou rest) :
    ouFromDn dn = none := by
  change greedyGroup '\n' matchFromOu dn.toList = _
  rw [dn_parts.toList]
  apply greedyGroup_none
  intro p q parts nonempty absent
  have atOu (same : p = front.toList)
      (same' : q = ",ou=".toList ++ (ou.toList ++ (",dc=".toList ++ rest.toList))) :
      matchFromOu q = none := by
    rw [same']
    apply matchFromOu_of_lineEnd dn_parts.component
    by_contra clean
    rw [not_or] at clean
    exact lineEnd ⟨same ▸ absent, clean.1, clean.2⟩
  rcases List.append_eq_append_iff.mp parts with ⟨m, rfl, same⟩ | ⟨m, same, rfl⟩
  · by_cases empty : m = []
    · subst empty
      exact atOu (List.append_nil _) same.symm
    · exact matchFromOu_later dn_parts.component dn_parts.base same empty
  · by_cases empty : m = []
    · subst empty
      exact atOu (by rw [same, List.append_nil]) rfl
    · apply matchFromOu_eq_none
      intro starts
      have inside : ",ou=".toList <+: m := prefix_of_prefix_append (by decide) empty starts
      exact alone (same ▸ inside.isInfix.trans (List.suffix_append p m).isInfix)

end Dn

end IdConnector
