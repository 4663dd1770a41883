import IdConnector.Library.Action
import IdConnector.Library.Text

/-! # Saving users whose relatives do not exist yet

A target rejects a user with legal guardians or legal wards that do not exist there.
`save_user_with_retry` finds out from the text of the reason which of the two attributes is
concerned, drops from this one what does not exist, and saves once more.
-/

namespace IdConnector

open Library Library.Action Library.Text

/-- The attributes that hold DNs of other users. -/
inductive Relatives where
  | legalGuardians
  | legalWards

def Relatives.attribute : Relatives → String
  | .legalGuardians => "legal_guardians"
  | .legalWards => "legal_wards"

/-- A user of the Kelvin client, with all its other attributes in `rest`. -/
structure KelvinUser (Rest : Type) where
  legalGuardians : List String
  legalWards : List String
  rest : Rest
  deriving DecidableEq

/-- What `save_user_with_retry` raises. -/
inductive SaveError where
  | invalidRequest (reason : String)
  /-- `LDAPInvalidDnError` of `parse_dn` -/
  | invalidDn (dn : String)
  | indexError
  deriving DecidableEq

/-- The user object that is being saved, and what the target has stored of it. -/
structure Saving (Rest : Type) where
  user : KelvinUser Rest
  saved : Option (KelvinUser Rest)
  deriving DecidableEq

/-- A target that rejects users with missing relatives. -/
structure RelativesTarget (Rest : Type) where
  /-- `parse_dn`: type, value and separator of every component; nothing if it raises -/
  parseDn : String → Option (List (String × String × String))
  /-- `UserResource(session=self.session).exists(name=uid)` -/
  userExists : String → Bool
  /-- `exc.reason` where this user is rejected -/
  reason : KelvinUser Rest → String

variable {Rest : Type}

namespace KelvinUser

def relatives (user : KelvinUser Rest) : Relatives → List String
  | .legalGuardians => user.legalGuardians
  | .legalWards => user.legalWards

def setRelatives (user : KelvinUser Rest) (dns : List String) : Relatives → KelvinUser Rest
  | .legalGuardians => { user with legalGuardians := dns }
  | .legalWards => { user with legalWards := dns }

@[simp] theorem relatives_setRelatives (user : KelvinUser Rest) (dns : List String)
    (which : Relatives) : (user.setRelatives dns which).relatives which = dns := by
  cases which <;> rfl

theorem relatives_setRelatives_other (user : KelvinUser Rest) (dns : List String)
    {which other : Relatives} (different : other ≠ which) :
    (user.setRelatives dns which).relatives other = user.relatives other := by
  cases which <;> cases other <;> first | rfl | exact absurd rfl different

@[simp] theorem setRelatives_setRelatives (user : KelvinUser Rest) (dns dns' : List String)
    (which : Relatives) :
    (user.setRelatives dns which).setRelatives dns' which = user.setRelatives dns' which := by
  cases which <;> rfl

@[simp] theorem setRelatives_relatives (user : KelvinUser Rest) (which : Relatives) :
    user.setRelatives (user.relatives which) which = user := by
  cases which <;> rfl

end KelvinUser

def Saving.setRelatives (s : Saving Rest) (dns : List String) (which : Relatives) : Saving Rest :=
  { s with user := s.user.setRelatives dns which }

@[simp] theorem Saving.user_setRelatives (s : Saving Rest) (dns : List String)
    (which : Relatives) : (s.setRelatives dns which).user = s.user.setRelatives dns which := rfl

@[simp] theorem Saving.setRelatives_setRelatives (s : Saving Rest) (dns dns' : List String)
    (which : Relatives) :
    (s.setRelatives dns which).setRelatives dns' which = s.setRelatives dns' which := by
  simp [Saving.setRelatives]

@[simp] theorem Saving.setRelatives_relatives (s : Saving Rest) (which : Relatives) :
    s.setRelatives (s.user.relatives which) which = s := by
  simp [Saving.setRelatives]

namespace RelativesTarget

variable (target : RelativesTarget Rest)

/-- `parse_dn(dn)[0][1]` -/
def uid (dn : String) : Except SaveError String :=
  match target.parseDn dn with
  | none => .error (.invalidDn dn)
  | some [] => .error .indexError
  | some ((_, value, _) :: _) => .ok value

/-- The DN belongs to a user that exists at the target. -/
def resolves (dn : String) : Bool :=
  match target.uid dn with
  | .ok uid => target.userExists uid
  | .error _ => false

def missing (dns : List String) : List String :=
  dns.filter fun dn => !target.resolves dn

/-- `user.save()` -/
def save : Action (Saving Rest) SaveError Unit := do
  let s ← get
  if target.missing s.user.legalGuardians = [] ∧ target.missing s.user.legalWards = [] then
    set { s with saved := some s.user }
  else
    throw (.invalidRequest (target.reason s.user))

/-- One round of the loop over the old DNs. -/
def keep (which : Relatives) (dn : String) : Action (Saving Rest) SaveError Unit := do
  let uid ← ofExcept (target.uid dn)
  if target.userExists uid then
    modify fun s => s.setRelatives (s.user.relatives which ++ [dn]) which

/-- Drop the users that do not exist from one attribute. -/
def keepExisting (which : Relatives) : Action (Saving Rest) SaveError Unit := do
  let old := (← get).user.relatives which
  modify fun s => s.setRelatives [] which
  forM old (target.keep which)

/-- The second attempt, for one attribute. -/
def retry (which : Relatives) : Action (Saving Rest) SaveError Unit := do
  target.keepExisting which
  target.save

def saveUserWithRetry : Action (Saving Rest) SaveError Unit :=
  tryCatch target.save fun
    | .invalidRequest reason =>
        if OccursIn "legal_guardians" reason then target.retry .legalGuardians
        else if OccursIn "legal_wards" reason then target.retry .legalWards
        else throw (.invalidRequest reason)
    | raised => throw raised

/-- A reason names every attribute with missing users, and their DNs. -/
structure NamesMissing : Prop where
  attributes : ∀ (user : KelvinUser Rest) (which : Relatives),
    target.missing (user.relatives which) ≠ [] → OccursIn which.attribute (target.reason user)
  dns : ∀ (user : KelvinUser Rest) (which : Relatives),
    ∀ dn ∈ target.missing (user.relatives which), OccursIn dn (target.reason user)

/-- The user with those relatives that exist. -/
def restricted (user : KelvinUser Rest) : KelvinUser Rest :=
  { user with
    legalGuardians := user.legalGuardians.filter target.resolves
    legalWards := user.legalWards.filter target.resolves }

/-- `parse_dn` reads all DNs, and one attribute at most needs another attempt, the one that is
    tried. -/
def RetrySuffices (user : KelvinUser Rest) : Prop :=
  (∀ dn ∈ user.legalGuardians ++ user.legalWards, (target.uid dn).isOk) ∧
    (target.missing user.legalWards = [] ∨
      target.missing user.legalGuardians = [] ∧
        ¬ OccursIn "legal_guardians" (target.reason user))

/-- The attribute that gets another attempt if the user is rejected. -/
def tried (user : KelvinUser Rest) : Relatives :=
  if OccursIn "legal_guardians" (target.reason user) then .legalGuardians else .legalWards

/-- The target accepts the user after another attempt for this attribute. -/
def Helps (which : Relatives) (user : KelvinUser Rest) : Prop :=
  (∀ dn ∈ user.relatives which, (target.uid dn).isOk) ∧
    ∀ other, other ≠ which → target.missing (user.relatives other) = []

variable {target}

/-! ## What exists -/

theorem isOk_of_resolves {dn : String} (resolves : target.resolves dn = true) :
    (target.uid dn).isOk = true := by
  unfold RelativesTarget.resolves at resolves
  cases read : target.uid dn with
  | ok uid => rfl
  | error raised => simp [read] at resolves

theorem missing_eq_nil_iff {dns : List String} :
    target.missing dns = [] ↔ ∀ dn ∈ dns, target.resolves dn = true := by
  simp [missing, List.filter_eq_nil_iff]

theorem filter_of_missing_nil {dns : List String} (none : target.missing dns = []) :
    dns.filter target.resolves = dns :=
  List.filter_eq_self.mpr (missing_eq_nil_iff.mp none)

theorem missing_filter (dns : List String) : target.missing (dns.filter target.resolves) = [] :=
  missing_eq_nil_iff.mpr fun _ member => (List.mem_filter.mp member).2

theorem isOk_of_missing_nil {dns : List String} (none : target.missing dns = []) :
    ∀ dn ∈ dns, (target.uid dn).isOk = true :=
  fun dn member => isOk_of_resolves (missing_eq_nil_iff.mp none dn member)

/-! ## One attempt -/

theorem exec_save_accepted {s : Saving Rest}
    (resolved : ∀ which, target.missing (s.user.relatives which) = []) :
    exec target.save s = (.ok ⟨⟩, { s with saved := some s.user }) := by
  rw [save, exec_bind_ok _ (exec_get s),
    if_pos ⟨resolved .legalGuardians, resolved .legalWards⟩, exec_set]

theorem exec_save_rejected {s : Saving Rest} {which : Relatives}
    (rejected : target.missing (s.user.relatives which) ≠ []) :
    exec target.save s = (.error (.invalidRequest (target.reason s.user)), s) := by
  rw [save, exec_bind_ok _ (exec_get s), if_neg, exec_throw]
  rintro ⟨guardians, wards⟩
  cases which with
  | legalGuardians => exact rejected guardians
  | legalWards => exact rejected wards

/-! ## Dropping what does not exist -/

theorem exec_keep {which : Relatives} {dn : String} (read : (target.uid dn).isOk = true)
    (s : Saving Rest) :
    exec (target.keep which dn) s =
      (.ok ⟨⟩, s.setRelatives (s.user.relatives which ++ [dn].filter target.resolves) which) := by
  cases parsed : target.uid dn with
  | error raised => simp [parsed, Except.isOk, Except.toBool] at read
  | ok uid =>
      have resolves : target.resolves dn = target.userExists uid := by
        simp [RelativesTarget.resolves, parsed]
      rw [keep, parsed, exec_bind_ok _ (exec_ofExcept _ s)]
      cases there : target.userExists uid with
      | true => simp [resolves, there]
      | false => simp [resolves, there]

/-- The loop appends the DNs of existing users in their order. -/
theorem exec_forM_keep {which : Relatives} {dns : List String}
    (read : ∀ dn ∈ dns, (target.uid dn).isOk = true) (s : Saving Rest) :
    exec (forM dns (target.keep which)) s =
      (.ok ⟨⟩, s.setRelatives (s.user.relatives which ++ dns.filter target.resolves) which) := by
  induction dns generalizing s with
  | nil => simp
  | cons dn rest ih =>
      obtain ⟨readFirst, readRest⟩ := List.forall_mem_cons.mp read
      have split : (dn :: rest).filter target.resolves =
          [dn].filter target.resolves ++ rest.filter target.resolves := by
        rw [← List.filter_append, List.singleton_append]
      rw [List.forM_cons, exec_bind_ok _ (exec_keep readFirst s), ih readRest, split]
      simp

theorem exec_forM_keep_raises {which : Relatives} {dns : List String}
    (unread : ¬ ∀ dn ∈ dns, (target.uid dn).isOk = true) (s : Saving Rest) :
    ∃ raised s', exec (forM dns (target.keep which)) s = (.error raised, s') := by
  induction dns generalizing s with
  | nil => simp at unread
  | cons dn rest ih =>
      rw [List.forM_cons]
      cases parsed : target.uid dn with
      | error raised =>
          refine ⟨raised, s, exec_bind_error _ ?_⟩
          rw [keep, parsed, exec_bind_error _ (exec_ofExcept _ s)]
      | ok uid =>
          have readFirst : (target.uid dn).isOk = true := by rw [parsed]; rfl
          rw [exec_bind_ok _ (exec_keep readFirst s)]
          exact ih (fun readRest => unread (List.forall_mem_cons.mpr ⟨readFirst, readRest⟩)) _

theorem exec_keepExisting_loop (which : Relatives) (s : Saving Rest) :
    exec (target.keepExisting which) s =
      exec (forM (s.user.relatives which) (target.keep which)) (s.setRelatives [] which) := by
  rw [keepExisting, exec_bind_ok _ (exec_get s), exec_bind_ok _ (exec_modify _ s)]

theorem exec_keepExisting {which : Relatives} {s : Saving Rest}
    (read : ∀ dn ∈ s.user.relatives which, (target.uid dn).isOk = true) :
    exec (target.keepExisting which) s =
      (.ok ⟨⟩, s.setRelatives ((s.user.relatives which).filter target.resolves) which) := by
  rw [exec_keepExisting_loop, exec_forM_keep read]
  simp

theorem exec_keepExisting_raises {which : Relatives} {s : Saving Rest}
    (unread : ¬ ∀ dn ∈ s.user.relatives which, (target.uid dn).isOk = true) :
    ∃ raised s', exec (target.keepExisting which) s = (.error raised, s') := by
  rw [exec_keepExisting_loop]
  exact exec_forM_keep_raises unread _

/-! ## The second attempt -/

theorem setRelatives_eq_restricted {user : KelvinUser Rest} {which : Relatives}
    (others : ∀ other, other ≠ which → target.missing (user.relatives other) = []) :
    user.setRelatives ((user.relatives which).filter target.resolves) which =
      target.restricted user := by
  cases which with
  | legalGuardians =>
      have wards := filter_of_missing_nil (others .legalWards nofun)
      simp only [KelvinUser.relatives] at wards
      simp only [KelvinUser.setRelatives, KelvinUser.relatives, restricted, wards]
  | legalWards =>
      have guardians := filter_of_missing_nil (others .legalGuardians nofun)
      simp only [KelvinUser.relatives] at guardians
      simp only [KelvinUser.setRelatives, KelvinUser.relatives, restricted, guardians]

theorem restricted_of_resolved {user : KelvinUser Rest}
    (resolved : ∀ which, target.missing (user.relatives which) = []) :
    target.restricted user = user := by
  have guardians := filter_of_missing_nil (resolved .legalGuardians)
  rw [← setRelatives_eq_restricted fun other (_ : other ≠ .legalGuardians) => resolved other,
    guardians, KelvinUser.setRelatives_relatives]

theorem exec_retry {which : Relatives} {s : Saving Rest} (helps : target.Helps which s.user) :
    exec (target.retry which) s =
      (.ok ⟨⟩, ⟨target.restricted s.user, some (target.restricted s.user)⟩) := by
  obtain ⟨read, others⟩ := helps
  rw [retry, exec_bind_ok _ (exec_keepExisting read), exec_save_accepted]
  · simp only [Saving.setRelatives, setRelatives_eq_restricted others]
  · intro other
    rw [Saving.user_setRelatives]
    by_cases same : other = which
    · rw [same, KelvinUser.relatives_setRelatives]
      exact missing_filter _
    · rw [KelvinUser.relatives_setRelatives_other _ _ same]
      exact others other same

theorem exec_retry_raises {which : Relatives} {s : Saving Rest}
    (helpless : ¬ target.Helps which s.user) :
    ∃ raised s', exec (target.retry which) s = (.error raised, s') := by
  by_cases read : ∀ dn ∈ s.user.relatives which, (target.uid dn).isOk = true
  · obtain ⟨other, different, missing⟩ :
        ∃ other, other ≠ which ∧ target.missing (s.user.relatives other) ≠ [] := by
      by_contra none
      exact helpless ⟨read, fun other different => by_contra fun missing =>
        none ⟨other, different, missing⟩⟩
    rw [← KelvinUser.relatives_setRelatives_other s.user _ different] at missing
    rw [retry, exec_bind_ok _ (exec_keepExisting read), exec_save_rejected missing]
    exact ⟨_, _, rfl⟩
  · obtain ⟨raised, s', raises⟩ := exec_keepExisting_raises read
    exact ⟨raised, s', exec_bind_error _ raises⟩

/-! ## Both attempts -/

theorem exec_saveUserWithRetry_accepted {s : Saving Rest}
    (resolved : ∀ which, target.missing (s.user.relatives which) = []) :
    exec target.saveUserWithRetry s = (.ok ⟨⟩, { s with saved := some s.user }) := by
  rw [saveUserWithRetry, exec_tryCatch, exec_save_accepted resolved]

/-- A rejected user gets another attempt for the attribute that the reason names first. -/
theorem exec_saveUserWithRetry_rejected (names : target.NamesMissing) {s : Saving Rest}
    {which : Relatives} (rejected : target.missing (s.user.relatives which) ≠ []) :
    exec target.saveUserWithRetry s = exec (target.retry (target.tried s.user)) s := by
  rw [saveUserWithRetry, exec_tryCatch, exec_save_rejected rejected]
  have named := names.attributes s.user which rejected
  unfold tried
  dsimp only
  split
  next => rfl
  next unnamed =>
    cases which with
    | legalGuardians => exact absurd named unnamed
    | legalWards =>
        rw [if_pos]
        exact named

theorem retrySuffices_of_resolved {user : KelvinUser Rest}
    (resolved : ∀ which, target.missing (user.relatives which) = []) :
    target.RetrySuffices user := by
  refine ⟨fun dn member => ?_, Or.inl (resolved .legalWards)⟩
  rcases List.mem_append.mp member with guardian | ward
  · exact isOk_of_missing_nil (resolved .legalGuardians) dn guardian
  · exact isOk_of_missing_nil (resolved .legalWards) dn ward

theorem helps_tried_iff (names : target.NamesMissing) (user : KelvinUser Rest) :
    target.Helps (target.tried user) user ↔ target.RetrySuffices user := by
  unfold tried Helps RetrySuffices
  simp only [List.forall_mem_append]
  split
  next named =>
    simp only [named, not_true_eq_false, and_false, or_false]
    constructor
    · rintro ⟨guardians, others⟩
      have wards := others .legalWards nofun
      exact ⟨⟨guardians, isOk_of_missing_nil wards⟩, wards⟩
    · rintro ⟨⟨guardians, -⟩, wards⟩
      refine ⟨guardians, fun other different => ?_⟩
      cases other with
      | legalGuardians => exact absurd rfl different
      | legalWards => exact wards
  next unnamed =>
    have guardians : target.missing user.legalGuardians = [] :=
      by_contra fun missing => unnamed (names.attributes user .legalGuardians missing)
    constructor
    · rintro ⟨wards, -⟩
      exact ⟨⟨isOk_of_missing_nil guardians, wards⟩, Or.inr ⟨guardians, unnamed⟩⟩
    · rintro ⟨⟨-, wards⟩, -⟩
      refine ⟨wards, fun other different => ?_⟩
      cases other with
      | legalGuardians => exact guardians
      | legalWards => exact absurd rfl different

/-- The user is saved with the relatives that exist exactly if the one retry is enough. -/
theorem saved_with_existing_iff (names : target.NamesMissing) (s : Saving Rest) :
    exec target.saveUserWithRetry s =
        (.ok ⟨⟩, ⟨target.restricted s.user, some (target.restricted s.user)⟩) ↔
      target.RetrySuffices s.user := by
  by_cases resolved : ∀ which, target.missing (s.user.relatives which) = []
  · rw [exec_saveUserWithRetry_accepted resolved, restricted_of_resolved resolved]
    exact iff_of_true rfl (retrySuffices_of_resolved resolved)
  · obtain ⟨which, rejected⟩ := not_forall.mp resolved
    rw [exec_saveUserWithRetry_rejected names rejected, ← helps_tried_iff names]
    constructor
    · intro saved
      by_contra helpless
      obtain ⟨raised, s', raises⟩ := exec_retry_raises helpless
      rw [raises] at saved
      cases saved
    · exact exec_retry

/-- A single retry is not enough for both attributes. -/
theorem both_missing_raises (names : target.NamesMissing) {s : Saving Rest}
    (guardians : target.missing s.user.legalGuardians ≠ [])
    (wards : target.missing s.user.legalWards ≠ []) :
    ∃ raised s', exec target.saveUserWithRetry s = (.error raised, s') := by
  have rejected : target.missing (s.user.relatives .legalGuardians) ≠ [] := guardians
  rw [exec_saveUserWithRetry_rejected names rejected]
  apply exec_retry_raises
  rintro ⟨-, others⟩
  cases tried : target.tried s.user with
  | legalGuardians =>
      rw [tried] at others
      exact wards (others .legalWards nofun)
  | legalWards =>
      rw [tried] at others
      exact guardians (others .legalGuardians nofun)

/-- The name of a missing ward can mislead the test for the guardians. -/
theorem not_retrySuffices_of_ward (names : target.NamesMissing) {user : KelvinUser Rest}
    {dn : String} (missing : dn ∈ target.missing user.legalWards)
    (named : OccursIn "legal_guardians" dn) : ¬ target.RetrySuffices user := by
  rintro ⟨-, resolved | ⟨-, unnamed⟩⟩
  · rw [resolved] at missing
    exact absurd missing List.not_mem_nil
  · exact unnamed (named.trans (names.dns user .legalWards dn missing))

end RelativesTarget

section Examples

/-- The components of a DN without escaped characters. -/
def dnComponents : List (List Char) → Option (List (String × String × String))
  | [] => some []
  | part :: rest => do
      let (type, value) ← splitOnce '=' part
      let separator := if rest = [] then "" else ","
      return (String.ofList type, String.ofList value, separator) :: (← dnComponents rest)

def dnLines : List String → String
  | [] => ""
  | dn :: rest => "\n" ++ (dn ++ dnLines rest)

/-- What is said about an attribute, if users are missing. -/
def missingEntry (which : Relatives) (words : String) (dns : List String) : String :=
  if dns = [] then ""
  else "'" ++ (which.attribute ++ ("': ['The following " ++ (words ++ (" do not exist:" ++
    (dnLines dns ++ "']")))))

def badRequest (guardians wards : List String) : String :=
  "'Bad Request' (\x7b" ++ (missingEntry .legalGuardians "legal guardians" guardians ++
    ((if guardians = [] ∨ wards = [] then "" else ", ") ++
      (missingEntry .legalWards "legal wards" wards ++ "\x7d)")))

/-- A target where these users exist. -/
def strictTarget (users : List String) : RelativesTarget Unit :=
  let known : RelativesTarget Unit :=
    { parseDn := fun dn => dnComponents (dn.toList.splitOn ',')
      userExists := fun uid => decide (uid ∈ users)
      reason := fun _ => "" }
  { known with
    reason := fun user =>
      badRequest (known.missing user.legalGuardians) (known.missing user.legalWards) }

theorem mem_dnLines {dn : String} {dns : List String} (member : dn ∈ dns) :
    OccursIn dn (dnLines dns) := by
  induction dns with
  | nil => exact absurd member List.not_mem_nil
  | cons first rest ih =>
      apply OccursIn.append_left
      rcases List.mem_cons.mp member with rfl | later
      · exact (OccursIn.refl dn).append_right _
      · exact (ih later).append_left _

theorem attribute_missingEntry {which : Relatives} {words : String} {dns : List String}
    (missing : dns ≠ []) : OccursIn which.attribute (missingEntry which words dns) := by
  rw [missingEntry, if_neg missing]
  exact ((OccursIn.refl _).append_right _).append_left _

theorem mem_missingEntry {which : Relatives} {words dn : String} {dns : List String}
    (member : dn ∈ dns) : OccursIn dn (missingEntry which words dns) := by
  rw [missingEntry, if_neg (List.ne_nil_of_mem member)]
  iterate 5 apply OccursIn.append_left
  exact (mem_dnLines member).append_right _

theorem occursIn_badRequest {part : String} {guardians wards : List String}
    (occurs : OccursIn part (missingEntry .legalGuardians "legal guardians" guardians) ∨
      OccursIn part (missingEntry .legalWards "legal wards" wards)) :
    OccursIn part (badRequest guardians wards) := by
  apply OccursIn.append_left
  rcases occurs with guardian | ward
  · exact guardian.append_right _
  · exact ((ward.append_right _).append_left _).append_left _

theorem strictTarget_names (users : List String) : (strictTarget users).NamesMissing where
  attributes user which missing := by
    apply occursIn_badRequest
    cases which with
    | legalGuardians => exact Or.inl (attribute_missingEntry missing)
    | legalWards => exact Or.inr (attribute_missingEntry missing)
  dns user which dn member := by
    apply occursIn_badRequest
    cases which with
    | legalGuardians => exact Or.inl (mem_missingEntry member)
    | legalWards => exact Or.inr (mem_missingEntry member)

def annaDn : String := "uid=anna,cn=users,dc=uni,dc=dtr"

def bertDn : String := "uid=bert,cn=users,dc=uni,dc=dtr"

/-- One legal guardian is missing, and the legal ward exists. -/
theorem missing_guardian_is_dropped :
    let target := strictTarget ["anna"]
    let user : KelvinUser Unit := ⟨[bertDn, annaDn], [annaDn], ()⟩
    let saved : KelvinUser Unit := ⟨[annaDn], [annaDn], ()⟩
    exec target.saveUserWithRetry ⟨user, none⟩ = (.ok ⟨⟩, ⟨saved, some saved⟩) := by
  intro target user saved
  have enough : target.RetrySuffices user := ⟨by decide +kernel, Or.inl (by decide +kernel)⟩
  have restricted : target.restricted user = saved := by decide +kernel
  rw [← restricted]
  exact (RelativesTarget.saved_with_existing_iff (strictTarget_names _) ⟨user, none⟩).mpr enough

/-- One user is missing in each of the lists. -/
theorem missing_guardian_and_ward :
    let target := strictTarget ["anna"]
    let user : KelvinUser Unit := ⟨[annaDn, bertDn], [bertDn, annaDn], ()⟩
    target.NamesMissing ∧
      exec target.saveUserWithRetry ⟨user, none⟩ ≠
        (.ok ⟨⟩, ⟨target.restricted user, some (target.restricted user)⟩) := by
  intro target user
  have names := strictTarget_names ["anna"]
  have guardian : target.missing user.legalGuardians ≠ [] := by decide +kernel
  have ward : target.missing user.legalWards ≠ [] := by decide +kernel
  obtain ⟨raised, s', raises⟩ := RelativesTarget.both_missing_raises names
    (s := ⟨user, none⟩) guardian ward
  refine ⟨names, ?_⟩
  rw [raises]
  nofun

end Examples

end IdConnector
