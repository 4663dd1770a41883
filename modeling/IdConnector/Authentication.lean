import IdConnector.LdapAccess

/-! # Logging in and using a token

A login looks for the user, checks its membership in the admin group and binds with its
password, in three separate searches; then it issues a token for some time. A request with
a token only looks for the user again. Everything else may change in between: the members of
the group, the users, their flags and the time. `accepted_by_current_admin` says for which
changes the users of the API still are admins.
-/

namespace IdConnector

open Library LdapAccess

/-- A token that the service has signed, by its payload. -/
structure Token where
  sub : Option String
  exp : Int
  deriving Repr, DecidableEq

/-- A login that has found the DN of the user, and may have passed the check of the group. -/
structure Login where
  username : String
  password : String
  dn : String
  checked : Bool
  deriving Repr, DecidableEq

/-- Times are in seconds. -/
structure AuthState where
  ldap : Ldap
  now : Int
  logins : List Login
  issued : List Token

/-- What a request to the API ends with instead of a response. -/
inductive HttpError where
  /-- status 401 -/
  | unauthorized (detail : String)
  /-- An exception that no handler catches. -/
  | internal (raised : PyError)
  deriving DecidableEq

section TokenAuth

variable [CaseMapping]

/-! ## Requests -/

def credentialsException : HttpError := .unauthorized "Could not validate credentials"

/-- `jwt.decode`: a token that the service has signed and that has not expired. -/
def jwtDecode (s : AuthState) (token : Token) : Option Token :=
  if token ∈ s.issued ∧ s.now < token.exp then some token else none

def getCurrentUser (s : AuthState) (token : Token) : Except HttpError User := do
  let some payload := jwtDecode s token | throw credentialsException
  let some username := payload.sub | throw credentialsException
  match getUser s.ldap s.now none username false with
  | .ok (some user) => return user
  | .ok none => throw credentialsException
  | .error raised => throw (.internal raised)

def getCurrentActiveUser (s : AuthState) (token : Token) : Except HttpError User := do
  let currentUser ← getCurrentUser s token
  if currentUser.disabled then throw (.unauthorized "Inactive user")
  return currentUser

/-! ## Logins -/

/-- The steps of logins and what happens around them. A login may end early at any point. -/
inductive AuthEvent where
  | lookUp (username password : String)
  | checkGroup (login : Nat)
  | issueToken (login : Nat) (ttl : Int)
  | giveUp (login : Nat)
  | changeLdap (ldap : Ldap)
  | wait (seconds : Nat)

/-- `create_access_token` for the `sub` of a user; the time to live is in minutes. -/
def createAccessToken (now : Int) (sub : String) (ttl : Int) : Token :=
  ⟨some sub, now + ttl * 60⟩

/-- `login_for_access_token` with `check_auth_and_get_user`, cut where other tasks may run. -/
def authStep (s : AuthState) : AuthEvent → AuthState
  | .lookUp username password =>
      match getDnOfUser s.ldap username with
      | .ok dn =>
          if dn = "" then s else { s with logins := s.logins ++ [⟨username, password, dn, false⟩] }
      | .error _ => s
  | .checkGroup i =>
      match s.logins[i]? with
      | some ⟨username, password, dn, false⟩ =>
          if dn ∈ adminGroupMembers s.ldap then
            { s with logins := s.logins.set i ⟨username, password, dn, true⟩ }
          else { s with logins := s.logins.eraseIdx i }
      | _ => s
  | .issueToken i ttl =>
      match s.logins[i]? with
      | some ⟨username, password, dn, true⟩ =>
          match getUser s.ldap s.now (some (dn, password)) username false with
          | .ok (some user) =>
              { s with
                logins := s.logins.eraseIdx i
                issued := createAccessToken s.now user.username ttl :: s.issued }
          | _ => { s with logins := s.logins.eraseIdx i }
      | _ => s
  | .giveUp i => { s with logins := s.logins.eraseIdx i }
  | .changeLdap ldap => { s with ldap }
  | .wait seconds => { s with now := s.now + seconds }

def authRun (s : AuthState) (events : List AuthEvent) : AuthState := events.foldl authStep s

/-! ## Who is an admin -/

/-- The user exists, is not disabled and is a member of the admin group. -/
def CurrentAdmin (s : AuthState) (user : User) : Prop :=
  ∃ entry ∈ s.ldap.entries, entry.uid = user.username ∧ entry.dn = user.dn ∧
    userIsDisabled s.now entry = .ok false ∧ entry.dn ∈ adminGroupMembers s.ldap

/-- Whoever is found under the name and enabled, is a member of the admin group. -/
def AdminsNamed (ldap : Ldap) (now : Int) (name : String) : Prop :=
  ∀ entry, search ldap none name false = [entry] → userIsDisabled now entry = .ok false →
    entry.dn ∈ adminGroupMembers ldap

/-- Under the names of the unexpired tokens there are only admins. -/
def TokensNameAdmins (s : AuthState) (ldap : Ldap) : Prop :=
  ∀ token ∈ s.issued, s.now < token.exp → ∀ name, token.sub = some name →
    AdminsNamed ldap s.now name

/-- Under the names of the logins there are only admins, or the user whose membership is still
    to be checked. -/
def LoginsNameAdmins (s : AuthState) (ldap : Ldap) : Prop :=
  ∀ login ∈ s.logins, ∀ entry, search ldap none login.username false = [entry] →
    userIsDisabled s.now entry = .ok false →
      entry.dn ∈ adminGroupMembers ldap ∨ login.checked = false ∧ entry.dn = login.dn

/-- A change of LDAP leaves nobody with a token or a login outside of the admin group. -/
def KeepsAdmins (s : AuthState) : AuthEvent → Prop
  | .changeLdap ldap => TokensNameAdmins s ldap ∧ LoginsNameAdmins s ldap
  | _ => True

/-- All changes in a run are such changes. -/
def RunKeepsAdmins : AuthState → List AuthEvent → Prop
  | _, [] => True
  | s, event :: rest => KeepsAdmins s event ∧ RunKeepsAdmins (authStep s event) rest

/-! ## Accepted requests -/

theorem getCurrentActiveUser_ok {s : AuthState} {token : Token} {user : User}
    (accepted : getCurrentActiveUser s token = .ok user) :
    token ∈ s.issued ∧ s.now < token.exp ∧ ∃ name entry, token.sub = some name ∧
      search s.ldap none name false = [entry] ∧ userIsDisabled s.now entry = .ok false ∧
        entry.uid = user.username ∧ entry.dn = user.dn := by
  unfold getCurrentActiveUser getCurrentUser jwtDecode at accepted
  by_cases valid : token ∈ s.issued ∧ s.now < token.exp
  · rw [if_pos valid] at accepted
    cases sub : token.sub with
    | none => simp [sub, bind, Except.bind, throw, throwThe, MonadExceptOf.throw] at accepted
    | some name =>
        cases answer : getUser s.ldap s.now none name false with
        | error raised =>
            simp [sub, answer, bind, Except.bind, throw, throwThe, MonadExceptOf.throw] at accepted
        | ok found =>
            cases found with
            | none =>
                simp [sub, answer, bind, Except.bind, throw, throwThe,
                  MonadExceptOf.throw] at accepted
            | some current =>
                obtain ⟨entry, one, disabled, uid, dn⟩ := getUser_some answer
                cases off : current.disabled with
                | true =>
                    simp [sub, answer, off, bind, Except.bind, pure, Except.pure, throw, throwThe,
                      MonadExceptOf.throw] at accepted
                | false =>
                    simp only [sub, answer, off, bind, Except.bind, pure, Except.pure,
                      Bool.false_eq_true, if_false, Except.ok.injEq] at accepted
                    subst accepted
                    exact ⟨valid.1, valid.2, name, entry, rfl, one, off ▸ disabled, uid.symm,
                      dn.symm⟩
  · rw [if_neg valid] at accepted
    cases accepted

theorem currentAdmin_of_accepted {s : AuthState} {token : Token} {user : User}
    (admins : TokensNameAdmins s s.ldap) (accepted : getCurrentActiveUser s token = .ok user) :
    CurrentAdmin s user := by
  obtain ⟨issued, valid, name, entry, sub, one, enabled, uid, dn⟩ :=
    getCurrentActiveUser_ok accepted
  have found : entry ∈ search s.ldap none name false := by simp [one]
  exact ⟨entry, (search_subset found).1, uid, dn, enabled,
    admins token issued valid name sub entry one enabled⟩

/-! ## Runs -/

/-- Every token and every login that counts names an administrator. -/
structure NamesAdmins (s : AuthState) : Prop where
  tokens : TokensNameAdmins s s.ldap
  logins : LoginsNameAdmins s s.ldap

theorem namesAdmins_dropLogin {s : AuthState} (names : NamesAdmins s) (i : Nat) :
    NamesAdmins { s with logins := s.logins.eraseIdx i } where
  tokens := names.tokens
  logins login member := names.logins login (List.mem_of_mem_eraseIdx member)

theorem namesAdmins_lookUp {s : AuthState} (names : NamesAdmins s) {username dn : String}
    (password : String) (found : getDnOfUser s.ldap username = .ok dn) :
    NamesAdmins { s with logins := s.logins ++ [⟨username, password, dn, false⟩] } where
  tokens := names.tokens
  logins := by
    intro login member entry one enabled
    rw [List.mem_append, List.mem_singleton] at member
    cases member with
    | inl old => exact names.logins login old entry one enabled
    | inr new =>
        subst new
        simp only [getDnOfUser, one, Except.ok.injEq] at found
        exact Or.inr ⟨rfl, found⟩

theorem namesAdmins_check {s : AuthState} (names : NamesAdmins s) {i : Nat} {login : Login}
    (pending : s.logins[i]? = some login) (member : login.dn ∈ adminGroupMembers s.ldap) :
    NamesAdmins { s with logins := s.logins.set i { login with checked := true } } where
  tokens := names.tokens
  logins := by
    intro other there entry one enabled
    cases List.mem_or_eq_of_mem_set there with
    | inl old => exact names.logins other old entry one enabled
    | inr new =>
        subst new
        left
        cases names.logins login (List.mem_of_getElem? pending) entry one enabled with
        | inl admin => exact admin
        | inr same => exact same.2 ▸ member

/-- A token is issued for the name of an admin: the name differs from that of the login by
    case at most. -/
theorem namesAdmins_issue {s : AuthState} (names : NamesAdmins s) {i : Nat} {login : Login}
    {user : User} (ttl : Int) (pending : s.logins[i]? = some login) (checked : login.checked = true)
    (found : getUser s.ldap s.now (some (login.dn, login.password)) login.username false =
      .ok (some user)) :
    NamesAdmins { s with
      logins := s.logins.eraseIdx i
      issued := createAccessToken s.now user.username ttl :: s.issued } where
  tokens := by
    intro token member valid name sub entry one enabled
    cases List.mem_cons.mp member with
    | inr old => exact names.tokens token old valid name sub entry one enabled
    | inl new =>
        subst new
        obtain ⟨bound, alone, _, uid, _⟩ := getUser_some found
        have sameName : lower bound.uid = lower login.username :=
          (search_subset (by rw [alone]; exact List.mem_singleton_self bound)).2
        have asLogin : search s.ldap none login.username false = [entry] := by
          rw [← one, ← Option.some.inj sub, uid]
          exact search_congr s.ldap none false sameName.symm
        cases names.logins login (List.mem_of_getElem? pending) entry asLogin enabled with
        | inl admin => exact admin
        | inr unchecked => simp [checked] at unchecked
  logins login member := names.logins login (List.mem_of_mem_eraseIdx member)

theorem namesAdmins_wait {s : AuthState} (names : NamesAdmins s) (seconds : Nat) :
    NamesAdmins { s with now := s.now + seconds } := by
  have later : s.now ≤ s.now + seconds := by omega
  constructor
  · intro token member valid name sub entry one enabled
    exact names.tokens token member (lt_of_le_of_lt later valid) name sub entry one
      (enabled_earlier later enabled)
  · intro login member entry one enabled
    exact names.logins login member entry one (enabled_earlier later enabled)

theorem namesAdmins_step {s : AuthState} (names : NamesAdmins s) {event : AuthEvent}
    (keeps : KeepsAdmins s event) : NamesAdmins (authStep s event) := by
  cases event with
  | lookUp username password =>
      simp only [authStep]
      split
      next dn found =>
        split
        · exact names
        · exact namesAdmins_lookUp names password found
      next => exact names
  | checkGroup i =>
      simp only [authStep]
      split
      next username password dn pending =>
        split
        next member => exact namesAdmins_check names pending member
        next => exact namesAdmins_dropLogin names i
      next => exact names
  | issueToken i ttl =>
      simp only [authStep]
      split
      next username password dn pending =>
        split
        next user found => exact namesAdmins_issue names ttl pending rfl found
        next => exact namesAdmins_dropLogin names i
      next => exact names
  | giveUp i => exact namesAdmins_dropLogin names i
  | changeLdap ldap => exact ⟨keeps.1, keeps.2⟩
  | wait seconds => exact namesAdmins_wait names seconds

theorem namesAdmins_run {s : AuthState} (names : NamesAdmins s) {events : List AuthEvent}
    (keeps : RunKeepsAdmins s events) : NamesAdmins (authRun s events) := by
  induction events generalizing s with
  | nil => exact names
  | cons event rest ih => exact ih (namesAdmins_step names keeps.1) keeps.2

/-- From a start without tokens, as long as no change of LDAP leaves an enabled user with a
    token or a login outside of the admin group. -/
theorem accepted_by_current_admin {s : AuthState} (fresh : s.logins = [] ∧ s.issued = [])
    {events : List AuthEvent} (keeps : RunKeepsAdmins s events) {token : Token} {user : User}
    (accepted : getCurrentActiveUser (authRun s events) token = .ok user) :
    CurrentAdmin (authRun s events) user := by
  have start : NamesAdmins s := by
    constructor
    · intro token member
      simp [fresh.2] at member
    · intro login member
      simp [fresh.1] at member
  exact currentAdmin_of_accepted (namesAdmins_run start keeps).tokens accepted

/-- The condition on tokens cannot be weakened: where it fails, some request is accepted. -/
theorem accepts_non_admin {s : AuthState} (fails : ¬ TokensNameAdmins s s.ldap) :
    ∃ token user, getCurrentActiveUser s token = .ok user ∧
      user.dn ∉ adminGroupMembers s.ldap := by
  simp only [TokensNameAdmins, AdminsNamed, not_forall, exists_prop] at fails
  obtain ⟨token, issued, valid, name, sub, entry, one, enabled, outsider⟩ := fails
  refine ⟨token, ⟨entry.uid, entry.displayName, false, entry.dn, entry.attributes⟩, ?_, outsider⟩
  simp [getCurrentActiveUser, getCurrentUser, jwtDecode, issued, valid, sub, getUser, one, enabled,
    bind, Except.bind, pure, Except.pure]

end TokenAuth

section Examples

attribute [local instance] asciiCaseMapping

def principal : LdapEntry where
  dn := "uid=principal,cn=users,dc=uni,dc=dtr"
  uid := "principal"
  displayName := some "A Principal"
  objectClasses := []
  sambaAcctFlags := some "[U          ]"
  krb5KDCFlags := some 126
  shadowExpire := none
  attributes := []

/-- A directory with one user and these members of the admin group. -/
def schoolLdap (members : List String) : Ldap where
  entries := [principal]
  adminGroups := [members]
  accepts dn password := dn = principal.dn && password = "univention"
  machinePassword := "secret"

def beforeLogin : AuthState := ⟨schoolLdap [principal.dn], 1000, [], []⟩

/-- The principal logs in. -/
def loginEvents : List AuthEvent :=
  [.lookUp "Principal" "univention", .checkGroup 0, .issueToken 0 60]

def principalToken : Token := ⟨some "principal", 4600⟩

def principalUser : User := ⟨"principal", some "A Principal", false, principal.dn, []⟩

theorem principal_accepted : CurrentAdmin (authRun beforeLogin (loginEvents ++ [.wait 60]))
    principalUser := by
  refine accepted_by_current_admin ⟨rfl, rfl⟩ ?_
    (show getCurrentActiveUser _ principalToken = .ok principalUser from by decide +kernel)
  exact ⟨trivial, trivial, trivial, trivial, trivial⟩

/-- Taken out of the group after the login, the principal can still use the token. -/
theorem former_admin_accepted :
    let s := authRun beforeLogin (loginEvents ++ [.changeLdap (schoolLdap []), .wait 60])
    getCurrentActiveUser s principalToken = .ok principalUser ∧ ¬ CurrentAdmin s principalUser := by
  refine ⟨by decide +kernel, ?_⟩
  intro ⟨entry, _, _, _, _, member⟩
  cases member

end Examples

end IdConnector
