import IdConnector.Configuration

/-! # Access to LDAP

The searches of `ldap_access.py`. A search by `uid` ignores case, so it can find an entry
whose name is written differently; more than one result is an error. The machine account
may always search, another account only with its password.
-/

namespace IdConnector

open Library

/-- The entry of a user; `attributes` are those that a search can ask for in addition. -/
structure LdapEntry where
  dn : String
  uid : String
  displayName : Option String
  objectClasses : List String
  sambaAcctFlags : Option String
  krb5KDCFlags : Option Int
  shadowExpire : Option Int
  attributes : Dict String (List String)
  deriving Repr, DecidableEq

/-- The directory as the service sees it. -/
structure Ldap where
  entries : List LdapEntry
  /-- The members of every group that is found under the name of the admin group. -/
  adminGroups : List (List String)
  /-- `accepts dn password`: a simple bind succeeds. -/
  accepts : String → String → Bool
  machinePassword : String

/-- The result of `get_user`. -/
structure User where
  username : String
  fullName : Option String
  disabled : Bool
  dn : String
  attributes : Dict String (List String)
  deriving Repr, DecidableEq

/-- In the order of the filter. -/
def schoolObjectClasses : List String :=
  ["ucsschoolStaff", "ucsschoolStudent", "ucsschoolTeacher", "ucsschoolLegalGuardian"]

namespace LdapAccess

/-- An account is disabled by its flags, or once the day `shadowExpire` has begun. -/
def userIsDisabled (now : Int) (entry : LdapEntry) : Except PyError Bool :=
  match entry.sambaAcctFlags with
  | none => .error (.typeError "argument of type 'NoneType' is not iterable")
  | some flags => .ok ('D' ∈ flags.toList || entry.krb5KDCFlags == some 254 ||
      match entry.shadowExpire with
      | some day => day ≠ 0 && day * 86400 < now
      | none => false)

section Searches

variable [CaseMapping]

/-- `(uid=…)`, and one of the object classes of school users if `school_only` is set. -/
def matchesFilter (username : String) (schoolOnly : Bool) (entry : LdapEntry) : Bool :=
  lower entry.uid = lower username &&
    (!schoolOnly || schoolObjectClasses.any fun oc => oc ∈ entry.objectClasses)

/-- The results of a search that binds with the given DN and password, or with the machine
    account; a failed bind finds nothing. An empty password is replaced by that of the machine. -/
def search (ldap : Ldap) (account : Option (String × String)) (username : String)
    (schoolOnly : Bool) : List LdapEntry :=
  match account with
  | some (dn, password) =>
      if ldap.accepts dn (if password = "" then ldap.machinePassword else password) then
        ldap.entries.filter (matchesFilter username schoolOnly)
      else []
  | none => ldap.entries.filter (matchesFilter username schoolOnly)

def moreThanOneResult (username : String) : PyError :=
  .runtimeError s!"More than 1 result when searching LDAP with filter '(uid={username})'."

/-- The DN of the user, empty if there is none. -/
def getDnOfUser (ldap : Ldap) (username : String) : Except PyError String :=
  match search ldap none username false with
  | [] => .ok ""
  | [entry] => .ok entry.dn
  | _ => .error (moreThanOneResult username)

def getUser (ldap : Ldap) (now : Int) (account : Option (String × String)) (username : String)
    (schoolOnly : Bool) : Except PyError (Option User) :=
  match search ldap account username schoolOnly with
  | [] => .ok none
  | [entry] => do
      let disabled ← userIsDisabled now entry
      return some ⟨entry.uid, entry.displayName, disabled, entry.dn, entry.attributes⟩
  | _ => .error (moreThanOneResult username)

/-- Nobody is a member unless there is exactly one group of the name. -/
def adminGroupMembers (ldap : Ldap) : List String :=
  match ldap.adminGroups with
  | [members] => members
  | _ => []

/-! ## Users that were found -/

theorem search_subset {ldap : Ldap} {account : Option (String × String)} {username : String}
    {schoolOnly : Bool} {entry : LdapEntry} (found : entry ∈ search ldap account username schoolOnly) :
    entry ∈ ldap.entries ∧ lower entry.uid = lower username := by
  have filtered : entry ∈ ldap.entries.filter (matchesFilter username schoolOnly) := by
    cases account with
    | none => exact found
    | some credentials =>
        simp only [search] at found
        generalize ldap.accepts credentials.1 _ = accepted at found
        cases accepted with
        | true => exact found
        | false => cases found
  simp only [List.mem_filter, matchesFilter, Bool.and_eq_true, decide_eq_true_eq] at filtered
  exact ⟨filtered.1, filtered.2.1⟩

/-- A name that is the same up to case finds the same entries. -/
theorem search_congr (ldap : Ldap) (account : Option (String × String)) {username other : String}
    (schoolOnly : Bool) (same : lower username = lower other) :
    search ldap account username schoolOnly = search ldap account other schoolOnly := by
  unfold search matchesFilter
  rw [same]

theorem getUser_some {ldap : Ldap} {now : Int} {account : Option (String × String)}
    {username : String} {schoolOnly : Bool} {user : User}
    (found : getUser ldap now account username schoolOnly = .ok (some user)) :
    ∃ entry, search ldap account username schoolOnly = [entry] ∧
      userIsDisabled now entry = .ok user.disabled ∧ user.username = entry.uid ∧
        user.dn = entry.dn := by
  unfold getUser at found
  split at found
  next => cases found
  next entry one =>
    cases disabled : userIsDisabled now entry with
    | error raised => simp [disabled, bind, Except.bind] at found
    | ok value =>
        simp only [disabled, bind, Except.bind, pure, Except.pure, Except.ok.injEq,
          Option.some.injEq] at found
        subst found
        exact ⟨entry, one, disabled, rfl, rfl⟩
  next => cases found

omit [CaseMapping] in
/-- An account that is enabled has been enabled before, as far as the entry is the same. -/
theorem enabled_earlier {now later : Int} {entry : LdapEntry} (after : now ≤ later)
    (enabled : userIsDisabled later entry = .ok false) :
    userIsDisabled now entry = .ok false := by
  unfold userIsDisabled at enabled ⊢
  cases flags : entry.sambaAcctFlags with
  | none => simp [flags] at enabled
  | some letters =>
      cases expire : entry.shadowExpire with
      | none => simpa [flags, expire] using enabled
      | some day =>
          simp only [flags, expire, Except.ok.injEq, Bool.or_eq_false_iff,
            Bool.and_eq_false_iff, decide_eq_false_iff_not] at enabled ⊢
          refine ⟨enabled.1, enabled.2.imp_right fun notYet => ?_⟩
          omega

end Searches

end LdapAccess

end IdConnector
