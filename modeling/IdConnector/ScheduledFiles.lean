import IdConnector.Library.Keyed
import IdConnector.SchoolScheduler
import Mathlib.Algebra.Order.Group.Multiset

/-! # The files of a scheduled school

What `queue_school` writes in the end, for every order in which its tasks take turns: one document
for every user of the school and one for every group, and the groups after the users.
-/

namespace IdConnector

open Library Library.LdapFilter LdapAccess

/-! ## The objects of a school -/

section Objects

variable {L : LdapRules} {school : String}

theorem holds_isSchoolUser (values : AttributeName → List (List Char)) :
    holds L.norm values (isSchoolUser school) = true ↔
      (∃ v ∈ values schoolAttribute,
        L.norm schoolAttribute v = L.norm schoolAttribute school.toList) ∧
        ∃ role ∈ schoolUserRoles, ∃ v ∈ values roleAttribute,
          L.norm roleAttribute v = L.norm roleAttribute (role ++ ":school:" ++ school).toList := by
  rw [isSchoolUser, holds_and, List.all_cons, List.all_cons, List.all_nil, Bool.and_true,
    Bool.and_eq_true, holds_equals, holds_or, List.any_map, List.any_eq_true]
  simp only [Function.comp_apply, hasRole, holds_equals]

theorem holds_isSchoolGroup (values : AttributeName → List (List Char)) :
    holds L.norm values (isSchoolGroup school) = true ↔
      (∃ v ∈ values cnAttribute,
        L.norm cnAttribute (school ++ "-").toList <+: L.norm cnAttribute v) ∧
        ∃ role ∈ schoolGroupRoles, ∃ v ∈ values roleAttribute,
          L.norm roleAttribute v = L.norm roleAttribute (role ++ ":school:" ++ school).toList := by
  rw [isSchoolGroup, holds_and, List.all_cons, List.all_cons, List.all_nil, Bool.and_true,
    Bool.and_eq_true, holds_prefix _ _ (L.norm_nil _), holds_or, List.any_map, List.any_eq_true]
  simp only [Function.comp_apply, hasRole, holds_equals]

end Objects

/-- One of the object classes that `get_user` asks for. -/
def LdapEntry.hasSchoolClass (entry : LdapEntry) : Bool :=
  schoolObjectClasses.any fun oc => oc ∈ entry.objectClasses

/-- The object class that `get_group` asks for. -/
def LdapGroup.hasSchoolClass (L : LdapRules) (group : LdapGroup) : Bool :=
  holds L.norm group.values (equals objectClassAttribute "ucsschoolGroup")

/-- The users of a school that `get_user` finds. -/
def SchoolDirectory.schoolUsers (D : SchoolDirectory) (L : LdapRules) (school : String) :
    List LdapEntry :=
  D.ldap.entries.filter fun entry =>
    holds L.norm entry.values (isSchoolUser school) && entry.hasSchoolClass

/-- The groups of a school that `get_group` finds. -/
def SchoolDirectory.schoolGroups (D : SchoolDirectory) (L : LdapRules) (school : String) :
    List LdapGroup :=
  D.groups.filter fun group =>
    holds L.norm group.values (isSchoolGroup school) && group.hasSchoolClass L

/-! ## Documents -/

/-- The document that an object has to get, if it has the attribute that is needed. -/
def documentsOf (objectType : String) (found : ScheduledObject) : Multiset Json :=
  match found.attributes.get "entryUUID" with
  | some (entryUuid :: _) => {listenerDocument objectType entryUuid found.dn}
  | _ => 0

def LdapEntry.scheduled (entry : LdapEntry) : ScheduledObject := ⟨entry.dn, entry.attributes⟩

def LdapGroup.scheduled (group : LdapGroup) : ScheduledObject := ⟨group.dn, group.attributes⟩

def FileOperation.documents : FileOperation → Multiset Json
  | opened _ => 0
  | written file => {file.content}

/-- The documents that have been written. -/
def documents (log : List FileOperation) : Multiset Json := (log.map FileOperation.documents).sum

/-- What a task still has to write; `look` says it for the object of a name. -/
def SchedulerJob.documents (look : String → Multiset Json) : SchedulerJob → Multiset Json
  | .look name => look name
  | .opening file => {file.content}
  | .writing file => {file.content}

theorem documents_listenerFile {objectType timestamp : String} {found : ScheduledObject}
    {file : AppcenterFile} (made : listenerFile objectType timestamp found = .ok file) :
    documentsOf objectType found = {file.content} := by
  unfold listenerFile at made
  unfold documentsOf
  split at made
  next => cases made
  next => cases made
  next entryUuid _ present =>
    cases made
    rw [present]

/-- The tasks write what `look` says, if it says what the search finds. -/
theorem queueObject_accounts {objectType : String}
    {fromLdap : SchedulerWorld → String → Except PyError (Option ScheduledObject)}
    {look : String → Multiset Json} {w : SchedulerWorld}
    (found : ∀ name object, fromLdap w name = .ok (some object) →
      look name = documentsOf objectType object)
    (nothing : ∀ name, fromLdap w name = .ok none → look name = 0) :
    Pool.Accounts (queueObject fromLdap objectType) FileOperation.documents
      (SchedulerJob.documents look) w := by
  have raising {job : SchedulerJob} {raised : PyError}
      (stepped : queueObject fromLdap objectType w job = (.raised raised, [])) :
      ∃ lost, job.documents look =
        ((queueObject fromLdap objectType w job).2.map FileOperation.documents).sum +
          (queueObject fromLdap objectType w job).1.pending (SchedulerJob.documents look) + lost ∧
        ((queueObject fromLdap objectType w job).1.isRaised = false → lost = 0) := by
    rw [stepped]
    exact ⟨job.documents look, by simp [Progress.pending], by simp [Progress.isRaised]⟩
  intro job
  cases job with
  | look name =>
      obtain ⟨answer, stepped⟩ | ⟨object, file, answer, made, stepped⟩ | ⟨raised, stepped, -⟩ :=
        queueObject_look fromLdap objectType w name
      · rw [stepped]
        refine ⟨0, ?_, fun _ => rfl⟩
        simp [SchedulerJob.documents, Progress.pending, nothing name answer]
      · rw [stepped]
        refine ⟨0, ?_, fun _ => rfl⟩
        simp [SchedulerJob.documents, Progress.pending, found name object answer,
          documents_listenerFile made]
      · exact raising stepped
  | opening file =>
      obtain ⟨-, stepped⟩ | ⟨raised, -, stepped⟩ :=
        useDisk_cases w (.more (.writing file)) (.opened file)
      · rw [queueObject, stepped]
        refine ⟨0, ?_, fun _ => rfl⟩
        simp [SchedulerJob.documents, Progress.pending, FileOperation.documents]
      · exact raising stepped
  | writing file =>
      obtain ⟨-, stepped⟩ | ⟨raised, -, stepped⟩ := useDisk_cases w .ended (.written file)
      · rw [queueObject, stepped]
        refine ⟨0, ?_, fun _ => rfl⟩
        simp [SchedulerJob.documents, Progress.pending, FileOperation.documents]
      · exact raising stepped

/-! ## Looking objects up -/

section Looking

variable {L : LdapRules} {D : SchoolDirectory} {school : String}

/-- The documents that the users of the school have to get. -/
def SchoolDirectory.userDocuments (D : SchoolDirectory) (L : LdapRules) (school : String) :
    Multiset Json :=
  ((D.schoolUsers L school).map fun entry => documentsOf "users/user" entry.scheduled).sum

def SchoolDirectory.groupDocuments (D : SchoolDirectory) (L : LdapRules) (school : String) :
    Multiset Json :=
  ((D.schoolGroups L school).map fun group => documentsOf "groups/group" group.scheduled).sum

theorem getSchoolUsers_eq :
    getSchoolUsers L school D =
      .ok ((D.ldap.entries.filter fun entry =>
        holds L.norm entry.values (isSchoolUser school)).map LdapEntry.uid) := by
  unfold getSchoolUsers searchText
  rw [getSchoolUsersFilter_eq L.escapes, parse_text]
  rfl

theorem getSchoolGroups_eq :
    getSchoolGroups L school D =
      .ok ((D.groups.filter fun group =>
        holds L.norm group.values (isSchoolGroup school)).map LdapGroup.cn) := by
  unfold getSchoolGroups searchText
  rw [getSchoolGroupsFilter_eq L.escapes, parse_text]
  rfl

def SchoolDirectory.groupsNamed (D : SchoolDirectory) (L : LdapRules) (name : String) :
    List LdapGroup :=
  D.groups.filter fun group => holds L.norm group.values (isGroup name true)

def SchoolDirectory.groupNamed (D : SchoolDirectory) (L : LdapRules) (name : String) :
    Multiset Json :=
  ((D.groupsNamed L name).map fun group => documentsOf "groups/group" group.scheduled).sum

theorem groupsNamed_eq (name : String) :
    D.groupsNamed L name = D.groups.filter fun group =>
      decide (L.norm cnAttribute group.cn.toList = L.norm cnAttribute name.toList) &&
        group.hasSchoolClass L :=
  List.filter_congr fun group _ => holds_isGroup group name

/-- The filter of `get_group` selects the groups of a name. -/
theorem searchText_getGroupFilter (name : String) :
    searchText L.norm LdapGroup.values (getGroupFilter L.escapeFilterChars name true) D.groups =
      .ok (D.groupsNamed L name) := by
  unfold searchText
  rw [getGroupFilter_eq L.escapes, parse_text]
  rfl

theorem getGroupFromLdap_answer {w : SchedulerWorld} (directory : w.ldap = .ok D) {name : String}
    {answer : Option ScheduledObject} (answered : getGroupFromLdap L w name = .ok answer) :
    (D.groupsNamed L name = [] ∧ answer = none) ∨
      ∃ group, D.groupsNamed L name = [group] ∧ answer = some group.scheduled := by
  unfold getGroupFromLdap at answered
  rw [directory] at answered
  simp only [bind, Except.bind, searchText_getGroupFilter] at answered
  cases results : D.groupsNamed L name with
  | nil =>
      simp only [results, pure, Except.pure, Except.ok.injEq] at answered
      exact .inl ⟨rfl, answered.symm⟩
  | cons group rest =>
      cases rest with
      | nil =>
          simp only [results, pure, Except.pure, Except.ok.injEq] at answered
          exact .inr ⟨group, rfl, answered.symm⟩
      | cons other rest => simp [results, throw, throwThe, MonadExceptOf.throw] at answered

theorem queueGroup_accounts {w : SchedulerWorld} (directory : w.ldap = .ok D) :
    Pool.Accounts (queueGroup L) FileOperation.documents
      (SchedulerJob.documents (D.groupNamed L)) w := by
  refine queueObject_accounts (fun name object answer => ?_) (fun name answer => ?_)
  · obtain ⟨-, none⟩ | ⟨group, results, same⟩ := getGroupFromLdap_answer directory answer
    · cases none
    · cases same
      simp [SchoolDirectory.groupNamed, results]
  · obtain ⟨results, -⟩ | ⟨group, -, same⟩ := getGroupFromLdap_answer directory answer
    · simp [SchoolDirectory.groupNamed, results]
    · cases same

variable [CaseMapping]

/-- The documents of the users that a search by name finds. -/
def SchoolDirectory.userNamed (D : SchoolDirectory) (name : String) : Multiset Json :=
  ((search D.ldap none name true).map fun entry => documentsOf "users/user" entry.scheduled).sum

theorem getUserFromLdap_answer {w : SchedulerWorld} (directory : w.ldap = .ok D) {name : String}
    {answer : Option ScheduledObject} (answered : getUserFromLdap w name = .ok answer) :
    (search D.ldap none name true = [] ∧ answer = none) ∨
      ∃ entry, search D.ldap none name true = [entry] ∧ answer = some entry.scheduled := by
  unfold getUserFromLdap getUser at answered
  rw [directory] at answered
  cases results : search D.ldap none name true with
  | nil =>
      simp only [results, bind, Except.bind, pure, Except.pure, Except.ok.injEq] at answered
      exact .inl ⟨rfl, answered.symm⟩
  | cons entry rest =>
      cases rest with
      | nil =>
          cases disabled : userIsDisabled w.now entry with
          | error raised => simp [results, disabled, bind, Except.bind] at answered
          | ok flag =>
              simp only [results, disabled, bind, Except.bind, pure, Except.pure,
                Except.ok.injEq] at answered
              exact .inr ⟨entry, rfl, answered.symm⟩
      | cons other rest => simp [results, bind, Except.bind] at answered

theorem queueUser_accounts {w : SchedulerWorld} (directory : w.ldap = .ok D) :
    Pool.Accounts queueUser FileOperation.documents (SchedulerJob.documents D.userNamed) w := by
  refine queueObject_accounts (fun name object answer => ?_) (fun name answer => ?_)
  · obtain ⟨-, none⟩ | ⟨entry, results, same⟩ := getUserFromLdap_answer directory answer
    · cases none
    · cases same
      simp [SchoolDirectory.userNamed, results]
  · obtain ⟨results, -⟩ | ⟨entry, -, same⟩ := getUserFromLdap_answer directory answer
    · simp [SchoolDirectory.userNamed, results]
    · cases same

/-- What is unique in a directory. -/
structure SchoolDirectory.UniqueNames (D : SchoolDirectory) (L : LdapRules) : Prop where
  uids : (D.ldap.entries.map fun entry => lower entry.uid).Nodup
  cns : (D.groups.map fun group => L.norm cnAttribute group.cn.toList).Nodup

/-- Every user that was found by the school is found again by its name, and nobody else is. -/
theorem sum_userNamed (unique : D.UniqueNames L) {names : List String}
    (found : getSchoolUsers L school D = .ok names) :
    (names.map D.userNamed).sum = D.userDocuments L school := by
  rw [getSchoolUsers_eq, Except.ok.injEq] at found
  rw [← found, List.map_map]
  exact Keyed.sum_by_key unique.uids _ LdapEntry.hasSchoolClass _

theorem sum_groupNamed (unique : D.UniqueNames L) {names : List String}
    (found : getSchoolGroups L school D = .ok names) :
    (names.map (D.groupNamed L)).sum = D.groupDocuments L school := by
  rw [getSchoolGroups_eq, Except.ok.injEq] at found
  rw [← found, List.map_map]
  have again (group : LdapGroup) : (D.groupNamed L ∘ LdapGroup.cn) group =
      ((D.groups.filter fun other =>
        decide (L.norm cnAttribute other.cn.toList = L.norm cnAttribute group.cn.toList) &&
          other.hasSchoolClass L).map fun group =>
            documentsOf "groups/group" group.scheduled).sum := by
    rw [Function.comp_apply, SchoolDirectory.groupNamed, groupsNamed_eq]
  rw [List.map_congr_left fun group _ => again group]
  exact Keyed.sum_by_key unique.cns _ (LdapGroup.hasSchoolClass L) _

end Looking

/-! ## Runs -/

section Runs

variable {L : LdapRules} {D : SchoolDirectory} {school : String} {numTasks : Nat}

def SchoolRun.userLog : SchoolRun → List FileOperation
  | .started => []
  | .users tasks => tasks.log
  | .groups userLog _ => userLog
  | .finished userLog _ => userLog
  | .failed userLog _ _ => userLog

def SchoolRun.groupLog : SchoolRun → List FileOperation
  | .started => []
  | .users _ => []
  | .groups _ tasks => tasks.log
  | .finished _ groupLog => groupLog
  | .failed _ groupLog _ => groupLog

theorem documents_le {whole : SchedulerJob → Multiset Json} {total : Multiset Json}
    {tasks : SchedulerPool} (accounted : tasks.Accounted FileOperation.documents whole total) :
    documents tasks.log ≤ total := by
  obtain ⟨lost, balance, -⟩ := accounted
  rw [← balance, add_assoc]
  exact Multiset.le_add_right _ _

theorem accounted_startTasks {look : String → Multiset Json} {names : List String}
    {total : Multiset Json} (sum : (names.map look).sum = total) :
    (Pool.start numTasks (names.map .look) : SchedulerPool).Accounted FileOperation.documents
      (SchedulerJob.documents look) total := by
  have start : (Pool.start numTasks (names.map .look) : SchedulerPool).Accounted
      FileOperation.documents (SchedulerJob.documents look) _ := Pool.accounted_start _ _
  rw [List.map_map] at start
  rwa [← sum]

/-- What `gather` can do. -/
theorem gather_cases {tasks : SchedulerPool} {ended run : SchoolRun} {failed : PyError → SchoolRun}
    (went : gather tasks ended failed = some run) :
    (∃ raised, tasks.raised = some raised ∧ run = failed raised) ∨
      tasks.raised = none ∧ tasks.AllEnded ∧ run = ended := by
  unfold gather at went
  cases raised : tasks.raised with
  | some exception =>
      simp only [raised, Option.some.injEq] at went
      exact .inl ⟨exception, rfl, went.symm⟩
  | none =>
      simp only [raised] at went
      split at went
      next all =>
        cases went
        exact .inr ⟨rfl, all, rfl⟩
      next => cases went

variable [CaseMapping]

/-- The documents that have to be written are written or still to be written by the tasks, and
    there are no tasks for groups before those for users have written everything. -/
def SchoolRun.Accounted (D : SchoolDirectory) (L : LdapRules) (school : String) :
    SchoolRun → Prop
  | .started => True
  | .users tasks => tasks.Accounted FileOperation.documents (SchedulerJob.documents D.userNamed)
      (D.userDocuments L school)
  | .groups userLog tasks => documents userLog = D.userDocuments L school ∧
      tasks.Accounted FileOperation.documents (SchedulerJob.documents (D.groupNamed L))
        (D.groupDocuments L school)
  | .finished userLog groupLog => documents userLog = D.userDocuments L school ∧
      documents groupLog = D.groupDocuments L school
  | .failed userLog groupLog _ => documents userLog ≤ D.userDocuments L school ∧
      documents groupLog ≤ D.groupDocuments L school ∧
      (groupLog ≠ [] → documents userLog = D.userDocuments L school)

theorem queueSchool_started {w : SchedulerWorld} (directory : w.ldap = .ok D) :
    queueSchool L school numTasks w .started .proceed =
      some (.users (Pool.start numTasks (((D.ldap.entries.filter fun entry =>
        holds L.norm entry.values (isSchoolUser school)).map LdapEntry.uid).map .look))) := by
  simp only [queueSchool, directory, Except.bind, getSchoolUsers_eq, startTasks]

theorem queueSchool_users {w : SchedulerWorld} (directory : w.ldap = .ok D) {tasks : SchedulerPool}
    (fine : tasks.raised = none) (ended : tasks.AllEnded) :
    queueSchool L school numTasks w (.users tasks) .proceed =
      some (.groups tasks.log (Pool.start numTasks (((D.groups.filter fun group =>
        holds L.norm group.values (isSchoolGroup school)).map LdapGroup.cn).map .look))) := by
  simp only [queueSchool, gather, fine, if_pos ended, directory, Except.bind, getSchoolGroups_eq,
    startTasks]

theorem queueSchool_accounted (unique : D.UniqueNames L) {w : SchedulerWorld}
    (directory : w.ldap = .ok D) {run run' : SchoolRun} {event : SchoolEvent}
    (went : queueSchool L school numTasks w run event = some run')
    (accounted : run.Accounted D L school) : run'.Accounted D L school := by
  have no_groups : documents [] ≤ D.groupDocuments L school := Multiset.zero_le _
  cases run with
  | started =>
      cases event with
      | task i => cases went
      | proceed =>
          rw [queueSchool_started directory, Option.some.injEq] at went
          subst went
          exact accounted_startTasks (sum_userNamed unique getSchoolUsers_eq)
  | users tasks =>
      cases event with
      | task i =>
          obtain ⟨tasks', stepped, rfl⟩ := Option.map_eq_some_iff.mp went
          exact Pool.step_accounted (queueUser_accounts directory) stepped accounted
      | proceed =>
          obtain ⟨raised, -, rfl⟩ | ⟨fine, ended, rfl⟩ := gather_cases went
          · exact ⟨documents_le accounted, no_groups, fun some_group => absurd rfl some_group⟩
          · simp only [directory, Except.bind, getSchoolGroups_eq, startTasks]
            exact ⟨Pool.Accounted.complete accounted ended fine,
              accounted_startTasks (sum_groupNamed unique getSchoolGroups_eq)⟩
  | groups userLog tasks =>
      cases event with
      | task i =>
          obtain ⟨tasks', stepped, rfl⟩ := Option.map_eq_some_iff.mp went
          exact ⟨accounted.1,
            Pool.step_accounted (queueGroup_accounts directory) stepped accounted.2⟩
      | proceed =>
          obtain ⟨raised, -, rfl⟩ | ⟨fine, ended, rfl⟩ := gather_cases went
          · exact ⟨accounted.1.le, documents_le accounted.2, fun _ => accounted.1⟩
          · exact ⟨accounted.1, Pool.Accounted.complete accounted.2 ended fine⟩
  | finished userLog groupLog => cases went
  | failed userLog groupLog raised => cases went

/-- What every step keeps in worlds of a kind, holds after any number of them. -/
theorem foldlM_invariant (good : SchedulerWorld → Prop) (inv : SchoolRun → Prop)
    (keeps : ∀ w, good w → ∀ run event run', queueSchool L school numTasks w run event = some run' →
      inv run → inv run')
    {events : List (SchedulerWorld × SchoolEvent)} (all : ∀ event ∈ events, good event.1)
    {run run' : SchoolRun} (start : inv run)
    (ran : events.foldlM (fun run event => queueSchool L school numTasks event.1 run event.2) run =
      some run') :
    inv run' := by
  induction events generalizing run with
  | nil =>
      cases ran
      exact start
  | cons event rest ih =>
      obtain ⟨between, went, ran⟩ := Option.bind_eq_some_iff.mp ran
      have next := keeps event.1 (all event List.mem_cons_self) run event.2 between went start
      exact ih (fun event member => all event (List.mem_cons_of_mem _ member)) next ran

theorem schoolRun_accounted (unique : D.UniqueNames L)
    {events : List (SchedulerWorld × SchoolEvent)} (stable : ∀ event ∈ events, event.1.ldap = .ok D)
    {run : SchoolRun} (ran : schoolRun L school numTasks events = some run) :
    run.Accounted D L school := by
  have start : SchoolRun.started.Accounted D L school := trivial
  exact foldlM_invariant (fun w => w.ldap = .ok D) (SchoolRun.Accounted D L school)
    (fun _ directory _ _ _ went => queueSchool_accounted unique directory went) stable start ran

/-- In every state of every run no document is written that does not belong to the school, and
    none is written twice. No file of a group is opened before the documents of all users are
    written. After the run all documents are written. -/
theorem queue_school_writes (unique : D.UniqueNames L)
    {events : List (SchedulerWorld × SchoolEvent)} (stable : ∀ event ∈ events, event.1.ldap = .ok D)
    {run : SchoolRun} (ran : schoolRun L school numTasks events = some run) :
    documents run.userLog ≤ D.userDocuments L school ∧
      documents run.groupLog ≤ D.groupDocuments L school ∧
      (run.groupLog ≠ [] → documents run.userLog = D.userDocuments L school) ∧
      ∀ userLog groupLog, run = .finished userLog groupLog →
        documents userLog = D.userDocuments L school ∧
          documents groupLog = D.groupDocuments L school := by
  have accounted := schoolRun_accounted unique stable ran
  have nothing (total : Multiset Json) : documents [] ≤ total := Multiset.zero_le _
  cases run with
  | started => exact ⟨nothing _, nothing _, fun some_group => absurd rfl some_group, nofun⟩
  | users tasks =>
      exact ⟨documents_le accounted, nothing _, fun some_group => absurd rfl some_group, nofun⟩
  | groups userLog tasks =>
      exact ⟨accounted.1.le, documents_le accounted.2, fun _ => accounted.1, nofun⟩
  | finished userLog groupLog =>
      refine ⟨accounted.1.le, accounted.2.le, fun _ => accounted.1, ?_⟩
      rintro _ _ ⟨⟩
      exact accounted
  | failed userLog groupLog raised =>
      exact ⟨accounted.1, accounted.2.1, accounted.2.2, nofun⟩

end Runs

/-! ## A school with a pupil and a class -/

section Examples

attribute [local instance] asciiCaseMapping

def demoRules : LdapRules where
  escapeFilterChars text := String.ofList (escape text.toList)
  escapes _ := rfl
  norm _ text := text.map Char.toLower
  norm_nil _ := rfl

def demoPupil : LdapEntry where
  dn := "uid=anna,cn=pupils,ou=DEMOSCHOOL,dc=uni,dc=dtr"
  uid := "anna"
  displayName := some "Anna"
  objectClasses := ["ucsschoolStudent"]
  sambaAcctFlags := some "[U          ]"
  krb5KDCFlags := some 126
  shadowExpire := none
  attributes := [("entryUUID", ["0a"]), ("ucsschoolSchool", ["DEMOSCHOOL"]),
    ("ucsschoolRole", ["student:school:DEMOSCHOOL"])]

def demoGroup : LdapGroup where
  dn := "cn=DEMOSCHOOL-1a,cn=classes,ou=DEMOSCHOOL,dc=uni,dc=dtr"
  cn := "DEMOSCHOOL-1a"
  objectClasses := ["ucsschoolGroup"]
  attributes := [("entryUUID", ["0b"]), ("ucsschoolRole", ["school_class:school:DEMOSCHOOL"])]

def demoDirectory : SchoolDirectory where
  ldap := ⟨[demoPupil], [], fun _ _ => true, "secret"⟩
  groups := [demoGroup]

def calmWorld : SchedulerWorld := ⟨.ok demoDirectory, 0, "2023-01-01-00-00-00-000000", none⟩

/-- A task gets a permit and makes its three steps. -/
def demoTask : List (SchedulerWorld × SchoolEvent) := List.replicate 4 (calmWorld, .task 0)

def demoEvents : List (SchedulerWorld × SchoolEvent) :=
  (calmWorld, .proceed) :: demoTask ++ (calmWorld, .proceed) :: demoTask ++
    [(calmWorld, .proceed)]

def demoPupilFile : AppcenterFile :=
  ⟨calmWorld.timestamp, "0a", listenerDocument "users/user" "0a" demoPupil.dn⟩

def demoGroupFile : AppcenterFile :=
  ⟨calmWorld.timestamp, "0b", listenerDocument "groups/group" "0b" demoGroup.dn⟩

def finishedRun : SchoolRun :=
  .finished [.opened demoPupilFile, .written demoPupilFile]
    [.opened demoGroupFile, .written demoGroupFile]

theorem demoPupil_found : getUserFromLdap calmWorld "anna" = .ok (some demoPupil.scheduled) := by
  decide +kernel

theorem demoGroup_found :
    getGroupFromLdap demoRules calmWorld "DEMOSCHOOL-1a" = .ok (some demoGroup.scheduled) := by
  have one : demoDirectory.groupsNamed demoRules "DEMOSCHOOL-1a" = [demoGroup] := by
    decide +kernel
  simp only [getGroupFromLdap, calmWorld, bind, Except.bind, searchText_getGroupFilter, one, pure,
    Except.pure]
  rfl

theorem demoTask_users :
    demoTask.foldlM (fun run event => queueSchool demoRules "DEMOSCHOOL" 1 event.1 run event.2)
        (.users (Pool.start 1 [.look "anna"])) =
      some (.users ⟨1, [.ended], none, [.opened demoPupilFile, .written demoPupilFile]⟩) := by
  have looked : queueUser calmWorld (.look "anna") = (.more (.opening demoPupilFile), []) := by
    simp only [queueUser, queueObject, demoPupil_found]
    rfl
  simp only [demoTask, List.replicate, List.foldlM, queueSchool, Pool.step, Pool.start, Pool.act,
    List.map_cons, List.map_nil, List.getElem?_cons_zero, List.set_cons_zero, Nat.one_pos, if_true,
    Option.map_some, Option.bind_eq_bind, Option.bind_some, looked]
  rfl

theorem demoTask_groups (log : List FileOperation) :
    demoTask.foldlM (fun run event => queueSchool demoRules "DEMOSCHOOL" 1 event.1 run event.2)
        (.groups log (Pool.start 1 [.look "DEMOSCHOOL-1a"])) =
      some (.groups log ⟨1, [.ended], none, [.opened demoGroupFile, .written demoGroupFile]⟩) := by
  have looked : queueGroup demoRules calmWorld (.look "DEMOSCHOOL-1a") =
      (.more (.opening demoGroupFile), []) := by
    simp only [queueGroup, queueObject, demoGroup_found]
    rfl
  simp only [demoTask, List.replicate, List.foldlM, queueSchool, Pool.step, Pool.start, Pool.act,
    List.map_cons, List.map_nil, List.getElem?_cons_zero, List.set_cons_zero, Nat.one_pos, if_true,
    Option.map_some, Option.bind_eq_bind, Option.bind_some, looked]
  rfl

theorem demoEvents_run : schoolRun demoRules "DEMOSCHOOL" 1 demoEvents = some finishedRun := by
  have users : ((demoDirectory.ldap.entries.filter fun entry =>
      holds demoRules.norm entry.values (isSchoolUser "DEMOSCHOOL")).map LdapEntry.uid) =
        ["anna"] := by
    decide +kernel
  have groups : ((demoDirectory.groups.filter fun group =>
      holds demoRules.norm group.values (isSchoolGroup "DEMOSCHOOL")).map LdapGroup.cn) =
        ["DEMOSCHOOL-1a"] := by
    decide +kernel
  have directory : calmWorld.ldap = .ok demoDirectory := rfl
  have first : queueSchool demoRules "DEMOSCHOOL" 1 calmWorld .started .proceed =
      some (.users (Pool.start 1 [.look "anna"])) := by
    rw [queueSchool_started directory, users]
    rfl
  have second (log : List FileOperation) :
      queueSchool demoRules "DEMOSCHOOL" 1 calmWorld (.users ⟨1, [.ended], none, log⟩) .proceed =
        some (.groups log (Pool.start 1 [.look "DEMOSCHOOL-1a"])) := by
    rw [queueSchool_users directory rfl (by simp [Pool.AllEnded, PoolTask.isEnded]), groups]
    rfl
  simp only [schoolRun, demoEvents, List.foldlM_append, List.foldlM_cons, first, second,
    demoTask_users, demoTask_groups, Option.bind_eq_bind, Option.bind_some]
  rfl

theorem demoEvents_world : ∀ event ∈ demoEvents, event.1 = calmWorld := by
  simp [demoEvents, demoTask]

theorem demoEvents_stable : ∀ event ∈ demoEvents, event.1.ldap = .ok demoDirectory := by
  intro event member
  rw [demoEvents_world event member]
  rfl

theorem demoDirectory_unique : demoDirectory.UniqueNames demoRules where
  uids := by decide +kernel
  cns := by decide +kernel

theorem demo_queue_school_writes :
    documents finishedRun.userLog ≤ demoDirectory.userDocuments demoRules "DEMOSCHOOL" ∧
      documents finishedRun.groupLog ≤ demoDirectory.groupDocuments demoRules "DEMOSCHOOL" ∧
      (finishedRun.groupLog ≠ [] →
        documents finishedRun.userLog = demoDirectory.userDocuments demoRules "DEMOSCHOOL") ∧
      ∀ userLog groupLog, finishedRun = .finished userLog groupLog →
        documents userLog = demoDirectory.userDocuments demoRules "DEMOSCHOOL" ∧
          documents groupLog = demoDirectory.groupDocuments demoRules "DEMOSCHOOL" :=
  queue_school_writes demoDirectory_unique demoEvents_stable demoEvents_run

end Examples

end IdConnector
