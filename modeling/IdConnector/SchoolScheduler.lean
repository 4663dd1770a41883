import IdConnector.LdapFilters
import IdConnector.Library.Pool

/-! # Scheduling a school

`queue_school` with the schedulers for users and groups. The users of a school are looked up and
written to the directory of the appcenter listener by tasks of which only some run at a time, and
then the groups. The tasks take turns in any order, and around them the time, the disk and LDAP
may change. As far as LDAP stays the same, what is written is the same for every order and every
number of tasks, and no group is written before all users are.
-/

namespace IdConnector

open Library Library.LdapFilter LdapAccess

/-- Names in filters and how the server compares values. -/
structure LdapRules where
  escapeFilterChars : String → String
  escapes : ∀ text, escapeFilterChars text = String.ofList (escape text.toList)
  norm : AttributeName → List Char → List Char
  norm_nil : ∀ name, norm name [] = []

/-- The users and groups of the directory. -/
structure SchoolDirectory where
  ldap : Ldap
  groups : List LdapGroup

/-- What the schedulers find around them when it is their turn. -/
structure SchedulerWorld where
  /-- A search may raise an exception. -/
  ldap : Except PyError SchoolDirectory
  now : Int
  /-- `now`, as it is written in the names of files. -/
  timestamp : String
  /-- The exception that writing a file raises. -/
  disk : Option PyError

/-- What a scheduler uses of the object that was found. -/
structure ScheduledObject where
  dn : String
  attributes : Dict String (List String)
  deriving Repr, DecidableEq

/-- A file for the appcenter converter service. -/
structure AppcenterFile where
  timestamp : String
  entryUuid : String
  content : Json

def AppcenterFile.path (file : AppcenterFile) : String :=
  file.timestamp ++ "_" ++ file.entryUuid ++ ".json"

/-- Between opening a file and writing to it the file is empty. -/
inductive FileOperation where
  | opened (file : AppcenterFile)
  | written (file : AppcenterFile)

/-! ## Searches -/

section Searches

variable (L : LdapRules)

def getSchoolGroups (school : String) (directory : SchoolDirectory) :
    Except PyError (List String) :=
  (searchText L.norm LdapGroup.values (getSchoolGroupsFilter L.escapeFilterChars school)
    directory.groups).map (·.map LdapGroup.cn)

def getSchoolUsers (school : String) (directory : SchoolDirectory) :
    Except PyError (List String) :=
  (searchText L.norm LdapEntry.values (getSchoolUsersFilter L.escapeFilterChars school)
    directory.ldap.entries).map (·.map LdapEntry.uid)

def getUserFromLdap [CaseMapping] (w : SchedulerWorld) (username : String) :
    Except PyError (Option ScheduledObject) := do
  let directory ← w.ldap
  let user ← getUser directory.ldap w.now none username true
  return user.map fun user => ⟨user.dn, user.attributes⟩

def moreThanOneGroup (groupname : String) : PyError :=
  .runtimeError s!"More than 1 result when searching LDAP with filter '(cn={groupname})'."

def getGroupFromLdap (w : SchedulerWorld) (groupname : String) :
    Except PyError (Option ScheduledObject) := do
  let directory ← w.ldap
  let results ← searchText L.norm LdapGroup.values
    (getGroupFilter L.escapeFilterChars groupname true) directory.groups
  match results with
  | [] => return none
  | [group] => return some ⟨group.dn, group.attributes⟩
  | _ => throw (moreThanOneGroup groupname)

end Searches

/-! ## The schedulers -/

/-- The document of `write_listener_file`, with sorted keys. -/
def listenerDocument (objectType entryUuid dn : String) : Json :=
  (Document.dict [("entry_uuid", Json.str entryUuid), ("dn", Json.str dn),
    ("object_type", Json.str objectType), ("command", Json.str "m")]).sortKeys

/-- The file that `write_listener_file` is about to open. -/
def listenerFile (objectType timestamp : String) (found : ScheduledObject) :
    Except PyError AppcenterFile :=
  match found.attributes.get "entryUUID" with
  | none => .error (.keyError "entryUUID")
  | some [] => .error (.runtimeError "list index out of range")
  | some (entryUuid :: _) =>
      .ok ⟨timestamp, entryUuid, listenerDocument objectType entryUuid found.dn⟩

/-- Where a task of a scheduler is, as far as others may run in between. -/
inductive SchedulerJob where
  | look (name : String)
  | opening (file : AppcenterFile)
  | writing (file : AppcenterFile)

def useDisk (w : SchedulerWorld) (next : Progress SchedulerJob PyError)
    (operation : FileOperation) : Progress SchedulerJob PyError × List FileOperation :=
  match w.disk with
  | none => (next, [operation])
  | some raised => (.raised raised, [])

/-- `queue_user` and `queue_group`. -/
def queueObject (fromLdap : SchedulerWorld → String → Except PyError (Option ScheduledObject))
    (objectType : String) (w : SchedulerWorld) :
    SchedulerJob → Progress SchedulerJob PyError × List FileOperation
  | .look name =>
      match fromLdap w name with
      | .ok (some found) =>
          match listenerFile objectType w.timestamp found with
          | .ok file => (.more (.opening file), [])
          | .error raised => (.raised raised, [])
      | .ok none => (.ended, [])
      | .error raised => (.raised raised, [])
  | .opening file => useDisk w (.more (.writing file)) (.opened file)
  | .writing file => useDisk w .ended (.written file)

theorem useDisk_cases (w : SchedulerWorld) (next : Progress SchedulerJob PyError)
    (operation : FileOperation) :
    (w.disk = none ∧ useDisk w next operation = (next, [operation])) ∨
      ∃ raised, w.disk = some raised ∧ useDisk w next operation = (.raised raised, []) := by
  unfold useDisk
  cases w.disk with
  | none => exact .inl ⟨rfl, rfl⟩
  | some raised => exact .inr ⟨raised, rfl, rfl⟩

/-- What looking up an object leads to. -/
theorem queueObject_look
    (fromLdap : SchedulerWorld → String → Except PyError (Option ScheduledObject))
    (objectType : String) (w : SchedulerWorld) (name : String) :
    let stepped := queueObject fromLdap objectType w (.look name)
    (fromLdap w name = .ok none ∧ stepped = (.ended, [])) ∨
    (∃ found file, fromLdap w name = .ok (some found) ∧
      listenerFile objectType w.timestamp found = .ok file ∧
        stepped = (.more (.opening file), [])) ∨
    ∃ raised, stepped = (.raised raised, []) ∧
      (fromLdap w name = .error raised ∨ ∃ found, fromLdap w name = .ok (some found) ∧
        listenerFile objectType w.timestamp found = .error raised) := by
  cases answer : fromLdap w name with
  | error raised => exact .inr (.inr ⟨raised, by simp only [queueObject, answer], .inl rfl⟩)
  | ok found =>
      cases found with
      | none => exact .inl ⟨rfl, by simp only [queueObject, answer]⟩
      | some found =>
          cases made : listenerFile objectType w.timestamp found with
          | ok file =>
              exact .inr (.inl ⟨found, file, rfl, made, by simp only [queueObject, answer, made]⟩)
          | error raised =>
              exact .inr (.inr ⟨raised, by simp only [queueObject, answer, made],
                .inr ⟨found, rfl, made⟩⟩)

def queueUser [CaseMapping] :
    SchedulerWorld → SchedulerJob → Progress SchedulerJob PyError × List FileOperation :=
  queueObject getUserFromLdap "users/user"

def queueGroup (L : LdapRules) :
    SchedulerWorld → SchedulerJob → Progress SchedulerJob PyError × List FileOperation :=
  queueObject (getGroupFromLdap L) "groups/group"

/-! ## The school -/

abbrev SchedulerPool := Pool SchedulerJob FileOperation PyError

/-- Where `queue_school` is, with what the tasks have done to files. -/
inductive SchoolRun where
  | started
  | users (tasks : SchedulerPool)
  | groups (userLog : List FileOperation) (tasks : SchedulerPool)
  | finished (userLog groupLog : List FileOperation)
  | failed (userLog groupLog : List FileOperation) (raised : PyError)

/-- What can happen next while a school is scheduled. -/
inductive SchoolEvent where
  | task (i : Nat)
  /-- `queue_school` itself goes on. -/
  | proceed

section School

variable [CaseMapping] (L : LdapRules) (school : String) (numTasks : Nat)

/-- The tasks for the names that were found, behind a new semaphore. -/
def startTasks (found : Except PyError (List String)) (run : SchedulerPool → SchoolRun)
    (failed : PyError → SchoolRun) : SchoolRun :=
  match found with
  | .ok names => run (Pool.start numTasks (names.map .look))
  | .error raised => failed raised

/-- `gather` waits for all tasks, or raises the first exception while the others go on; they are
    cancelled when `queue_school` has ended. -/
def gather (tasks : SchedulerPool) (ended : SchoolRun) (failed : PyError → SchoolRun) :
    Option SchoolRun :=
  match tasks.raised with
  | some raised => some (failed raised)
  | none => if tasks.AllEnded then some ended else none

def queueSchool (w : SchedulerWorld) : SchoolRun → SchoolEvent → Option SchoolRun
  | .started, .proceed =>
      some (startTasks numTasks (w.ldap.bind (getSchoolUsers L school)) .users (.failed [] []))
  | .users tasks, .task i => (tasks.step queueUser w i).map .users
  | .users tasks, .proceed =>
      gather tasks
        (startTasks numTasks (w.ldap.bind (getSchoolGroups L school)) (.groups tasks.log)
          (.failed tasks.log []))
        (.failed tasks.log [])
  | .groups userLog tasks, .task i => (tasks.step (queueGroup L) w i).map (.groups userLog)
  | .groups userLog tasks, .proceed =>
      gather tasks (.finished userLog tasks.log) (.failed userLog tasks.log)
  | _, _ => none

def schoolRun : List (SchedulerWorld × SchoolEvent) → Option SchoolRun :=
  List.foldlM (fun run event => queueSchool L school numTasks event.1 run event.2) .started

end School

end IdConnector
