import IdConnector.ScheduledFiles

/-! # How scheduling a school ends

With a positive number of tasks `queue_school` comes to an end, whatever the order in which its
tasks take turns. If nothing is missing in LDAP and no search or file fails, it ends without an
exception.
-/

namespace IdConnector

open Library Library.LdapFilter LdapAccess

variable {L : LdapRules} {D : SchoolDirectory} {school : String} {numTasks : Nat}

/-! ## Steps that are left -/

/-- A bound for the steps of a task that has a permit. -/
def SchedulerJob.size : SchedulerJob → Nat
  | .look _ => 3
  | .opening _ => 2
  | .writing _ => 1

theorem smaller_queueObject
    (fromLdap : SchedulerWorld → String → Except PyError (Option ScheduledObject))
    (objectType : String) (w : SchedulerWorld) (job next : SchedulerJob)
    (led : (queueObject fromLdap objectType w job).1 = .more next) : next.size < job.size := by
  cases job with
  | look name =>
      obtain ⟨-, stepped⟩ | ⟨object, file, -, -, stepped⟩ | ⟨raised, stepped, -⟩ :=
        queueObject_look fromLdap objectType w name
      · simp [stepped] at led
      · simp only [stepped, Progress.more.injEq] at led
        simp [← led, SchedulerJob.size]
      · simp [stepped] at led
  | opening file =>
      obtain ⟨-, stepped⟩ | ⟨raised, -, stepped⟩ :=
        useDisk_cases w (.more (.writing file)) (.opened file)
      · simp only [queueObject, stepped, Progress.more.injEq] at led
        simp [← led, SchedulerJob.size]
      · simp [queueObject, stepped] at led
  | writing file =>
      obtain ⟨-, stepped⟩ | ⟨raised, -, stepped⟩ := useDisk_cases w .ended (.written file)
      · simp [queueObject, stepped] at led
      · simp [queueObject, stepped] at led

theorem left_start (names : List String) :
    (Pool.start numTasks (names.map .look) : SchedulerPool).left SchedulerJob.size =
      4 * names.length := by
  simp [Pool.left, Pool.start, Function.comp_def, PoolTask.left, SchedulerJob.size, mul_comm]

/-- The searches for the school find at most so many users and groups, if they do not fail. -/
structure SchedulerWorld.FindsAtMost (L : LdapRules) (school : String) (users groups : Nat)
    (w : SchedulerWorld) : Prop where
  users : ∀ names, w.ldap.bind (getSchoolUsers L school) = .ok names → names.length ≤ users
  groups : ∀ names, w.ldap.bind (getSchoolGroups L school) = .ok names → names.length ≤ groups

/-- A bound for the steps of a run, if no search finds more users and groups. -/
def SchoolRun.left (users groups : Nat) : SchoolRun → Nat
  | .started => 4 * users + 4 * groups + 3
  | .users tasks => tasks.left SchedulerJob.size + 4 * groups + 2
  | .groups _ tasks => tasks.left SchedulerJob.size + 1
  | _ => 0

theorem left_startTasks {users groups n k : Nat} {run : SchedulerPool → SchoolRun}
    {failed : PyError → SchoolRun}
    (running : ∀ tasks, (run tasks).left users groups = tasks.left SchedulerJob.size + k)
    (failing : ∀ raised, (failed raised).left users groups = 0)
    {found : Except PyError (List String)} (few : ∀ names, found = .ok names → names.length ≤ n) :
    (startTasks numTasks found run failed).left users groups ≤ 4 * n + k := by
  cases found with
  | error raised =>
      rw [startTasks, failing]
      exact Nat.zero_le _
  | ok names =>
      rw [startTasks, running, left_start]
      have short : names.length ≤ n := few names rfl
      omega

section Steps

variable [CaseMapping] {users groups : Nat}

theorem queueSchool_left {w : SchedulerWorld} (few : w.FindsAtMost L school users groups)
    {run run' : SchoolRun} {event : SchoolEvent}
    (went : queueSchool L school numTasks w run event = some run') :
    run'.left users groups < run.left users groups := by
  have positive (job : SchedulerJob) : 0 < job.size := by cases job <;> simp [SchedulerJob.size]
  cases run with
  | started =>
      cases event with
      | task i => cases went
      | proceed =>
          cases went
          refine (left_startTasks (k := 4 * groups + 2) ?_ ?_ few.users).trans_lt ?_
          · intro tasks
            rfl
          · intro raised
            rfl
          · simp only [SchoolRun.left]
            omega
  | users tasks =>
      cases event with
      | task i =>
          obtain ⟨tasks', stepped, rfl⟩ := Option.map_eq_some_iff.mp went
          have less := Pool.step_left positive (smaller_queueObject _ _ w) stepped
          simp only [SchoolRun.left]
          omega
      | proceed =>
          obtain ⟨raised, -, rfl⟩ | ⟨fine, ended, rfl⟩ := gather_cases went
          · simp only [SchoolRun.left]
            omega
          · refine (left_startTasks (k := 1) ?_ ?_ few.groups).trans_lt ?_
            · intro tasks
              rfl
            · intro raised
              rfl
            · simp only [SchoolRun.left]
              omega
  | groups userLog tasks =>
      cases event with
      | task i =>
          obtain ⟨tasks', stepped, rfl⟩ := Option.map_eq_some_iff.mp went
          have less := Pool.step_left positive (smaller_queueObject _ _ w) stepped
          simp only [SchoolRun.left]
          omega
      | proceed =>
          obtain ⟨raised, -, rfl⟩ | ⟨fine, ended, rfl⟩ := gather_cases went
          · simp only [SchoolRun.left]
            omega
          · simp only [SchoolRun.left]
            omega
  | finished userLog groupLog => cases went
  | failed userLog groupLog raised => cases went

theorem foldlM_left {events : List (SchedulerWorld × SchoolEvent)}
    (few : ∀ event ∈ events, event.1.FindsAtMost L school users groups) {run run' : SchoolRun}
    (ran : events.foldlM (fun run event => queueSchool L school numTasks event.1 run event.2) run =
      some run') :
    events.length + run'.left users groups ≤ run.left users groups := by
  induction events generalizing run with
  | nil =>
      cases ran
      simp
  | cons event rest ih =>
      obtain ⟨between, went, ran⟩ := Option.bind_eq_some_iff.mp ran
      have less := queueSchool_left (few event List.mem_cons_self) went
      have later := ih (fun event member => few event (List.mem_cons_of_mem _ member)) ran
      rw [List.length_cons]
      omega

end Steps

/-! ## Permits -/

/-- How many tasks have a permit. -/
def SchoolRun.held : SchoolRun → Nat
  | .users tasks => tasks.held
  | .groups _ tasks => tasks.held
  | _ => 0

def SchoolRun.Permitted (numTasks : Nat) : SchoolRun → Prop
  | .users tasks => tasks.permits + tasks.held = numTasks
  | .groups _ tasks => tasks.permits + tasks.held = numTasks
  | _ => True

theorem permitted_startTasks {run : SchedulerPool → SchoolRun} {failed : PyError → SchoolRun}
    (running : ∀ tasks, tasks.permits + tasks.held = numTasks → (run tasks).Permitted numTasks)
    (failing : ∀ raised, (failed raised).Permitted numTasks)
    (found : Except PyError (List String)) :
    (startTasks numTasks found run failed).Permitted numTasks := by
  cases found with
  | error raised => exact failing raised
  | ok names => exact running _ (by rw [Pool.held_start]; rfl)

/-- The run is over. -/
def SchoolRun.isOver : SchoolRun → Bool
  | .finished _ _ => true
  | .failed _ _ _ => true
  | _ => false

theorem gather_isSome {tasks : SchedulerPool} (ended : tasks.AllEnded) (run : SchoolRun)
    (failed : PyError → SchoolRun) : (gather tasks run failed).isSome = true := by
  unfold gather
  cases tasks.raised with
  | some raised => rfl
  | none => rw [if_pos ended]; rfl

section Permits

variable [CaseMapping]

theorem queueSchool_permitted {w : SchedulerWorld} {run run' : SchoolRun} {event : SchoolEvent}
    (went : queueSchool L school numTasks w run event = some run')
    (permitted : run.Permitted numTasks) : run'.Permitted numTasks := by
  cases run with
  | started =>
      cases event with
      | task i => cases went
      | proceed =>
          cases went
          refine permitted_startTasks ?_ ?_ _
          · intro tasks all
            exact all
          · intro raised
            trivial
  | users tasks =>
      cases event with
      | task i =>
          obtain ⟨tasks', stepped, rfl⟩ := Option.map_eq_some_iff.mp went
          exact (Pool.step_permits stepped).trans permitted
      | proceed =>
          obtain ⟨raised, -, rfl⟩ | ⟨fine, ended, rfl⟩ := gather_cases went
          · trivial
          · refine permitted_startTasks ?_ ?_ _
            · intro tasks all
              exact all
            · intro raised
              trivial
  | groups userLog tasks =>
      cases event with
      | task i =>
          obtain ⟨tasks', stepped, rfl⟩ := Option.map_eq_some_iff.mp went
          exact (Pool.step_permits stepped).trans permitted
      | proceed => obtain ⟨raised, -, rfl⟩ | ⟨fine, ended, rfl⟩ := gather_cases went <;> trivial
  | finished userLog groupLog => cases went
  | failed userLog groupLog raised => cases went

/-- Some task, or `queue_school` itself, can always go on. -/
theorem exists_event (positive : 0 < numTasks) {run : SchoolRun}
    (permitted : run.Permitted numTasks) (unfinished : run.isOver = false) (w : SchedulerWorld) :
    ∃ event, (queueSchool L school numTasks w run event).isSome = true := by
  cases run with
  | started => exact ⟨.proceed, rfl⟩
  | users tasks =>
      by_cases ended : tasks.AllEnded
      · exact ⟨.proceed, gather_isSome ended _ _⟩
      · have some_permits : 0 < tasks.permits + tasks.held := permitted ▸ positive
        obtain ⟨i, stepped⟩ := Pool.exists_step queueUser w some_permits ended
        exact ⟨.task i, by rw [queueSchool, Option.isSome_map]; exact stepped⟩
  | groups userLog tasks =>
      by_cases ended : tasks.AllEnded
      · exact ⟨.proceed, gather_isSome ended _ _⟩
      · have some_permits : 0 < tasks.permits + tasks.held := permitted ▸ positive
        obtain ⟨i, stepped⟩ := Pool.exists_step (queueGroup L) w some_permits ended
        exact ⟨.task i, by rw [queueSchool, Option.isSome_map]; exact stepped⟩
  | finished userLog groupLog => cases unfinished
  | failed userLog groupLog raised => cases unfinished

/-- With at least one permit every run comes to its end, also if searches and files fail and LDAP
    changes: it has a bounded number of steps, and until it is over there is always a next one.
    Never do more tasks run than there are permits. -/
theorem queue_school_ends (positive : 0 < numTasks)
    {events : List (SchedulerWorld × SchoolEvent)} {run : SchoolRun}
    (ran : schoolRun L school numTasks events = some run) :
    run.held ≤ numTasks ∧
      (∀ users groups, (∀ event ∈ events, event.1.FindsAtMost L school users groups) →
        events.length ≤ 4 * users + 4 * groups + 3) ∧
      (run.isOver = false →
        ∀ w, ∃ event, (queueSchool L school numTasks w run event).isSome = true) := by
  have start : SchoolRun.started.Permitted numTasks := trivial
  have permitted : run.Permitted numTasks :=
    foldlM_invariant (fun _ => True) (SchoolRun.Permitted numTasks)
      (fun _ _ _ _ _ went => queueSchool_permitted went) (fun _ _ => trivial) start ran
  refine ⟨?_, fun users groups few => ?_, exists_event positive permitted⟩
  · cases run with
    | users tasks => exact Nat.le.intro ((add_comm _ _).trans permitted)
    | groups userLog tasks => exact Nat.le.intro ((add_comm _ _).trans permitted)
    | started => exact Nat.zero_le _
    | finished userLog groupLog => exact Nat.zero_le _
    | failed userLog groupLog raised => exact Nat.zero_le _
  · have bounded := foldlM_left few ran
    simp only [SchoolRun.left] at bounded
    omega

end Permits

/-! ## Runs without exceptions -/

/-- The name is among those that the search for the school has found. -/
def SchedulerJob.Among (names : List String) : SchedulerJob → Prop
  | .look name => name ∈ names
  | _ => True

theorem fine_queueObject
    {fromLdap : SchedulerWorld → String → Except PyError (Option ScheduledObject)}
    {objectType : String} {w : SchedulerWorld} {names : List String} (disk : w.disk = none)
    (looks : ∀ name ∈ names, ∃ answer, fromLdap w name = .ok answer ∧
      ∀ found ∈ answer,
        ∃ entryUuid rest, found.attributes.get "entryUUID" = some (entryUuid :: rest)) :
    Pool.Fine (queueObject fromLdap objectType) (SchedulerJob.Among names) w := by
  intro job among
  cases job with
  | look name =>
      obtain ⟨answer, answered, uuids⟩ := looks name among
      obtain ⟨-, stepped⟩ | ⟨found, file, -, -, stepped⟩ | ⟨raised, -, why⟩ :=
        queueObject_look fromLdap objectType w name
      · rw [stepped]
        trivial
      · rw [stepped]
        trivial
      · rw [answered] at why
        rcases why with why | ⟨found, why, failed⟩
        · cases why
        · cases why
          obtain ⟨entryUuid, rest, present⟩ := uuids found rfl
          simp [listenerFile, present] at failed
  | opening file =>
      rw [queueObject, useDisk, disk]
      trivial
  | writing file =>
      rw [queueObject, useDisk, disk]
      trivial

theorem quiet_startTasks (names : List String) :
    (Pool.start numTasks (names.map .look) : SchedulerPool).Quiet (SchedulerJob.Among names) := by
  refine Pool.quiet_start (fun job member => ?_) numTasks
  obtain ⟨name, present, rfl⟩ := List.mem_map.mp member
  exact present

section Fine

variable [CaseMapping]

/-- Nothing is missing that the schedulers need. -/
structure SchoolDirectory.Complete (D : SchoolDirectory) (L : LdapRules) (school : String) :
    Prop where
  flags : ∀ entry ∈ D.schoolUsers L school, entry.sambaAcctFlags.isSome = true
  userUuids : ∀ entry ∈ D.schoolUsers L school,
    ∃ entryUuid rest, entry.attributes.get "entryUUID" = some (entryUuid :: rest)
  groupUuids : ∀ group ∈ D.schoolGroups L school,
    ∃ entryUuid rest, group.attributes.get "entryUUID" = some (entryUuid :: rest)

/-- The searches find this directory, and the file operations work. -/
structure SchedulerWorld.Healthy (D : SchoolDirectory) (w : SchedulerWorld) : Prop where
  directory : w.ldap = .ok D
  disk : w.disk = none

/-- A user that was found by the school is found again, if it has the object class of a user. -/
theorem search_again (unique : D.UniqueNames L) {entry : LdapEntry}
    (member : entry ∈ D.ldap.entries) :
    search D.ldap none entry.uid true = [entry].filter LdapEntry.hasSchoolClass := by
  rw [← Keyed.filter_key unique.uids member, List.filter_filter]
  exact List.filter_congr fun other _ => Bool.and_comm _ _

theorem groupsNamed_again (unique : D.UniqueNames L) {group : LdapGroup}
    (member : group ∈ D.groups) :
    D.groupsNamed L group.cn = [group].filter (LdapGroup.hasSchoolClass L) := by
  rw [groupsNamed_eq, ← Keyed.filter_key unique.cns member, List.filter_filter]
  exact List.filter_congr fun other _ => Bool.and_comm _ _

theorem fine_queueUser (unique : D.UniqueNames L) (complete : D.Complete L school)
    {w : SchedulerWorld} (healthy : w.Healthy D) {names : List String}
    (found : getSchoolUsers L school D = .ok names) :
    Pool.Fine queueUser (SchedulerJob.Among names) w := by
  rw [getSchoolUsers_eq, Except.ok.injEq] at found
  subst found
  refine fine_queueObject healthy.disk fun name member => ?_
  obtain ⟨entry, selected, rfl⟩ := List.mem_map.mp member
  obtain ⟨present, chosen⟩ := List.mem_filter.mp selected
  have again := search_again unique present
  unfold getUserFromLdap getUser
  rw [healthy.directory]
  cases kind : entry.hasSchoolClass with
  | false =>
      rw [List.filter_cons_of_neg (by simp [kind]), List.filter_nil] at again
      exact ⟨none, by simp [again, bind, Except.bind, pure, Except.pure], nofun⟩
  | true =>
      rw [List.filter_cons_of_pos kind, List.filter_nil] at again
      have schoolUser : entry ∈ D.schoolUsers L school :=
        List.mem_filter.mpr ⟨present, by rw [chosen, kind]; rfl⟩
      obtain ⟨flags, given⟩ := Option.isSome_iff_exists.mp (complete.flags entry schoolUser)
      refine ⟨some entry.scheduled, ?_, ?_⟩
      · simp [again, userIsDisabled, given, bind, Except.bind, pure, Except.pure,
          LdapEntry.scheduled]
      · rintro _ ⟨⟩
        exact complete.userUuids entry schoolUser

theorem fine_queueGroup (unique : D.UniqueNames L) (complete : D.Complete L school)
    {w : SchedulerWorld} (healthy : w.Healthy D) {names : List String}
    (found : getSchoolGroups L school D = .ok names) :
    Pool.Fine (queueGroup L) (SchedulerJob.Among names) w := by
  rw [getSchoolGroups_eq, Except.ok.injEq] at found
  subst found
  refine fine_queueObject healthy.disk fun name member => ?_
  obtain ⟨group, selected, rfl⟩ := List.mem_map.mp member
  obtain ⟨present, chosen⟩ := List.mem_filter.mp selected
  have again := groupsNamed_again unique present
  unfold getGroupFromLdap
  rw [healthy.directory]
  simp only [bind, Except.bind, searchText_getGroupFilter]
  cases kind : group.hasSchoolClass L with
  | false =>
      rw [List.filter_cons_of_neg (by simp [kind]), List.filter_nil] at again
      exact ⟨none, by simp [again, pure, Except.pure], nofun⟩
  | true =>
      rw [List.filter_cons_of_pos kind, List.filter_nil] at again
      have schoolGroup : group ∈ D.schoolGroups L school :=
        List.mem_filter.mpr ⟨present, by rw [chosen, kind]; rfl⟩
      refine ⟨some group.scheduled, ?_, ?_⟩
      · simp [again, pure, Except.pure, LdapGroup.scheduled]
      · rintro _ ⟨⟩
        exact complete.groupUuids group schoolGroup

def SchoolRun.Quiet (D : SchoolDirectory) (L : LdapRules) (school : String) : SchoolRun → Prop
  | .users tasks => ∃ names, getSchoolUsers L school D = .ok names ∧
      tasks.Quiet (SchedulerJob.Among names)
  | .groups _ tasks => ∃ names, getSchoolGroups L school D = .ok names ∧
      tasks.Quiet (SchedulerJob.Among names)
  | .failed _ _ _ => False
  | _ => True

theorem queueSchool_quiet (unique : D.UniqueNames L) (complete : D.Complete L school)
    {w : SchedulerWorld} (healthy : w.Healthy D) {run run' : SchoolRun} {event : SchoolEvent}
    (went : queueSchool L school numTasks w run event = some run') (quiet : run.Quiet D L school) :
    run'.Quiet D L school := by
  cases run with
  | started =>
      cases event with
      | task i => cases went
      | proceed =>
          rw [queueSchool_started healthy.directory, Option.some.injEq] at went
          subst went
          exact ⟨_, getSchoolUsers_eq, quiet_startTasks _⟩
  | users tasks =>
      obtain ⟨names, found, quiet⟩ := quiet
      cases event with
      | task i =>
          obtain ⟨tasks', stepped, rfl⟩ := Option.map_eq_some_iff.mp went
          exact ⟨names, found,
            Pool.step_quiet (fine_queueUser unique complete healthy found) stepped quiet⟩
      | proceed =>
          obtain ⟨raised, failed, -⟩ | ⟨fine, ended, rfl⟩ := gather_cases went
          · rw [quiet.raised] at failed
            cases failed
          · simp only [healthy.directory, Except.bind, getSchoolGroups_eq, startTasks]
            exact ⟨_, getSchoolGroups_eq, quiet_startTasks _⟩
  | groups userLog tasks =>
      obtain ⟨names, found, quiet⟩ := quiet
      cases event with
      | task i =>
          obtain ⟨tasks', stepped, rfl⟩ := Option.map_eq_some_iff.mp went
          exact ⟨names, found,
            Pool.step_quiet (fine_queueGroup unique complete healthy found) stepped quiet⟩
      | proceed =>
          obtain ⟨raised, failed, -⟩ | ⟨fine, ended, rfl⟩ := gather_cases went
          · rw [quiet.raised] at failed
            cases failed
          · trivial
  | finished userLog groupLog => cases went
  | failed userLog groupLog raised => cases went

/-- If nothing is missing, a run that is over has written all documents and ended without an
    exception, in whatever order its tasks took turns and however many of them ran at a time. -/
theorem complete_school_is_written (unique : D.UniqueNames L) (complete : D.Complete L school)
    {events : List (SchedulerWorld × SchoolEvent)} (healthy : ∀ event ∈ events, event.1.Healthy D)
    {run : SchoolRun} (ran : schoolRun L school numTasks events = some run)
    (ended : run.isOver = true) :
    ∃ userLog groupLog, run = .finished userLog groupLog ∧
      documents userLog = D.userDocuments L school ∧
        documents groupLog = D.groupDocuments L school := by
  have stable (event : SchedulerWorld × SchoolEvent) (member : event ∈ events) :
      event.1.ldap = .ok D :=
    (healthy event member).directory
  have accounted := schoolRun_accounted unique stable ran
  have start : SchoolRun.started.Quiet D L school := trivial
  have quiet := foldlM_invariant (SchedulerWorld.Healthy D) (SchoolRun.Quiet D L school)
    (fun _ healthy _ _ _ went => queueSchool_quiet unique complete healthy went) healthy start ran
  cases run with
  | started => cases ended
  | users tasks => cases ended
  | groups userLog tasks => cases ended
  | finished userLog groupLog => exact ⟨userLog, groupLog, rfl, accounted⟩
  | failed userLog groupLog raised => exact quiet.elim

end Fine

section Examples

attribute [local instance] asciiCaseMapping

theorem demo_queue_school_ends :
    finishedRun.held ≤ 1 ∧
      (∀ users groups,
        (∀ event ∈ demoEvents, event.1.FindsAtMost demoRules "DEMOSCHOOL" users groups) →
        demoEvents.length ≤ 4 * users + 4 * groups + 3) ∧
      (finishedRun.isOver = false → ∀ w, ∃ event,
        (queueSchool demoRules "DEMOSCHOOL" 1 w finishedRun event).isSome = true) :=
  queue_school_ends Nat.one_pos demoEvents_run

theorem demoDirectory_complete : demoDirectory.Complete demoRules "DEMOSCHOOL" where
  flags := by decide +kernel
  userUuids entry member := by
    have one : entry = demoPupil := List.mem_singleton.mp (List.mem_of_mem_filter member)
    exact ⟨"0a", [], by rw [one]; rfl⟩
  groupUuids group member := by
    have one : group = demoGroup := List.mem_singleton.mp (List.mem_of_mem_filter member)
    exact ⟨"0b", [], by rw [one]; rfl⟩

theorem calmWorld_healthy : calmWorld.Healthy demoDirectory where
  directory := rfl
  disk := rfl

theorem demo_complete_school_is_written :
    ∃ userLog groupLog, finishedRun = .finished userLog groupLog ∧
      documents userLog = demoDirectory.userDocuments demoRules "DEMOSCHOOL" ∧
        documents groupLog = demoDirectory.groupDocuments demoRules "DEMOSCHOOL" :=
  complete_school_is_written demoDirectory_unique demoDirectory_complete
    (fun event member => demoEvents_world event member ▸ calmWorld_healthy)
    demoEvents_run rfl

end Examples

end IdConnector
