import IdConnector.Deletion

/-! # The parameters of a search

A user is searched for by its former uids where these are known, and else by the current
ones; a source uid that is unknown altogether is that of the import configuration. The
computation keeps to this for the objects that bring both uids. An object of a removed user
without them makes it raise a `KeyError`, where the search itself would have reported
`MissingData`.
-/

namespace IdConnector

open Library

/-- The uids that an object has besides its old data. -/
def ListenerUserObject.currentRecordUid : ListenerUserObject → Option String
  | addModify obj => obj.recordUid
  | remove _ => none

def ListenerUserObject.currentSourceUid : ListenerUserObject → Option String
  | addModify obj => obj.sourceUid
  | remove _ => none

def ListenerUserObject.oldRecordUid (obj : ListenerUserObject) : Option String :=
  obj.oldData.bind ListenerUserOldDataEntry.recordUid

def ListenerUserObject.oldSourceUid (obj : ListenerUserObject) : Option String :=
  obj.oldData.bind ListenerUserOldDataEntry.sourceUid

/-- A remove object has both uids in its old data. -/
def ListenerUserObject.BringsUids : ListenerUserObject → Prop
  | addModify _ => True
  | remove obj => isSet (obj.oldData.bind ListenerUserOldDataEntry.recordUid) = true ∧
      isSet (obj.oldData.bind ListenerUserOldDataEntry.sourceUid) = true

instance (obj : ListenerUserObject) : Decidable obj.BringsUids := by
  unfold ListenerUserObject.BringsUids
  cases obj <;> infer_instance

namespace KelvinPerSAUserDispatcher

open Action

variable {T User : Type} {outside : Outside T User}

def preferOld (old current : Option String) : Option String := if isSet old then old else current

/-- What the documentation of `search_params` asks for. -/
def wantedParams (outside : Outside T User) (obj : ListenerUserObject) :
    Action (Handling T User) HandlerError SearchParams := do
  let recordUid := preferOld obj.oldRecordUid obj.currentRecordUid
  let sourceUid := preferOld obj.oldSourceUid obj.currentSourceUid
  if isSet sourceUid then return ⟨recordUid, sourceUid⟩
  else return ⟨recordUid, some (← call outside.getSourceUid)⟩

/-! ## Objects that bring both uids -/

theorem listenerParams_addModify (obj : ListenerUserAddModifyObject) :
    (listenerParams (.addModify obj)).get "record_uid" = some
        (preferOld (ListenerUserObject.addModify obj).oldRecordUid obj.recordUid) ∧
      (listenerParams (.addModify obj)).get "source_uid" = some
        (preferOld (ListenerUserObject.addModify obj).oldSourceUid obj.sourceUid) := by
  unfold listenerParams listenerParams.overrideParams
  cases old : obj.oldData with
  | none => simp [preferOld, ListenerUserObject.oldRecordUid, ListenerUserObject.oldSourceUid,
      ListenerUserObject.oldData, old, isSet, Dict.get]
  | some entry =>
      by_cases record : isSet entry.recordUid <;> by_cases source : isSet entry.sourceUid <;>
        simp [preferOld, ListenerUserObject.oldRecordUid, ListenerUserObject.oldSourceUid,
          ListenerUserObject.oldData, old, record, source, Dict.get, Dict.set]

theorem searchParams_addModify (obj : ListenerUserAddModifyObject) (s : Handling T User) :
    exec (searchParams outside (.addModify obj)) s =
      exec (wantedParams outside (.addModify obj)) s := by
  obtain ⟨record, source⟩ := listenerParams_addModify obj
  unfold searchParams wantedParams
  simp only [record, source, ListenerUserObject.currentRecordUid,
    ListenerUserObject.currentSourceUid]
  by_cases known : isSet (preferOld (ListenerUserObject.addModify obj).oldSourceUid obj.sourceUid)
  · simp only [known, if_true]
    rfl
  · simp only [known, Bool.false_eq_true, if_false, exec_bind, exec_map]
    cases exec (call outside.getSourceUid) s with
    | mk result t => cases result <;> rfl

variable (outside) in
theorem searchParams_known {obj : ListenerUserObject} (known : obj.BringsUids)
    (s : Handling T User) :
    exec (searchParams outside obj) s = exec (wantedParams outside obj) s := by
  cases obj with
  | addModify obj => exact searchParams_addModify obj s
  | remove obj =>
      obtain ⟨record, source⟩ := known
      cases old : obj.oldData with
      | none => simp [old, isSet] at record
      | some entry =>
          simp only [old, Option.bind_some] at record source
          simp [exec_searchParams_remove old, wantedParams, preferOld,
            ListenerUserObject.oldRecordUid, ListenerUserObject.oldSourceUid,
            ListenerUserObject.oldData, old, record, source]

/-! ## Remove objects that do not -/

variable (outside) in
theorem searchParams_unknown {obj : ListenerUserRemoveObject}
    (unknown : ¬ (ListenerUserObject.remove obj).BringsUids) (s : Handling T User) :
    ∃ key, exec (searchParams outside (.remove obj)) s = (.error (.python (.keyError key)), s) := by
  cases old : obj.oldData with
  | none =>
      exact ⟨"source_uid", by
        simp [searchParams, listenerParams, listenerParams.overrideParams, old, raising, Dict.get]⟩
  | some entry =>
      rw [exec_searchParams_remove old]
      by_cases source : isSet entry.sourceUid
      · by_cases record : isSet entry.recordUid
        · exact absurd ⟨by simpa [old] using record, by simpa [old] using source⟩ unknown
        · exact ⟨"record_uid", by simp [source, record]⟩
      · exact ⟨"source_uid", by simp [source]⟩

/-- Reading the import configuration and searching raise nothing but their own exceptions. -/
structure RaisesOwn (outside : Outside T User) : Prop where
  getSourceUid : ∀ {t t' raised}, exec outside.getSourceUid t = (.error raised, t') →
    ∃ operation, raised = .python (.osError operation)
  search : ∀ {recordUid sourceUid t t' raised},
    exec (outside.search recordUid sourceUid) t = (.error raised, t') →
      ∃ reason, raised = .client reason

theorem wantedParams_raises {obj : ListenerUserObject} {s s' : Handling T User}
    {raised : HandlerError} (run : exec (wantedParams outside obj) s = (.error raised, s')) :
    ∃ t', exec outside.getSourceUid s.target = (.error raised, t') := by
  simp only [wantedParams] at run
  split at run
  · simp at run
  · rw [exec_bind, exec_call] at run
    cases answer : exec outside.getSourceUid s.target with
    | mk result t' =>
        cases result with
        | ok uid => simp [answer] at run
        | error other =>
            simp only [answer, Prod.mk.injEq, Except.error.injEq] at run
            exact ⟨t', by rw [run.1]⟩

/-! ## Searching -/

/-- The search is given up for missing data exactly if one of the parameters is missing. -/
def MissingDataIff (outside : Outside T User) (obj : ListenerUserObject) (s : Handling T User) :
    Prop :=
  (∃ param, (exec (existsOnTarget outside obj) s).1 = .error (.missingData param)) ↔
    ∃ params, (exec (wantedParams outside obj) s).1 = .ok params ∧
      ¬ (isSet params.recordUid = true ∧ isSet params.sourceUid = true)

theorem fetchObj_not_missingData (own : RaisesOwn outside) (recordUid sourceUid param : String)
    (s : Handling T User) :
    (exec (fetchObj outside recordUid sourceUid) s).1 ≠ .error (.missingData param) := by
  unfold fetchObj
  rw [exec_bind, exec_call]
  cases answer : exec (outside.search recordUid sourceUid) s.target with
  | mk result t =>
      cases result with
      | error raised =>
          obtain ⟨reason, rfl⟩ := own.search answer
          simp
      | ok users =>
          match users with
          | [] => simp
          | [user] => simp
          | first :: second :: rest => simp

theorem missingDataIff_known (own : RaisesOwn outside) {obj : ListenerUserObject}
    (known : obj.BringsUids) (s : Handling T User) : MissingDataIff outside obj s := by
  unfold MissingDataIff existsOnTarget
  rw [exec_bind, searchParams_known outside known]
  cases run : exec (wantedParams outside obj) s with
  | mk result t =>
      cases result with
      | error raised =>
          obtain ⟨t', failed⟩ := wantedParams_raises run
          obtain ⟨operation, rfl⟩ := own.getSourceUid failed
          simp
      | ok params =>
          by_cases record : isSet params.recordUid
          · by_cases source : isSet params.sourceUid
            · simp [record, source, fetchObj_not_missingData own]
            · simp [record, source]
          · simp [record]

/-- The parameters are computed as wanted, nothing else is raised, and the search is given up
    only for a missing uid. -/
structure TotalAndExact (outside : Outside T User) (obj : ListenerUserObject)
    (s : Handling T User) : Prop where
  exact : exec (searchParams outside obj) s = exec (wantedParams outside obj) s
  raises : ∀ {raised s'}, exec (searchParams outside obj) s = (.error raised, s') →
    ∃ t', exec outside.getSourceUid s.target = (.error raised, t')
  missing : MissingDataIff outside obj s

/-- A remove object without the former uids leads to a `KeyError`, every other object to the
    wanted parameters. -/
theorem searchParams_total_and_exact_iff (own : RaisesOwn outside) (obj : ListenerUserObject)
    (s : Handling T User) : TotalAndExact outside obj s ↔ obj.BringsUids := by
  constructor
  · intro total
    cases obj with
    | addModify obj => trivial
    | remove obj =>
        by_contra unknown
        obtain ⟨key, run⟩ := searchParams_unknown outside unknown s
        obtain ⟨t', failed⟩ := total.raises run
        obtain ⟨operation, same⟩ := own.getSourceUid failed
        cases same
  · intro known
    have exact := searchParams_known outside known s
    exact ⟨exact, fun run => wantedParams_raises (exact ▸ run), missingDataIff_known own known s⟩

/-! ## Removing a user that has lost its schools -/

theorem bringsUids_removeObjectOf (obj : ListenerUserAddModifyObject) :
    (ListenerUserObject.remove (removeObjectOf obj)).BringsUids ↔
      isSet (formerEntry obj).recordUid = true ∧ isSet (formerEntry obj).sourceUid = true :=
  Iff.rfl

theorem searchParams_former {obj : ListenerUserAddModifyObject}
    (record : isSet (formerEntry obj).recordUid = true)
    (source : isSet (formerEntry obj).sourceUid = true) (s : Handling T User) :
    exec (searchParams outside (.addModify obj)) s =
      (.ok ⟨(formerEntry obj).recordUid, (formerEntry obj).sourceUid⟩, s) := by
  rw [searchParams_addModify]
  unfold formerEntry at record source ⊢
  cases old : obj.oldData with
  | none =>
      simp only [old, Option.getD_none] at record source
      simp [wantedParams, preferOld, ListenerUserObject.oldRecordUid,
        ListenerUserObject.oldSourceUid, ListenerUserObject.oldData, old, isSet.eq_1 none,
        ListenerUserObject.currentRecordUid, ListenerUserObject.currentSourceUid, source]
  | some entry =>
      simp only [old, Option.getD_some] at record source
      simp [wantedParams, preferOld, ListenerUserObject.oldRecordUid,
        ListenerUserObject.oldSourceUid, ListenerUserObject.oldData, old, record, source]

/-- The removal and the modification of an object look for the same user exactly if the entry
    that `handle_has_no_schools` hands on has both uids. -/
theorem removal_searches_same_user_iff (outside : Outside T User)
    (obj : ListenerUserAddModifyObject) (s : Handling T User) :
    (∃ params s', exec (searchParams outside (.addModify obj)) s = (.ok params, s') ∧
      exec (searchParams outside (.remove (removeObjectOf obj))) s = (.ok params, s')) ↔
    isSet (formerEntry obj).recordUid = true ∧ isSet (formerEntry obj).sourceUid = true := by
  have has : (removeObjectOf obj).oldData = some (formerEntry obj) := rfl
  constructor
  · intro ⟨params, s', _, removed⟩
    by_contra unknown
    obtain ⟨key, run⟩ := searchParams_unknown outside
      ((bringsUids_removeObjectOf obj).not.mpr unknown) s
    rw [run] at removed
    cases removed
  · intro ⟨record, source⟩
    exact ⟨⟨(formerEntry obj).recordUid, (formerEntry obj).sourceUid⟩, s,
      searchParams_former record source s, by simp [exec_searchParams_remove has, record, source]⟩

end KelvinPerSAUserDispatcher

section Examples

open KelvinPerSAUserDispatcher

theorem schoollessTarget_raisesOwn : RaisesOwn schoollessTarget where
  getSourceUid run := by cases run
  search run := by cases run

/-- The removal of a user whose former record uid was never set. -/
def withoutRecordUid : ListenerUserRemoveObject where
  dn := "uid=ben,cn=schueler,cn=users,ou=DEMOSCHOOL,dc=uni,dc=dtr"
  id := "77e0"
  oldData := some ⟨["DEMOSCHOOL"], none, some "TESTID"⟩

theorem pupil_params_total_and_exact :
    TotalAndExact schoollessTarget (.addModify pupil) freshHandling ↔
      (ListenerUserObject.addModify pupil).BringsUids :=
  searchParams_total_and_exact_iff schoollessTarget_raisesOwn _ freshHandling

theorem removal_without_record_uid_raises :
    (Action.exec (searchParams schoollessTarget (.remove withoutRecordUid)) freshHandling).1 =
        .error (.python (.keyError "record_uid")) ∧
      (Action.exec (existsOnTarget schoollessTarget (.remove withoutRecordUid)) freshHandling).1 =
        .error (.python (.keyError "record_uid")) ∧
      (Action.exec (wantedParams schoollessTarget (.remove withoutRecordUid)) freshHandling).1 =
        .ok ⟨none, some "TESTID"⟩ ∧
      ¬ TotalAndExact schoollessTarget (.remove withoutRecordUid) freshHandling := by
  refine ⟨rfl, rfl, rfl, fun total => ?_⟩
  have same := congrArg Prod.fst total.exact
  cases same

/-- A pupil whose old data was stored before the record uid was set. -/
def recordUidSetLater : ListenerUserAddModifyObject :=
  { pupil with oldData := some ⟨["DEMOSCHOOL"], none, some "TESTID"⟩ }

theorem removal_searches_other_user :
    (Action.exec (searchParams schoollessTarget (.addModify recordUidSetLater)) freshHandling).1 =
        .ok ⟨some "anna", some "TESTID"⟩ ∧
      (Action.exec (searchParams schoollessTarget (.remove (removeObjectOf recordUidSetLater)))
        freshHandling).1 = .error (.python (.keyError "record_uid")) :=
  ⟨rfl, rfl⟩

end Examples

end IdConnector
