import IdConnector.Files
import IdConnector.Library.Attempts

/-! # Loading listener files, with the exceptions

`load_listener_file` raises one exception of its own. What a `get_listener_object` hook
raises passes through it, and the callers treat the two differently.
-/

namespace IdConnector

open Library

/-- The classes of exceptions that the queues tell apart; every other `Exception` is `other`. -/
inductive QueueException where
  | invalidListenerFile
  | listenerLoadingError
  | listenerSavingError
  | osError
  | valueError
  | apiCommunicationError
  | apiRequestError
  | serverError
  | other
  deriving Repr, DecidableEq

/-- Instances of `APICommunicationError`, its subclasses included. -/
def QueueException.isApiCommunicationError : QueueException → Bool
  | apiCommunicationError | apiRequestError | serverError => true
  | _ => false

/-- What calling a hook comes to: collecting the implementations may raise, and so may each
    of them. -/
abbrev HookCall (α : Type) := Except QueueException (List (Except QueueException α))

namespace HookCall

variable {α : Type}

/-- Await the coroutines; the first exception is raised. -/
def await (call : HookCall α) : Except QueueException (List α) := do
  let coros ← call
  coros.mapM id

/-- An implementation raises the exception, at the latest while it is awaited. -/
def Raises (call : HookCall α) (raised : QueueException) : Prop :=
  call = .error raised ∨ ∃ coros, call = .ok coros ∧ .error raised ∈ coros

theorem await_ok_iff {call : HookCall α} :
    (∃ results, call.await = .ok results) ↔ ∀ raised, ¬ call.Raises raised := by
  cases call with
  | error raised => simp [await, Raises, bind, Except.bind]
  | ok coros =>
      simp only [await, Raises, bind, Except.bind, Attempts.exists_mapM_ok_iff, id]
      constructor
      · intro returns raised raises
        rcases raises with collecting | ⟨others, same, member⟩
        · cases collecting
        · obtain rfl : coros = others := Except.ok.inj same
          obtain ⟨value, returned⟩ := returns _ member
          cases returned
      · intro quiet coro member
        cases coro with
        | ok value => exact ⟨value, rfl⟩
        | error raised => exact absurd (Or.inr ⟨coros, rfl, member⟩) (quiet raised)

end HookCall

/-- What loading needs from outside. `parse` reads a file and parses it, without a result for
    an `OSError` or a `ValueError`; the hooks stand in the order of their calls. -/
structure Loader (F D : Type) where
  parse : F → Option D
  getListenerObject : List (D → Except QueueException (Option ListenerObject))

variable {F D : Type}

/-- `load_listener_file` for the content of a file. -/
def Loader.load (l : Loader F D) (content : F) : Except QueueException ListenerObject := do
  match l.parse content with
  | none => throw .listenerLoadingError
  | some objDict =>
      let listenerObjects ← l.getListenerObject.mapM fun hook => hook objDict
      match listenerObjects.findSome? id with
      | some obj => return obj
      | none => throw .listenerLoadingError

/-- `load_listener_file`; a file that is not there cannot be opened. -/
def loadFile {O : Type} (load : F → Except QueueException O) (q : QueueDir F) (name : String) :
    Except QueueException O :=
  match q.files.get name with
  | none => .error .listenerLoadingError
  | some content => load content

/-- The listener object, whatever the reason for not having one. -/
def loaded (load : F → Except QueueException ListenerObject) (content : F) :
    Option ListenerObject :=
  (load content).toOption

theorem loaded_eq_some_iff {load : F → Except QueueException ListenerObject} {content : F}
    {obj : ListenerObject} : loaded load content = some obj ↔ load content = .ok obj := by
  unfold loaded
  cases load content <;> simp [Except.toOption]

theorem loadFile_ok_iff {O : Type} {load : F → Except QueueException O} {q : QueueDir F}
    {name : String} {obj : O} :
    loadFile load q name = .ok obj ↔
      ∃ content, q.files.get name = some content ∧ load content = .ok obj := by
  unfold loadFile
  cases q.files.get name <;> simp

theorem loadFile_ok_iff_loadListenerFile {load : F → Except QueueException ListenerObject}
    {q : QueueDir F} {name : String} {obj : ListenerObject} :
    loadFile load q name = .ok obj ↔ q.loadListenerFile (loaded load) name = some obj := by
  rw [loadFile_ok_iff, QueueDir.loadListenerFile, Option.bind_eq_some_iff]
  simp only [loaded_eq_some_iff]

/-! ## What moving one file leaves alone -/

/-- The file of a name in each of the three directories. -/
def QueueDir.at (q : QueueDir F) (name : String) : Option F × Option F × Option F :=
  (q.files.get name, q.trash.get name, q.keep.get name)

theorem QueueDir.discardFile_at {q : QueueDir F} {name other : String} (different : name ≠ other) :
    (q.discardFile name).at other = q.at other := by
  unfold QueueDir.discardFile
  split
  · rfl
  · split <;> simp [QueueDir.at, Directory.get_remove, Directory.get_put, different]

theorem QueueDir.remove_at {q : QueueDir F} {name other : String} (different : name ≠ other) :
    QueueDir.at { q with files := q.files.remove name } other = q.at other := by
  simp [QueueDir.at, Directory.get_remove, different]

/-- A discarded file is in the trash, unless the trash had one of its name. -/
theorem QueueDir.discardFile_at_self (q : QueueDir F) (name : String) :
    (q.discardFile name).at name =
      (none, (q.trash.get name).or (q.files.get name), q.keep.get name) := by
  unfold QueueDir.discardFile
  cases found : q.files.get name with
  | none => simp [QueueDir.at, found]
  | some content => cases trashed : q.trash.get name <;> simp [QueueDir.at, trashed]

theorem QueueDir.foldl_discardFile_at {names : List String} {other : String} (q : QueueDir F)
    (untouched : other ∉ names) : (names.foldl discardFile q).at other = q.at other := by
  induction names generalizing q with
  | nil => rfl
  | cons name rest ih =>
      rw [List.foldl_cons, ih _ (List.not_mem_of_not_mem_cons untouched),
        discardFile_at (List.ne_of_not_mem_cons untouched).symm]

theorem QueueDir.foldl_discardFile_at_mem {names : List String} {name : String} (q : QueueDir F)
    (distinct : names.Nodup) (member : name ∈ names) :
    (names.foldl discardFile q).at name =
      (none, (q.trash.get name).or (q.files.get name), q.keep.get name) := by
  induction names generalizing q with
  | nil => exact absurd member List.not_mem_nil
  | cons first rest ih =>
      obtain ⟨elsewhere, distinct_rest⟩ := List.nodup_cons.mp distinct
      rw [List.foldl_cons]
      by_cases same : first = name
      · subst same
        rw [foldl_discardFile_at _ elsewhere, discardFile_at_self]
      · have kept := discardFile_at (q := q) same
        simp only [QueueDir.at, Prod.mk.injEq] at kept
        rw [ih _ distinct_rest ((List.mem_cons.mp member).resolve_left (Ne.symm same)),
          kept.1, kept.2.1, kept.2.2]

theorem QueueDir.purge_at [CaseMapping] (q : QueueDir F) {name : String} (json : isJson name = true) :
    q.purge.at name = q.at name :=
  foldl_discardFile_at q (by simp [json])

end IdConnector
