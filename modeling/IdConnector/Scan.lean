import IdConnector.Files
import Mathlib.Data.Prod.Lex

/-! # The task of an out queue

`OutQueue.scan` and `handle`, step by step. Another task can run wherever the
code awaits, and the service can stop between any two steps; a cancelled task
ends at an await, because `CancelledError` is not an `Exception`. A scan task is
started only when none is running.

`passed` and `completed` record which files `handle` was called with and for which
it has returned, each with the content at the time of the call.
-/

namespace IdConnector

open Library

def queueSortOrder : List String := ["users/user", "groups/group"]

/-- The key of `udm_object_queue_order` for a loaded object. -/
def udmObjectQueueOrder {O : Type} [UdmObject O] (obj : O) : Nat :=
  (queueSortOrder.idxOf? (UdmObject.udmObjectType obj)).getD 999

theorem udmObjectQueueOrder_congr {O : Type} [UdmObject O] {obj obj' : O}
    (same : UdmObject.udmObjectType obj = UdmObject.udmObjectType obj') :
    udmObjectQueueOrder obj = udmObjectQueueOrder obj' := by
  rw [udmObjectQueueOrder, same, udmObjectQueueOrder]

/-- `paths.sort()` compares the numbers first and then the paths. -/
def sortPaths (paths : List (Nat × String)) : List (Nat × String) :=
  paths.insertionSort fun a b => toLex (a.1, a.2.toList) ≤ toLex (b.1, b.2.toList)

/-- `lowest_queue_order_num` -/
def lowestQueueOrder (paths : List (Nat × String)) : Nat := (paths.head?.map Prod.fst).getD 999

/-- Where the scan task of an out queue is. -/
inductive ScanTask (F : Type) where
  | stopped
  /-- Awaiting the `school_authority_ping` hooks. -/
  | pinging
  /-- Sleeping after a failed ping. -/
  | waiting
  /-- Determining the order of the listed files. -/
  | collecting (todo : List String) (paths : List (Nat × String))
  | handling (paths : List (Nat × String)) (lowest : Nat)
  /-- Awaiting `handle`, which has read the content. -/
  | inHandle (path : String) (content : Option F) (paths : List (Nat × String)) (lowest : Nat)
  /-- `handle` has returned, the file is not unlinked yet. -/
  | handled (path : String) (content : Option F) (paths : List (Nat × String)) (lowest : Nat)
  | sleeping

/-- The task waits for something and can be cancelled there. -/
def ScanTask.Suspended {F : Type} : ScanTask F → Prop
  | pinging | waiting | collecting .. | inHandle .. | sleeping => True
  | stopped | handling .. | handled .. => False

/-- An out queue with the calls of `handle` that were begun and that came to an end. -/
structure OutBox (F : Type) where
  dir : QueueDir F
  task : ScanTask F
  passed : List (String × Option F)
  completed : List (String × Option F)

variable {F : Type}

def OutBox.empty : OutBox F := ⟨.empty, .stopped, [], []⟩

/-- Read the directory for the next round. -/
def OutBox.listFiles [CaseMapping] (o : OutBox F) : OutBox F :=
  { o with dir := o.dir.purge, task := .collecting o.dir.queueFiles [] }

/-- The steps of a scan task. Only if `faults` holds can `handle` itself raise; whatever a
    handler plugin raises it catches. -/
inductive ScanStep [CaseMapping] (load : F → Option ListenerObject) (faults : Prop) :
    OutBox F → OutBox F → Prop where
  | startTask {o} (idle : o.task = .stopped) : ScanStep load faults o { o with task := .pinging }
  /-- Cancelled, or ended by an exception while the files are collected. -/
  | ended {o} (suspended : o.task.Suspended) : ScanStep load faults o { o with task := .stopped }
  | pingFailed {o} (ping : o.task = .pinging) : ScanStep load faults o { o with task := .waiting }
  | retry {o} (slept : o.task = .waiting) : ScanStep load faults o { o with task := .pinging }
  | pingOk {o} (ping : o.task = .pinging) : ScanStep load faults o o.listFiles
  | collected {o path todo paths obj} (next : o.task = .collecting (path :: todo) paths)
      (loaded : o.dir.loadListenerFile load path = some obj) :
      ScanStep load faults o
        { o with task := .collecting todo (paths ++ [(udmObjectQueueOrder obj, path)]) }
  | sorted {o paths} (all : o.task = .collecting [] paths) :
      ScanStep load faults o
        { o with task := .handling (sortPaths paths) (lowestQueueOrder (sortPaths paths)) }
  | called {o order path paths lowest} (next : o.task = .handling ((order, path) :: paths) lowest)
      (same : ¬ lowest < order) :
      ScanStep load faults o
        { o with
          task := .inHandle path (o.dir.files.get path) paths lowest
          passed := o.passed ++ [(path, o.dir.files.get path)] }
  /-- The object type changes: read the directory again before going on. -/
  | typeChanged {o order path paths lowest}
      (next : o.task = .handling ((order, path) :: paths) lowest) (higher : lowest < order) :
      ScanStep load faults o { o with task := .sleeping }
  | exhausted {o lowest} (next : o.task = .handling [] lowest) :
      ScanStep load faults o { o with task := .sleeping }
  /-- A handler plugin has handled the object. -/
  | returned {o path content paths lowest obj} (call : o.task = .inHandle path content paths lowest)
      (loaded : content.bind load = some obj) :
      ScanStep load faults o
        { o with
          task := .handled path content paths lowest
          completed := o.completed ++ [(path, content)] }
  /-- The file did not load, no plugin handled it, or a plugin raised. -/
  | discarded {o path content paths lowest} (call : o.task = .inHandle path content paths lowest) :
      ScanStep load faults o
        { o with
          dir := o.dir.discardFile path
          task := .handled path content paths lowest
          completed := o.completed ++ [(path, content)] }
  | serverError {o path content paths lowest} (call : o.task = .inHandle path content paths lowest)
      (fault : faults) :
      ScanStep load faults o
        { o with dir := o.dir.discardFile path, task := .handling paths lowest }
  | apiError {o path content paths lowest} (call : o.task = .inHandle path content paths lowest)
      (fault : faults) :
      ScanStep load faults o { o with dir := o.dir.keepFile path, task := .pinging }
  | unhandled {o path content paths lowest} (call : o.task = .inHandle path content paths lowest)
      (fault : faults) :
      ScanStep load faults o { o with dir := o.dir.keepFile path, task := .handling paths lowest }
  | unlinked {o path content paths lowest} (done : o.task = .handled path content paths lowest) :
      ScanStep load faults o
        { o with
          dir := { o.dir with files := o.dir.files.remove path }
          task := .handling paths lowest }
  | woken {o} (slept : o.task = .sleeping) : ScanStep load faults o o.listFiles

/-! ## What the task still refers to -/

/-- The file names of the current round that are not dealt with yet. -/
def ScanTask.named : ScanTask F → List String
  | collecting todo paths => paths.map Prod.snd ++ todo
  | handling paths _ => paths.map Prod.snd
  | inHandle path _ paths _ | handled path _ paths _ => path :: paths.map Prod.snd
  | stopped | pinging | waiting | sleeping => []

/-- The file `handle` was called with, and what it read. -/
def ScanTask.current : ScanTask F → Option (String × Option F)
  | inHandle path content _ _ | handled path content _ _ => some (path, content)
  | _ => none

/-- `handle` has returned for this file. -/
def ScanTask.Done (path : String) (content : Option F) : ScanTask F → Prop
  | handled other read _ _ => other = path ∧ read = content
  | _ => False

theorem ScanTask.current_of_done {task : ScanTask F} {path : String} {content : Option F}
    (done : task.Done path content) : task.current = some (path, content) := by
  cases task with
  | handled other read _ _ =>
      obtain ⟨rfl, rfl⟩ := done
      rfl
  | _ => exact done.elim

/-- The invariant of a round: only the task itself takes files out of the directory, so
    all that it still has to do is there. -/
structure OutBox.Listed (o : OutBox F) : Prop where
  distinct : o.task.named.Nodup
  present : ∀ name ∈ o.task.named, (∃ content, o.task.Done name content) ∨
    ∃ content, o.dir.files.get name = some content
  read : ∀ path content, o.task.current = some (path, content) → content ≠ none
  completed : ∀ path content, o.task.Done path content → (path, content) ∈ o.completed

theorem OutBox.empty_listed : (OutBox.empty : OutBox F).Listed :=
  ⟨List.nodup_nil, nofun, nofun, nofun⟩

theorem mem_sortPaths {paths : List (Nat × String)} {entry : Nat × String} :
    entry ∈ sortPaths paths ↔ entry ∈ paths :=
  List.mem_insertionSort _

theorem perm_sortPaths (paths : List (Nat × String)) :
    ((sortPaths paths).map Prod.snd).Perm (paths.map Prod.snd) :=
  (List.perm_insertionSort _ paths).map Prod.snd

theorem sortPaths_sorted (paths : List (Nat × String)) :
    (sortPaths paths).Pairwise fun a b => toLex a ≤ toLex b := by
  let before (a b : Nat × String) : Prop := toLex (a.1, a.2.toList) ≤ toLex (b.1, b.2.toList)
  have total : Std.Total before := ⟨fun _ _ => le_total _ _⟩
  have trans : IsTrans (Nat × String) before := ⟨fun _ _ _ => le_trans⟩
  have sorted : (sortPaths paths).Pairwise before := List.pairwise_insertionSort before paths
  refine sorted.imp fun {a b} earlier => ?_
  rw [Prod.Lex.toLex_le_toLex, String.le_iff_toList_le]
  exact Prod.Lex.toLex_le_toLex.mp earlier

section Steps

variable [CaseMapping] {load : F → Option ListenerObject} {faults : Prop} {o o' : OutBox F}

theorem OutBox.listFiles_listed (o : OutBox F) : o.listFiles.Listed where
  distinct := by
    simp only [listFiles, ScanTask.named, List.map_nil, List.nil_append]
    exact o.dir.files.names_nodup.sublist List.filter_sublist
  present name member := by
    simp only [listFiles, ScanTask.named, List.map_nil, List.nil_append] at member
    exact Or.inr (QueueDir.mem_queueFiles_iff_purge.mp member)
  read := nofun
  completed := nofun

omit [CaseMapping] in
/-- Another file, or another version of one, appears in the directory. -/
theorem OutBox.Listed.put (listed : o.Listed) (name : String) (content : F) :
    OutBox.Listed { o with dir := { o.dir with files := o.dir.files.put name content } } where
  distinct := listed.distinct
  present other member := by
    rcases listed.present other member with done | ⟨old, found⟩
    · exact Or.inl done
    · simp only [Directory.get_put]
      split
      · exact Or.inr ⟨content, rfl⟩
      · exact Or.inr ⟨old, found⟩
  read := listed.read
  completed := listed.completed

theorem ScanStep.listed (step : ScanStep load faults o o') (listed : o.Listed) : o'.Listed := by
  obtain ⟨distinct, present, read, completed⟩ := listed
  cases step with
  | startTask | ended | pingFailed | retry | typeChanged | exhausted | apiError =>
      exact ⟨List.nodup_nil, nofun, nofun, nofun⟩
  | pingOk | woken => exact o.listFiles_listed
  | collected next loaded =>
      simp only [next, ScanTask.named, ScanTask.Done] at distinct present
      exact ⟨by simpa [ScanTask.named] using distinct,
        fun name member => present name (by simpa [ScanTask.named] using member), nofun, nofun⟩
  | sorted all =>
      rename_i paths
      simp only [all, ScanTask.named, List.append_nil, ScanTask.Done] at distinct present
      exact ⟨(perm_sortPaths paths).nodup_iff.mpr distinct,
        fun name member => present name ((perm_sortPaths paths).mem_iff.mp member), nofun, nofun⟩
  | called next same =>
      simp only [next, ScanTask.named, List.map_cons, ScanTask.Done] at distinct present
      refine ⟨distinct, present, ?_, nofun⟩
      rintro _ _ ⟨⟩
      simpa [Option.ne_none_iff_exists'] using present _ List.mem_cons_self
  | returned call loaded =>
      simp only [call, ScanTask.named, ScanTask.current, ScanTask.Done] at distinct present read
      refine ⟨distinct, fun name member => ?_, read, ?_⟩
      · exact Or.inr ((present name member).resolve_left (by simp))
      · rintro _ _ ⟨rfl, rfl⟩
        simp
  | discarded call =>
      simp only [call, ScanTask.named, ScanTask.current, ScanTask.Done] at distinct present read
      refine ⟨distinct, fun name member => ?_, read, ?_⟩
      · rcases List.mem_cons.mp member with rfl | later
        · exact Or.inl ⟨_, rfl, rfl⟩
        · have other := (List.nodup_cons.mp distinct).1
          grind [QueueDir.discardFile_files]
      · rintro _ _ ⟨rfl, rfl⟩
        simp
  | serverError call =>
      simp only [call, ScanTask.named, ScanTask.Done] at distinct present
      have other := List.nodup_cons.mp distinct
      exact ⟨other.2, fun name member => by grind [QueueDir.discardFile_files, ScanTask.named],
        nofun, nofun⟩
  | unhandled call =>
      simp only [call, ScanTask.named, ScanTask.Done] at distinct present
      have other := List.nodup_cons.mp distinct
      exact ⟨other.2, fun name member => by grind [QueueDir.keepFile_files, ScanTask.named],
        nofun, nofun⟩
  | unlinked done =>
      simp only [done, ScanTask.named, ScanTask.Done] at distinct present
      have other := List.nodup_cons.mp distinct
      exact ⟨other.2, fun name member => by grind [Directory.get_remove, ScanTask.named],
        nofun, nofun⟩

/-- A step moves files to `trash` and `keep`, or unlinks one whose handling is done. -/
theorem ScanStep.dir_cases (step : ScanStep load faults o o') :
    QueueDir.Settles o.dir o'.dir ∨
      ∃ path content, o.task.Done path content ∧
        o'.dir = { o.dir with files := o.dir.files.remove path } := by
  cases step with
  | @unlinked path content _ _ done =>
      have finished : o.task.Done path content := by
        rw [done]
        exact ⟨rfl, rfl⟩
      exact Or.inr ⟨path, content, finished, rfl⟩
  | pingOk | woken => exact Or.inl (QueueDir.purge_settles o.dir)
  | discarded | serverError => exact Or.inl (QueueDir.discardFile_settles o.dir _)
  | apiError | unhandled => exact Or.inl (QueueDir.keepFile_settles o.dir _)
  | _ => exact Or.inl (QueueDir.Settles.refl o.dir)

theorem ScanStep.files_sub (step : ScanStep load faults o o') {name : String} {content : F}
    (found : o'.dir.files.get name = some content) : o.dir.files.get name = some content := by
  rcases step.dir_cases with settles | ⟨path, read, _, dir⟩
  · exact settles.files found
  · rw [dir] at found
    exact (Directory.get_of_get_remove found).1

theorem ScanStep.holds_sub (step : ScanStep load faults o o') {name : String} {content : F}
    (held : o'.dir.Holds name content) : o.dir.Holds name content := by
  rcases step.dir_cases with settles | ⟨path, read, _, dir⟩
  · exact settles.holds held
  · rw [dir] at held
    exact held.imp_left fun found => (Directory.get_of_get_remove found).1

theorem ScanStep.completed_grows (step : ScanStep load faults o o') :
    o.completed ⊆ o'.completed := by
  cases step with
  | returned | discarded => exact List.subset_append_left _ _
  | _ => exact List.Subset.refl _

/-- What `handle` works on has been in the directory when it was called. -/
theorem ScanStep.current_cases (step : ScanStep load faults o o') {path : String}
    {content : Option F} (current : o'.task.current = some (path, content)) :
    o.task.current = some (path, content) ∨ content = o.dir.files.get path := by
  cases step with
  | called next same =>
      injection current with pair
      injection pair with path_eq content_eq
      exact Or.inr (by rw [← content_eq, path_eq])
  | returned call | discarded call => exact Or.inl (by rw [call]; exact current)
  | _ => simp [ScanTask.current, OutBox.listFiles] at current

end Steps

end IdConnector
