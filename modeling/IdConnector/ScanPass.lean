import IdConnector.Distribution
import IdConnector.Loading
import IdConnector.Scan

/-! # One pass of a scan task

What `OutQueue.scan` does between two sleeps once the connection check has succeeded, as a
function of the directory and of what the handler plugins do with each file. `scanPass_run` takes
it back to the single steps of the task. A file is loaded twice, for its place in the order
and for its handling, and only the second time is an exception expected:
`scanPass_undisturbed_iff`. The exceptions of the plugins never get as far as the `except`
clauses written for them: `communicationError_never_retried`.
-/

namespace IdConnector

open Library

/-- `any(await asyncio.gather(...))` and the check of its result. -/
def awaitHandlers (call : HookCall Bool) : Except QueueException Unit := do
  let results ← call.await
  if results.any id then return () else throw .other

/-- Where the loop of `scan` goes after a pass. -/
inductive ScanNext where
  | sleep
  /-- To the outer loop, and so to the next `school_authority_ping`. -/
  | ping
  /-- Out of the task. -/
  | escaped (raised : QueueException)
  deriving Repr, DecidableEq

/-- The directory after `handle`, the calls of the hooks, and the exception that leaves it. -/
structure HandledFile (F O : Type) where
  dir : QueueDir F
  calls : List (String × O)
  raised : Option QueueException

/-- The directory after a pass, the files that `handle` was called with, and the calls of the
    hooks. -/
structure ScanPass (F O : Type) where
  dir : QueueDir F
  passed : List String
  calls : List (String × O)
  next : ScanNext

section Pass

variable {F O : Type} (load : F → Except QueueException O)
  (plugins : String → O → HookCall Bool)

def handle (q : QueueDir F) (path : String) : HandledFile F O :=
  match loadFile load q path with
  | .error .listenerLoadingError => ⟨q.discardFile path, [], none⟩
  | .error raised => ⟨q, [], some raised⟩
  | .ok obj =>
      match awaitHandlers (plugins path obj) with
      | .ok () => ⟨q, [(path, obj)], none⟩
      | .error _ => ⟨q.discardFile path, [(path, obj)], none⟩

/-- The loop over the sorted files, which ends where the object type changes. -/
def handlePaths (lowest : Nat) : List (Nat × String) → QueueDir F → ScanPass F O
  | [], q => ⟨q, [], [], .sleep⟩
  | (order, path) :: rest, q =>
      if lowest < order then ⟨q, [], [], .sleep⟩ else
      let next (calls : List (String × O)) (q : QueueDir F) : ScanPass F O :=
        let pass := handlePaths lowest rest q
        { pass with passed := path :: pass.passed, calls := calls ++ pass.calls }
      match handle load plugins q path with
      | ⟨q, calls, none⟩ => next calls { q with files := q.files.remove path }
      | ⟨q, calls, some .serverError⟩ => next calls (q.discardFile path)
      | ⟨q, calls, some raised⟩ =>
          if raised.isApiCommunicationError then ⟨q.keepFile path, [path], calls, .ping⟩
          else next calls (q.keepFile path)

/-- The keys of `udm_object_queue_order` with their files. -/
def orderedPaths [UdmObject O] (q : QueueDir F) (paths : List String) :
    Except QueueException (List (Nat × String)) :=
  paths.mapM fun path => do
    let obj ← loadFile load q path
    return (udmObjectQueueOrder obj, path)

def scanPass [UdmObject O] [CaseMapping] (q : QueueDir F) : ScanPass F O :=
  match orderedPaths load q.purge q.queueFiles with
  | .error raised => ⟨q.purge, [], [], .escaped raised⟩
  | .ok paths =>
      handlePaths load plugins (lowestQueueOrder (sortPaths paths)) (sortPaths paths) q.purge

/-! ## Files that load -/

variable {load plugins}

theorem handle_loads {q : QueueDir F} {path : String} {obj : O}
    (loads : loadFile load q path = .ok obj) :
    handle load plugins q path =
      ⟨if awaitHandlers (plugins path obj) = .ok () then q else q.discardFile path,
        [(path, obj)], none⟩ := by
  unfold handle
  rw [loads]
  cases handled : awaitHandlers (plugins path obj) <;> simp [handled]

/-- Every file of the list is there and loads. -/
def Loads (load : F → Except QueueException O) (q : QueueDir F)
    (paths : List (Nat × String)) : Prop :=
  ∀ entry ∈ paths, ∃ obj, loadFile load q entry.2 = .ok obj

/-- The directory after a file that loads. -/
def afterFile (plugins : String → O → HookCall Bool) (q : QueueDir F) (path : String)
    (obj : O) : QueueDir F :=
  let q' := if awaitHandlers (plugins path obj) = .ok () then q else q.discardFile path
  { q' with files := q'.files.remove path }

theorem afterFile_at {q : QueueDir F} {path other : String} (different : path ≠ other)
    (obj : O) : (afterFile plugins q path obj).at other = q.at other := by
  unfold afterFile
  rw [QueueDir.remove_at different]
  split
  · rfl
  · exact QueueDir.discardFile_at different

/-- Where a file that loads ends: out of the queue, and in the trash if no plugin has handled
    it. -/
def settled (plugins : String → O → HookCall Bool) (path : String)
    (obj : O) (file : Option F × Option F × Option F) :
    Option F × Option F × Option F :=
  (none, if awaitHandlers (plugins path obj) = .ok () then file.2.1 else file.2.1.or file.1,
    file.2.2)

theorem afterFile_at_self (q : QueueDir F) (path : String) (obj : O) :
    (afterFile plugins q path obj).at path = settled plugins path obj (q.at path) := by
  unfold afterFile settled
  split
  · simp [QueueDir.at]
  · have discarded := QueueDir.discardFile_at_self q path
    simp only [QueueDir.at, Prod.mk.injEq] at discarded
    simp [QueueDir.at, discarded]

theorem loadFile_congr {q q' : QueueDir F} {name : String} (same : q'.at name = q.at name) :
    loadFile load q' name = loadFile load q name := by
  simp only [QueueDir.at, Prod.mk.injEq] at same
  rw [loadFile, loadFile, same.1]

theorem Loads.after {q : QueueDir F} {order : Nat} {path : String} {rest : List (Nat × String)}
    (loads : Loads load q ((order, path) :: rest))
    (distinct : (((order, path) :: rest).map Prod.snd).Nodup)
    (plugins : String → O → HookCall Bool) (obj : O) :
    Loads load (afterFile plugins q path obj) rest := by
  intro entry member
  have different : path ≠ entry.2 := by
    rintro rfl
    exact (List.nodup_cons.mp distinct).1 (List.mem_map.mpr ⟨entry, member, rfl⟩)
  rw [loadFile_congr (afterFile_at different obj)]
  exact loads entry (List.mem_cons_of_mem _ member)

theorem handlePaths_cons {q : QueueDir F} {lowest order : Nat} {path : String}
    {rest : List (Nat × String)} {obj : O} (same : ¬ lowest < order)
    (loads : loadFile load q path = .ok obj) :
    handlePaths load plugins lowest ((order, path) :: rest) q =
      { handlePaths load plugins lowest rest (afterFile plugins q path obj) with
        passed := path ::
          (handlePaths load plugins lowest rest (afterFile plugins q path obj)).passed
        calls := (path, obj) ::
          (handlePaths load plugins lowest rest (afterFile plugins q path obj)).calls } := by
  rw [handlePaths, if_neg same, handle_loads loads]
  rfl

/-- If all files load, the pass goes through the files of the lowest type and ends asleep. -/
theorem handlePaths_loads {lowest : Nat} {paths : List (Nat × String)} {q : QueueDir F}
    (loads : Loads load q paths) (distinct : (paths.map Prod.snd).Nodup) :
    (handlePaths load plugins lowest paths q).next = .sleep ∧
      (handlePaths load plugins lowest paths q).passed =
        (paths.takeWhile fun entry => entry.1 ≤ lowest).map Prod.snd := by
  induction paths generalizing q with
  | nil => exact ⟨rfl, rfl⟩
  | cons entry rest ih =>
      rcases entry with ⟨order, path⟩
      by_cases higher : lowest < order
      · have stops : ¬ order ≤ lowest := by omega
        simp [handlePaths, higher, stops]
      · obtain ⟨obj, loaded⟩ := loads (order, path) List.mem_cons_self
        have later := ih (loads.after distinct plugins obj)
          (List.nodup_cons.mp distinct).2
        have goes : order ≤ lowest := by omega
        rw [handlePaths_cons higher loaded]
        exact ⟨later.1, by simp [goes, later.2]⟩

theorem listed_of_passed {lowest : Nat} {paths : List (Nat × String)} {q : QueueDir F}
    {name : String} (loads : Loads load q paths) (distinct : (paths.map Prod.snd).Nodup)
    (passed : name ∈ (handlePaths load plugins lowest paths q).passed) :
    name ∈ paths.map Prod.snd := by
  rw [(handlePaths_loads loads distinct).2] at passed
  exact ((List.takeWhile_sublist _).map Prod.snd).mem passed

/-- The hooks are called once for each file of the pass, with the object that it holds. -/
theorem handlePaths_calls {lowest : Nat} {paths : List (Nat × String)} {q : QueueDir F}
    (loads : Loads load q paths) (distinct : (paths.map Prod.snd).Nodup) :
    (handlePaths load plugins lowest paths q).calls.map Prod.fst =
        (handlePaths load plugins lowest paths q).passed ∧
      ∀ call ∈ (handlePaths load plugins lowest paths q).calls,
        loadFile load q call.1 = .ok call.2 := by
  induction paths generalizing q with
  | nil => exact ⟨rfl, nofun⟩
  | cons entry rest ih =>
      rcases entry with ⟨order, path⟩
      by_cases higher : lowest < order
      · simp [handlePaths, higher]
      · obtain ⟨obj, loaded⟩ := loads (order, path) List.mem_cons_self
        obtain ⟨unlisted, distinct_rest⟩ := List.nodup_cons.mp distinct
        have others := loads.after distinct plugins obj
        obtain ⟨names, objects⟩ := ih others distinct_rest
        rw [handlePaths_cons higher loaded]
        refine ⟨congrArg (path :: ·) names, fun call member => ?_⟩
        rcases List.mem_cons.mp member with rfl | later
        · exact loaded
        · have passed := List.mem_map_of_mem (f := Prod.fst) later
          rw [names] at passed
          have different : path ≠ call.1 := fun same =>
            unlisted (same ▸ listed_of_passed others distinct_rest passed)
          rw [← loadFile_congr (afterFile_at different obj)]
          exact objects call later

/-- A pass changes nothing under the names that it does not come to. -/
theorem handlePaths_at_unpassed {lowest : Nat} {paths : List (Nat × String)} {q : QueueDir F}
    {other : String} (loads : Loads load q paths) (distinct : (paths.map Prod.snd).Nodup)
    (unpassed : other ∉ (handlePaths load plugins lowest paths q).passed) :
    (handlePaths load plugins lowest paths q).dir.at other = q.at other := by
  induction paths generalizing q with
  | nil => rfl
  | cons entry rest ih =>
      rcases entry with ⟨order, path⟩
      by_cases higher : lowest < order
      · simp [handlePaths, higher]
      · obtain ⟨obj, loaded⟩ := loads (order, path) List.mem_cons_self
        rw [handlePaths_cons higher loaded] at unpassed ⊢
        have different : path ≠ other := by
          rintro rfl
          exact unpassed List.mem_cons_self
        exact (ih (loads.after distinct plugins obj) (List.nodup_cons.mp distinct).2
          (List.not_mem_of_not_mem_cons unpassed)).trans (afterFile_at different obj)

theorem handlePaths_at {lowest : Nat} {paths : List (Nat × String)} {q : QueueDir F}
    {other : String} (loads : Loads load q paths) (distinct : (paths.map Prod.snd).Nodup)
    (unlisted : other ∉ paths.map Prod.snd) :
    (handlePaths load plugins lowest paths q).dir.at other = q.at other := by
  apply handlePaths_at_unpassed loads distinct
  exact fun passed => unlisted (listed_of_passed loads distinct passed)

theorem handlePaths_at_passed {lowest : Nat} {paths : List (Nat × String)} {q : QueueDir F}
    {name : String} {obj : O} (loads : Loads load q paths)
    (distinct : (paths.map Prod.snd).Nodup) (loaded : loadFile load q name = .ok obj)
    (passed : name ∈ (handlePaths load plugins lowest paths q).passed) :
    (handlePaths load plugins lowest paths q).dir.at name =
      settled plugins name obj (q.at name) := by
  induction paths generalizing q with
  | nil => simp [handlePaths] at passed
  | cons entry rest ih =>
      rcases entry with ⟨order, path⟩
      by_cases higher : lowest < order
      · simp [handlePaths, higher] at passed
      · obtain ⟨first, here⟩ := loads (order, path) List.mem_cons_self
        have others := loads.after distinct plugins first
        have distinct_rest := List.nodup_cons.mp distinct
        rw [handlePaths_cons higher here] at passed ⊢
        by_cases same : path = name
        · subst same
          obtain rfl : first = obj := Except.ok.inj (here.symm.trans loaded)
          exact (handlePaths_at others distinct_rest.2 distinct_rest.1).trans
            (afterFile_at_self q path first)
        · have kept : (afterFile plugins q path first).at name = q.at name :=
            afterFile_at same first
          have later := ih others distinct_rest.2 ((loadFile_congr kept).trans loaded)
            ((List.mem_cons.mp passed).resolve_left (Ne.symm same))
          rw [later, kept]

theorem handlePaths_files {lowest : Nat} {paths : List (Nat × String)} {q : QueueDir F}
    {name : String} {content : F} (loads : Loads load q paths)
    (distinct : (paths.map Prod.snd).Nodup)
    (left : (handlePaths load plugins lowest paths q).dir.files.get name = some content) :
    q.files.get name = some content := by
  by_cases passed : name ∈ (handlePaths load plugins lowest paths q).passed
  · obtain ⟨entry, member, rfl⟩ := List.mem_map.mp (listed_of_passed loads distinct passed)
    obtain ⟨obj, loaded⟩ := loads entry member
    have gone := congrArg Prod.fst (handlePaths_at_passed loads distinct loaded passed)
    rw [QueueDir.at, left] at gone
    cases gone
  · have same := congrArg Prod.fst (handlePaths_at_unpassed loads distinct passed)
    exact same.symm.trans left

/-! ## The whole pass -/

variable [UdmObject O]

theorem orderedPaths_names {q : QueueDir F} {names : List String} {paths : List (Nat × String)}
    (ordered : orderedPaths load q names = .ok paths) : paths.map Prod.snd = names := by
  apply Attempts.map_of_mapM_ok _ ordered
  intro name entry single
  cases loads : loadFile load q name with
  | error raised => simp [loads, bind, Except.bind] at single
  | ok obj =>
      simp only [loads, bind, Except.bind, pure, Except.pure, Except.ok.injEq] at single
      rw [← single]

theorem mem_orderedPaths {q : QueueDir F} {names : List String} {paths : List (Nat × String)}
    (ordered : orderedPaths load q names = .ok paths) {entry : Nat × String}
    (member : entry ∈ paths) :
    ∃ obj, loadFile load q entry.2 = .ok obj ∧ entry.1 = udmObjectQueueOrder obj := by
  have single : (.ok entry : Except QueueException (Nat × String)) ∈ paths.map .ok :=
    List.mem_map_of_mem member
  rw [← Attempts.mapM_ok_iff.mp ordered] at single
  obtain ⟨name, _, ends⟩ := List.mem_map.mp single
  cases loads : loadFile load q name with
  | error raised => simp [loads, bind, Except.bind] at ends
  | ok obj =>
      simp only [loads, bind, Except.bind, pure, Except.pure, Except.ok.injEq] at ends
      subst ends
      exact ⟨obj, loads, rfl⟩

theorem orderedPaths_cons {q : QueueDir F} {name : String} {rest : List String}
    {obj : O} (loads : loadFile load q name = .ok obj) :
    orderedPaths load q (name :: rest) =
      (orderedPaths load q rest).map ((udmObjectQueueOrder obj, name) :: ·) := by
  apply Attempts.mapM_cons_ok
  rw [loads]
  rfl

theorem exists_orderedPaths_iff {q : QueueDir F} {names : List String} :
    (∃ paths, orderedPaths load q names = .ok paths) ↔
      ∀ name ∈ names, ∃ obj, loadFile load q name = .ok obj := by
  rw [orderedPaths, Attempts.exists_mapM_ok_iff]
  refine forall₂_congr fun name _ => ?_
  cases loadFile load q name <;> simp [bind, Except.bind, pure, Except.pure]

variable [CaseMapping]

omit [UdmObject O] in
theorem loadFile_purge {q : QueueDir F} {name : String} (listed : name ∈ q.queueFiles) :
    loadFile load q.purge name = loadFile load q name :=
  loadFile_congr (q.purge_at (QueueDir.mem_queueFiles.mp listed).2)

/-- Only files that are all loadable get as far as the loop. -/
theorem scanPass_ok_iff {q : QueueDir F} :
    (∃ paths, orderedPaths load q.purge q.queueFiles = .ok paths) ↔
      ∀ name ∈ q.queueFiles, ∃ obj, loadFile load q name = .ok obj := by
  rw [exists_orderedPaths_iff]
  exact forall₂_congr fun name listed => by rw [loadFile_purge listed]

theorem sorted_loads {q : QueueDir F} {paths : List (Nat × String)}
    (ordered : orderedPaths load q.purge q.queueFiles = .ok paths) :
    Loads load q.purge (sortPaths paths) ∧ ((sortPaths paths).map Prod.snd).Nodup := by
  constructor
  · intro entry member
    obtain ⟨obj, loads, _⟩ := mem_orderedPaths ordered (mem_sortPaths.mp member)
    exact ⟨obj, loads⟩
  · rw [(perm_sortPaths paths).nodup_iff, orderedPaths_names ordered]
    exact q.queueFiles_increasing.imp ne_of_lt

omit [CaseMapping] in
theorem lowest_handled {paths : List (Nat × String)} {entry : Nat × String}
    (member : entry ∈ sortPaths paths) (lowest : ∀ other ∈ sortPaths paths, entry.1 ≤ other.1) :
    entry ∈ (sortPaths paths).takeWhile fun other =>
      other.1 ≤ lowestQueueOrder (sortPaths paths) := by
  have sorted : (sortPaths paths).Pairwise fun a b => a.1 ≤ b.1 :=
    (sortPaths_sorted paths).imp fun le => Prod.Lex.monotone_fst _ _ le
  have bound : entry.1 ≤ lowestQueueOrder (sortPaths paths) := by
    cases listing : sortPaths paths with
    | nil => simp [listing] at member
    | cons first rest =>
        apply lowest
        simp [listing]
  generalize sortPaths paths = sorted_paths at member sorted bound
  generalize lowestQueueOrder _ = limit at bound
  induction sorted_paths with
  | nil => exact absurd member List.not_mem_nil
  | cons first rest ih =>
      obtain ⟨before, sorted_rest⟩ := List.pairwise_cons.mp sorted
      rcases List.mem_cons.mp member with rfl | later
      · simp [bound]
      · have goes : first.1 ≤ limit := (before entry later).trans bound
        simp [goes, ih later sorted_rest]

end Pass

section Listeners

variable {F D : Type} {load : F → Except QueueException ListenerObject}
  {plugins : String → ListenerObject → HookCall Bool} [CaseMapping]

theorem purge_at_other {q : QueueDir F} {name : String} (other : isJson name = false) :
    q.purge.at name = (none, (q.trash.get name).or (q.files.get name), q.keep.get name) := by
  by_cases present : name ∈ q.files.names
  · apply QueueDir.foldl_discardFile_at_mem
    · exact q.files.names_nodup.sublist List.filter_sublist
    · simp [present, other]
  · have missing : q.files.get name = none := by
      rw [Directory.mem_names, not_exists] at present
      exact Option.eq_none_iff_forall_ne_some.mpr present
    rw [QueueDir.purge, QueueDir.foldl_discardFile_at]
    · simp [QueueDir.at, missing]
    · simp [present]

/-- One bad file does not stop the queue: the pass returns, every file that cannot be loaded is in
    the trash afterwards, and `handle` gets every file of the lowest type. -/
structure Undisturbed (load : F → Except QueueException ListenerObject) (q : QueueDir F)
    (pass : ScanPass F ListenerObject) : Prop where
  returns : ∀ raised, pass.next ≠ .escaped raised
  discarded : ∀ name content, q.files.get name = some content →
    ¬ (isJson name = true ∧ ∃ obj, load content = .ok obj) →
      pass.dir.files.get name = none ∧ pass.dir.trash.get name = some content
  handled : ∀ name obj, name ∈ q.queueFiles → loadFile load q name = .ok obj →
    (∀ other obj', other ∈ q.queueFiles → loadFile load q other = .ok obj' →
      udmObjectQueueOrder obj ≤ udmObjectQueueOrder obj') → name ∈ pass.passed

/-- The trash has no other file with the name of one that is not for the handlers. -/
def TrashFree (q : QueueDir F) : Prop :=
  ∀ name content old, isJson name = false → q.files.get name = some content →
    q.trash.get name = some old → old = content

/-- A pass over files that can be loaded leaves the others where `discard_file` puts them. -/
theorem scanPass_discards {l : Loader F D}
    (plugins : String → ListenerObject → HookCall Bool) {q : QueueDir F}
    {paths : List (Nat × String)} (ordered : orderedPaths l.load q.purge q.queueFiles = .ok paths)
    {name : String} {content : F} (found : q.files.get name = some content) (other : isJson name = false) :
    (scanPass l.load plugins q).dir.files.get name = none ∧
      (scanPass l.load plugins q).dir.trash.get name = (q.trash.get name).or (some content) := by
  obtain ⟨loads, distinct⟩ := sorted_loads ordered
  have unlisted : name ∉ (sortPaths paths).map Prod.snd := by
    rw [(perm_sortPaths paths).mem_iff, orderedPaths_names ordered,
      QueueDir.mem_queueFiles]
    simp [other]
  rw [scanPass, ordered]
  have kept : (handlePaths l.load plugins (lowestQueueOrder (sortPaths paths))
      (sortPaths paths) q.purge).dir.at name = _ :=
    (handlePaths_at loads distinct unlisted).trans (purge_at_other other)
  simp only [QueueDir.at, Prod.mk.injEq, found] at kept
  exact ⟨kept.1, kept.2.1⟩

/-- A pass goes well exactly if it has nothing to do well: the first file that cannot be loaded
    ends the task before any file is handled, and a file that is not for the handlers is deleted
    if the trash has another one of its name. -/
theorem scanPass_undisturbed_iff (l : Loader F D)
    (plugins : String → ListenerObject → HookCall Bool) (q : QueueDir F) :
    Undisturbed l.load q (scanPass l.load plugins q) ↔
      (∀ name ∈ q.queueFiles, ∃ obj, loadFile l.load q name = .ok obj) ∧ TrashFree q := by
  rw [← scanPass_ok_iff]
  cases ordered : orderedPaths l.load q.purge q.queueFiles with
  | error raised =>
      have escaped : (scanPass l.load plugins q).next = .escaped raised := by
        rw [scanPass, ordered]
      exact iff_of_false (fun undisturbed => undisturbed.returns raised escaped) (by simp)
  | ok paths =>
      have all := scanPass_ok_iff.mp ⟨paths, ordered⟩
      constructor
      · intro undisturbed
        refine ⟨⟨paths, rfl⟩, fun name content old other found trashed => ?_⟩
        have here := (undisturbed.discarded name content found (by simp [other])).2
        rw [(scanPass_discards plugins ordered found other).2, trashed] at here
        exact Option.some.inj here
      · rintro ⟨-, free⟩
        obtain ⟨loads, distinct⟩ := sorted_loads ordered
        refine ⟨?_, ?_, ?_⟩
        · intro raised
          rw [scanPass, ordered]
          simp [(handlePaths_loads loads distinct).1]
        · intro name content found unloadable
          have other : isJson name = false := by
            by_contra json
            have listed := QueueDir.mem_queueFiles.mpr ⟨⟨content, found⟩, by simpa using json⟩
            obtain ⟨obj, loads⟩ := all name listed
            obtain ⟨_, here, loaded⟩ := loadFile_ok_iff.mp loads
            obtain rfl := Option.some.inj (found.symm.trans here)
            exact unloadable ⟨by simpa using json, obj, loaded⟩
          obtain ⟨gone, trashed⟩ := scanPass_discards plugins ordered found other
          refine ⟨gone, trashed.trans ?_⟩
          cases old : q.trash.get name with
          | none => rfl
          | some old' => rw [free name content old' other found old, Option.some_or]
        · intro name obj listed loaded lowest
          have names : name ∈ (sortPaths paths).map Prod.snd ↔ name ∈ q.queueFiles := by
            rw [(perm_sortPaths paths).mem_iff, orderedPaths_names ordered]
          obtain ⟨entry, member, rfl⟩ := List.mem_map.mp (names.mpr listed)
          rw [scanPass, ordered]
          simp only [(handlePaths_loads loads distinct).2]
          apply List.mem_map_of_mem
          apply lowest_handled member
          intro other present
          obtain ⟨obj', loads_other, order_other⟩ :=
            mem_orderedPaths ordered (mem_sortPaths.mp present)
          obtain ⟨same, loads_here, order⟩ := mem_orderedPaths ordered (mem_sortPaths.mp member)
          have listed_other : other.2 ∈ q.queueFiles := by
            rw [← orderedPaths_names ordered]
            exact List.mem_map_of_mem (mem_sortPaths.mp present)
          rw [loadFile_purge listed] at loads_here
          rw [loadFile_purge listed_other] at loads_other
          obtain rfl : same = obj := Except.ok.inj (loads_here.symm.trans loaded)
          rw [order, order_other]
          exact lowest other.2 obj' listed_other loads_other

/-! ## What the plugins raise -/

omit [CaseMapping] in
theorem awaitHandlers_raises {call : HookCall Bool} {raised : QueueException}
    (raises : call.Raises raised) : awaitHandlers call ≠ .ok () := by
  intro handled
  have returned : ∃ results, call.await = .ok results := by
    cases awaited : call.await with
    | error first => simp [awaitHandlers, awaited, bind, Except.bind] at handled
    | ok results => exact ⟨results, rfl⟩
  exact HookCall.await_ok_iff.mp returned raised raises

/-- What a communication error is to lead to: the file stays, and nothing else is handled before
    the next successful ping. -/
structure Retried (name : String) (content : F) (pass : ScanPass F ListenerObject) : Prop where
  notTrashed : pass.dir.trash.get name ≠ some content
  stays : pass.dir.files.get name = some content ∨ pass.dir.keep.get name = some content
  last : pass.passed.getLast? = some name
  pings : pass.next = .ping

/-- `handle` catches whatever the plugins raise, so a file whose handler cannot reach the target
    is discarded like any other and the pass goes on. -/
theorem communicationError_never_retried {plugins : String → ListenerObject → HookCall Bool}
    {q : QueueDir F} {name : String} {content : F} {obj : ListenerObject}
    {raised : QueueException} (found : q.files.get name = some content)
    (loads : load content = .ok obj) (passed : name ∈ (scanPass load plugins q).passed)
    (raises : (plugins name obj).Raises raised) :
    ¬ Retried name content (scanPass load plugins q) ∧
      (scanPass load plugins q).next = .sleep ∧
      (scanPass load plugins q).dir.at name =
        (none, (q.trash.get name).or (some content), q.keep.get name) := by
  cases ordered : orderedPaths load q.purge q.queueFiles with
  | error first => simp [scanPass, ordered] at passed
  | ok paths =>
      obtain ⟨all_load, distinct⟩ := sorted_loads ordered
      rw [scanPass, ordered] at passed ⊢
      simp only at passed ⊢
      have asleep : (handlePaths load plugins (lowestQueueOrder (sortPaths paths))
          (sortPaths paths) q.purge).next = .sleep := (handlePaths_loads all_load distinct).1
      have listed : name ∈ q.queueFiles := by
        rw [(handlePaths_loads all_load distinct).2] at passed
        have member := (List.takeWhile_sublist _).map Prod.snd |>.subset passed
        rwa [(perm_sortPaths paths).mem_iff, orderedPaths_names ordered] at member
      have loaded : loadFile load q.purge name = .ok obj :=
        (loadFile_purge listed).trans (loadFile_ok_iff.mpr ⟨content, found, loads⟩)
      have ends := handlePaths_at_passed all_load distinct loaded passed
      rw [settled, if_neg (awaitHandlers_raises raises),
        q.purge_at (QueueDir.mem_queueFiles.mp listed).2] at ends
      refine ⟨?_, asleep, ?_⟩
      · intro retried
        exact absurd (asleep.symm.trans retried.pings) (by simp)
      · rw [ends]
        simp [QueueDir.at, found]

/-! ## The steps of a pass -/

variable {o : OutBox F}

theorem afterFile_run (plugins : String → ListenerObject → HookCall Bool)
    {lowest order : Nat} {path : String}
    {rest : List (Nat × String)} {obj : ListenerObject}
    (next : o.task = .handling ((order, path) :: rest) lowest) (same : ¬ lowest < order)
    (loads : loadFile load o.dir path = .ok obj) :
    ∃ o', Relation.ReflTransGen (ScanStep (loaded load) False) o o' ∧
      o'.dir = afterFile plugins o.dir path obj ∧ o'.task = .handling rest lowest ∧
      o'.passed = o.passed ++ [(path, o.dir.files.get path)] := by
  have content : (o.dir.files.get path).bind (loaded load) = some obj :=
    loadFile_ok_iff_loadListenerFile.mp loads
  have called := Relation.ReflTransGen.single
    (ScanStep.called next same : ScanStep (loaded load) False o _)
  unfold afterFile
  split
  · have returned := called.tail (.returned rfl content)
    exact ⟨_, returned.tail (.unlinked rfl), rfl, rfl, rfl⟩
  · have discarded := called.tail (.discarded rfl)
    exact ⟨_, discarded.tail (.unlinked rfl), rfl, rfl, rfl⟩

theorem collecting_run {q : QueueDir F} {todo : List String} {before paths : List (Nat × String)}
    (dir : o.dir = q) (next : o.task = .collecting todo before)
    (ordered : orderedPaths load q todo = .ok paths) :
    Relation.ReflTransGen (ScanStep (loaded load) False) o
      { o with task := .collecting [] (before ++ paths) } := by
  induction todo generalizing o before paths with
  | nil =>
      obtain rfl : paths = [] := by simpa [orderedPaths, pure, Except.pure] using ordered.symm
      rw [List.append_nil, ← next]
  | cons name rest ih =>
      obtain ⟨obj, loads⟩ := exists_orderedPaths_iff.mp ⟨paths, ordered⟩ name List.mem_cons_self
      rw [orderedPaths_cons loads] at ordered
      cases others : orderedPaths load q rest with
      | error first => simp [others, Except.map] at ordered
      | ok tail =>
          obtain rfl : (udmObjectQueueOrder obj, name) :: tail = paths := by
            simpa [others, Except.map] using ordered
          let collected : OutBox F :=
            { o with task := .collecting rest (before ++ [(udmObjectQueueOrder obj, name)]) }
          have step : ScanStep (loaded load) False o collected :=
            .collected next (dir ▸ loadFile_ok_iff_loadListenerFile.mp loads)
          have run := ih (o := collected) dir rfl others
          rw [List.append_assoc] at run
          exact run.head step

theorem handlePaths_run (plugins : String → ListenerObject → HookCall Bool)
    {lowest : Nat} {paths : List (Nat × String)} (next : o.task = .handling paths lowest)
    (loads : Loads load o.dir paths) (distinct : (paths.map Prod.snd).Nodup) :
    ∃ o', Relation.ReflTransGen (ScanStep (loaded load) False) o o' ∧
      o'.dir = (handlePaths load plugins lowest paths o.dir).dir ∧ o'.task = .sleeping ∧
      o'.passed.map Prod.fst =
        o.passed.map Prod.fst ++ (handlePaths load plugins lowest paths o.dir).passed := by
  induction paths generalizing o with
  | nil => exact ⟨_, .single (.exhausted next), rfl, rfl, (List.append_nil _).symm⟩
  | cons entry rest ih =>
      rcases entry with ⟨order, path⟩
      by_cases higher : lowest < order
      · refine ⟨_, .single (.typeChanged next higher), ?_, rfl, ?_⟩
        · simp [handlePaths, higher]
        · simp [handlePaths, higher]
      · obtain ⟨obj, here⟩ := loads (order, path) List.mem_cons_self
        obtain ⟨o₁, handled, dir, task, passed⟩ := afterFile_run plugins next higher here
        have others := loads.after distinct plugins obj
        rw [← dir] at others
        obtain ⟨o', later, dir', task', passed'⟩ := ih task others (List.nodup_cons.mp distinct).2
        refine ⟨o', handled.trans later, ?_, task', ?_⟩
        · rw [dir', handlePaths_cons higher here, dir]
        · rw [passed', passed, handlePaths_cons higher here, dir]
          simp

/-- The state of the task after a pass. -/
def ScanNext.task : ScanNext → ScanTask F
  | .sleep => .sleeping
  | .ping => .pinging
  | .escaped _ => .stopped

/-- A pass is what the steps of the task do from a successful ping, or from a sleep, to the
    next one, and nothing but the loading can end it. -/
theorem scanPass_run (awake : o.task = .pinging ∨ o.task = .sleeping) :
    ∃ o', Relation.ReflTransGen (ScanStep (loaded load) False) o o' ∧
      o'.dir = (scanPass load plugins o.dir).dir ∧
      o'.task = (scanPass load plugins o.dir).next.task ∧
      o'.passed.map Prod.fst =
        o.passed.map Prod.fst ++ (scanPass load plugins o.dir).passed := by
  have listed : Relation.ReflTransGen (ScanStep (loaded load) False) o o.listFiles := by
    rcases awake with ping | slept
    · exact .single (.pingOk ping)
    · exact .single (.woken slept)
  cases ordered : orderedPaths load o.dir.purge o.dir.queueFiles with
  | error raised =>
      have ends := listed.tail (.ended trivial)
      exact ⟨_, ends, by simp [scanPass, ordered, OutBox.listFiles, ScanNext.task]⟩
  | ok paths =>
      obtain ⟨loads, distinct⟩ := sorted_loads ordered
      have collected := listed.trans (collecting_run (o := o.listFiles) rfl rfl ordered)
      have sorted := collected.tail (.sorted rfl)
      obtain ⟨o', handled, dir, task, passed⟩ := handlePaths_run plugins
        (o := { o.listFiles with
          task := .handling (sortPaths paths) (lowestQueueOrder (sortPaths paths)) })
        rfl loads distinct
      refine ⟨o', sorted.trans handled, ?_⟩
      rw [scanPass, ordered]
      have asleep : (handlePaths load plugins (lowestQueueOrder (sortPaths paths))
          (sortPaths paths) o.dir.purge).next = .sleep := (handlePaths_loads loads distinct).1
      refine ⟨dir, ?_, passed⟩
      rw [task, asleep]
      rfl

end Listeners

section Examples

attribute [local instance] asciiCaseMapping

/-- A file with the text `damaged` is no JSON, every other one is the demo user. -/
def demoLoader : Loader String String where
  parse text := if text = "damaged" then none else some text
  getListenerObject := [fun _ => .ok none, fun _ => .ok (some demoUser)]

def demoDir : QueueDir String :=
  ⟨(Directory.empty.put "001_ready.json" "anna").put "002_ready.json" "damaged", .empty, .empty⟩

theorem damaged_file_ends_scan : ¬ Undisturbed demoLoader.load demoDir
    (scanPass demoLoader.load (fun _ _ => .ok [.ok true]) demoDir) := by
  intro undisturbed
  exact undisturbed.returns .listenerLoadingError rfl

/-- The target is down while the only file is handled. -/
def targetDown (_ : String) (_ : ListenerObject) : HookCall Bool :=
  .ok [.ok true, .error .apiCommunicationError]

def demoFile : QueueDir String := ⟨Directory.empty.put "001_ready.json" "anna", .empty, .empty⟩

theorem communicationError_drops_file :
    (targetDown "001_ready.json" demoUser).Raises .apiCommunicationError ∧
      (scanPass demoLoader.load targetDown demoFile).passed = ["001_ready.json"] ∧
      ¬ Retried "001_ready.json" "anna" (scanPass demoLoader.load targetDown demoFile) := by
  refine ⟨Or.inr ⟨_, rfl, by simp⟩, rfl, fun retried => ?_⟩
  exact absurd retried.pings (by decide)

theorem communicationError_never_retried_demo :
    let pass := scanPass demoLoader.load targetDown demoFile
    ¬ Retried "001_ready.json" "anna" pass ∧ pass.next = .sleep ∧
      pass.dir.at "001_ready.json" = (none, some "anna", none) := by
  have raises : (targetDown "001_ready.json" demoUser).Raises .apiCommunicationError :=
    Or.inr ⟨_, rfl, by simp⟩
  have found : demoFile.files.get "001_ready.json" = some "anna" := rfl
  have loads : demoLoader.load "anna" = .ok demoUser := rfl
  exact communicationError_never_retried found loads List.mem_cons_self raises

end Examples

end IdConnector
