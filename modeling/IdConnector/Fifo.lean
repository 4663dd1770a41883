import IdConnector.Delivery
import IdConnector.Distribution

/-! # First in, first out

When the listener converter writes its files in the order of their names, each out
queue passes the files of one object type to `handle` in that order. A file may be
passed again after an interruption, but never after a later one of its type.

The order is carried from place to place: files that are not ready come after the
ready ones, these after everything an out queue has seen, and in an out queue the
round in progress takes the lowest number first and among equals the earliest name.
-/

namespace IdConnector

open Library Relation

variable {F : Type}

def QueueDir.Waits (q : QueueDir F) (name : String) : Prop :=
  ∃ content, q.files.get name = some content

theorem discardFile_waits {q : QueueDir F} {path name : String}
    (waits : (q.discardFile path).Waits name) : q.Waits name ∧ path ≠ name := by
  simp only [QueueDir.Waits, QueueDir.discardFile_files] at waits ⊢
  grind

/-- `a` may be passed to `handle` before `b`. -/
def TypeOrder (load : F → Option ListenerObject) (a b : String × Option F) : Prop :=
  ∀ x y, a.2.bind load = some x → b.2.bind load = some y → x.udmObjectType = y.udmObjectType →
    a.1 ≤ b.1

/-- The numbered files that are still to be handled in this round. -/
def ScanTask.paths : ScanTask F → List (Nat × String)
  | collecting _ paths | handling paths _ | inHandle _ _ paths _ | handled _ _ paths _ => paths
  | stopped | pinging | waiting | sleeping => []

/-- The numbered files are sorted, once all are collected. -/
def ScanTask.Sorted : ScanTask F → Prop
  | handling paths _ | inHandle _ _ paths _ | handled _ _ paths _ =>
      paths.Pairwise fun a b => toLex a ≤ toLex b
  | stopped | pinging | waiting | sleeping | collecting .. => True

/-- The out queue has the file or has passed it to `handle`. -/
def OutBox.Sent (o : OutBox F) (name : String) : Prop :=
  o.dir.Waits name ∨ name ∈ o.passed.map Prod.fst

/-- The order within one out queue. -/
structure OutBox.InOrder (load : F → Option ListenerObject) (o : OutBox F) : Prop where
  passed : o.passed.Pairwise (TypeOrder load)
  ahead : ∀ entry ∈ o.passed, ∀ name content, o.dir.files.get name = some content →
    TypeOrder load entry (name, some content)
  current : ∀ entry, o.task.current = some entry → entry ∈ o.passed
  sorted : o.task.Sorted
  numbers : ∀ entry ∈ o.task.paths, ∃ content obj, o.dir.files.get entry.2 = some content ∧
    load content = some obj ∧ entry.1 = udmObjectQueueOrder obj
  later : ∀ name, o.dir.Waits name → name ∉ o.task.named → ∀ earlier ∈ o.task.named, earlier ≤ name

section Scan

variable {load : F → Option ListenerObject} {o o' : OutBox F}

theorem OutBox.empty_inOrder : (OutBox.empty : OutBox F).InOrder load :=
  ⟨.nil, nofun, nofun, trivial, nofun, nofun⟩

theorem OutBox.InOrder.idle (inOrder : o.InOrder load) {dir : QueueDir F} {task : ScanTask F}
    (files : ∀ {name content}, dir.files.get name = some content →
      o.dir.files.get name = some content)
    (named : task.named = []) (paths : task.paths = []) (current : task.current = none)
    (sorted : task.Sorted) : OutBox.InOrder load { o with dir := dir, task := task } where
  passed := inOrder.passed
  ahead entry member name content found := inOrder.ahead entry member name content (files found)
  current := by simp [current]
  sorted := sorted
  numbers := by simp [paths]
  later := by simp [named]

/-- The first of the sorted files is the earliest of its type in the directory. -/
theorem OutBox.InOrder.first (inOrder : o.InOrder load) {order lowest : Nat} {path : String}
    {paths : List (Nat × String)} (next : o.task = .handling ((order, path) :: paths) lowest)
    {name : String} {content : F} (found : o.dir.files.get name = some content) :
    TypeOrder load (path, o.dir.files.get path) (name, some content) := by
  obtain ⟨_, _, _, sorted, numbers, later⟩ := inOrder
  simp only [next, ScanTask.Sorted, ScanTask.paths, ScanTask.named] at sorted numbers later
  intro x y first other same_type
  obtain ⟨old, obj, at_path, loaded, number⟩ := numbers _ List.mem_cons_self
  obtain rfl : obj = x := by simpa [at_path, loaded] using first
  by_cases listed : name ∈ List.map Prod.snd ((order, path) :: paths)
  · obtain ⟨⟨number', _⟩, member, rfl⟩ := List.mem_map.mp listed
    obtain ⟨content', obj', at_name, loaded', number_eq⟩ := numbers _ member
    obtain rfl : content = content' := Option.some.inj (found.symm.trans at_name)
    obtain rfl : obj' = y := Option.some.inj (loaded'.symm.trans other)
    have equal : order = number' := by
      simp only at number number_eq
      rw [number, number_eq]
      exact udmObjectQueueOrder_congr same_type
    rcases List.mem_cons.mp member with head | tail
    · cases head
      exact le_refl _
    · have below := (List.pairwise_cons.mp sorted).1 _ tail
      rw [Prod.Lex.toLex_le_toLex] at below
      simp only [equal, lt_irrefl, true_and, false_or] at below
      exact below
  · exact later name ⟨content, found⟩ listed path List.mem_cons_self

theorem head_ne {path : String} {paths : List (Nat × String)} {entry : Nat × String}
    (distinct : (path :: paths.map Prod.snd).Nodup) (member : entry ∈ paths) : path ≠ entry.2 := by
  rintro rfl
  exact (List.nodup_cons.mp distinct).1 (List.mem_map_of_mem member)

/-- A copy that is not earlier than anything the out queue has seen. -/
theorem OutBox.InOrder.put (inOrder : o.InOrder load) (listed : o.Listed) {name : String}
    {content : F} (same : ∀ old, o.dir.files.get name = some old → old = content)
    (after : ∀ sent, o.Sent sent → sent ≤ name) :
    OutBox.InOrder load
      { o with dir := { o.dir with files := o.dir.files.put name content } } where
  passed := inOrder.passed
  ahead entry member other content' found := by
    simp only [Directory.get_put] at found
    split at found
    next here =>
      intro _ _ _ _ _
      exact here ▸ after entry.1 (Or.inr (List.mem_map_of_mem member))
    next => exact inOrder.ahead entry member other content' found
  current := inOrder.current
  sorted := inOrder.sorted
  numbers entry member := by
    obtain ⟨old, obj, found, rest⟩ := inOrder.numbers entry member
    refine ⟨old, obj, ?_, rest⟩
    simp only [Directory.get_put]
    split
    next here => rw [same old (here ▸ found)]
    next => exact found
  later other waits unlisted earlier member := by
    obtain ⟨content', found⟩ := waits
    simp only [Directory.get_put] at found
    split at found
    next here =>
      apply here ▸ after earlier _
      rcases listed.present earlier member with ⟨read, done⟩ | present
      · have passed := inOrder.current _ (ScanTask.current_of_done done)
        exact Or.inr (List.mem_map_of_mem passed)
      · exact Or.inl present
    next => exact inOrder.later other ⟨content', found⟩ unlisted earlier member

variable [CaseMapping]

theorem OutBox.listFiles_inOrder (inOrder : o.InOrder load) : o.listFiles.InOrder load where
  passed := inOrder.passed
  ahead entry member name content found :=
    inOrder.ahead entry member name content ((QueueDir.purge_settles o.dir).files found)
  current := nofun
  sorted := trivial
  numbers := nofun
  later name waits unlisted := by
    apply absurd _ unlisted
    simpa [listFiles, ScanTask.named] using QueueDir.mem_queueFiles_iff_purge.mpr waits

theorem ScanStep.inOrder (step : ScanStep load False o o') (listed : o.Listed)
    (inOrder : o.InOrder load) : o'.InOrder load := by
  have distinct := listed.distinct
  have idle := @OutBox.InOrder.idle F load o inOrder
  cases step with
  | startTask | ended | pingFailed | retry | typeChanged | exhausted =>
      exact idle id rfl rfl rfl trivial
  | serverError _ fault | apiError _ fault | unhandled _ fault => exact fault.elim
  | pingOk | woken => exact OutBox.listFiles_inOrder inOrder
  | collected next loaded =>
      obtain ⟨content, found, object⟩ := Option.bind_eq_some_iff.mp loaded
      refine ⟨inOrder.passed, inOrder.ahead, by simp [ScanTask.current], trivial, ?_, ?_⟩
      · intro entry member
        rcases List.mem_append.mp member with before | now
        · exact inOrder.numbers entry (by simpa [next, ScanTask.paths] using before)
        · obtain rfl := List.mem_singleton.mp now
          exact ⟨content, _, found, object, rfl⟩
      · have later := inOrder.later
        simpa [next, ScanTask.named] using later
  | @sorted paths all =>
      have numbers := inOrder.numbers
      have later := inOrder.later
      simp only [all, ScanTask.paths, ScanTask.named, List.append_nil] at numbers later
      refine ⟨inOrder.passed, inOrder.ahead, by simp [ScanTask.current], sortPaths_sorted _, ?_, ?_⟩
      · exact fun entry member => numbers entry (mem_sortPaths.mp member)
      · intro name waits unlisted earlier member
        have same := perm_sortPaths paths
        exact later name waits (fun listed => unlisted (same.mem_iff.mpr listed)) earlier
          (same.mem_iff.mp member)
  | @called order path paths lowest next same =>
      have numbers := inOrder.numbers
      have sorted := inOrder.sorted
      have later := inOrder.later
      simp only [next, ScanTask.paths, ScanTask.Sorted, ScanTask.named] at numbers sorted later
      obtain ⟨content, _, found, _⟩ := numbers _ List.mem_cons_self
      refine ⟨?_, ?_, ?_, (List.pairwise_cons.mp sorted).2,
        fun entry member => numbers entry (List.mem_cons_of_mem _ member), later⟩
      · rw [List.pairwise_append]
        refine ⟨inOrder.passed, List.pairwise_singleton _ _, fun entry member last is_last => ?_⟩
        obtain rfl := List.mem_singleton.mp is_last
        simp only at found
        rw [found]
        exact inOrder.ahead entry member path content found
      · intro entry member name other at_name
        rcases List.mem_append.mp member with before | now
        · exact inOrder.ahead entry before name other at_name
        · obtain rfl := List.mem_singleton.mp now
          exact inOrder.first next at_name
      · rintro _ ⟨⟩
        simp
  | returned call loaded =>
      obtain ⟨passed, ahead, current, sorted, numbers, later⟩ := inOrder
      simp only [call, ScanTask.current, ScanTask.Sorted, ScanTask.paths, ScanTask.named]
        at current sorted numbers later
      exact ⟨passed, ahead, current, sorted, numbers, later⟩
  | @discarded path _ _ _ call =>
      obtain ⟨passed, ahead, current, sorted, numbers, later⟩ := inOrder
      simp only [call, ScanTask.current, ScanTask.Sorted, ScanTask.paths, ScanTask.named]
        at distinct current sorted numbers later
      have settles := QueueDir.discardFile_settles o.dir path
      refine ⟨passed, fun entry member name content found =>
        ahead entry member name content (settles.files found), current, sorted, ?_, ?_⟩
      · intro entry member
        obtain ⟨content, obj, found, rest⟩ := numbers entry member
        refine ⟨content, obj, ?_, rest⟩
        rw [QueueDir.discardFile_files, if_neg (head_ne distinct member)]
        exact found
      · rintro name ⟨content, found⟩
        exact later name ⟨content, settles.files found⟩
  | @unlinked path _ _ _ done =>
      obtain ⟨passed, ahead, current, sorted, numbers, later⟩ := inOrder
      simp only [done, ScanTask.Sorted, ScanTask.paths, ScanTask.named] at distinct sorted numbers later
      refine ⟨passed, fun entry member name content found =>
        ahead entry member name content (Directory.get_of_get_remove found).1, by simp [ScanTask.current], sorted,
        ?_, ?_⟩
      · intro entry member
        obtain ⟨content, obj, found, rest⟩ := numbers entry member
        refine ⟨content, obj, ?_, rest⟩
        rw [Directory.get_remove, if_neg (head_ne distinct member)]
        exact found
      · rintro name ⟨content, found⟩ unlisted earlier member
        obtain ⟨before, different⟩ := Directory.get_of_get_remove found
        refine later name ⟨content, before⟩ ?_ earlier (List.mem_cons_of_mem _ member)
        intro listed
        rcases List.mem_cons.mp listed with rfl | rest
        · exact different rfl
        · exact unlisted rest

theorem ScanStep.sent_sub (step : ScanStep load False o o') (listed : o.Listed) {name : String}
    (sent : o'.Sent name) : o.Sent name := by
  rcases sent with ⟨content, found⟩ | passed
  · exact Or.inl ⟨content, step.files_sub found⟩
  · cases step with
    | @called order path paths lowest next same =>
        rw [List.map_append] at passed
        rcases List.mem_append.mp passed with before | now
        · exact Or.inr before
        · obtain rfl := List.mem_singleton.mp now
          have present := listed.present name
          simp only [next, ScanTask.named, ScanTask.Done] at present
          exact Or.inl (by simpa [QueueDir.Waits] using present)
    | _ => exact Or.inr passed

end Scan

/-! ## The order between the queues -/

/-- A distribution pass is under way. -/
def InTask.Distributes : InTask → Prop
  | distributing _ | copying .. => True
  | stopped | preprocessing _ | hooks .. | sleeping => False

/-- The listener converter writes plain files in an order that renaming keeps. -/
def IncreasingNames (arrived : List String) (name : String) : Prop :=
  isReady name = false ∧ ∀ earlier ∈ arrived,
    isReady earlier = false ∧ earlier < name ∧ readyName earlier < readyName name

namespace Service

/-- The order between the files that are not ready, the ready ones and those that the out
    queues have seen, and the place of the current pass in it. -/
structure Ordered (authorities : List String) (s : Service F) : Prop where
  arrived : s.arrived.Pairwise fun a b => a < b ∧ readyName a < readyName b
  plainArrived : ∀ {name}, isReady name = false → s.inDir.Waits name → name ∈ s.arrived
  readyArrived : ∀ {name}, isReady name = true → s.inDir.Waits name →
    name ∈ s.arrived.map readyName
  sentArrived : ∀ {authority name}, (s.outs authority).Sent name → name ∈ s.arrived.map readyName
  plainAfterReady : ∀ {plain ready}, isReady plain = false → s.inDir.Waits plain →
    isReady ready = true → s.inDir.Waits ready → ready < readyName plain
  plainAfterSent : ∀ {plain authority sent}, isReady plain = false → s.inDir.Waits plain →
    (s.outs authority).Sent sent → sent < readyName plain
  readyAfterSent : ∀ {ready authority sent}, isReady ready = true → s.inDir.Waits ready →
    (s.outs authority).Sent sent → sent ≤ ready
  plainTask : ∀ name ∈ s.inTask.plainNames, name ∈ s.arrived ∧ isReady name = false
  plainSorted : s.inTask.plainNames.Pairwise (· < ·)
  plainLater : ∀ name, isReady name = false → s.inDir.Waits name → name ∉ s.inTask.plainNames →
    ∀ earlier ∈ s.inTask.plainNames, earlier < name
  readySorted : s.inTask.readyNames.Pairwise (· < ·)
  readyListed : ∀ name, authorities ≠ [] → s.inTask.Distributes → isReady name = true →
    s.inDir.Waits name → name ∈ s.inTask.readyNames

variable {authorities : List String} {s s' : Service F}

theorem empty_ordered : (empty : Service F).Ordered authorities where
  arrived := .nil
  plainArrived _ waits := nomatch waits
  readyArrived _ waits := nomatch waits
  sentArrived sent := sent.elim nofun nofun
  plainAfterReady _ waits := nomatch waits
  plainAfterSent _ waits := nomatch waits
  readyAfterSent _ waits := nomatch waits
  plainTask := nofun
  plainSorted := .nil
  plainLater _ _ waits := nomatch waits
  readySorted := .nil
  readyListed _ _ distributes := nomatch distributes

/-- Taking files away keeps the order; what is said about the task is left to show. -/
theorem Ordered.of_sub (ordered : s.Ordered authorities)
    (files : ∀ {name}, s'.inDir.Waits name → s.inDir.Waits name)
    (sent : ∀ {authority name}, (s'.outs authority).Sent name → (s.outs authority).Sent name)
    (arrived : s'.arrived = s.arrived)
    (plainTask : ∀ name ∈ s'.inTask.plainNames, name ∈ s'.arrived ∧ isReady name = false)
    (plainSorted : s'.inTask.plainNames.Pairwise (· < ·))
    (plainLater : ∀ name, isReady name = false → s'.inDir.Waits name →
      name ∉ s'.inTask.plainNames → ∀ earlier ∈ s'.inTask.plainNames, earlier < name)
    (readySorted : s'.inTask.readyNames.Pairwise (· < ·))
    (readyListed : ∀ name, authorities ≠ [] → s'.inTask.Distributes → isReady name = true →
      s'.inDir.Waits name → name ∈ s'.inTask.readyNames) : s'.Ordered authorities where
  arrived := arrived ▸ ordered.arrived
  plainArrived plain waits := arrived ▸ ordered.plainArrived plain (files waits)
  readyArrived ready waits := arrived ▸ ordered.readyArrived ready (files waits)
  sentArrived seen := arrived ▸ ordered.sentArrived (sent seen)
  plainAfterReady plain waits ready waits' :=
    ordered.plainAfterReady plain (files waits) ready (files waits')
  plainAfterSent plain waits seen := ordered.plainAfterSent plain (files waits) (sent seen)
  readyAfterSent ready waits seen := ordered.readyAfterSent ready (files waits) (sent seen)
  plainTask := plainTask
  plainSorted := plainSorted
  plainLater := plainLater
  readySorted := readySorted
  readyListed := readyListed

theorem Ordered.of_idle (ordered : s.Ordered authorities)
    (files : ∀ {name}, s'.inDir.Waits name → s.inDir.Waits name)
    (sent : ∀ {authority name}, (s'.outs authority).Sent name → (s.outs authority).Sent name)
    (arrived : s'.arrived = s.arrived) (plain : s'.inTask.plainNames = [])
    (ready : s'.inTask.readyNames = [])
    (idle : authorities ≠ [] → ¬ s'.inTask.Distributes) : s'.Ordered authorities := by
  refine ordered.of_sub files sent arrived ?_ ?_ ?_ ?_ ?_
  · simp [plain]
  · simp [plain]
  · simp [plain]
  · simp [ready]
  · exact fun _ registered distributes => absurd distributes (idle registered)

/-- Of two files that arrived the one with the lower name has the lower ready name. -/
theorem Ordered.readyName_lt (ordered : s.Ordered authorities) {a b : String}
    (arrived : a ∈ s.arrived) (arrived' : b ∈ s.arrived) (less : a < b) :
    readyName a < readyName b := by
  have either := List.Pairwise.forall_of_forall_of_flip (R := fun a b => a < b → readyName a < readyName b)
    (l := s.arrived) (by simp) (ordered.arrived.imp fun both _ => both.2)
    (ordered.arrived.imp fun both less => absurd both.1 (lt_asymm less))
  exact either arrived arrived' less

theorem putFile_waits {name other : String} {content : F} :
    (s.putFile name content).inDir.Waits other ↔ name = other ∨ s.inDir.Waits other := by
  simp only [putFile, QueueDir.Waits, Directory.get_put]
  split
  next same => simp [same]
  next different => simp [different]

theorem Ordered.arrive (ordered : s.Ordered authorities) {name : String} (content : F)
    (allowed : IncreasingNames s.arrived name) :
    Ordered authorities { s.putFile name content with arrived := s.arrived ++ [name] } := by
  obtain ⟨plain_name, later⟩ := allowed
  have below : ∀ ready ∈ s.arrived.map readyName, ready < readyName name := by
    intro ready member
    obtain ⟨earlier, arrived, rfl⟩ := List.mem_map.mp member
    exact (later earlier arrived).2.2
  have ready_before : ∀ {ready}, isReady ready = true → (s.putFile name content).inDir.Waits ready →
      s.inDir.Waits ready := by
    intro ready is_ready waits
    rcases putFile_waits.mp waits with rfl | before
    · simp [plain_name] at is_ready
    · exact before
  constructor
  · rw [List.pairwise_append]
    refine ⟨ordered.arrived, List.pairwise_singleton _ _, fun earlier arrived last is_last => ?_⟩
    exact List.mem_singleton.mp is_last ▸ (later earlier arrived).2
  · intro other plain waits
    rcases putFile_waits.mp waits with rfl | before
    · simp
    · exact List.mem_append_left _ (ordered.plainArrived plain before)
  · intro other ready waits
    rw [List.map_append]
    exact List.mem_append_left _ (ordered.readyArrived ready (ready_before ready waits))
  · intro authority other sent
    rw [List.map_append]
    exact List.mem_append_left _ (ordered.sentArrived sent)
  · intro plain ready is_plain waits is_ready waits'
    have before' := ready_before is_ready waits'
    rcases putFile_waits.mp waits with rfl | before
    · exact below ready (ordered.readyArrived is_ready before')
    · exact ordered.plainAfterReady is_plain before is_ready before'
  · intro plain authority sent is_plain waits seen
    rcases putFile_waits.mp waits with rfl | before
    · exact below sent (ordered.sentArrived seen)
    · exact ordered.plainAfterSent is_plain before seen
  · intro ready authority sent is_ready waits seen
    exact ordered.readyAfterSent is_ready (ready_before is_ready waits) seen
  · intro other member
    have before := ordered.plainTask other member
    exact ⟨List.mem_append_left _ before.1, before.2⟩
  · exact ordered.plainSorted
  · intro other plain waits unlisted earlier member
    rcases putFile_waits.mp waits with rfl | before
    · exact (later earlier (ordered.plainTask earlier member).1).2.1
    · exact ordered.plainLater other plain before unlisted earlier member
  · exact ordered.readySorted
  · intro other registered distributes ready waits
    exact ordered.readyListed other registered distributes ready (ready_before ready waits)

/-- Renaming the first file of a pass: every other file that is not ready is later. -/
theorem Ordered.renamed (ordered : s.Ordered authorities) {path : String} {content : F}
    {todo : List String} (hooked : s.inTask = .hooks path todo)
    (found : s.inDir.files.get path = some content) :
    Ordered authorities
      { s with
        inDir := { s.inDir with files := s.inDir.files.rename path (readyName path) }
        inTask := .preprocessing todo } := by
  have plainTask := ordered.plainTask
  have sorted := ordered.plainSorted
  have plainLater := ordered.plainLater
  simp only [hooked, InTask.plainNames] at plainTask sorted plainLater
  obtain ⟨arrived_path, plain_path⟩ := plainTask path List.mem_cons_self
  have waits_path : s.inDir.Waits path := ⟨content, found⟩
  have before : ∀ {name}, QueueDir.Waits
      { s.inDir with files := s.inDir.files.rename path (readyName path) } name →
      name = readyName path ∨ (name ≠ path ∧ s.inDir.Waits name) := by
    intro name waits
    simp only [QueueDir.Waits, Directory.get_rename found] at waits ⊢
    grind
  have plain_before : ∀ {name}, isReady name = false → QueueDir.Waits
      { s.inDir with files := s.inDir.files.rename path (readyName path) } name →
      name ≠ path ∧ s.inDir.Waits name := by
    intro name plain waits
    rcases before waits with rfl | old
    · simp at plain
    · exact old
  have path_first : ∀ {name}, isReady name = false → name ≠ path → s.inDir.Waits name →
      path < name := by
    intro name plain different waits
    by_cases listed : name ∈ path :: todo
    · have member := (List.mem_cons.mp listed).resolve_left different
      exact (List.pairwise_cons.mp sorted).1 name member
    · exact plainLater name plain waits listed path List.mem_cons_self
  constructor
  · exact ordered.arrived
  · exact fun plain waits => ordered.plainArrived plain (plain_before plain waits).2
  · intro name ready waits
    rcases before waits with rfl | ⟨_, old⟩
    · exact List.mem_map_of_mem arrived_path
    · exact ordered.readyArrived ready old
  · exact ordered.sentArrived
  · intro plain ready is_plain waits is_ready waits'
    obtain ⟨different, old⟩ := plain_before is_plain waits
    rcases before waits' with rfl | ⟨_, old'⟩
    · exact ordered.readyName_lt arrived_path (ordered.plainArrived is_plain old)
        (path_first is_plain different old)
    · exact ordered.plainAfterReady is_plain old is_ready old'
  · exact fun plain waits seen => ordered.plainAfterSent plain (plain_before plain waits).2 seen
  · intro ready authority sent is_ready waits seen
    rcases before waits with rfl | ⟨_, old⟩
    · exact le_of_lt (ordered.plainAfterSent plain_path waits_path seen)
    · exact ordered.readyAfterSent is_ready old seen
  · exact fun name member => plainTask name (List.mem_cons_of_mem _ member)
  · exact (List.pairwise_cons.mp sorted).2
  · intro name plain waits unlisted earlier member
    obtain ⟨different, old⟩ := plain_before plain waits
    apply plainLater name plain old _ earlier (List.mem_cons_of_mem _ member)
    simp [different, show name ∉ todo from unlisted]
  · exact .nil
  · exact fun _ _ distributes => distributes.elim

/-- The file copied next is the first of the ready ones, and none that the out queue has
    seen is later. -/
theorem Ordered.copied (ordered : s.Ordered authorities) {path authority : String} {content : F}
    {names rest todo : List String}
    (next : s.inTask = .copying path names (authority :: rest) todo)
    (registered : authorities ≠ []) (is_ready : isReady path = true)
    (found : s.inDir.files.get path = some content) :
    Ordered authorities
      { s.copyFile authority path content with inTask := .copying path names rest todo } := by
  have sorted := ordered.readySorted
  have listed := ordered.readyListed
  simp only [next, InTask.readyNames, InTask.Distributes] at sorted listed
  have waits_path : s.inDir.Waits path := ⟨content, found⟩
  have before : ∀ {other name}, ((s.copyFile authority path content).outs other).Sent name →
      (s.outs other).Sent name ∨ name = path := by
    intro other name sent
    by_cases same : other = authority
    · subst same
      simp only [copyFile, Function.update_self, OutBox.Sent, QueueDir.Waits,
        Directory.get_put] at sent ⊢
      grind
    · simp only [copyFile, Function.update_of_ne same] at sent
      exact Or.inl sent
  constructor
  · exact ordered.arrived
  · exact ordered.plainArrived
  · exact ordered.readyArrived
  · intro other name sent
    rcases before sent with old | rfl
    · exact ordered.sentArrived old
    · exact ordered.readyArrived is_ready waits_path
  · exact ordered.plainAfterReady
  · intro plain other sent is_plain waits seen
    rcases before seen with old | rfl
    · exact ordered.plainAfterSent is_plain waits old
    · exact ordered.plainAfterReady is_plain waits is_ready waits_path
  · intro ready other sent is_ready' waits seen
    rcases before seen with old | rfl
    · exact ordered.readyAfterSent is_ready' waits old
    · rcases List.mem_cons.mp (listed ready registered trivial is_ready' waits) with rfl | later
      · exact le_refl _
      · exact le_of_lt ((List.pairwise_cons.mp sorted).1 ready later)
  · simp [InTask.plainNames]
  · exact .nil
  · simp [InTask.plainNames]
  · exact sorted
  · exact fun name registered _ ready waits => listed name registered trivial ready waits

theorem Ordered.drop_plain (ordered : s.Ordered authorities) {path : String} {todo : List String}
    (names : s.inTask.plainNames = path :: todo) :
    Ordered authorities { s.discardFile path with inTask := .preprocessing todo } := by
  have plainTask := ordered.plainTask
  have plainSorted := ordered.plainSorted
  have plainLater := ordered.plainLater
  rw [names] at plainTask plainSorted plainLater
  refine ordered.of_sub (fun waits => (discardFile_waits waits).1) id rfl
    (fun name member => plainTask name (List.mem_cons_of_mem _ member))
    (List.pairwise_cons.mp plainSorted).2 ?_ .nil fun _ _ distributes => distributes.elim
  intro name plain waits unlisted earlier member
  obtain ⟨before, different⟩ := discardFile_waits waits
  apply plainLater name plain before _ earlier (List.mem_cons_of_mem _ member)
  simp [different.symm, show name ∉ todo from unlisted]

theorem Ordered.drop_ready (ordered : s.Ordered authorities) {path : String} {todo : List String}
    (names : s.inTask.readyNames = path :: todo) (distributes : s.inTask.Distributes)
    (files : ∀ {name}, s'.inDir.Waits name → s.inDir.Waits name ∧ path ≠ name)
    (outs : s'.outs = s.outs) (arrived : s'.arrived = s.arrived)
    (task : s'.inTask = .distributing todo) : s'.Ordered authorities := by
  have readySorted := ordered.readySorted
  have readyListed := ordered.readyListed
  rw [names] at readySorted readyListed
  refine ordered.of_sub (fun waits => (files waits).1) (fun sent => by rwa [outs] at sent) arrived
    ?_ ?_ ?_ ?_ ?_
  · simp [task, InTask.plainNames]
  · simp [task, InTask.plainNames]
  · simp [task, InTask.plainNames]
  · rw [task]
    exact (List.pairwise_cons.mp readySorted).2
  · intro name registered _ ready waits
    obtain ⟨before, different⟩ := files waits
    have member := readyListed name registered distributes ready before
    rw [task]
    exact (List.mem_cons.mp member).resolve_left different.symm

section Steps

variable [CaseMapping] {load : F → Option ListenerObject}

theorem beginPass_ordered (ordered : s.Ordered authorities) : s.beginPass.Ordered authorities := by
  have listed : ∀ {name}, s.beginPass.inDir.Waits name ↔ name ∈ s.inDir.queueFiles :=
    QueueDir.mem_queueFiles_iff_purge.symm
  have before : ∀ {name}, s.beginPass.inDir.Waits name → s.inDir.Waits name :=
    fun waits => (QueueDir.mem_queueFiles.mp (listed.mp waits)).1
  refine ordered.of_sub before id rfl ?_ ?_ ?_ .nil fun _ _ distributes => distributes.elim
  · intro name member
    obtain ⟨member, plain⟩ := List.mem_filter.mp member
    have plain' : isReady name = false := by simpa using plain
    exact ⟨ordered.plainArrived plain' (before (listed.mpr member)), plain'⟩
  · exact s.inDir.queueFiles_increasing.sublist List.filter_sublist
  · intro name plain waits unlisted
    apply absurd _ unlisted
    exact List.mem_filter.mpr ⟨listed.mp waits, by simp [plain]⟩

theorem beginDistribute_ordered (ordered : s.Ordered authorities) :
    (s.beginDistribute authorities).Ordered authorities := by
  unfold beginDistribute
  split
  next none_registered =>
    exact ordered.of_idle id id rfl rfl rfl fun registered => absurd none_registered registered
  next =>
    have listed : ∀ {name}, s.inDir.purge.Waits name ↔ name ∈ s.inDir.queueFiles :=
      QueueDir.mem_queueFiles_iff_purge.symm
    refine ordered.of_sub (fun waits => (QueueDir.mem_queueFiles.mp (listed.mp waits)).1) id rfl
      nofun .nil (fun _ _ _ => nofun) ?_ ?_
    · exact s.inDir.queueFiles_increasing.sublist List.filter_sublist
    · intro name _ _ ready waits
      exact List.mem_filter.mpr ⟨listed.mp waits, ready⟩

theorem Step.ordered (step : Step authorities load False IncreasingNames s s')
    (listed : ∀ authority, (s.outs authority).Listed) {canon : String → Option F}
    (consistent : s.Consistent canon) (ordered : s.Ordered authorities) :
    s'.Ordered authorities := by
  have plainTask := ordered.plainTask
  have plainSorted := ordered.plainSorted
  have plainLater := ordered.plainLater
  have readySorted := ordered.readySorted
  have readyListed := ordered.readyListed
  cases step with
  | arrive content allowed => exact ordered.arrive content allowed
  | renamed hooked found => exact ordered.renamed hooked found
  | copied next known found =>
      have readyTask := consistent.readyTask
      simp only [next, InTask.readyNames] at readyTask
      exact ordered.copied next (List.ne_nil_of_mem known) (readyTask _ List.mem_cons_self) found
  | start =>
      have begun := beginDistribute_ordered ordered
      exact begun.of_sub id id rfl begun.plainTask begun.plainSorted begun.plainLater
        begun.readySorted begun.readyListed
  | preprocessed => exact beginDistribute_ordered ordered
  | startTask | woken => exact beginPass_ordered ordered
  | started | ended | distributed | copyFailed | crashed =>
      exact ordered.of_idle id id rfl rfl rfl fun _ => id
  | @saved path _ old content hooked found =>
      have before : ∀ {name}, (s.putFile path content).inDir.Waits name → s.inDir.Waits name := by
        intro name waits
        rcases putFile_waits.mp waits with rfl | before
        · exact ⟨old, found⟩
        · exact before
      exact ordered.of_sub before id rfl plainTask plainSorted
        (fun name plain waits => plainLater name plain (before waits)) readySorted
        fun name registered distributes ready waits =>
          readyListed name registered distributes ready (before waits)
  | loaded next object =>
      simp only [next, InTask.plainNames] at plainTask plainSorted plainLater
      exact ordered.of_sub id id rfl plainTask plainSorted plainLater .nil
        fun _ _ distributes => distributes.elim
  | invalid next object => exact ordered.drop_plain (by rw [next]; rfl)
  | notSaved hooked => exact ordered.drop_plain (by rw [hooked]; rfl)
  | unloadable next object | unrouted next object =>
      exact ordered.drop_ready (by rw [next]; rfl) (by rw [next]; trivial) discardFile_waits rfl rfl rfl
  | routed names some_name next object =>
      simp only [next, InTask.readyNames, InTask.Distributes] at readySorted readyListed
      exact ordered.of_sub id id rfl (by simp [InTask.plainNames]) .nil (by simp [InTask.plainNames])
        readySorted readyListed
  | unknown next unregistered =>
      simp only [next, InTask.readyNames, InTask.Distributes] at readySorted readyListed
      exact ordered.of_sub id id rfl (by simp [InTask.plainNames]) .nil (by simp [InTask.plainNames])
        readySorted readyListed
  | unlinked next =>
      refine ordered.drop_ready (by rw [next]; rfl) (by rw [next]; trivial) ?_ rfl rfl rfl
      rintro name ⟨content, found⟩
      obtain ⟨before, different⟩ := Directory.get_of_get_remove found
      exact ⟨⟨content, before⟩, different⟩
  | @scan authority o known running step =>
      refine ordered.of_sub id ?_ rfl plainTask plainSorted plainLater readySorted readyListed
      intro other name sent
      by_cases same : other = authority
      · subst same
        simp only [Function.update_self] at sent
        exact step.sent_sub (listed other) sent
      · simpa only [Function.update_of_ne same] using sent

theorem Step.inOrder {admits : List String → String → Prop}
    (step : Step authorities load False admits s s')
    (listed : ∀ authority, (s.outs authority).Listed) {canon : String → Option F}
    (consistent : s.Consistent canon) (ordered : s.Ordered authorities)
    (inOrder : ∀ authority, (s.outs authority).InOrder load) (authority : String) :
    (s'.outs authority).InOrder load := by
  cases step with
  | crashed => exact (inOrder authority).idle id rfl rfl rfl trivial
  | @copied path _ other _ _ content next known found =>
      by_cases same : authority = other
      · subst same
        have is_ready : isReady path = true :=
          consistent.readyTask path (by simp [next, InTask.readyNames])
        have canonical := consistent.ready is_ready found
        have agree : ∀ old, (s.outs authority).dir.files.get path = some old → old = content := by
          intro old held
          have known := (consistent.mentioned (Or.inl (Or.inl held))).2
          exact Option.some.inj (known.symm.trans canonical)
        have after : ∀ sent, (s.outs authority).Sent sent → sent ≤ path := fun sent seen =>
          ordered.readyAfterSent is_ready ⟨content, found⟩ seen
        simpa [copyFile] using (inOrder authority).put (listed authority) agree after
      · simpa [copyFile, Function.update_of_ne same] using inOrder authority
  | @scan other o known running step =>
      by_cases same : authority = other
      · subst same
        simpa using step.inOrder (listed authority) (inOrder authority)
      · simpa [Function.update_of_ne same] using inOrder authority
  | start | preprocessed =>
      unfold beginDistribute
      split <;> exact inOrder authority
  | _ => exact inOrder authority

end Steps

/-! ## Runs with the listener converter -/

theorem increasing_fresh {arrived : List String} {name : String}
    (increasing : IncreasingNames arrived name) : FreshName arrived name := by
  obtain ⟨plain, later⟩ := increasing
  intro member
  obtain ⟨earlier, arrived_earlier, same⟩ := List.mem_map.mp member
  obtain ⟨plain_earlier, _, less⟩ := later earlier arrived_earlier
  rw [finalName_of_plain plain, finalName_of_plain plain_earlier] at same
  exact absurd same (ne_of_lt less)

end Service

/-- A file name `<stem>.json` as the listener converter makes it. -/
def HasStem (length : Nat) (name stem : String) : Prop :=
  name = stem ++ ".json" ∧ stem.length = length ∧ Text.endsWith stem "_ready" = false

/-- The listener converter writes a file whose stem is above those of all before it. -/
def ConverterWrites (length : Nat) (arrived : List String) (name : String) : Prop :=
  ∃ stem, HasStem length name stem ∧
    ∀ earlier ∈ arrived, ∃ stem', HasStem length earlier stem' ∧ stem' < stem

theorem HasStem.isReady {length : Nat} {name stem : String} (has : HasStem length name stem) :
    isReady name = false := by
  obtain ⟨rfl, -, unready⟩ := has
  have split : "_ready.json".toList = "_ready".toList ++ ".json".toList := by decide
  rw [Bool.eq_false_iff, Text.endsWith, ne_eq, List.isSuffixOf_iff_suffix] at unready
  rw [IdConnector.isReady, Bool.eq_false_iff, Text.endsWith, ne_eq, List.isSuffixOf_iff_suffix,
    String.toList_append, split, List.suffix_append_self_iff]
  exact unready

theorem HasStem.readyName {length : Nat} {name stem : String} (has : HasStem length name stem) :
    readyName name = stem ++ "_ready.json" := by
  obtain ⟨rfl, -, -⟩ := has
  have dotless : '.' ∉ "json".toList := by decide
  have cut := Text.beforeLast_append dotless stem
  exact congrArg (· ++ "_ready.json") cut

theorem HasStem.lt {length : Nat} {name name' stem stem' : String} (has : HasStem length name stem)
    (has' : HasStem length name' stem') (less : stem < stem') :
    name < name' ∧ IdConnector.readyName name < IdConnector.readyName name' := by
  have same : stem.length = stem'.length := has.2.1.trans has'.2.1.symm
  rw [has.readyName, has'.readyName, has.1, has'.1]
  exact ⟨Text.append_lt_append _ _ same less, Text.append_lt_append _ _ same less⟩

theorem HasStem.le_of_readyName {length : Nat} {name name' stem stem' : String}
    (has : HasStem length name stem) (has' : HasStem length name' stem')
    (le : IdConnector.readyName name ≤ IdConnector.readyName name') : stem ≤ stem' :=
  not_lt.mp fun less => not_le_of_gt (has'.lt has less).2 le

theorem ConverterWrites.increasing {length : Nat} {arrived : List String} {name : String}
    (writes : ConverterWrites length arrived name) : IncreasingNames arrived name := by
  obtain ⟨stem, has, later⟩ := writes
  refine ⟨has.isReady, fun earlier member => ?_⟩
  obtain ⟨stem', has', less⟩ := later earlier member
  exact ⟨has'.isReady, has'.lt has less⟩

namespace Service

variable [CaseMapping] {authorities : List String} {load : F → Option ListenerObject}
  {s : Service F} {length : Nat}

theorem run_stems (run : Run authorities load False (ConverterWrites length) empty s) :
    ∀ name ∈ s.arrived, ∃ stem, HasStem length name stem := by
  induction run with
  | refl => exact nofun
  | tail _ step ih =>
      cases step with
      | arrive content allowed =>
          intro name member
          rcases List.mem_append.mp member with before | now
          · exact ih name before
          · obtain ⟨stem, has, _⟩ := allowed
            exact ⟨stem, List.mem_singleton.mp now ▸ has⟩
      | start | preprocessed =>
          unfold beginDistribute
          split <;> exact ih
      | _ => exact ih

theorem run_inOrder (run : Run authorities load False IncreasingNames empty s) :
    s.Ordered authorities ∧ ∀ authority, (s.outs authority).InOrder load := by
  induction run with
  | refl => exact ⟨empty_ordered, fun _ => OutBox.empty_inOrder⟩
  | tail before step ih =>
      have listed := run_listed before
      obtain ⟨canon, consistent⟩ := run_consistent (Run.mono (fun _ _ => increasing_fresh) before)
      exact ⟨step.ordered listed consistent ih.1, step.inOrder listed consistent ih.1 ih.2⟩

/-- In every run the files that an out queue passes to `handle` have stems that, within one
    object type, never decrease. -/
theorem passed_in_stem_order
    (run : Run authorities load False (ConverterWrites length) empty s) (authority : String) :
    ∃ log : List (String × Option F),
      (s.outs authority).passed = log.map (fun entry => (entry.1 ++ "_ready.json", entry.2)) ∧
        (∀ entry ∈ log, entry.1 ++ ".json" ∈ s.arrived) ∧ log.Pairwise (TypeOrder load) := by
  have increasing : Run authorities load False IncreasingNames empty s :=
    Run.mono (fun _ _ => ConverterWrites.increasing) run
  obtain ⟨ordered, inOrder⟩ := run_inOrder increasing
  have stems : ∀ entry ∈ (s.outs authority).passed, ∃ name ∈ s.arrived, ∃ stem,
      HasStem length name stem ∧ entry.1 = readyName name ∧
        Text.beforeLast '_' entry.1 = stem := by
    intro entry member
    obtain ⟨name, arrived, same⟩ := List.mem_map.mp
      (ordered.sentArrived (Or.inr (List.mem_map_of_mem member)))
    obtain ⟨stem, has⟩ := run_stems run name arrived
    refine ⟨name, arrived, stem, has, same.symm, ?_⟩
    rw [← same, has.readyName]
    have plain : '_' ∉ "ready.json".toList := by decide
    exact Text.beforeLast_append plain stem
  refine ⟨(s.outs authority).passed.map fun entry => (Text.beforeLast '_' entry.1, entry.2),
    ?_, ?_, ?_⟩
  · rw [List.map_map]
    refine ((List.map_congr_left fun entry member => ?_).trans (List.map_id _)).symm
    obtain ⟨name, _, stem, has, same, cut⟩ := stems entry member
    simp only [Function.comp_apply, cut, ← has.readyName, ← same, id]
  · intro entry member
    obtain ⟨passed, seen, rfl⟩ := List.mem_map.mp member
    obtain ⟨name, arrived, stem, has, _, cut⟩ := stems passed seen
    simpa only [cut, ← has.1] using arrived
  · rw [List.pairwise_map]
    refine (inOrder authority).passed.imp_of_mem fun {a b} member member' order x y first second same => ?_
    obtain ⟨_, _, _, has, name_eq, cut⟩ := stems a member
    obtain ⟨_, _, _, has', name_eq', cut'⟩ := stems b member'
    simp only [cut, cut']
    exact has.le_of_readyName has' (name_eq ▸ name_eq' ▸ order x y first second same)

end Service

section Examples

attribute [local instance] asciiCaseMapping

private theorem demoScan : ∃ s : Service String,
    Service.Run ["Traeger1"] (fun _ => some demoUser) False (ConverterWrites 3) .empty s ∧
      (s.outs "Traeger1").passed =
        [("001_ready.json", some "anna"), ("002_ready.json", some "berta")] := by
  have less : "001" < "002" := by
    rw [String.lt_iff_toList_lt]
    decide
  have first : ConverterWrites 3 [] "001.json" := ⟨"001", ⟨rfl, rfl, by decide⟩, nofun⟩
  have second : ConverterWrites 3 ["001.json"] "002.json" := by
    refine ⟨"002", ⟨rfl, rfl, by decide⟩, fun earlier member => ⟨"001", ?_, less⟩⟩
    exact ⟨List.mem_singleton.mp member, rfl, by decide⟩
  have run : Service.Run ["Traeger1"] (fun _ => some demoUser) False (ConverterWrites 3)
    (Service.empty : Service String) _ := .single (.arrive "anna" first)
  have run := run.tail (.arrive "berta" second)
  have run := (run.tail (.start rfl)).tail (.started rfl rfl)
  have run := ((run.tail (.startTask rfl rfl)).tail (.loaded rfl rfl)).tail (.renamed rfl rfl)
  have run := ((run.tail (.loaded rfl rfl)).tail (.renamed rfl rfl)).tail (.preprocessed rfl)
  have run := run.tail (.routed ["Traeger1"] (by decide) rfl rfl)
  have run := (run.tail (.copied rfl (by decide) rfl)).tail (.unlinked rfl)
  have run := run.tail (.routed ["Traeger1"] (by decide) rfl rfl)
  have run := (run.tail (.copied rfl (by decide) rfl)).tail (.unlinked rfl)
  have scan : ∀ {s : Service String} {o}, s.phase = .running →
      ScanStep (fun _ => some demoUser) False (s.outs "Traeger1") o →
      Service.Step ["Traeger1"] (fun _ => some demoUser) False (ConverterWrites 3) s
        { s with outs := Function.update s.outs "Traeger1" o } :=
    fun running step => .scan (by decide) running step
  have run := (run.tail (scan rfl (.startTask rfl))).tail (scan rfl (.pingOk rfl))
  have run := (run.tail (scan rfl (.collected rfl rfl))).tail (scan rfl (.collected rfl rfl))
  have run := (run.tail (scan rfl (.sorted rfl))).tail (scan rfl (.called rfl (by decide)))
  have run := (run.tail (scan rfl (.returned rfl rfl))).tail (scan rfl (.unlinked rfl))
  have run := run.tail (scan rfl (.called rfl (by decide)))
  exact ⟨_, run, rfl⟩

theorem passed_in_stem_order_demo : ∃ (s : Service String) (log : List (String × Option String)),
    (s.outs "Traeger1").passed =
        [("001_ready.json", some "anna"), ("002_ready.json", some "berta")] ∧
      (s.outs "Traeger1").passed = log.map (fun entry => (entry.1 ++ "_ready.json", entry.2)) ∧
      log.Pairwise (TypeOrder fun _ => some demoUser) := by
  obtain ⟨s, run, passed⟩ := demoScan
  obtain ⟨log, same, _, order⟩ := Service.passed_in_stem_order run "Traeger1"
  exact ⟨s, log, passed, same, order⟩

end Examples

end IdConnector
