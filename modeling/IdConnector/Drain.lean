import IdConnector.Library.Rounds
import IdConnector.ScanPass

/-! # How an out queue drains

As long as nothing arrives, each pass of the inner loop of `scan` handles the files of one type
and leaves the others for the next one. `out_queue_drains` says in which order the files are
handled and after how many passes none is left.
-/

namespace IdConnector

open Library

/-- Users come before groups, and groups before everything else. -/
def typeClass (udmObjectType : String) : Nat :=
  if udmObjectType = "users/user" then 0 else if udmObjectType = "groups/group" then 1 else 2

/-- The number that the code gives to the objects of a class. -/
def classNumber (c : Nat) : Nat := if c = 2 then 999 else c

theorem udmObjectQueueOrder_eq {O : Type} [UdmObject O] (obj : O) :
    udmObjectQueueOrder obj = classNumber (typeClass (UdmObject.udmObjectType obj)) := by
  unfold udmObjectQueueOrder classNumber typeClass queueSortOrder
  generalize UdmObject.udmObjectType obj = udmObjectType
  by_cases user : udmObjectType = "users/user"
  · subst user
    decide
  · by_cases group : udmObjectType = "groups/group"
    · subst group
      decide
    · simp [List.idxOf?_cons, user, group, Ne.symm user, Ne.symm group]

theorem typeClass_le (udmObjectType : String) : typeClass udmObjectType ≤ 2 := by
  unfold typeClass
  split
  next => exact Nat.zero_le 2
  next => split <;> decide

theorem classNumber_lt_iff {c c' : Nat} (bound : c ≤ 2) (bound' : c' ≤ 2) :
    classNumber c < classNumber c' ↔ c < c' := by
  unfold classNumber
  split <;> split <;> omega

/-- What some rounds of the inner loop come to. -/
structure InnerLoop (F O : Type) where
  passes : List (List String)
  calls : List (String × O)
  dir : QueueDir F
  next : ScanNext

section Loop

variable {F O : Type} [UdmObject O] [CaseMapping] (load : F → Except QueueException O)
  (plugins : String → O → HookCall Bool)

/-- At most `n` rounds of the inner loop of `scan`, without arrivals while it sleeps. -/
def innerLoop : Nat → QueueDir F → InnerLoop F O
  | 0, q => ⟨[], [], q, .sleep⟩
  | n + 1, q =>
      let pass := scanPass load plugins q
      match pass.next with
      | .sleep =>
          let later := innerLoop n pass.dir
          { later with passes := pass.passed :: later.passes, calls := pass.calls ++ later.calls }
      | next => ⟨[pass.passed], pass.calls, pass.dir, next⟩

/-- All files of the directory can be loaded. -/
def Loadable (q : QueueDir F) : Prop :=
  ∀ name content, q.files.get name = some content →
    isJson name = true ∧ ∃ obj, load content = .ok obj

/-- The class of the type of a loadable file. -/
def fileClass (q : QueueDir F) (name : String) : Nat :=
  match loadFile load q name with
  | .ok obj => typeClass (UdmObject.udmObjectType obj)
  | .error _ => 2

def presentClasses (q : QueueDir F) : Finset Nat := (q.files.names.map (fileClass load q)).toFinset

/-- Each file has been handled once, the files of a class after those of the classes before it
    and in the order of their names. The hooks have been called in this order, with the object of
    each file, and the directory is empty. -/
structure Drained (q : QueueDir F) (run : InnerLoop F O) : Prop where
  asleep : run.next = .sleep
  called : run.calls.map Prod.fst = run.passes.flatten
  objects : ∀ call ∈ run.calls, loadFile load q call.1 = .ok call.2
  once : run.passes.flatten.Perm q.files.names
  sorted : run.passes.flatten.Pairwise fun a b =>
    fileClass load q a < fileClass load q b ∨ fileClass load q a = fileClass load q b ∧ a < b
  oneClass : ∀ pass ∈ run.passes, ∀ a ∈ pass, ∀ b ∈ pass, fileClass load q a = fileClass load q b
  empty : run.dir.files.names = []

/-! ## One pass -/

/-- The directory has exactly these files, in this order, and all of them can be loaded. -/
structure Waiting (q : QueueDir F) (paths : List (Nat × String)) : Prop where
  sorted : paths.Pairwise fun a b => toLex a ≤ toLex b
  distinct : (paths.map Prod.snd).Nodup
  files : ∀ name, (∃ content, q.files.get name = some content) ↔ name ∈ paths.map Prod.snd
  json : ∀ entry ∈ paths, isJson entry.2 = true
  loads : ∀ entry ∈ paths, ∃ obj, loadFile load q entry.2 = .ok obj ∧
    entry.1 = udmObjectQueueOrder obj

variable {load plugins} {q : QueueDir F} {paths : List (Nat × String)}

theorem Waiting.names (waiting : Waiting load q paths) (name : String) :
    name ∈ paths.map Prod.snd ↔ name ∈ q.queueFiles := by
  rw [QueueDir.mem_queueFiles, waiting.files]
  refine ⟨fun listed => ⟨listed, ?_⟩, And.left⟩
  obtain ⟨entry, member, rfl⟩ := List.mem_map.mp listed
  exact waiting.json entry member

/-- A list of the files with their numbers has nothing but these. -/
theorem mem_iff_of_loads {listed : List (Nat × String)}
    (names : ∀ name, name ∈ listed.map Prod.snd ↔ name ∈ q.queueFiles)
    (loads : ∀ entry ∈ listed, ∃ obj, loadFile load q entry.2 = .ok obj ∧
      entry.1 = udmObjectQueueOrder obj) (entry : Nat × String) :
    entry ∈ listed ↔ entry.2 ∈ q.queueFiles ∧ ∃ obj, loadFile load q entry.2 = .ok obj ∧
      entry.1 = udmObjectQueueOrder obj := by
  constructor
  · intro member
    exact ⟨(names entry.2).mp (List.mem_map_of_mem member), loads entry member⟩
  · rintro ⟨present, obj, loaded, order⟩
    obtain ⟨other, member, same⟩ := List.mem_map.mp ((names entry.2).mpr present)
    obtain ⟨obj', loaded', order'⟩ := loads other member
    rw [same] at loaded'
    obtain rfl : obj = obj' := Except.ok.inj (loaded.symm.trans loaded')
    have equal : other = entry := Prod.ext (order'.trans order.symm) same
    exact equal ▸ member

theorem Waiting.sortPaths_eq (waiting : Waiting load q paths) :
    ∃ listed, orderedPaths load q.purge q.queueFiles = .ok listed ∧ sortPaths listed = paths := by
  have all : ∀ name ∈ q.queueFiles, ∃ obj, loadFile load q name = .ok obj := by
    intro name present
    obtain ⟨entry, member, rfl⟩ := List.mem_map.mp ((waiting.names name).mpr present)
    obtain ⟨obj, loaded, -⟩ := waiting.loads entry member
    exact ⟨obj, loaded⟩
  obtain ⟨listed, ordered⟩ := scanPass_ok_iff.mpr all
  have names := orderedPaths_names ordered
  have loads : ∀ entry ∈ listed, ∃ obj, loadFile load q entry.2 = .ok obj ∧
      entry.1 = udmObjectQueueOrder obj := by
    intro entry member
    have present : entry.2 ∈ q.queueFiles := names ▸ List.mem_map_of_mem member
    rw [← loadFile_purge present]
    exact mem_orderedPaths ordered member
  have same : (sortPaths listed).Perm paths := by
    refine (List.perm_ext_iff_of_nodup (sorted_loads ordered).2.of_map waiting.distinct.of_map).mpr
      fun entry => ?_
    rw [mem_sortPaths, mem_iff_of_loads (fun name => by rw [names]) loads,
      mem_iff_of_loads waiting.names waiting.loads]
  refine ⟨listed, ordered, ?_⟩
  refine same.eq_of_pairwise (fun a b _ _ below above => ?_) (sortPaths_sorted listed)
    waiting.sorted
  exact toLex_inj.mp (le_antisymm below above)

/-- A directory that has lost the files of the first type. -/
theorem Waiting.left (waiting : Waiting load q paths) {dir : QueueDir F}
    (gone : ∀ name ∈ (Rounds.block Prod.fst paths).map Prod.snd, dir.files.get name = none)
    (kept : ∀ name, name ∉ (Rounds.block Prod.fst paths).map Prod.snd →
      dir.at name = q.purge.at name) :
    Waiting load dir (Rounds.afterBlock Prod.fst paths) := by
  have parts : (Rounds.block Prod.fst paths).map Prod.snd ++
      (Rounds.afterBlock Prod.fst paths).map Prod.snd = paths.map Prod.snd := by
    rw [← List.map_append, Rounds.block_append]
  have suffix := Rounds.afterBlock_suffix Prod.fst paths
  have distinct := waiting.distinct
  rw [← parts, List.nodup_append'] at distinct
  obtain ⟨-, distinctLeft, disjoint⟩ := distinct
  refine ⟨waiting.sorted.sublist suffix.sublist, distinctLeft, fun name => ?_,
    fun entry member => waiting.json entry (suffix.mem member), fun entry member => ?_⟩
  · by_cases handled : name ∈ (Rounds.block Prod.fst paths).map Prod.snd
    · rw [gone name handled]
      exact iff_of_false (by simp) (disjoint handled)
    · have same : dir.files.get name = q.purge.files.get name :=
        congrArg Prod.fst (kept name handled)
      have present : name ∈ paths.map Prod.snd ↔
          name ∈ (Rounds.afterBlock Prod.fst paths).map Prod.snd := by
        rw [← parts, List.mem_append, or_iff_right handled]
      rw [same, ← QueueDir.mem_queueFiles_iff_purge, ← waiting.names, present]
  · have present : entry.2 ∈ q.queueFiles :=
      (waiting.names entry.2).mp (List.mem_map_of_mem (suffix.mem member))
    have unhandled : entry.2 ∉ (Rounds.block Prod.fst paths).map Prod.snd :=
      fun handled => disjoint handled (List.mem_map_of_mem member)
    rw [loadFile_congr (kept entry.2 unhandled), loadFile_purge present]
    exact waiting.loads entry (suffix.mem member)

/-- What is still in the queue after a pass loads as before it. -/
def Inherits (load : F → Except QueueException O) (q dir : QueueDir F) : Prop :=
  ∀ name obj, loadFile load dir name = .ok obj → loadFile load q name = .ok obj

omit [UdmObject O] in
theorem Inherits.of_files {dir : QueueDir F}
    (files : ∀ name content, dir.files.get name = some content →
      q.purge.files.get name = some content) : Inherits load q dir := by
  intro name obj loaded
  obtain ⟨content, found, loads⟩ := loadFile_ok_iff.mp loaded
  exact loadFile_ok_iff.mpr
    ⟨content, (QueueDir.purge_settles q).files (files name content found), loads⟩

theorem Waiting.scanPass_eq (waiting : Waiting load q paths)
    (plugins : String → O → HookCall Bool) :
    scanPass load plugins q =
        handlePaths load plugins (lowestQueueOrder paths) paths q.purge ∧
      Loads load q.purge paths ∧ (paths.map Prod.snd).Nodup := by
  obtain ⟨listed, ordered, sorted⟩ := waiting.sortPaths_eq
  obtain ⟨loads, distinct⟩ := sorted_loads ordered
  rw [sorted] at loads distinct
  refine ⟨?_, loads, distinct⟩
  rw [scanPass, ordered, ← sorted]

theorem Waiting.calls (waiting : Waiting load q paths) (plugins : String → O → HookCall Bool) :
    (scanPass load plugins q).calls.map Prod.fst = (scanPass load plugins q).passed ∧
      (∀ call ∈ (scanPass load plugins q).calls, loadFile load q call.1 = .ok call.2) ∧
      Inherits load q (scanPass load plugins q).dir := by
  obtain ⟨run, loads, distinct⟩ := waiting.scanPass_eq plugins
  rw [run]
  obtain ⟨names, objects⟩ := handlePaths_calls loads distinct
  refine ⟨names, fun call member => ?_, .of_files fun name content left =>
    handlePaths_files loads distinct left⟩
  exact Inherits.of_files (fun _ _ found => found) call.1 call.2 (objects call member)

/-- A pass handles the files of the first type and leaves the others as they are. -/
theorem Waiting.pass (waiting : Waiting load q paths) (plugins : String → O → HookCall Bool) :
    (scanPass load plugins q).next = .sleep ∧
      (scanPass load plugins q).passed = (Rounds.block Prod.fst paths).map Prod.snd ∧
      Waiting load (scanPass load plugins q).dir (Rounds.afterBlock Prod.fst paths) := by
  obtain ⟨run, loads, distinct⟩ := waiting.scanPass_eq plugins
  rw [run]
  have passed : (handlePaths load plugins (lowestQueueOrder paths) paths q.purge).passed =
      (Rounds.block Prod.fst paths).map Prod.snd := by
    rw [(handlePaths_loads loads distinct).2]
    cases paths <;> rfl
  refine ⟨(handlePaths_loads loads distinct).1, passed, waiting.left ?_ ?_⟩
  · intro name handled
    rw [← passed] at handled
    obtain ⟨entry, member, rfl⟩ := List.mem_map.mp (listed_of_passed loads distinct handled)
    obtain ⟨obj, loaded⟩ := loads entry member
    exact congrArg Prod.fst (handlePaths_at_passed loads distinct loaded handled)
  · intro name unhandled
    exact handlePaths_at_unpassed loads distinct (passed ▸ unhandled)

/-! ## The order of the classes -/

omit [CaseMapping] in
theorem fileClass_le (q : QueueDir F) (name : String) : fileClass load q name ≤ 2 := by
  unfold fileClass
  split
  next => exact typeClass_le _
  next => exact le_refl 2

theorem Waiting.number (waiting : Waiting load q paths) {entry : Nat × String}
    (member : entry ∈ paths) : entry.1 = classNumber (fileClass load q entry.2) := by
  obtain ⟨obj, loaded, order⟩ := waiting.loads entry member
  rw [order, udmObjectQueueOrder_eq, fileClass, loaded]

theorem Waiting.lt_iff (waiting : Waiting load q paths) {a b : Nat × String} (first : a ∈ paths)
    (second : b ∈ paths) : a.1 < b.1 ↔ fileClass load q a.2 < fileClass load q b.2 := by
  rw [waiting.number first, waiting.number second]
  exact classNumber_lt_iff (fileClass_le q a.2) (fileClass_le q b.2)

theorem Waiting.eq_iff (waiting : Waiting load q paths) {a b : Nat × String} (first : a ∈ paths)
    (second : b ∈ paths) : a.1 = b.1 ↔ fileClass load q a.2 = fileClass load q b.2 := by
  have below := waiting.lt_iff first second
  have above := waiting.lt_iff second first
  omega

theorem Waiting.names_perm (waiting : Waiting load q paths) :
    (paths.map Prod.snd).Perm q.files.names := by
  refine (List.perm_ext_iff_of_nodup waiting.distinct q.files.names_nodup).mpr fun name => ?_
  rw [Directory.mem_names, waiting.files]

theorem Waiting.card_keys_le (waiting : Waiting load q paths) :
    (Rounds.keys Prod.fst paths).card ≤ (presentClasses load q).card := by
  refine (Finset.card_le_card fun number member => ?_).trans
    (Finset.card_image_le (s := presentClasses load q) (f := classNumber))
  obtain ⟨entry, listed, rfl⟩ := List.mem_map.mp (List.mem_toFinset.mp member)
  rw [waiting.number listed]
  apply Finset.mem_image_of_mem
  apply List.mem_toFinset.mpr
  exact List.mem_map_of_mem (waiting.names_perm.mem_iff.mp (List.mem_map_of_mem listed))

theorem Waiting.classes_sorted (waiting : Waiting load q paths) :
    (paths.map Prod.snd).Pairwise fun a b =>
      fileClass load q a < fileClass load q b ∨
        fileClass load q a = fileClass load q b ∧ a < b := by
  have distinct := waiting.distinct
  rw [List.Nodup, List.pairwise_map] at distinct
  rw [List.pairwise_map]
  refine (waiting.sorted.and distinct).imp_of_mem fun {a b} first second ordered => ?_
  rw [← waiting.lt_iff first second, ← waiting.eq_iff first second]
  rcases Prod.Lex.toLex_le_toLex.mp ordered.1 with lower | ⟨same, earlier⟩
  · exact Or.inl lower
  · exact Or.inr ⟨same, lt_of_le_of_ne earlier ordered.2⟩

/-! ## All passes -/

theorem innerLoop_waiting (n : Nat) (waiting : Waiting load q paths)
    (plugins : String → O → HookCall Bool) :
    (innerLoop load plugins n q).next = .sleep ∧
      (innerLoop load plugins n q).passes =
        (Rounds.rounds Prod.fst n paths).map (List.map Prod.snd) ∧
      Waiting load (innerLoop load plugins n q).dir (Rounds.remaining Prod.fst n paths) := by
  induction n generalizing q paths with
  | zero => exact ⟨rfl, rfl, waiting⟩
  | succ n ih =>
      obtain ⟨asleep, passed, left⟩ := waiting.pass plugins
      obtain ⟨next, passes, later⟩ := ih left
      rw [innerLoop]
      simp only [asleep]
      refine ⟨next, ?_, later⟩
      rw [passed, passes, Rounds.rounds, List.map_cons]

theorem innerLoop_calls (n : Nat) (waiting : Waiting load q paths)
    (plugins : String → O → HookCall Bool) :
    (innerLoop load plugins n q).calls.map Prod.fst =
        (innerLoop load plugins n q).passes.flatten ∧
      ∀ call ∈ (innerLoop load plugins n q).calls, loadFile load q call.1 = .ok call.2 := by
  induction n generalizing q paths with
  | zero => exact ⟨rfl, nofun⟩
  | succ n ih =>
      obtain ⟨asleep, -, left⟩ := waiting.pass plugins
      obtain ⟨names, objects, inherits⟩ := waiting.calls plugins
      obtain ⟨laterNames, laterObjects⟩ := ih left
      rw [innerLoop]
      simp only [asleep]
      refine ⟨by rw [List.map_append, names, laterNames, List.flatten_cons], fun call member => ?_⟩
      rcases List.mem_append.mp member with now | later
      · exact objects call now
      · exact inherits call.1 call.2 (laterObjects call later)

theorem exists_waiting (loadable : Loadable load q) : ∃ paths, Waiting load q paths := by
  have present {name : String} :
      name ∈ q.queueFiles ↔ ∃ content, q.files.get name = some content := by
    rw [QueueDir.mem_queueFiles]
    exact ⟨And.left, fun ⟨content, found⟩ => ⟨⟨content, found⟩, (loadable name content found).1⟩⟩
  have all : ∀ name ∈ q.queueFiles, ∃ obj, loadFile load q name = .ok obj := by
    intro name listed
    obtain ⟨content, found⟩ := present.mp listed
    obtain ⟨-, obj, loaded⟩ := loadable name content found
    exact ⟨obj, loadFile_ok_iff.mpr ⟨content, found, loaded⟩⟩
  obtain ⟨listed, ordered⟩ := scanPass_ok_iff.mpr all
  have names {name : String} : name ∈ (sortPaths listed).map Prod.snd ↔ name ∈ q.queueFiles := by
    rw [(perm_sortPaths listed).mem_iff, orderedPaths_names ordered]
  refine ⟨sortPaths listed, sortPaths_sorted listed, (sorted_loads ordered).2,
    fun name => present.symm.trans names.symm, fun entry member => ?_, fun entry member => ?_⟩
  · exact (QueueDir.mem_queueFiles.mp (names.mp (List.mem_map_of_mem member))).2
  · obtain ⟨obj, loaded, order⟩ := mem_orderedPaths ordered (mem_sortPaths.mp member)
    rw [loadFile_purge (names.mp (List.mem_map_of_mem member))] at loaded
    exact ⟨obj, loaded, order⟩

/-- With a pass for each class of types all files have been handled, in the order of the classes
    and then of the names. -/
theorem out_queue_drains (loadable : Loadable load q) (plugins : String → O → HookCall Bool)
    {n : Nat} (enough : (presentClasses load q).card ≤ n) :
    Drained load q (innerLoop load plugins n q) := by
  obtain ⟨paths, waiting⟩ := exists_waiting loadable
  have sorted : Rounds.Sorted Prod.fst paths :=
    waiting.sorted.imp fun ordered => Prod.Lex.monotone_fst _ _ ordered
  have rounds := waiting.card_keys_le.trans enough
  obtain ⟨asleep, passes, left⟩ := innerLoop_waiting n waiting plugins
  rw [Rounds.remaining_eq_nil sorted rounds] at left
  have all : (innerLoop load plugins n q).passes.flatten = paths.map Prod.snd := by
    rw [passes, ← List.map_flatten, Rounds.rounds_flatten sorted rounds]
  obtain ⟨called, objects⟩ := innerLoop_calls n waiting plugins
  refine ⟨asleep, called, objects, all ▸ waiting.names_perm, all ▸ waiting.classes_sorted, ?_, ?_⟩
  · intro pass member
    rw [passes] at member
    obtain ⟨round, here, rfl⟩ := List.mem_map.mp member
    simp only [List.forall_mem_map]
    intro a first b second
    have present {entry : Nat × String} (inRound : entry ∈ round) : entry ∈ paths := by
      rw [← Rounds.rounds_flatten sorted rounds]
      exact List.mem_flatten.mpr ⟨round, here, inRound⟩
    exact (waiting.eq_iff (present first) (present second)).mp
      (Rounds.key_rounds sorted here first second)
  · refine List.eq_nil_iff_forall_not_mem.mpr fun name member => ?_
    exact List.not_mem_nil ((left.files name).mp (Directory.mem_names.mp member))

end Loop

section Examples

attribute [local instance] asciiCaseMapping

/-- An object of a plugin. -/
structure TypedObject where
  udmObjectType : String

instance : UdmObject TypedObject := ⟨TypedObject.udmObjectType⟩

def typedDir : QueueDir TypedObject where
  files := ((Directory.empty.put "001_ready.json" ⟨"groups/group"⟩).put "002_ready.json"
    ⟨"container/ou"⟩).put "003_ready.json" ⟨"users/user"⟩
  trash := .empty
  keep := .empty

theorem typedDir_drains :
    Drained .ok typedDir (innerLoop .ok (fun _ _ => .ok [.ok true]) 3 typedDir) := by
  refine out_queue_drains (fun name content found => ?_) _ (by decide)
  have json : ∀ listed ∈ ["001_ready.json", "002_ready.json", "003_ready.json"],
      isJson listed = true := by decide
  exact ⟨json name (Dict.mem_keys_iff.mpr ⟨content, found⟩), content, rfl⟩

end Examples

end IdConnector
