import IdConnector.Library.Directory
import Mathlib.Logic.Relation

/-! # Distribution and RPC requests

`distribute` takes its dictionary of queues once and then awaits at every file, while
the RPC server, one request after the other, creates and deletes queues. A queue,
its authority and its directory below `OUT_QUEUE_TOP_DIR` have one name, a single
path component. What is done between two awaits is one step: all copies of a file,
the registration of a queue with the making of its directories, and each half of a
deletion, which takes the queue from the list before it awaits the end of its task.
-/

namespace IdConnector

open Library Relation

/-- An entry of `OUT_QUEUE_TOP_DIR`. -/
inductive TopEntry (F : Type) where
  | dir (files : Directory F)
  | file (content : F)

/-- The content of `OUT_QUEUE_TOP_DIR`. -/
abbrev TopDir (F : Type) := Dict String (TopEntry F)

namespace TopDir

variable {F : Type}

/-- `shutil.copy2` puts the file into an existing directory; otherwise the destination
    itself becomes the copy. -/
def copy2 (path : String) (content : F) (top : TopDir F) (name : String) : TopDir F :=
  match top.get name with
  | some (.dir files) => top.set name (.dir (files.put path content))
  | some (.file _) | none => top.set name (.file content)

/-- The copies of one file: unknown names are skipped. -/
def copyAll (known : List String) (path : String) (content : F) (names : List String)
    (top : TopDir F) : TopDir F :=
  (names.filter (· ∈ known)).foldl (copy2 path content) top

/-- `FileQueue.__init__` accepts what exists under its name, but cannot make directories
    below a plain file. -/
def makeQueueDirs (top : TopDir F) (name : String) : Option (TopDir F) :=
  match top.get name with
  | some (.dir _) => some top
  | some (.file _) => none
  | none => some (top.set name (.dir .empty))

end TopDir

/-- A call of `distribute`: the names of its dictionary and the files to come. -/
structure Pass (F : Type) where
  known : List String
  todo : List (String × F)

/-- Where the RPC server is in its present request. -/
inductive RpcServer where
  | idle
  /-- The queue is off the list; awaiting the end of its task. -/
  | deleting (name : String)
  /-- Awaiting a file operation, the start of a task or the end of one. -/
  | finishing

/-- `deletedSince` lists the authorities that were deleted since the pass began and have
    not been created again. -/
structure Races (F : Type) where
  top : TopDir F
  outQueues : List String
  pass : Option (Pass F)
  rpc : RpcServer
  deletedSince : List String

namespace Races

variable {F : Type}

/-- The steps of the two tasks; `permits` restricts to which names a file may be routed. -/
inductive Step (permits : Races F → List String → Prop) : Races F → Races F → Prop where
  -- `distribute`
  | begin {s} (todo : List (String × F)) (free : s.pass = none) (some_queue : s.outQueues ≠ []) :
      Step permits s { s with pass := some ⟨s.outQueues, todo⟩, deletedSince := [] }
  | copied {s known path content todo} (names : List String)
      (next : s.pass = some ⟨known, (path, content) :: todo⟩) (permitted : permits s names) :
      Step permits s
        { s with top := s.top.copyAll known path content names, pass := some ⟨known, todo⟩ }
  | discarded {s known file todo} (next : s.pass = some ⟨known, file :: todo⟩) :
      Step permits s { s with pass := some ⟨known, todo⟩ }
  /-- The pass is over, or the task has ended. -/
  | ended {s} : Step permits s { s with pass := none }
  -- `create_school_authority`
  | created {s top} (name : String) (free : s.rpc = .idle) (unused : name ∉ s.outQueues)
      (made : s.top.makeQueueDirs name = some top) :
      Step permits s
        { s with
          top := top
          outQueues := (s.outQueues ++ [name]).insertionSort fun a b => a.toList ≤ b.toList
          rpc := .finishing
          deletedSince := s.deletedSince.filter (· ≠ name) }
  -- `patch_school_authority`, and the requests that fail or only read
  | other {s} (free : s.rpc = .idle) : Step permits s { s with rpc := .finishing }
  | finished {s} (awaiting : s.rpc = .finishing) : Step permits s { s with rpc := .idle }
  -- `delete_school_authority`
  | unregistered {s} (name : String) (free : s.rpc = .idle) (registered : name ∈ s.outQueues) :
      Step permits s
        { s with
          outQueues := s.outQueues.erase name
          rpc := .deleting name
          deletedSince := name :: s.deletedSince }
  | moved {s name} (deleting : s.rpc = .deleting name) :
      Step permits s { s with top := s.top.del name, rpc := .finishing }
  | notMoved {s name} (deleting : s.rpc = .deleting name) :
      Step permits s { s with rpc := .idle }

abbrev Run (permits : Races F → List String → Prop) : Races F → Races F → Prop :=
  ReflTransGen (Step permits)

def IsDir (top : TopDir F) (name : String) : Prop := ∃ files, top.get name = some (.dir files)

/-- The service has started: each queue has its directory and there are no other files. -/
structure Start (s : Races F) : Prop where
  distinct : s.outQueues.Nodup
  homes : ∀ name ∈ s.outQueues, IsDir s.top name
  dirs : ∀ name content, s.top.get name ≠ some (.file content)
  pass : s.pass = none
  rpc : s.rpc = .idle
  deletedSince : s.deletedSince = []

/-- Every copy goes into an existing directory, that of a registered queue. -/
def HomeBound (s : Races F) (names : List String) : Prop :=
  ∀ pass, s.pass = some pass → ∀ name ∈ names, name ∈ pass.known →
    name ∈ s.outQueues ∧ IsDir s.top name

/-- No file is routed to an authority that was deleted since the pass began. -/
def NoneDeleted (s : Races F) (names : List String) : Prop :=
  ∀ pass, s.pass = some pass → ∀ name ∈ names, name ∈ pass.known → name ∉ s.deletedSince

/-- The invariant: registered queues have their directories, and the dictionary of the pass
    differs from the list only by what was deleted since. -/
structure Sound (s : Races F) : Prop where
  distinct : s.outQueues.Nodup
  homes : ∀ name ∈ s.outQueues, IsDir s.top name
  dirs : ∀ name content, s.top.get name ≠ some (.file content)
  deleting : ∀ name, s.rpc = .deleting name → name ∉ s.outQueues
  known : ∀ pass, s.pass = some pass → ∀ name ∈ pass.known,
    name ∈ s.outQueues ∨ name ∈ s.deletedSince
  gone : ∀ name ∈ s.deletedSince, name ∉ s.outQueues

theorem Start.sound {s : Races F} (start : s.Start) : s.Sound where
  distinct := start.distinct
  homes := start.homes
  dirs := start.dirs
  deleting := by simp [start.rpc]
  known := by simp [start.pass]
  gone := by simp [start.deletedSince]

theorem Sound.homeBound_iff {s : Races F} (sound : s.Sound) (names : List String) :
    s.HomeBound names ↔ s.NoneDeleted names := by
  constructor
  · intro bound pass active name routed known deleted
    exact sound.gone name deleted (bound pass active name routed known).1
  · intro permitted pass active name routed known
    have registered := (sound.known pass active name known).resolve_right
      (permitted pass active name routed known)
    exact ⟨registered, sound.homes name registered⟩

theorem get_eq_none_iff {top : TopDir F} {name : String} :
    top.get name = none ↔ ¬ IsDir top name ∧ ∀ content, top.get name ≠ some (.file content) := by
  cases found : top.get name with
  | none => simp [IsDir, found]
  | some entry => cases entry <;> simp [IsDir, found]

theorem copy2_get_of_dir (path : String) (content : F) {top : TopDir F} {name : String}
    {files : Directory F} (home : top.get name = some (.dir files)) (other : String) :
    (top.copy2 path content name).get other =
      if name = other then some (.dir (files.put path content)) else top.get other := by
  rw [TopDir.copy2, home, Dict.get_set]

/-- Copies that go into directories leave a tree of directories with the same names. -/
theorem copies_keep_dirs {names : List String} {path : String} {content : F} {top : TopDir F}
    (dirs : ∀ name ∈ names, IsDir top name) (other : String) :
    (IsDir (names.foldl (TopDir.copy2 path content) top) other ↔ IsDir top other) ∧
      ∀ found, (names.foldl (TopDir.copy2 path content) top).get other = some (.file found) ↔
        top.get other = some (.file found) := by
  induction names generalizing top with
  | nil => simp
  | cons name rest ih =>
      obtain ⟨files, home⟩ := dirs name List.mem_cons_self
      have step := copy2_get_of_dir path content home
      have kept : ∀ other, IsDir (top.copy2 path content name) other ↔ IsDir top other := by
        intro other
        simp only [IsDir, step]
        split
        next same => simp [← same, home]
        next => rfl
      have files_kept : ∀ found, (top.copy2 path content name).get other = some (.file found) ↔
          top.get other = some (.file found) := by
        intro found
        rw [step]
        split
        next same => simp [← same, home]
        next => rfl
      obtain ⟨dirs', files'⟩ := ih fun name member =>
        (kept name).mpr (dirs name (List.mem_cons_of_mem _ member))
      exact ⟨dirs'.trans (kept other), fun found => (files' found).trans (files_kept found)⟩

/-- The same for the copies of one file during a pass. -/
theorem Sound.copyAll {s : Races F} (sound : s.Sound) {names : List String}
    (permitted : s.NoneDeleted names) {known : List String} {todo : List (String × F)}
    (active : s.pass = some ⟨known, todo⟩) (path : String) (content : F) (other : String) :
    (IsDir (s.top.copyAll known path content names) other ↔ IsDir s.top other) ∧
      ∀ found, (s.top.copyAll known path content names).get other = some (.file found) ↔
        s.top.get other = some (.file found) := by
  apply copies_keep_dirs
  intro name member
  obtain ⟨routed, is_known⟩ := List.mem_filter.mp member
  exact ((sound.homeBound_iff names).mpr permitted _ active name routed (by simpa using is_known)).2

theorem makeQueueDirs_get {top top' : TopDir F} {name : String}
    (made : top.makeQueueDirs name = some top') :
    IsDir top' name ∧ ∀ other, name ≠ other → top'.get other = top.get other := by
  unfold TopDir.makeQueueDirs at made
  split at made
  next files home =>
    cases made
    exact ⟨⟨files, home⟩, fun _ _ => rfl⟩
  next => cases made
  next =>
    cases made
    exact ⟨⟨.empty, Dict.get_set_self _ _ _⟩, fun _ different => Dict.get_set_ne _ _ different⟩

theorem Sound.created {s : Races F} (sound : s.Sound) {name : String} {top : TopDir F}
    (unused : name ∉ s.outQueues) (made : s.top.makeQueueDirs name = some top) :
    Sound { s with
      top := top
      outQueues := (s.outQueues ++ [name]).insertionSort fun a b => a.toList ≤ b.toList
      rpc := .finishing
      deletedSince := s.deletedSince.filter (· ≠ name) } := by
  obtain ⟨made_dir, others⟩ := makeQueueDirs_get made
  have listed : ∀ {other}, other ∈ (s.outQueues ++ [name]).insertionSort
      (fun a b => a.toList ≤ b.toList) ↔ other = name ∨ other ∈ s.outQueues := by
    intro other
    rw [List.mem_insertionSort, List.mem_append, List.mem_singleton, or_comm]
  refine ⟨?_, ?_, ?_, nofun, ?_, ?_⟩
  · rw [(List.perm_insertionSort _ _).nodup_iff]
    simpa [List.nodup_append] using ⟨sound.distinct, fun other member same => unused (same ▸ member)⟩
  · intro other member
    by_cases same : name = other
    · exact same ▸ made_dir
    · have before := (listed.mp member).resolve_left fun equal => same equal.symm
      obtain ⟨files, home⟩ := sound.homes other before
      exact ⟨files, (others other same).trans home⟩
  · intro other content file
    by_cases same : name = other
    · subst same
      obtain ⟨files, home⟩ := made_dir
      simp [home] at file
    · exact sound.dirs other content ((others other same).symm.trans file)
  · intro pass active other member
    by_cases same : other = name
    · exact Or.inl (listed.mpr (Or.inl same))
    · rcases sound.known pass active other member with registered | deleted
      · exact Or.inl (listed.mpr (Or.inr registered))
      · exact Or.inr (List.mem_filter.mpr ⟨deleted, by simpa using same⟩)
  · intro other member registered
    obtain ⟨deleted, different⟩ := List.mem_filter.mp member
    rcases listed.mp registered with same | before
    · simp [same] at different
    · exact sound.gone other deleted before

theorem Step.sound {s s' : Races F} (step : Step NoneDeleted s s') (sound : s.Sound) :
    s'.Sound := by
  obtain ⟨distinct, homes, dirs, deleting, known, gone⟩ := sound
  cases step with
  | begin todo free some_queue =>
      refine ⟨distinct, homes, dirs, deleting, ?_, nofun⟩
      rintro _ ⟨⟩ name member
      exact Or.inl member
  | @copied dictionary path content todo names next permitted =>
      have copies := Sound.copyAll ⟨distinct, homes, dirs, deleting, known, gone⟩ permitted next
        path content
      refine ⟨distinct, fun name member => ((copies name).1).mpr (homes name member),
        fun name found file => dirs name found (((copies name).2 found).mp file), deleting, ?_, gone⟩
      rintro _ ⟨⟩ name member
      exact known _ next name member
  | discarded next =>
      refine ⟨distinct, homes, dirs, deleting, ?_, gone⟩
      rintro _ ⟨⟩ name member
      exact known _ next name member
  | ended => exact ⟨distinct, homes, dirs, deleting, nofun, gone⟩
  | created name free unused made =>
      exact Sound.created ⟨distinct, homes, dirs, deleting, known, gone⟩ unused made
  | other | finished | notMoved => exact ⟨distinct, homes, dirs, nofun, known, gone⟩
  | unregistered name free registered =>
      refine ⟨distinct.erase name, fun other member => homes other (List.mem_of_mem_erase member),
        dirs, ?_, ?_, ?_⟩
      · rintro _ ⟨⟩
        exact distinct.not_mem_erase
      · intro pass active other member
        by_cases same : other = name
        · exact Or.inr (same ▸ List.mem_cons_self)
        · exact (known pass active other member).imp (List.mem_erase_of_ne same).mpr
            (List.mem_cons_of_mem name)
      · intro other member listed
        rcases List.mem_cons.mp member with rfl | before
        · exact distinct.not_mem_erase listed
        · exact gone other before (List.mem_of_mem_erase listed)
  | @moved name awaiting =>
      have different : ∀ other ∈ s.outQueues, name ≠ other := by
        rintro _ member rfl
        exact deleting name awaiting member
      refine ⟨distinct, fun other member => ?_, fun other found file => ?_, nofun, known, gone⟩
      · obtain ⟨files, home⟩ := homes other member
        exact ⟨files, by rw [Dict.get_del_ne _ (different other member), home]⟩
      · rw [Dict.get_del] at file
        split at file
        · exact nomatch file
        · exact dirs other found file

theorem Run.sound {s₀ s : Races F} (start : s₀.Start) (run : Run NoneDeleted s₀ s) : s.Sound := by
  induction run with
  | refl => exact start.sound
  | tail _ step ih => exact step.sound ih

/-- As long as no file is routed to an authority deleted during the pass, copies go exactly
    into the directories of registered queues, nothing else appears among them, and every
    name can be given to a new queue. -/
theorem copies_stay_home {s₀ s : Races F} (start : s₀.Start) (run : Run NoneDeleted s₀ s) :
    (∀ names, s.HomeBound names ↔ s.NoneDeleted names) ∧
      (∀ known path content todo names, s.pass = some ⟨known, (path, content) :: todo⟩ →
        s.NoneDeleted names → ∀ name,
          (s.top.copyAll known path content names).get name = none ↔ s.top.get name = none) ∧
      (∀ name content, s.top.get name ≠ some (.file content)) ∧
      ∀ name, (s.top.makeQueueDirs name).isSome := by
  have sound := Run.sound start run
  refine ⟨sound.homeBound_iff, ?_, sound.dirs, fun name => ?_⟩
  · intro known path content todo names active permitted name
    obtain ⟨dirs, files⟩ := sound.copyAll permitted active path content name
    rw [get_eq_none_iff, get_eq_none_iff, dirs]
    simp only [ne_eq, files]
  · unfold TopDir.makeQueueDirs
    split
    next => rfl
    next file => exact absurd file (sound.dirs name _)
    next => rfl

end Races

section Examples

/-- Two authorities with their queues. -/
def twoQueues : Races String :=
  ⟨[("Traeger1", .dir .empty), ("Traeger2", .dir .empty)], ["Traeger1", "Traeger2"], none, .idle, []⟩

theorem twoQueues_start : twoQueues.Start where
  distinct := by decide
  homes name member := by
    rcases List.mem_cons.mp member with rfl | later
    · exact ⟨.empty, rfl⟩
    · exact List.mem_singleton.mp later ▸ ⟨.empty, rfl⟩
  dirs name content := by
    simp only [twoQueues, Dict.get]
    split <;> [skip; split] <;> simp
  pass := rfl
  rpc := rfl
  deletedSince := rfl

theorem copies_stay_home_demo : ∃ s : Races String,
    (∃ files, s.top.get "Traeger1" = some (.dir files) ∧ files.get "001_ready.json" = some "anna") ∧
      (∀ names, s.HomeBound names ↔ s.NoneDeleted names) ∧
      ∀ name, (s.top.makeQueueDirs name).isSome := by
  have run : Races.Run Races.NoneDeleted twoQueues _ :=
    .single (.begin [("001_ready.json", "anna")] rfl (by decide))
  have permitted : ∀ s : Races String, s.deletedSince = [] → s.NoneDeleted ["Traeger1"] := by
    intro s none_deleted pass _ name _ _
    simp [none_deleted]
  have run := run.tail (.copied ["Traeger1"] rfl (permitted _ rfl))
  obtain ⟨bound, _, _, creatable⟩ := Races.copies_stay_home twoQueues_start run
  exact ⟨_, ⟨_, rfl, rfl⟩, bound, creatable⟩

/-- A queue is deleted while a pass still has it in its dictionary: the copy takes the place
    of the directory, and the authority cannot be created again. -/
theorem copy_replaces_directory : ∃ s s' : Races String,
    twoQueues.Start ∧ Races.Run (fun _ _ => True) twoQueues s ∧
      s.pass = some ⟨["Traeger1", "Traeger2"], [("001_ready.json", "anna")]⟩ ∧
      ¬ s.HomeBound ["Traeger1"] ∧
      Races.Step (fun _ _ => True) s s' ∧
      s'.top.get "Traeger1" = some (.file "anna") ∧
      s'.rpc = .idle ∧ "Traeger1" ∉ s'.outQueues ∧ s'.top.makeQueueDirs "Traeger1" = none := by
  have run : Races.Run (fun _ _ => True) twoQueues _ :=
    .single (.begin [("001_ready.json", "anna")] rfl (by decide))
  have run := run.tail (.unregistered "Traeger1" rfl (by decide))
  have run := (run.tail (.moved rfl)).tail (.finished rfl)
  refine ⟨_, _, twoQueues_start, run, rfl, ?_, .copied ["Traeger1"] rfl trivial, rfl, rfl, ?_, rfl⟩
  · intro bound
    have registered := (bound _ rfl "Traeger1" (by decide) (by decide)).1
    exact absurd registered (by decide)
  · decide

end Examples

end IdConnector
