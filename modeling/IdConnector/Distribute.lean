import IdConnector.Distribution
import IdConnector.Files
import Mathlib.Logic.Function.Basic

/-! # One call of `distribute`

`InQueue.distribute` takes the ready files of the in-queue, asks the hooks for the
names of the authorities each belongs to, copies it to their out queues and takes
it out of the in-queue. The directories of the out queues exist, since every queue
object creates its own.

A file ends in one of three ways: discarded to the trash, copied and deleted, or
deleted without a copy when the hooks return only names that no queue has.
-/

namespace IdConnector

open Library

/-- The in-queue and the out-queue directories below `OUT_QUEUE_TOP_DIR`. -/
structure Spool (F : Type) where
  inQueue : QueueDir F
  outDirs : String → QueueDir F

/-- `s_a_name_to_out_queue`: of two queues of one authority name, the later one. -/
def outQueuesByName (queues : List OutQueue) : Dict String OutQueue :=
  Dict.ofPairs (queues.map fun q => (q.schoolAuthority.name, q))

/-- `s_a_names`: the union of the hook results. -/
def schoolAuthorityNames (results : List (List String)) : List String :=
  results.foldl (fun names result => names ∪ result) []

/-- The results of the hooks that come with the software. -/
def routingHooks [CaseMapping] (env : LdapEnvironment) (q : InQueue) (_path : String)
    (obj : ListenerObject) : List (List String) :=
  [userAuthorities q obj, kelvinGroupAuthorities env q obj, partialGroupSyncAuthorities env q obj]

section Distribute

variable {F : Type}

def copyToOutQueue (known : Dict String OutQueue) (path : String) (content : F)
    (outDirs : String → QueueDir F) (name : String) : String → QueueDir F :=
  match known.get name with
  | none => outDirs
  | some q =>
      Function.update outDirs q.path
        { outDirs q.path with files := (outDirs q.path).files.put path content }

variable (load : F → Option ListenerObject) (hooks : String → ListenerObject → List (List String))

/-- The authorities that the hooks select for a file; a file that does not load is not
    shown to them. -/
def selectedAuthorities (path : String) (content : F) : List String :=
  match load content with
  | none => []
  | some obj => schoolAuthorityNames (hooks path obj)

/-- The loop body of `distribute`. -/
def distributeFile (known : Dict String OutQueue) (s : Spool F) (path : String) : Spool F :=
  match s.inQueue.files.get path with
  | none => { s with inQueue := s.inQueue.discardFile path }
  | some content =>
      match load content with
      | none => { s with inQueue := s.inQueue.discardFile path }
      | some obj =>
          let names := schoolAuthorityNames (hooks path obj)
          if names = [] then { s with inQueue := s.inQueue.discardFile path }
          else
            { inQueue := { s.inQueue with files := s.inQueue.files.remove path }
              outDirs := names.foldl (copyToOutQueue known path content) s.outDirs }

/-- `distribute`, called without `queue_paths` as it is everywhere. -/
def distribute [CaseMapping] (queues : List OutQueue) (s : Spool F) : Spool F :=
  (s.inQueue.queueFiles.filter (isReady ·)).foldl
    (distributeFile load hooks (outQueuesByName queues)) { s with inQueue := s.inQueue.purge }

/-! ## What happens to one file

Every step of the loop reads and writes the files of a single name, so the run
can be followed name by name. -/

/-- Where the files of one name are: waiting in the in-queue, in its trash and in the
    out-queue directories. -/
@[ext] structure Whereabouts (F : Type) where
  waiting : Option F
  trash : Option F
  out : String → Option F

def Spool.whereabouts (s : Spool F) (name : String) : Whereabouts F :=
  ⟨s.inQueue.files.get name, s.inQueue.trash.get name, fun dir => (s.outDirs dir).files.get name⟩

/-- The directory belongs to a queue that one of the names stands for. -/
def IsTarget (known : Dict String OutQueue) (names : List String) (dir : String) : Prop :=
  ∃ name ∈ names, ∃ q, known.get name = some q ∧ q.path = dir

open Classical in
/-- How the whereabouts of a name change when its file is processed. -/
noncomputable def disposed (known : Dict String OutQueue) (path : String) (w : Whereabouts F) :
    Whereabouts F :=
  match w.waiting with
  | none => w
  | some content =>
      if selectedAuthorities load hooks path content = [] then
        ⟨none, w.trash.or (some content), w.out⟩
      else
        ⟨none, w.trash, fun dir =>
          if IsTarget known (selectedAuthorities load hooks path content) dir then some content
          else w.out dir⟩

theorem QueueDir.discardFile_trash (q : QueueDir F) (name other : String) :
    (q.discardFile name).trash.get other =
      if name = other then (q.trash.get other).or (q.files.get other) else q.trash.get other := by
  cases found : q.files.get name with
  | none => grind [QueueDir.discardFile]
  | some content =>
      cases trashed : q.trash.get name with
      | none => grind [QueueDir.discardFile, Directory.get_put]
      | some old => grind [QueueDir.discardFile]

theorem QueueDir.foldl_discardFile_trash {names : List String} {other : String} (q : QueueDir F)
    (untouched : other ∉ names) : (names.foldl discardFile q).trash.get other = q.trash.get other := by
  induction names generalizing q with
  | nil => rfl
  | cons name rest ih =>
      rw [List.foldl_cons, ih _ (List.not_mem_of_not_mem_cons untouched), discardFile_trash,
        if_neg (List.ne_of_not_mem_cons untouched).symm]

open Classical in
theorem foldl_copyToOutQueue (known : Dict String OutQueue) (path : String) (content : F)
    (names : List String) (outDirs : String → QueueDir F) (dir other : String) :
    ((names.foldl (copyToOutQueue known path content) outDirs) dir).files.get other =
      if path = other ∧ IsTarget known names dir then some content
      else (outDirs dir).files.get other := by
  induction names generalizing outDirs with
  | nil => simp [IsTarget]
  | cons name rest ih =>
      have target : IsTarget known (name :: rest) dir ↔
          (∃ q, known.get name = some q ∧ q.path = dir) ∨ IsTarget known rest dir := by
        simp [IsTarget]
      rw [List.foldl_cons, ih]
      cases found : known.get name with
      | none => simp [copyToOutQueue, found, target]
      | some q =>
          by_cases here : q.path = dir
          · subst here
            simp only [copyToOutQueue, found, Function.update_self, Directory.get_put, target]
            grind
          · have elsewhere : dir ≠ q.path := fun same => here same.symm
            simp [copyToOutQueue, found, target, here, Function.update_of_ne elsewhere]

/-- Unloadable files and files that no hook wants are discarded. -/
theorem distributeFile_discards {known : Dict String OutQueue} {s : Spool F} {path : String}
    (unselected : ∀ content, s.inQueue.files.get path = some content →
      selectedAuthorities load hooks path content = []) :
    distributeFile load hooks known s path =
      { s with inQueue := s.inQueue.discardFile path } := by
  unfold distributeFile
  cases found : s.inQueue.files.get path with
  | none => rfl
  | some content =>
      have none_selected := unselected content found
      cases loaded : load content with
      | none => simp [loaded]
      | some obj =>
          rw [selectedAuthorities, loaded] at none_selected
          simp [loaded, none_selected]

theorem distributeFile_copies {known : Dict String OutQueue} {s : Spool F} {path : String}
    {content : F} (found : s.inQueue.files.get path = some content)
    (selected : selectedAuthorities load hooks path content ≠ []) :
    distributeFile load hooks known s path =
      { inQueue := { s.inQueue with files := s.inQueue.files.remove path }
        outDirs := (selectedAuthorities load hooks path content).foldl
          (copyToOutQueue known path content) s.outDirs } := by
  unfold distributeFile
  cases loaded : load content with
  | none => simp [selectedAuthorities, loaded] at selected
  | some obj =>
      simp only [selectedAuthorities, loaded] at selected
      simp [found, loaded, selectedAuthorities, selected]

theorem whereabouts_distributeFile (known : Dict String OutQueue) (s : Spool F)
    (path name : String) :
    (distributeFile load hooks known s path).whereabouts name =
      if path = name then disposed load hooks known name (s.whereabouts name)
      else s.whereabouts name := by
  by_cases copied : ∃ content, s.inQueue.files.get path = some content ∧
      selectedAuthorities load hooks path content ≠ []
  · obtain ⟨content, found, selected⟩ := copied
    rw [distributeFile_copies load hooks found selected]
    split
    next same =>
      subst same
      have copies := foldl_copyToOutQueue known path content
        (selectedAuthorities load hooks path content) s.outDirs
      apply Whereabouts.ext
      · simp [disposed, Spool.whereabouts, found, selected]
      · simp [disposed, Spool.whereabouts, found, selected]
      · funext dir
        simp only [disposed, Spool.whereabouts, found, selected, ↓reduceIte, copies]
        grind
    next different =>
      simp [Spool.whereabouts, foldl_copyToOutQueue, different, Directory.get_remove]
  · have unselected : ∀ content, s.inQueue.files.get path = some content →
        selectedAuthorities load hooks path content = [] := by
      grind
    rw [distributeFile_discards load hooks unselected]
    simp only [Spool.whereabouts, QueueDir.discardFile_files, QueueDir.discardFile_trash]
    split
    next same =>
      subst same
      cases found : s.inQueue.files.get path with
      | none => simp [disposed]
      | some content => simp [disposed, unselected content found]
    next => rfl

/-- In a run over distinct paths each file is disposed of once. -/
theorem whereabouts_foldl (known : Dict String OutQueue) {paths : List String}
    (distinct : paths.Nodup) (s : Spool F) (name : String) :
    (paths.foldl (distributeFile load hooks known) s).whereabouts name =
      if name ∈ paths then disposed load hooks known name (s.whereabouts name)
      else s.whereabouts name := by
  induction paths generalizing s with
  | nil => simp
  | cons path rest ih =>
      obtain ⟨once, distinctRest⟩ := List.nodup_cons.mp distinct
      rw [List.foldl_cons, ih distinctRest, whereabouts_distributeFile]
      grind

theorem whereabouts_purge [CaseMapping] {s : Spool F} {name : String} (json : isJson name = true) :
    Spool.whereabouts { s with inQueue := s.inQueue.purge } name = s.whereabouts name := by
  have untouched : name ∉ s.inQueue.files.names.filter fun name => !isJson name := by
    simp [json]
  simp only [Spool.whereabouts, QueueDir.purge_files, json, ↓reduceIte]
  rw [QueueDir.purge, QueueDir.foldl_discardFile_trash _ untouched]

theorem whereabouts_distribute [CaseMapping] (queues : List OutQueue) (s : Spool F) {name : String}
    (ready : isReady name = true) :
    (distribute load hooks queues s).whereabouts name =
      disposed load hooks (outQueuesByName queues) name (s.whereabouts name) := by
  have json := isJson_of_ready ready
  have distinct : (s.inQueue.queueFiles.filter (isReady ·)).Nodup :=
    s.inQueue.files.names_nodup.sublist (List.filter_sublist.trans List.filter_sublist)
  rw [distribute, whereabouts_foldl load hooks _ distinct, whereabouts_purge json]
  split
  next => rfl
  next unlisted =>
    have missing : s.inQueue.files.get name = none := by
      cases waiting : s.inQueue.files.get name with
      | none => rfl
      | some content =>
          have listed := QueueDir.mem_queueFiles.mpr ⟨⟨content, waiting⟩, json⟩
          exact absurd (List.mem_filter.mpr ⟨listed, ready⟩) unlisted
    simp [disposed, Spool.whereabouts, missing]

/-! ## Who gets a copy -/

theorem outQueuesByName_get {queues : List OutQueue} {name : String} {q : OutQueue}
    (found : (outQueuesByName queues).get name = some q) :
    q ∈ queues ∧ q.schoolAuthority.name = name := by
  have member := Dict.mem_of_mem_update (d := []) (Dict.mem_of_get found)
  simp only [List.not_mem_nil, List.mem_map, false_or] at member
  obtain ⟨registered, old, same⟩ := member
  grind

theorem outQueuesByName_of_mem {queues : List OutQueue} {q : OutQueue} (registered : q ∈ queues) :
    ∃ other, (outQueuesByName queues).get q.schoolAuthority.name = some other := by
  apply Dict.mem_keys_iff.mp
  apply Dict.mem_keys_update.mpr
  have pair := List.mem_map_of_mem (f := fun q => (q.schoolAuthority.name, q)) registered
  exact Or.inr (List.mem_map_of_mem (f := Prod.fst) pair)

/-- Each queue uses the directory that is named after its authority, as
    `from_school_authority` sets it. -/
def Placed (queues : List OutQueue) : Prop := ∀ q ∈ queues, q.path = q.schoolAuthority.name

theorem isTarget_iff {queues : List OutQueue} (placed : Placed queues) {names : List String}
    {q : OutQueue} (registered : q ∈ queues) :
    IsTarget (outQueuesByName queues) names q.path ↔ q.schoolAuthority.name ∈ names := by
  constructor
  · rintro ⟨name, selected, other, found, sameDir⟩
    obtain ⟨otherRegistered, otherName⟩ := outQueuesByName_get found
    rw [placed q registered, placed other otherRegistered, otherName] at sameDir
    exact sameDir ▸ selected
  · intro selected
    obtain ⟨other, found⟩ := outQueuesByName_of_mem registered
    obtain ⟨otherRegistered, otherName⟩ := outQueuesByName_get found
    refine ⟨_, selected, other, found, ?_⟩
    rw [placed q registered, placed other otherRegistered, otherName]

/-- The file has left the in-queue, its copies are with exactly the selected queues, and
    without such a queue it is in the trash. -/
structure Disposed (queues : List OutQueue) (names : List String) (s s' : Spool F)
    (path : String) (content : F) : Prop where
  left : s'.inQueue.files.get path = none
  copied : ∀ q ∈ queues, (s'.outDirs q.path).files.get path =
    if q.schoolAuthority.name ∈ names then some content else (s.outDirs q.path).files.get path
  trashed : (∀ q ∈ queues, q.schoolAuthority.name ∉ names) →
    s'.inQueue.trash.get path = some content

/-- A ready file is disposed of properly exactly if it has a recipient, or is already in
    the trash, or nobody selects it and the trash has no other file of its name. -/
theorem distribute_disposes_iff [CaseMapping] (queues : List OutQueue) (placed : Placed queues)
    (s : Spool F) (path : String) (content : F) (ready : isReady path = true)
    (waiting : s.inQueue.files.get path = some content) :
    Disposed queues (selectedAuthorities load hooks path content) s
        (distribute load hooks queues s) path content ↔
      (∃ q ∈ queues, q.schoolAuthority.name ∈ selectedAuthorities load hooks path content) ∨
        s.inQueue.trash.get path = some content ∨
        (selectedAuthorities load hooks path content = [] ∧ s.inQueue.trash.get path = none) := by
  have after := whereabouts_distribute load hooks queues s ready
  generalize distribute load hooks queues s = s' at after
  have inFiles : s'.inQueue.files.get path = none := by
    have := congrArg Whereabouts.waiting after
    simp only [Spool.whereabouts, disposed, waiting] at this
    grind
  have inTrash : s'.inQueue.trash.get path =
      if selectedAuthorities load hooks path content = [] then
        (s.inQueue.trash.get path).or (some content) else s.inQueue.trash.get path := by
    have := congrArg Whereabouts.trash after
    simp only [Spool.whereabouts, disposed, waiting] at this
    grind
  have inOut : ∀ q ∈ queues, (s'.outDirs q.path).files.get path =
      if q.schoolAuthority.name ∈ selectedAuthorities load hooks path content then some content
      else (s.outDirs q.path).files.get path := by
    intro q registered
    have target : IsTarget (outQueuesByName queues) (selectedAuthorities load hooks path content)
        q.path ↔ _ := isTarget_iff placed registered
    have := congrFun (congrArg Whereabouts.out after) q.path
    simp only [Spool.whereabouts, disposed, waiting] at this
    grind
  constructor
  · intro done
    by_cases known : ∃ q ∈ queues,
        q.schoolAuthority.name ∈ selectedAuthorities load hooks path content
    · exact .inl known
    · have kept := done.trashed (by grind)
      cases trashed : s.inQueue.trash.get path <;> grind
  · intro condition
    refine ⟨inFiles, inOut, fun unknown => ?_⟩
    cases trashed : s.inQueue.trash.get path <;> grind

end Distribute

section Examples

attribute [local instance] asciiCaseMapping

/-- One ready file, that of a user of the OU DEMOSCHOOL. -/
def demoSpool : Spool String :=
  ⟨{ QueueDir.empty with files := Directory.empty.put "001_ready.json" "anna" }, fun _ => .empty⟩

def demoLoad (_ : String) : Option ListenerObject := some demoUser

theorem distribute_disposes_demo :
    let hooks := routingHooks demoEnvironment (demoQueue [kelvin])
    let queues := (demoQueue [kelvin]).outQueues
    Disposed queues (selectedAuthorities demoLoad hooks "001_ready.json" "anna") demoSpool
        (distribute demoLoad hooks queues demoSpool) "001_ready.json" "anna" ↔
      (∃ q ∈ queues, q.schoolAuthority.name ∈
          selectedAuthorities demoLoad hooks "001_ready.json" "anna") ∨
        demoSpool.inQueue.trash.get "001_ready.json" = some "anna" ∨
        (selectedAuthorities demoLoad hooks "001_ready.json" "anna" = [] ∧
          demoSpool.inQueue.trash.get "001_ready.json" = none) :=
  distribute_disposes_iff demoLoad _ (demoQueue [kelvin]).outQueues
    (by simp [Placed, demoQueue, OutQueue.fromSchoolAuthority]) demoSpool "001_ready.json" "anna"
    (by decide) rfl

/-- The OU is still mapped to an authority that has been deleted. -/
def staleQueue : InQueue :=
  { demoQueue [kelvin] with
    schoolAuthorityMapping := ⟨[("demoschool", "Traeger2")], by decide, by decide⟩ }

/-- A file for an authority without a queue is deleted and left nowhere. -/
theorem unknown_authority_loses_file :
    let hooks := routingHooks demoEnvironment staleQueue
    let after := distribute demoLoad hooks staleQueue.outQueues demoSpool
    Placed staleQueue.outQueues ∧ isReady "001_ready.json" = true ∧
      demoSpool.inQueue.files.get "001_ready.json" = some "anna" ∧
      selectedAuthorities demoLoad hooks "001_ready.json" "anna" = ["Traeger2"] ∧
      ¬ Disposed staleQueue.outQueues ["Traeger2"] demoSpool after "001_ready.json" "anna" ∧
      after.inQueue.files.get "001_ready.json" = none ∧
      after.inQueue.trash.get "001_ready.json" = none ∧
      (after.outDirs "Traeger1").files.get "001_ready.json" = none ∧
      (after.outDirs "Traeger2").files.get "001_ready.json" = none := by
  refine ⟨by simp [Placed, staleQueue, demoQueue, OutQueue.fromSchoolAuthority], by decide, rfl,
    by decide, fun done => ?_, rfl, rfl, rfl, rfl⟩
  have kept := done.trashed (by decide)
  exact absurd kept (by decide)

end Examples

end IdConnector
