import IdConnector.Scan
import Mathlib.Logic.Relation

/-! # The service as a transition system

The in-queue task, the tasks of a fixed set of out queues, the listener converter
that writes files into the in-queue, and `manage_queues`, which first distributes
what is in the in-queue and then starts the tasks. A step ends at the latest at
the next await; the service can stop after every step, also between two copies of
one file, and a task ends when it is cancelled at an await or an exception leaves it.

The hooks may change an object in any way when it is preprocessed and may route it
to any names. The pass of preprocessing and distribution follows `distribute_loop`.
-/

namespace IdConnector

open Library Relation

/-- Where the task of the in-queue is. -/
inductive InTask where
  | stopped
  /-- The loop over the files that are not ready. -/
  | preprocessing (todo : List String)
  /-- The file is loaded; awaiting the hooks or the saving of the object. -/
  | hooks (path : String) (todo : List String)
  /-- The loop over the ready files. -/
  | distributing (todo : List String)
  /-- The loop over `s_a_names`, of which `rest` is still to come. -/
  | copying (path : String) (names rest : List String) (todo : List String)
  | sleeping

def InTask.Suspended : InTask → Prop
  | preprocessing _ | hooks .. | distributing _ | sleeping => True
  | stopped | copying .. => False

/-- What the service does as a whole. -/
inductive Phase where
  | down
  /-- The initial distribution, before any task is started. -/
  | starting
  | running

/-- `arrived` lists the files the listener converter has written; `owed` the routes of the
    files that `distribute` has taken out of the in-queue. -/
structure Service (F : Type) where
  phase : Phase
  inDir : QueueDir F
  inTask : InTask
  outs : String → OutBox F
  arrived : List String
  owed : List (String × String × F)

namespace Service

variable {F : Type}

def empty : Service F := ⟨.down, .empty, .stopped, fun _ => .empty, [], []⟩

def putFile (s : Service F) (name : String) (content : F) : Service F :=
  { s with inDir := { s.inDir with files := s.inDir.files.put name content } }

/-- Put a copy into the directory of an out queue. -/
def copyFile (s : Service F) (authority name : String) (content : F) : Service F :=
  { s with
    outs := Function.update s.outs authority
      { s.outs authority with
        dir := { (s.outs authority).dir with
          files := (s.outs authority).dir.files.put name content } } }

def discardFile (s : Service F) (name : String) : Service F :=
  { s with inDir := s.inDir.discardFile name }

/-- Every task ends; what is in the directories stays. -/
def crash (s : Service F) : Service F :=
  { s with
    phase := .down
    inTask := .stopped
    outs := fun authority => { s.outs authority with task := .stopped } }

/-- The routes of a file to registered authorities. -/
def routes (authorities : List String) (s : Service F) (path : String) (names : List String) :
    List (String × String × F) :=
  (s.inDir.files.get path).toList.flatMap fun content =>
    (names.filter (· ∈ authorities)).map fun name => (name, path, content)

section Listings

variable [CaseMapping]

/-- The start of a pass of `distribute_loop`. -/
def beginPass (s : Service F) : Service F :=
  { s with
    inDir := s.inDir.purge
    inTask := .preprocessing (s.inDir.queueFiles.filter fun name => !isReady name) }

/-- The start of `distribute`, which is called only if there are out queues. -/
def beginDistribute (authorities : List String) (s : Service F) : Service F :=
  if authorities = [] then { s with inTask := .distributing [] }
  else
    { s with
      inDir := s.inDir.purge
      inTask := .distributing (s.inDir.queueFiles.filter (isReady ·)) }

end Listings

/-- The steps of the service. The listener converter writes only files that `admits` allows
    after those it has written before. -/
inductive Step [CaseMapping] (authorities : List String) (load : F → Option ListenerObject)
    (faults : Prop) (admits : List String → String → Prop) : Service F → Service F → Prop where
  | arrive {s name} (content : F) (allowed : admits s.arrived name) :
      Step authorities load faults admits s
        { s.putFile name content with arrived := s.arrived ++ [name] }
  -- `manage_queues`
  | start {s} (down : s.phase = .down) :
      Step authorities load faults admits s
        { s.beginDistribute authorities with phase := .starting }
  | started {s} (starting : s.phase = .starting) (done : s.inTask = .distributing []) :
      Step authorities load faults admits s { s with phase := .running, inTask := .stopped }
  | crashed {s} : Step authorities load faults admits s s.crash
  -- `distribute_loop`
  | startTask {s} (running : s.phase = .running) (idle : s.inTask = .stopped) :
      Step authorities load faults admits s s.beginPass
  | woken {s} (running : s.phase = .running) (slept : s.inTask = .sleeping) :
      Step authorities load faults admits s s.beginPass
  | ended {s} (running : s.phase = .running) (suspended : s.inTask.Suspended) :
      Step authorities load faults admits s { s with inTask := .stopped }
  | loaded {s path todo obj} (next : s.inTask = .preprocessing (path :: todo))
      (object : s.inDir.loadListenerFile load path = some obj) :
      Step authorities load faults admits s { s with inTask := .hooks path todo }
  | invalid {s path todo} (next : s.inTask = .preprocessing (path :: todo))
      (object : s.inDir.loadListenerFile load path = none) :
      Step authorities load faults admits s
        { s.discardFile path with inTask := .preprocessing todo }
  /-- A hook that saves the object overwrites the file. -/
  | saved {s path todo old} (content : F) (hooked : s.inTask = .hooks path todo)
      (found : s.inDir.files.get path = some old) :
      Step authorities load faults admits s (s.putFile path content)
  | notSaved {s path todo} (hooked : s.inTask = .hooks path todo) :
      Step authorities load faults admits s
        { s.discardFile path with inTask := .preprocessing todo }
  | renamed {s path todo content} (hooked : s.inTask = .hooks path todo)
      (found : s.inDir.files.get path = some content) :
      Step authorities load faults admits s
        { s with
          inDir := { s.inDir with files := s.inDir.files.rename path (readyName path) }
          inTask := .preprocessing todo }
  | preprocessed {s} (done : s.inTask = .preprocessing []) :
      Step authorities load faults admits s (s.beginDistribute authorities)
  | distributed {s} (running : s.phase = .running) (done : s.inTask = .distributing []) :
      Step authorities load faults admits s { s with inTask := .sleeping }
  -- `distribute`
  | unloadable {s path todo} (next : s.inTask = .distributing (path :: todo))
      (object : s.inDir.loadListenerFile load path = none) :
      Step authorities load faults admits s
        { s.discardFile path with inTask := .distributing todo }
  | unrouted {s path todo obj} (next : s.inTask = .distributing (path :: todo))
      (object : s.inDir.loadListenerFile load path = some obj) :
      Step authorities load faults admits s
        { s.discardFile path with inTask := .distributing todo }
  | routed {s path todo obj} (names : List String) (some_name : names ≠ [])
      (next : s.inTask = .distributing (path :: todo))
      (object : s.inDir.loadListenerFile load path = some obj) :
      Step authorities load faults admits s { s with inTask := .copying path names names todo }
  | copied {s path names authority rest todo content}
      (next : s.inTask = .copying path names (authority :: rest) todo)
      (known : authority ∈ authorities) (found : s.inDir.files.get path = some content) :
      Step authorities load faults admits s
        { s.copyFile authority path content with inTask := .copying path names rest todo }
  | copyFailed {s path names authority rest todo}
      (next : s.inTask = .copying path names (authority :: rest) todo)
      (known : authority ∈ authorities) (missing : s.inDir.files.get path = none) :
      Step authorities load faults admits s { s with inTask := .stopped }
  | unknown {s path names authority rest todo}
      (next : s.inTask = .copying path names (authority :: rest) todo)
      (unregistered : authority ∉ authorities) :
      Step authorities load faults admits s { s with inTask := .copying path names rest todo }
  | unlinked {s path names todo} (next : s.inTask = .copying path names [] todo) :
      Step authorities load faults admits s
        { s with
          inDir := { s.inDir with files := s.inDir.files.remove path }
          inTask := .distributing todo
          owed := s.owed ++ s.routes authorities path names }
  -- `scan`
  | scan {s authority} {o : OutBox F} (known : authority ∈ authorities)
      (running : s.phase = .running) (step : ScanStep load faults (s.outs authority) o) :
      Step authorities load faults admits s { s with outs := Function.update s.outs authority o }

/-! ## One content under one name

Before it is renamed a file may be rewritten; from then on its name stands for one
content, in the in-queue and in every out queue.
-/

end Service

/-- The names of a preprocessing pass. -/
def InTask.plainNames : InTask → List String
  | preprocessing todo => todo
  | hooks path todo => path :: todo
  | _ => []

/-- The names of a distribution pass. -/
def InTask.readyNames : InTask → List String
  | distributing todo => todo
  | copying path _ _ todo => path :: todo
  | _ => []

/-- The out queue has or handles a file of this name and content. -/
def OutBox.Mentions {F : Type} (o : OutBox F) (name : String) (content : F) : Prop :=
  o.dir.Holds name content ∨ o.task.current = some (name, some content)

theorem ScanStep.mentions_sub {F : Type} [CaseMapping] {load : F → Option ListenerObject}
    {faults : Prop} {o o' : OutBox F} (step : ScanStep load faults o o') {name : String}
    {content : F} (mentioned : o'.Mentions name content) : o.Mentions name content := by
  rcases mentioned with held | current
  · exact Or.inl (step.holds_sub held)
  · rcases step.current_cases current with before | read
    · exact Or.inr before
    · exact Or.inl (Or.inl read.symm)

namespace Service

variable {F : Type}

/-- The invariant that ties the names to the contents. -/
structure Consistent (s : Service F) (canon : String → Option F) : Prop where
  waiting : ∀ {name content}, s.inDir.files.get name = some content →
    finalName name ∈ s.arrived.map finalName
  mentioned : ∀ {authority name content}, (s.outs authority).Mentions name content →
    name ∈ s.arrived.map finalName ∧ canon name = some content
  ready : ∀ {name content}, isReady name = true → s.inDir.files.get name = some content →
    canon name = some content
  fresh : ∀ {name content}, isReady name = false → s.inDir.files.get name = some content →
    s.inDir.files.get (readyName name) = none ∧
      ∀ authority content, ¬ (s.outs authority).Mentions (readyName name) content
  distinct : ∀ {name other content content'}, isReady name = false → isReady other = false →
    s.inDir.files.get name = some content → s.inDir.files.get other = some content' →
    readyName name = readyName other → name = other
  plainTask : ∀ name ∈ s.inTask.plainNames, isReady name = false
  readyTask : ∀ name ∈ s.inTask.readyNames, isReady name = true

/-- The listener converter never writes two files that get the same name. -/
def FreshName (arrived : List String) (name : String) : Prop :=
  finalName name ∉ arrived.map finalName

theorem empty_consistent (canon : String → Option F) : (empty : Service F).Consistent canon where
  waiting := nofun
  mentioned mentioned := by
    simp [empty, OutBox.empty, OutBox.Mentions, QueueDir.Holds, QueueDir.empty,
      ScanTask.current] at mentioned
  ready := nofun
  fresh := nofun
  distinct := nofun
  plainTask := nofun
  readyTask := nofun

/-- Taking files away keeps the invariant. -/
theorem Consistent.of_sub {s s' : Service F} {canon : String → Option F} (consistent : s.Consistent canon)
    (files : ∀ {name content}, s'.inDir.files.get name = some content →
      s.inDir.files.get name = some content)
    (mentions : ∀ {authority name content}, (s'.outs authority).Mentions name content →
      (s.outs authority).Mentions name content)
    (arrived : s'.arrived = s.arrived)
    (plainTask : ∀ name ∈ s'.inTask.plainNames, isReady name = false)
    (readyTask : ∀ name ∈ s'.inTask.readyNames, isReady name = true) : s'.Consistent canon where
  waiting found := arrived ▸ consistent.waiting (files found)
  mentioned mentioned := arrived ▸ consistent.mentioned (mentions mentioned)
  ready is_ready found := consistent.ready is_ready (files found)
  fresh plain found := by
    obtain ⟨unready, unmentioned⟩ := consistent.fresh plain (files found)
    refine ⟨?_, fun authority content held => unmentioned authority content (mentions held)⟩
    cases renamed : s'.inDir.files.get _ with
    | none => rfl
    | some content => exact absurd (files renamed) (by simp [unready])
  distinct plain other found found' := consistent.distinct plain other (files found) (files found')
  plainTask := plainTask
  readyTask := readyTask

theorem Consistent.finalName_eq {s : Service F} {canon : String → Option F}
    (consistent : s.Consistent canon) {name : String} {content : F}
    (is_ready : isReady name = true) (found : s.inDir.files.get name = some content) :
    name ∈ s.arrived.map finalName :=
  finalName_of_ready is_ready ▸ consistent.waiting found

theorem Consistent.arrive {s : Service F} {canon : String → Option F} (consistent : s.Consistent canon)
    {name : String} (content : F) (unused : FreshName s.arrived name) :
    Consistent { s.putFile name content with arrived := s.arrived ++ [name] }
      (Function.update canon (finalName name) (some content)) := by
  have other_name : ∀ {other}, other ∈ s.arrived.map finalName → other ≠ finalName name :=
    fun member same => unused (same ▸ member)
  have put : ∀ other, (s.putFile name content).inDir.files.get other =
      if name = other then some content else s.inDir.files.get other :=
    Directory.get_put s.inDir.files name content
  refine ⟨?_, ?_, ?_, ?_, ?_, consistent.plainTask, consistent.readyTask⟩
  · intro other _ found
    simp only [put] at found
    split at found
    next same => simp [same]
    next =>
      rw [List.map_append]
      exact List.mem_append_left _ (consistent.waiting found)
  · intro authority other _ mentioned
    obtain ⟨arrived, known⟩ := consistent.mentioned mentioned
    rw [Function.update_of_ne (other_name arrived), List.map_append]
    exact ⟨List.mem_append_left _ arrived, known⟩
  · intro other _ is_ready found
    simp only [put] at found
    split at found
    next same =>
      subst same
      rw [finalName_of_ready is_ready, Function.update_self]
      simpa using found
    next =>
      rw [Function.update_of_ne (other_name (consistent.finalName_eq is_ready found))]
      exact consistent.ready is_ready found
  · intro other _ plain found
    have name_ne : name ≠ readyName other := by
      intro same
      have is_ready : isReady name = true := same ▸ isReady_readyName other
      have different : name ≠ other := by
        rintro rfl
        simp [plain] at is_ready
      simp only [put, if_neg different] at found
      apply unused
      rw [finalName_of_ready is_ready, same, ← finalName_of_plain plain]
      exact consistent.waiting found
    simp only [put, if_neg name_ne] at found ⊢
    split at found
    next same =>
      subst same
      have unused' : readyName name ∉ s.arrived.map finalName := finalName_of_plain plain ▸ unused
      constructor
      · cases waiting : s.inDir.files.get (readyName name) with
        | none => rfl
        | some _ => exact absurd (consistent.finalName_eq (isReady_readyName name) waiting) unused'
      · intro authority _ mentioned
        exact unused' (consistent.mentioned mentioned).1
    next => exact consistent.fresh plain found
  · intro one other _ _ plain plain' found found' same
    have final : ∀ {n content}, isReady n = false → s.inDir.files.get n = some content →
        readyName n ≠ finalName name :=
      fun plain found => other_name (finalName_of_plain plain ▸ consistent.waiting found)
    simp only [put] at found found'
    split at found <;> split at found'
    next first second => exact first.symm.trans second
    next first _ =>
      subst first
      exact absurd (same.symm.trans (finalName_of_plain plain).symm) (final plain' found')
    next _ second =>
      subst second
      exact absurd (same.trans (finalName_of_plain plain').symm) (final plain found)
    next => exact consistent.distinct plain plain' found found' same

theorem Consistent.saved {s : Service F} {canon : String → Option F} (consistent : s.Consistent canon)
    {path : String} {old : F} (content : F) (plain_path : isReady path = false)
    (found_path : s.inDir.files.get path = some old) : (s.putFile path content).Consistent canon := by
  have put : ∀ other, (s.putFile path content).inDir.files.get other =
      if path = other then some content else s.inDir.files.get other :=
    Directory.get_put s.inDir.files path content
  have before : ∀ {other content'}, (s.putFile path content).inDir.files.get other = some content' →
      ∃ content, s.inDir.files.get other = some content := by
    grind
  refine ⟨?_, consistent.mentioned, ?_, ?_, ?_, consistent.plainTask, consistent.readyTask⟩
  · intro other _ found
    exact consistent.waiting (before found).choose_spec
  · intro other _ is_ready found
    have different : path ≠ other := by
      rintro rfl
      simp [plain_path] at is_ready
    rw [put, if_neg different] at found
    exact consistent.ready is_ready found
  · intro other _ plain found
    have different : path ≠ readyName other := by
      rintro rfl
      simp at plain_path
    rw [put, if_neg different]
    exact consistent.fresh plain (before found).choose_spec
  · intro one other _ _ plain plain' found found' same
    exact consistent.distinct plain plain' (before found).choose_spec (before found').choose_spec same

theorem Consistent.renamed {s : Service F} {canon : String → Option F} (consistent : s.Consistent canon)
    {path : String} {content : F} {todo : List String} (hooked : s.inTask = .hooks path todo)
    (found_path : s.inDir.files.get path = some content) :
    Consistent
      { s with
        inDir := { s.inDir with files := s.inDir.files.rename path (readyName path) }
        inTask := .preprocessing todo }
      (Function.update canon (readyName path) (some content)) := by
  have plain_path : isReady path = false :=
    consistent.plainTask path (by simp [hooked, InTask.plainNames])
  obtain ⟨unready, unmentioned⟩ := consistent.fresh plain_path found_path
  have renamed := Directory.get_rename found_path (readyName path)
  have plain_before : ∀ {other content'}, isReady other = false →
      (s.inDir.files.rename path (readyName path)).get other = some content' →
      s.inDir.files.get other = some content' ∧ path ≠ other := by
    intro other _ plain found
    have different : readyName path ≠ other := by
      rintro rfl
      simp at plain
    grind
  refine ⟨?_, ?_, ?_, ?_, ?_, ?_, nofun⟩
  · intro other _ found
    simp only [renamed] at found
    split at found
    next same =>
      subst same
      rw [finalName_of_ready (isReady_readyName path), ← finalName_of_plain plain_path]
      exact consistent.waiting found_path
    next => split at found <;> [cases found; exact consistent.waiting found]
  · intro authority other _ mentioned
    have different : other ≠ readyName path := by
      rintro rfl
      exact unmentioned authority _ mentioned
    rw [Function.update_of_ne different]
    exact consistent.mentioned mentioned
  · intro other _ is_ready found
    simp only [renamed] at found
    split at found
    next same =>
      subst same
      simpa using found
    next different =>
      rw [Function.update_of_ne (Ne.symm different)]
      split at found <;> [cases found; exact consistent.ready is_ready found]
  · intro other _ plain found
    obtain ⟨old, different⟩ := plain_before plain found
    obtain ⟨unready', unmentioned'⟩ := consistent.fresh plain old
    refine ⟨?_, unmentioned'⟩
    have names_ne : readyName path ≠ readyName other := fun same =>
      different (consistent.distinct plain_path plain found_path old same)
    simp only [renamed, if_neg names_ne, unready', ite_self]
  · intro one other _ _ plain plain' found found' same
    exact consistent.distinct plain plain' (plain_before plain found).1
      (plain_before plain' found').1 same
  · intro name member
    exact consistent.plainTask name (by simp_all [InTask.plainNames])

theorem Consistent.copied {s : Service F} {canon : String → Option F} (consistent : s.Consistent canon)
    {path : String} {content : F} {names todo : List String} (authority : String)
    (rest : List String) (ready_path : isReady path = true)
    (found_path : s.inDir.files.get path = some content)
    (readyTask : ∀ name ∈ path :: todo, isReady name = true) :
    Consistent { s.copyFile authority path content with inTask := .copying path names rest todo }
      canon := by
  have before : ∀ {other name content'},
      ((s.copyFile authority path content).outs other).Mentions name content' →
      (s.outs other).Mentions name content' ∨ (path = name ∧ content = content') := by
    intro other name content' mentioned
    by_cases same : other = authority
    · subst same
      simp only [copyFile, Function.update_self, OutBox.Mentions, QueueDir.Holds,
        Directory.get_put] at mentioned ⊢
      grind
    · simp only [copyFile, Function.update_of_ne same] at mentioned
      exact Or.inl mentioned
  refine ⟨consistent.waiting, ?_, consistent.ready, ?_, consistent.distinct, by simp [InTask.plainNames], readyTask⟩
  · intro other _ _ mentioned
    rcases before mentioned with old | ⟨rfl, rfl⟩
    · exact consistent.mentioned old
    · exact ⟨consistent.finalName_eq ready_path found_path, consistent.ready ready_path found_path⟩
  · intro name _ plain found
    obtain ⟨unready, unmentioned⟩ := consistent.fresh plain found
    refine ⟨unready, fun other content' mentioned => ?_⟩
    rcases before mentioned with old | ⟨rfl, rfl⟩
    · exact unmentioned other content' old
    · simp [unready] at found_path

section Steps

variable [CaseMapping] {authorities : List String} {load : F → Option ListenerObject}
  {faults : Prop} {admits : List String → String → Prop} {s s' : Service F}

theorem beginPass_consistent {canon : String → Option F} (consistent : s.Consistent canon) :
    s.beginPass.Consistent canon := by
  refine consistent.of_sub (QueueDir.purge_settles s.inDir).files id rfl ?_ nofun
  intro name member
  simpa using (List.mem_filter.mp member).2

theorem beginDistribute_consistent {canon : String → Option F} (consistent : s.Consistent canon) :
    (s.beginDistribute authorities).Consistent canon := by
  unfold beginDistribute
  split
  · exact consistent.of_sub id id rfl nofun nofun
  · refine consistent.of_sub (QueueDir.purge_settles s.inDir).files id rfl nofun ?_
    intro name member
    exact (List.mem_filter.mp member).2

/-- With fresh names every name keeps standing for one content. -/
theorem Step.consistent (step : Step authorities load faults FreshName s s') {canon : String → Option F}
    (consistent : s.Consistent canon) : ∃ canon', s'.Consistent canon' := by
  have plainTask := consistent.plainTask
  have readyTask := consistent.readyTask
  cases step with
  | arrive content allowed => exact ⟨_, consistent.arrive content allowed⟩
  | saved content hooked found =>
      exact ⟨_, consistent.saved content (plainTask _ (by simp [hooked, InTask.plainNames])) found⟩
  | renamed hooked found => exact ⟨_, consistent.renamed hooked found⟩
  | copied next known found =>
      simp only [next, InTask.readyNames] at readyTask
      exact ⟨_, consistent.copied _ _ (readyTask _ List.mem_cons_self) found readyTask⟩
  | start =>
      have begun : (s.beginDistribute authorities).Consistent canon :=
        beginDistribute_consistent consistent
      exact ⟨canon, begun.of_sub id id rfl begun.plainTask begun.readyTask⟩
  | startTask | woken => exact ⟨canon, beginPass_consistent consistent⟩
  | preprocessed => exact ⟨canon, beginDistribute_consistent consistent⟩
  | started | ended | distributed | copyFailed =>
      exact ⟨canon, consistent.of_sub id id rfl nofun nofun⟩
  | crashed =>
      refine ⟨canon, consistent.of_sub id ?_ rfl nofun nofun⟩
      rintro _ _ _ (held | ⟨⟨⟩⟩)
      exact Or.inl held
  | loaded next object =>
      simp only [next, InTask.plainNames] at plainTask
      exact ⟨canon, consistent.of_sub id id rfl plainTask nofun⟩
  | @invalid path todo next object =>
      simp only [next, InTask.plainNames] at plainTask
      exact ⟨canon, consistent.of_sub (QueueDir.discardFile_settles s.inDir path).files id rfl
        (fun name member => plainTask name (List.mem_cons_of_mem _ member)) nofun⟩
  | @notSaved path todo hooked =>
      simp only [hooked, InTask.plainNames] at plainTask
      exact ⟨canon, consistent.of_sub (QueueDir.discardFile_settles s.inDir path).files id rfl
        (fun name member => plainTask name (List.mem_cons_of_mem _ member)) nofun⟩
  | @unloadable path todo next object | @unrouted path todo _ next object =>
      simp only [next, InTask.readyNames] at readyTask
      exact ⟨canon, consistent.of_sub (QueueDir.discardFile_settles s.inDir path).files id rfl nofun
        fun name member => readyTask name (List.mem_cons_of_mem _ member)⟩
  | routed names some_name next object =>
      simp only [next, InTask.readyNames] at readyTask
      exact ⟨canon, consistent.of_sub id id rfl nofun readyTask⟩
  | unknown next unregistered =>
      simp only [next, InTask.readyNames] at readyTask
      exact ⟨canon, consistent.of_sub id id rfl nofun readyTask⟩
  | unlinked next =>
      simp only [next, InTask.readyNames] at readyTask
      exact ⟨canon, consistent.of_sub (fun found => (Directory.get_of_get_remove found).1) id rfl nofun
        fun name member => readyTask name (List.mem_cons_of_mem _ member)⟩
  | @scan authority o known running step =>
      refine ⟨canon, consistent.of_sub id ?_ rfl plainTask readyTask⟩
      intro other name content mentioned
      by_cases same : other = authority
      · subst same
        simp only [Function.update_self] at mentioned
        exact step.mentions_sub mentioned
      · simpa only [Function.update_of_ne same] using mentioned

theorem Step.listed (step : Step authorities load faults admits s s')
    (listed : ∀ authority, (s.outs authority).Listed) (authority : String) :
    (s'.outs authority).Listed := by
  cases step with
  | crashed =>
      exact ⟨List.nodup_nil, nofun, nofun, nofun⟩
  | @copied path _ other _ _ content next known found =>
      by_cases same : authority = other
      · subst same
        simpa [copyFile] using (listed authority).put path content
      · simpa [copyFile, Function.update_of_ne same] using listed authority
  | @scan other o known running step =>
      by_cases same : authority = other
      · subst same
        simpa using step.listed (listed authority)
      · simpa [Function.update_of_ne same] using listed authority
  | start | preprocessed =>
      unfold beginDistribute
      split <;> exact listed authority
  | _ => exact listed authority

/-- A run of the service. -/
abbrev Run (authorities : List String) (load : F → Option ListenerObject) (faults : Prop)
    (admits : List String → String → Prop) : Service F → Service F → Prop :=
  ReflTransGen (Step authorities load faults admits)

theorem Step.mono {allowed : List String → String → Prop}
    (weaker : ∀ arrived name, allowed arrived name → admits arrived name)
    (step : Step authorities load faults allowed s s') :
    Step authorities load faults admits s s' := by
  cases step with
  | arrive content permitted => exact .arrive content (weaker _ _ permitted)
  | start down => exact .start down
  | started starting done => exact .started starting done
  | crashed => exact .crashed
  | startTask running idle => exact .startTask running idle
  | woken running slept => exact .woken running slept
  | ended running suspended => exact .ended running suspended
  | loaded next object => exact .loaded next object
  | invalid next object => exact .invalid next object
  | saved content hooked found => exact .saved content hooked found
  | notSaved hooked => exact .notSaved hooked
  | renamed hooked found => exact .renamed hooked found
  | preprocessed done => exact .preprocessed done
  | distributed running done => exact .distributed running done
  | unloadable next object => exact .unloadable next object
  | unrouted next object => exact .unrouted next object
  | routed names some_name next object => exact .routed names some_name next object
  | copied next known found => exact .copied next known found
  | copyFailed next known missing => exact .copyFailed next known missing
  | unknown next unregistered => exact .unknown next unregistered
  | unlinked next => exact .unlinked next
  | scan known running step => exact .scan known running step

theorem Run.mono {allowed : List String → String → Prop}
    (weaker : ∀ arrived name, allowed arrived name → admits arrived name)
    (run : Run authorities load faults allowed s s') : Run authorities load faults admits s s' :=
  ReflTransGen.mono (fun _ _ step => step.mono weaker) _ _ run

theorem run_listed (run : Run authorities load faults admits empty s) (authority : String) :
    (s.outs authority).Listed := by
  induction run generalizing authority with
  | refl => exact OutBox.empty_listed
  | tail _ step ih => exact step.listed ih authority

theorem run_consistent (run : Run authorities load faults FreshName empty s) :
    ∃ canon, s.Consistent canon := by
  induction run with
  | refl => exact ⟨fun _ => none, empty_consistent _⟩
  | tail _ step ih =>
      obtain ⟨canon, consistent⟩ := ih
      exact step.consistent consistent

end Steps

end Service

end IdConnector
