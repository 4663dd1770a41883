import IdConnector.Distribute
import IdConnector.Loading

/-! # One iteration of `distribute_loop`, with the exceptions

First every file that is not ready is preprocessed, then the ready files are distributed if
there is an out queue. Some exceptions of the hooks only cost the file it was about, the
others end the task. `distributeLoop_unaffected_iff` says which.
-/

namespace IdConnector

open Library

/-- What the hooks do with one file of the in-queue. -/
structure PreprocessHooks (F : Type) where
  /-- `preprocess_add_mod_object` or `preprocess_remove_object`: whether the object changed -/
  preprocess : HookCall Bool
  /-- `save_listener_object`, called if it did -/
  save : HookCall Bool
  /-- what the file holds after the saving -/
  saved : F

/-- The loop over the `save_listener_object` hooks, up to the first that has saved the object. -/
def awaitSaved : List (Except QueueException Bool) → Except QueueException Bool
  | [] => .ok false
  | .ok true :: _ => .ok true
  | .ok false :: rest => awaitSaved rest
  | .error raised :: _ => .error raised

/-- `save_listener_file` -/
def saveListenerFile (call : HookCall Bool) : Except QueueException Unit :=
  match call.bind awaitSaved with
  | .ok true => .ok ()
  | .ok false | .error .osError | .error .valueError => .error .listenerSavingError
  | .error raised => .error raised

/-- The classes of exceptions for which `distribute_loop` discards the file and goes on. -/
def QueueException.discards : QueueException → Bool
  | invalidListenerFile | listenerSavingError => true
  | _ => false

section Loop

variable {F : Type} (load : F → Except QueueException ListenerObject)
  (hooks : String → ListenerObject → PreprocessHooks F)
  (routing : String → ListenerObject → HookCall (List String))

/-- `preprocess_file` up to the renaming: the content of the file afterwards, and what was
    raised. -/
def preprocessFile (path : String) (content : F) : F × Option QueueException :=
  match load content with
  | .error .listenerLoadingError => (content, some .invalidListenerFile)
  | .error raised => (content, some raised)
  | .ok obj =>
      match (hooks path obj).preprocess.await with
      | .error raised => (content, some raised)
      | .ok results =>
          if results.any id then
            match saveListenerFile (hooks path obj).save with
            | .error .listenerSavingError => ((hooks path obj).saved, some .invalidListenerFile)
            | .error raised => ((hooks path obj).saved, some raised)
            | .ok () => ((hooks path obj).saved, none)
          else (content, none)

/-- What the loop over the files that are not ready comes to. -/
structure Preprocessing (F : Type) where
  inQueue : QueueDir F
  attempted : List String
  escaped : Option QueueException

/-- The loop over the files that are not ready. -/
def preprocessFiles : List String → QueueDir F → Preprocessing F
  | [], q => ⟨q, [], none⟩
  | path :: rest, q =>
      let next (q : QueueDir F) : Preprocessing F :=
        let later := preprocessFiles rest q
        { later with attempted := path :: later.attempted }
      match q.files.get path with
      | none => next q
      | some content =>
          match preprocessFile load hooks path content with
          | (saved, none) =>
              next { q with files := (q.files.put path saved).rename path (readyName path) }
          | (saved, some raised) =>
              if raised.discards then
                next (QueueDir.discardFile { q with files := q.files.put path saved } path)
              else ⟨{ q with files := q.files.put path saved }, [path], some .invalidListenerFile⟩

/-- The loop of `distribute`: whatever the loading raises only costs the file, while what the
    `school_authorities_to_distribute_to` hooks raise is not caught. -/
def distributeFiles (known : Dict String OutQueue) :
    List String → Spool F → Spool F × Option QueueException
  | [], s => (s, none)
  | path :: rest, s =>
      match loadFile load s.inQueue path with
      | .error _ => distributeFiles known rest { s with inQueue := s.inQueue.discardFile path }
      | .ok obj =>
          match (routing path obj).await with
          | .error raised => (s, some raised)
          | .ok results =>
              distributeFiles known rest
                (distributeFile (loaded load) (fun _ _ => results) known s path)

/-- What one call of `distribute` comes to. -/
structure LoopPass (F : Type) where
  spool : Spool F
  attempted : List String
  escaped : Option QueueException

/-- The listed files that are not ready. -/
def plainFiles [CaseMapping] (q : QueueDir F) : List String :=
  q.queueFiles.filter fun name => !isReady name

def distributeLoop [CaseMapping] (queues : List OutQueue) (s : Spool F) : LoopPass F :=
  let pre := preprocessFiles load hooks (plainFiles s.inQueue) s.inQueue.purge
  let s' : Spool F := { s with inQueue := pre.inQueue }
  match pre.escaped with
  | some raised => ⟨s', pre.attempted, some raised⟩
  | none =>
      if queues = [] then ⟨s', pre.attempted, none⟩ else
      let (s'', escaped) := distributeFiles load routing (outQueuesByName queues)
        (s'.inQueue.queueFiles.filter (isReady ·)) { s' with inQueue := s'.inQueue.purge }
      ⟨s'', pre.attempted, escaped⟩

/-! ## Preprocessing -/

/-- What a file is renamed with, if its preprocessing comes to that. -/
def preprocessed (q : QueueDir F) (path : String) : Option F :=
  (q.files.get path).bind fun content =>
    match preprocessFile load hooks path content with
    | (saved, none) => some saved
    | (_, some _) => none

/-- The preprocessing of the file raises nothing that goes further than the file. -/
def Preprocessable (q : QueueDir F) (path : String) : Prop :=
  ∀ content raised, q.files.get path = some content →
    (preprocessFile load hooks path content).2 = some raised → raised.discards = true

/-- The directory after the preprocessing of a file, if that does not end the task. -/
def afterPreprocessing (q : QueueDir F) (path : String) : QueueDir F :=
  match q.files.get path with
  | none => q
  | some content =>
      let attempt := preprocessFile load hooks path content
      let q' := { q with files := q.files.put path attempt.1 }
      if attempt.2 = none then { q' with files := q'.files.rename path (readyName path) }
      else q'.discardFile path

variable {load hooks routing}

theorem preprocessFiles_cons {q : QueueDir F} {path : String} (rest : List String)
    (passes : Preprocessable load hooks q path) :
    preprocessFiles load hooks (path :: rest) q =
      { preprocessFiles load hooks rest (afterPreprocessing load hooks q path) with
        attempted := path ::
          (preprocessFiles load hooks rest (afterPreprocessing load hooks q path)).attempted } := by
  cases found : q.files.get path with
  | none => simp [preprocessFiles, afterPreprocessing, found]
  | some content =>
      rcases attempt : preprocessFile load hooks path content with ⟨saved, _ | raised⟩
      · simp [preprocessFiles, afterPreprocessing, found, attempt]
      · have discards : raised.discards = true := passes content raised found (by rw [attempt])
        simp [preprocessFiles, afterPreprocessing, found, attempt, discards]

theorem preprocessFiles_escapes {q : QueueDir F} {path : String} (rest : List String)
    (fails : ¬ Preprocessable load hooks q path) :
    (preprocessFiles load hooks (path :: rest) q).escaped = some .invalidListenerFile := by
  simp only [Preprocessable, not_forall] at fails
  obtain ⟨content, raised, found, raises, escapes⟩ := fails
  rcases attempt : preprocessFile load hooks path content with ⟨saved, outcome⟩
  rw [attempt] at raises
  simp [preprocessFiles, found, attempt, show outcome = some raised from raises, escapes]

theorem readyName_ne {path name : String} (plain : isReady name = false) :
    readyName path ≠ name := by
  rintro rfl
  simp at plain

theorem afterPreprocessing_other {q : QueueDir F} {path name : String} (different : path ≠ name) :
    (afterPreprocessing load hooks q path).files.get name =
      (if readyName path = name then preprocessed load hooks q path else none).or
        (q.files.get name) := by
  unfold afterPreprocessing preprocessed
  cases found : q.files.get path with
  | none => simp
  | some content =>
      rcases attempt : preprocessFile load hooks path content with ⟨saved, _ | raised⟩
      · have renamed := Directory.get_rename (Directory.get_put_self q.files path saved)
          (readyName path) name
        simp only [different, Directory.get_put, ↓reduceIte] at renamed
        simp only [attempt, Option.bind_some, ↓reduceIte, renamed]
        split <;> simp
      · simp [attempt, QueueDir.discardFile_files, Directory.get_put, different]

theorem preprocessed_congr {q q' : QueueDir F} {path : String}
    (same : q'.files.get path = q.files.get path) :
    preprocessed load hooks q' path = preprocessed load hooks q path := by
  rw [preprocessed, preprocessed, same]

theorem preprocessable_congr {q q' : QueueDir F} {path : String}
    (same : q'.files.get path = q.files.get path) :
    Preprocessable load hooks q' path ↔ Preprocessable load hooks q path := by
  simp only [Preprocessable, same]

/-- What becomes of the ready files: the last file renamed to a name counts, before all the one
    that had the name already. -/
def renamedTo (load : F → Except QueueException ListenerObject)
    (hooks : String → ListenerObject → PreprocessHooks F) (q : QueueDir F) (names : List String)
    (name : String) : Option F :=
  (names.filterMap fun path =>
    if readyName path = name then preprocessed load hooks q path else none).getLast?.or
      (q.files.get name)

/-- The loop ends only with a file that is not preprocessable; otherwise it attempts every file
    and renames those that pass. -/
theorem preprocessFiles_spec (load : F → Except QueueException ListenerObject)
    (hooks : String → ListenerObject → PreprocessHooks F) {names : List String} (q : QueueDir F)
    (plain : ∀ name ∈ names, isReady name = false) (distinct : names.Nodup) :
    ((preprocessFiles load hooks names q).escaped = none ↔
      ∀ name ∈ names, Preprocessable load hooks q name) ∧
    ((preprocessFiles load hooks names q).escaped = none →
      (preprocessFiles load hooks names q).attempted = names ∧
      ∀ name, isReady name = true →
        (preprocessFiles load hooks names q).inQueue.files.get name =
          renamedTo load hooks q names name) := by
  induction names generalizing q with
  | nil => simp [preprocessFiles, renamedTo]
  | cons path rest ih =>
      obtain ⟨once, distinct_rest⟩ := List.nodup_cons.mp distinct
      obtain ⟨plain_path, plain_rest⟩ := List.forall_mem_cons.mp plain
      by_cases passes : Preprocessable load hooks q path
      · rw [preprocessFiles_cons rest passes]
        have same : ∀ name ∈ rest, (afterPreprocessing load hooks q path).files.get name =
            q.files.get name := by
          intro name member
          have different : path ≠ name := by
            rintro rfl
            exact once member
          rw [afterPreprocessing_other different, if_neg (readyName_ne (plain_rest name member)),
            Option.none_or]
        obtain ⟨returns, done⟩ := ih (afterPreprocessing load hooks q path)
          plain_rest distinct_rest
        have all : (∀ name ∈ rest, Preprocessable load hooks
            (afterPreprocessing load hooks q path) name) ↔
              ∀ name ∈ rest, Preprocessable load hooks q name :=
          forall₂_congr fun name member => preprocessable_congr (same name member)
        refine ⟨?_, fun quiet => ?_⟩
        · rw [List.forall_mem_cons, ← all, ← returns]
          exact (and_iff_right passes).symm
        · obtain ⟨attempted, contents⟩ := done quiet
          refine ⟨by rw [attempted], fun name ready => ?_⟩
          have different : path ≠ name := by
            rintro rfl
            simp [plain_path] at ready
          have later : (rest.filterMap fun other =>
              if readyName other = name then
                preprocessed load hooks (afterPreprocessing load hooks q path) other
              else none) = rest.filterMap fun other =>
              if readyName other = name then preprocessed load hooks q other else none :=
            List.filterMap_congr fun other member => by
              rw [preprocessed_congr (same other member)]
          rw [contents name ready, renamedTo, later, afterPreprocessing_other different, renamedTo,
            List.filterMap_cons]
          cases (if readyName path = name then preprocessed load hooks q path else none) with
          | none => simp
          | some saved => simp [List.getLast?_cons, Option.or_some]
      · have escapes := preprocessFiles_escapes (q := q) rest passes
        rw [escapes]
        refine ⟨iff_of_false (by simp) fun all => ?_, by simp⟩
        exact passes (all path List.mem_cons_self)

/-! ## Distributing -/

/-- What the routing hooks return, if they do. -/
def returned (routing : String → ListenerObject → HookCall (List String)) (path : String)
    (obj : ListenerObject) : List (List String) :=
  ((routing path obj).await.toOption).getD []

/-- Every routing hook returns for the file, or is not called. -/
def Routable (load : F → Except QueueException ListenerObject)
    (routing : String → ListenerObject → HookCall (List String)) (path : String) (content : F) :
    Prop :=
  ∀ obj raised, load content = .ok obj → ¬ (routing path obj).Raises raised

theorem distributeFile_other {known : Dict String OutQueue} {s : Spool F} {path name : String}
    (different : path ≠ name) {load : F → Option ListenerObject}
    {hooks : String → ListenerObject → List (List String)} :
    (distributeFile load hooks known s path).inQueue.files.get name = s.inQueue.files.get name := by
  have same := whereabouts_distributeFile load hooks known s path name
  rw [if_neg different] at same
  exact congrArg Whereabouts.waiting same

/-- As long as nothing is raised, the loop is the one without exceptions. -/
theorem distributeFiles_cons {known : Dict String OutQueue} {s : Spool F} {path : String}
    (rest : List String)
    (passes : ∀ content, s.inQueue.files.get path = some content →
      Routable load routing path content) :
    distributeFiles load routing known (path :: rest) s =
      distributeFiles load routing known rest
        (distributeFile (loaded load) (returned routing) known s path) := by
  rw [distributeFiles]
  cases found : s.inQueue.files.get path with
  | none => simp [loadFile, distributeFile, found]
  | some content =>
      cases loads : load content with
      | error raised => simp [loadFile, distributeFile, found, loads, loaded, Except.toOption]
      | ok obj =>
          obtain ⟨results, returns⟩ := HookCall.await_ok_iff.mpr fun raised =>
            passes content found obj raised loads
          simp [loadFile, distributeFile, found, loads, loaded, Except.toOption, returns, returned]

theorem distributeFiles_escapes (known : Dict String OutQueue) {s : Spool F} {path : String}
    {content : F} (rest : List String) (found : s.inQueue.files.get path = some content)
    (fails : ¬ Routable load routing path content) :
    (distributeFiles load routing known (path :: rest) s).2 ≠ none := by
  simp only [Routable, not_forall, not_not] at fails
  obtain ⟨obj, raised, loads, raises⟩ := fails
  cases awaited : (routing path obj).await with
  | error first => simp [distributeFiles, loadFile, found, loads, awaited]
  | ok results => exact absurd raises (HookCall.await_ok_iff.mp ⟨results, awaited⟩ raised)

theorem distributeFiles_spec (load : F → Except QueueException ListenerObject)
    (routing : String → ListenerObject → HookCall (List String)) (known : Dict String OutQueue)
    {paths : List String} (s : Spool F) (distinct : paths.Nodup) :
    ((distributeFiles load routing known paths s).2 = none ↔
      ∀ path ∈ paths, ∀ content, s.inQueue.files.get path = some content →
        Routable load routing path content) ∧
    ((distributeFiles load routing known paths s).2 = none →
      (distributeFiles load routing known paths s).1 =
        paths.foldl (distributeFile (loaded load) (returned routing) known) s) := by
  induction paths generalizing s with
  | nil => simp [distributeFiles]
  | cons path rest ih =>
      obtain ⟨once, distinct_rest⟩ := List.nodup_cons.mp distinct
      by_cases passes : ∀ content, s.inQueue.files.get path = some content →
          Routable load routing path content
      · rw [distributeFiles_cons rest passes, List.forall_mem_cons, List.foldl_cons]
        obtain ⟨returns, done⟩ := ih
          (distributeFile (loaded load) (returned routing) known s path) distinct_rest
        refine ⟨?_, done⟩
        rw [returns, and_iff_right passes]
        refine forall₂_congr fun name member => ?_
        have different : path ≠ name := by
          rintro rfl
          exact once member
        rw [distributeFile_other different]
      · simp only [not_forall] at passes
        obtain ⟨content, found, fails⟩ := passes
        have escapes := distributeFiles_escapes known rest found fails
        refine ⟨iff_of_false escapes fun all => ?_, fun quiet => absurd quiet escapes⟩
        exact fails (all path List.mem_cons_self content found)

/-! ## The iteration -/

/-- The file has left the in-queue, and every queue that one of the names stands for has it. -/
structure Distributed (queues : List OutQueue) (names : List String) (s : Spool F)
    (path : String) (content : F) : Prop where
  left : s.inQueue.files.get path = none
  copied : ∀ dir, IsTarget (outQueuesByName queues) names dir →
    (s.outDirs dir).files.get path = some content

variable [CaseMapping]

/-- The content of a ready file when the distribution begins. -/
def readyFile (load : F → Except QueueException ListenerObject)
    (hooks : String → ListenerObject → PreprocessHooks F) (q : QueueDir F) (name : String) :
    Option F :=
  renamedTo load hooks q (plainFiles q) name

/-- One failing object does not stop the in-queue: the iteration returns, every file that was
    not ready has been attempted, and if there is an out queue every ready file whose hooks
    succeed has been distributed. -/
structure Unaffected (load : F → Except QueueException ListenerObject)
    (hooks : String → ListenerObject → PreprocessHooks F)
    (routing : String → ListenerObject → HookCall (List String)) (queues : List OutQueue)
    (s : Spool F) (pass : LoopPass F) : Prop where
  returns : pass.escaped = none
  attempted : ∀ name ∈ plainFiles s.inQueue, name ∈ pass.attempted
  distributed : queues ≠ [] → ∀ name content obj results, isReady name = true →
    readyFile load hooks s.inQueue name = some content → load content = .ok obj →
    (routing name obj).await = .ok results →
      Distributed queues (schoolAuthorityNames results) pass.spool name content

theorem preprocessing_spec (load : F → Except QueueException ListenerObject)
    (hooks : String → ListenerObject → PreprocessHooks F) (q : QueueDir F) :
    let pre := preprocessFiles load hooks (plainFiles q) q.purge
    (pre.escaped = none ↔ ∀ name ∈ plainFiles q, Preprocessable load hooks q name) ∧
    (pre.escaped = none → pre.attempted = plainFiles q ∧
      ∀ name, isReady name = true →
        pre.inQueue.files.get name = readyFile load hooks q name) := by
  have plain : ∀ name ∈ plainFiles q, isReady name = false ∧ isJson name = true := by
    intro name member
    obtain ⟨listed, other⟩ := List.mem_filter.mp member
    exact ⟨by simpa using other, (QueueDir.mem_queueFiles.mp listed).2⟩
  have distinct : (plainFiles q).Nodup :=
    q.files.names_nodup.sublist (List.filter_sublist.trans List.filter_sublist)
  have same : ∀ {name}, isJson name = true → q.purge.files.get name = q.files.get name := by
    intro name json
    rw [QueueDir.purge_files, if_pos json]
  obtain ⟨returns, done⟩ := preprocessFiles_spec load hooks q.purge
    (fun name member => (plain name member).1) distinct
  refine ⟨returns.trans ?_, fun quiet => ⟨(done quiet).1, fun name ready => ?_⟩⟩
  · exact forall₂_congr fun name member => preprocessable_congr (same (plain name member).2)
  · have contents : ((plainFiles q).filterMap fun path =>
        if readyName path = name then preprocessed load hooks q.purge path else none) =
          (plainFiles q).filterMap fun path =>
            if readyName path = name then preprocessed load hooks q path else none :=
      List.filterMap_congr fun path member => by
        rw [preprocessed_congr (same (plain path member).2)]
    rw [(done quiet).2 name ready, readyFile, renamedTo, renamedTo, contents,
      same (isJson_of_ready ready)]

/-- The distribution after the preprocessing has gone well. -/
theorem distributing_spec (routing : String → ListenerObject → HookCall (List String))
    {q : QueueDir F} (queues : List OutQueue) {s : Spool F}
    (contents : ∀ name, isReady name = true →
      s.inQueue.files.get name = readyFile load hooks q name) :
    let run := distributeFiles load routing (outQueuesByName queues)
      (s.inQueue.queueFiles.filter (isReady ·)) { s with inQueue := s.inQueue.purge }
    (run.2 = none ↔ ∀ name content, isReady name = true →
      readyFile load hooks q name = some content → Routable load routing name content) ∧
    (run.2 = none → run.1 = distribute (loaded load) (returned routing) queues s) := by
  have distinct : (s.inQueue.queueFiles.filter (isReady ·)).Nodup :=
    s.inQueue.files.names_nodup.sublist (List.filter_sublist.trans List.filter_sublist)
  obtain ⟨returns, done⟩ := distributeFiles_spec load routing (outQueuesByName queues)
    { s with inQueue := s.inQueue.purge } distinct
  refine ⟨returns.trans ⟨?_, ?_⟩, done⟩
  · intro all name content ready file
    have json := isJson_of_ready ready
    have found := (contents name ready).trans file
    have listed := QueueDir.mem_queueFiles.mpr ⟨⟨content, found⟩, json⟩
    apply all name (List.mem_filter.mpr ⟨listed, ready⟩) content
    rw [QueueDir.purge_files, if_pos json, found]
  · intro all name member content found
    obtain ⟨_, ready⟩ := List.mem_filter.mp member
    rw [QueueDir.purge_files, if_pos (isJson_of_ready ready), contents name ready] at found
    exact all name content ready found

theorem distributed_of_distribute {queues : List OutQueue} {s : Spool F} {name : String}
    {content : F} {obj : ListenerObject} {results : List (List String)}
    (ready : isReady name = true) (found : s.inQueue.files.get name = some content)
    (loads : load content = .ok obj) (returns : (routing name obj).await = .ok results) :
    Distributed queues (schoolAuthorityNames results)
      (distribute (loaded load) (returned routing) queues s) name content := by
  have after := whereabouts_distribute (loaded load) (returned routing) queues s ready
  have selected : selectedAuthorities (loaded load) (returned routing) name content =
      schoolAuthorityNames results := by
    simp [selectedAuthorities, loaded, loads, Except.toOption, returned, returns]
  simp only [disposed, Spool.whereabouts, found, selected] at after
  split at after
  next nobody =>
    have waiting := congrArg Whereabouts.waiting after
    refine ⟨waiting, ?_⟩
    rintro dir ⟨other, member, _⟩
    simp [nobody] at member
  next =>
    have waiting := congrArg Whereabouts.waiting after
    refine ⟨waiting, fun dir target => ?_⟩
    have copies := congrFun (congrArg Whereabouts.out after) dir
    rw [← selected] at target
    simpa [target] using copies

end Loop

section Examples

attribute [local instance] asciiCaseMapping

/-- Fetching the password hashes of one user fails with an LDAP error. -/
def ldapError (path : String) (_ : ListenerObject) : PreprocessHooks String :=
  ⟨.ok [if path = "001.json" then .error .other else .ok false], .ok [], ""⟩

def demoIncoming : Spool String :=
  ⟨{ QueueDir.empty with
      files := (Directory.empty.put "001.json" "anna").put "002.json" "berta" }, fun _ => .empty⟩

end Examples

end IdConnector
