import IdConnector.Files
import IdConnector.Library.Path
import IdConnector.Rpc

/-! # The files of two authorities

The name of an authority goes unchecked into the path of its out queue and into that of its
configuration file. `isolated_iff` says for which names two authorities cannot get in each
other's way.
-/

namespace IdConnector

open Library Library.Path

def appBasePath : Location :=
  ["var", "lib", "univention-appcenter", "apps", "ucsschool-id-connector"]

def outQueueTopDir : Location := appBasePath ++ ["data", "out_queues"]

def outQueueTrashDir : Location := appBasePath ++ ["data", "out_queues_trash"]

def schoolAuthoritiesConfigPath : Location := appBasePath ++ ["conf", "school_authorities"]

/-- `OUT_QUEUE_TOP_DIR / school_authority.name` -/
def OutQueue.location (q : OutQueue) : Location := join outQueueTopDir q.path

/-- The path that `save_school_authorities` and `delete_school_authority` use. -/
def configPath (name : String) : Location := join schoolAuthoritiesConfigPath (name ++ ".json")

section Operations

variable {F : Type}

/-- `discard_file` for an entry of the queue directory. -/
def discardEntry (queue : Location) (t : FileTree F) (entry : String) : FileTree F :=
  let path := queue ++ [entry]
  match moveTo t path (queue ++ ["trash"]) with
  | some moved => moved
  | none =>
      match t path with
      | some (.file _) => unlink t path
      | _ => t

/-- `keep_file` -/
def keepEntry (queue : Location) (t : FileTree F) (entry : String) : FileTree F :=
  (moveTo t (queue ++ [entry]) (queue ++ ["keep"])).getD t

/-- What `queue_files` does to an entry that `os.scandir` lists. -/
def checkEntry [CaseMapping] (queue : Location) (t : FileTree F) (entry : String) : FileTree F :=
  match t (queue ++ [entry]) with
  | some .dir => if entry = "keep" ∨ entry = "trash" then t else discardEntry queue t entry
  | some (.file _) => if isJson entry then t else discardEntry queue t entry
  | none => discardEntry queue t entry

/-- `delete_queue`, with the time of the call. -/
def moveQueue (timestamp : String) (queue : Location) (t : FileTree F) : FileTree F :=
  let made := makeDirs t outQueueTrashDir
  let target := outQueueTrashDir ++ [timestamp ++ "." ++ queue.getLast?.getD ""]
  (moveTo made queue target).getD made

/-- The operations of a queue on its directory. -/
inductive QueueOperation where
  | queueFiles (entries : List String)
  | discardFile (entry : String)
  | keepFile (entry : String)
  | deleteQueue (timestamp : String)

def QueueOperation.run [CaseMapping] (queue : Location) (t : FileTree F) :
    QueueOperation → FileTree F
  | queueFiles entries => entries.foldl (checkEntry queue) t
  | discardFile entry => discardEntry queue t entry
  | keepFile entry => keepEntry queue t entry
  | deleteQueue timestamp => moveQueue timestamp queue t

/-- `school_authority_config_files`, for the entries that `os.scandir` lists. -/
def schoolAuthorityConfigFiles [CaseMapping] (t : FileTree F) (entries : List String) :
    List Location :=
  (entries.filter fun entry =>
    match t (schoolAuthoritiesConfigPath ++ [entry]) with
    | some (.file _) => isJson entry
    | _ => false).map fun entry => schoolAuthoritiesConfigPath ++ [entry]

/-! ## What the operations leave alone -/

variable {queue loc : Location} {t : FileTree F}

theorem not_below {entry : String} (outside : ¬ queue <+: loc) : ¬ queue ++ [entry] <+: loc :=
  fun inside => outside ((List.prefix_append queue _).trans inside)

theorem discardEntry_elsewhere (entry : String) (outside : ¬ queue <+: loc) :
    discardEntry queue t entry loc = t loc := by
  have other : loc ≠ queue ++ [entry] := by
    rintro rfl
    exact outside (List.prefix_append queue _)
  cases moved : moveTo t (queue ++ [entry]) (queue ++ ["trash"]) with
  | some t' =>
      simp only [discardEntry, moved]
      exact moveTo_elsewhere moved (not_below outside) (not_below outside)
  | none =>
      simp only [discardEntry, moved]
      cases t (queue ++ [entry]) with
      | none => rfl
      | some node =>
          cases node with
          | dir => rfl
          | file content => exact if_neg other

theorem keepEntry_elsewhere (entry : String) (outside : ¬ queue <+: loc) :
    keepEntry queue t entry loc = t loc := by
  unfold keepEntry
  cases moved : moveTo t (queue ++ [entry]) (queue ++ ["keep"]) with
  | none => rfl
  | some t' => exact moveTo_elsewhere moved (not_below outside) (not_below outside)

theorem checkEntry_elsewhere [CaseMapping] (entry : String) (outside : ¬ queue <+: loc) :
    checkEntry queue t entry loc = t loc := by
  have discarded := discardEntry_elsewhere (t := t) entry outside
  unfold checkEntry
  cases t (queue ++ [entry]) with
  | none => exact discarded
  | some node =>
      cases node with
      | dir => by_cases own : entry = "keep" ∨ entry = "trash" <;> simp [own, discarded]
      | file content => by_cases json : isJson entry = true <;> simp [json, discarded]

theorem moveQueue_elsewhere (timestamp : String) (outside : ¬ queue <+: loc)
    (notTrash : ¬ outQueueTrashDir <+: loc) (notAbove : ¬ loc <+: outQueueTrashDir) :
    moveQueue timestamp queue t loc = t loc := by
  unfold moveQueue
  cases moved : moveTo (makeDirs t outQueueTrashDir) queue
      (outQueueTrashDir ++ [timestamp ++ "." ++ queue.getLast?.getD ""]) with
  | none => exact makeDirs_elsewhere notAbove
  | some t' =>
      exact (moveTo_elsewhere moved outside (not_below notTrash)).trans
        (makeDirs_elsewhere notAbove)

/-- An operation on a queue changes nothing outside its directory but the directory of the
    deleted queues. -/
theorem QueueOperation.run_elsewhere [CaseMapping] (op : QueueOperation)
    (outside : ¬ queue <+: loc) (notTrash : ¬ outQueueTrashDir <+: loc)
    (notAbove : ¬ loc <+: outQueueTrashDir) : op.run queue t loc = t loc := by
  cases op with
  | queueFiles entries =>
      simp only [run]
      induction entries generalizing t with
      | nil => rfl
      | cons entry rest ih => exact ih.trans (checkEntry_elsewhere entry outside)
  | discardFile entry => exact discardEntry_elsewhere entry outside
  | keepFile entry => exact keepEntry_elsewhere entry outside
  | deleteQueue timestamp => exact moveQueue_elsewhere timestamp outside notTrash notAbove

end Operations

/-! ## Which names are safe -/

/-- The text is a relative path of a single part, with which it ends, and that is not `..`. -/
def IsPlainName (name : String) : Prop :=
  isAbsolute name = false ∧ (segments name).1.filter isPart = [] ∧
    isPart (segments name).2 = true ∧ (segments name).2 ≠ ".."

theorem segments_json (name : String) :
    segments (name ++ ".json") = ((segments name).1, (segments name).2 ++ ".json") :=
  segments_append (by decide)

theorem isPart_json (segment : String) : isPart (segment ++ ".json") = true := by
  have long : 5 ≤ (segment ++ ".json").length := by
    rw [String.length_append]
    exact Nat.le_add_left 5 _
  simp only [isPart, decide_eq_true_eq]
  constructor
  · intro same
    rw [same] at long
    exact absurd long (by decide)
  · intro same
    rw [same] at long
    exact absurd long (by decide)

theorem join_plain {name : String} (plain : IsPlainName name) (dir : Location) :
    join dir name = dir ++ [(segments name).2] := by
  obtain ⟨relative, before, last, _⟩ := plain
  simp [join, relative, parts, List.filter_append, before, last]

theorem parts_json (name : String) :
    parts (name ++ ".json") = (segments name).1.filter isPart ++ [(segments name).2 ++ ".json"] := by
  simp [parts, segments_json, List.filter_append, isPart_json]

theorem isAbsolute_json {name : String} (relative : isAbsolute name = false) :
    isAbsolute (name ++ ".json") = false := by
  by_cases named : name = ""
  · subst named
    decide
  · exact (isAbsolute_append ".json" named).trans relative

theorem configPath_plain {name : String} (plain : IsPlainName name) :
    configPath name = schoolAuthoritiesConfigPath ++ [(segments name).2 ++ ".json"] := by
  obtain ⟨relative, before, last, _⟩ := plain
  rw [configPath, join, isAbsolute_json relative, parts_json, before]
  rfl

/-- Only a plain name makes both a queue directory and a configuration file in their places. -/
theorem isPlainName_of_children {name : String}
    (queue : IsChild outQueueTopDir (join outQueueTopDir name))
    (config : IsChild schoolAuthoritiesConfigPath (configPath name)) : IsPlainName name := by
  obtain ⟨dirName, notUp, queue_at⟩ := queue
  obtain ⟨fileName, _, config_at⟩ := config
  have split : parts name = (segments name).1.filter isPart ++ [(segments name).2].filter isPart :=
    List.filter_append ..
  cases absolute : isAbsolute name with
  | true =>
      have named : name ≠ "" := by
        rintro rfl
        exact absurd absolute (by decide)
      have absolute_json := (isAbsolute_append ".json" named).trans absolute
      rw [configPath, join, if_pos absolute_json, parts_json] at config_at
      rw [join, if_pos absolute, split] at queue_at
      have before : (segments name).1.filter isPart = schoolAuthoritiesConfigPath :=
        (List.append_inj' config_at rfl).1
      rw [before] at queue_at
      -- the directories of the queues and of the configuration have the same depth
      by_cases last : isPart (segments name).2 = true
      · rw [List.filter_cons_of_pos last, List.filter_nil] at queue_at
        have same := (List.append_inj' queue_at rfl).1
        exact absurd same (by decide)
      · rw [List.filter_cons_of_neg last, List.filter_nil] at queue_at
        have depth := congrArg List.length queue_at
        simp [schoolAuthoritiesConfigPath, outQueueTopDir, appBasePath] at depth
  | false =>
      rw [configPath, join, isAbsolute_json absolute, parts_json] at config_at
      rw [join, absolute, split] at queue_at
      have config_parts := List.append_cancel_left config_at
      have before : (segments name).1.filter isPart = [] := by
        have one := congrArg List.length config_parts
        simpa using one
      rw [before] at queue_at
      have queue_parts := List.append_cancel_left queue_at
      by_cases last : isPart (segments name).2 = true
      · rw [List.filter_cons_of_pos last, List.filter_nil] at queue_parts
        obtain rfl : (segments name).2 = dirName := by simpa using queue_parts
        exact ⟨absolute, before, last, notUp⟩
      · rw [List.filter_cons_of_neg last] at queue_parts
        simp at queue_parts

/-! ## Two authorities -/

section Isolation

variable [CaseMapping]

/-- The files of two authorities are where they belong, the operations on one queue leave the
    other alone, and both configuration files are found again. -/
structure Isolated (a b : SchoolAuthorityConfiguration) : Prop where
  children : IsChild outQueueTopDir (OutQueue.fromSchoolAuthority a).location ∧
    IsChild outQueueTopDir (OutQueue.fromSchoolAuthority b).location
  apart : ¬ (OutQueue.fromSchoolAuthority a).location <+: (OutQueue.fromSchoolAuthority b).location ∧
    ¬ (OutQueue.fromSchoolAuthority b).location <+: (OutQueue.fromSchoolAuthority a).location
  untouched : ∀ {F : Type} (t : FileTree F) (op : QueueOperation) (loc : Location),
    ((OutQueue.fromSchoolAuthority b).location <+: loc →
      op.run (OutQueue.fromSchoolAuthority a).location t loc = t loc) ∧
    ((OutQueue.fromSchoolAuthority a).location <+: loc →
      op.run (OutQueue.fromSchoolAuthority b).location t loc = t loc)
  stored : IsChild schoolAuthoritiesConfigPath (configPath a.name) ∧
    IsChild schoolAuthoritiesConfigPath (configPath b.name)
  distinct : configPath a.name ≠ configPath b.name
  found : ∀ {F : Type} (t : FileTree F) (entries : List String) (content : F),
    (∀ entry, t (schoolAuthoritiesConfigPath ++ [entry]) ≠ none → entry ∈ entries) →
    (t (configPath a.name) = some (.file content) →
      configPath a.name ∈ schoolAuthorityConfigFiles t entries) ∧
    (t (configPath b.name) = some (.file content) →
      configPath b.name ∈ schoolAuthorityConfigFiles t entries)

/-- The directory of a queue in its place is not among those of deleted queues. -/
theorem run_apart {F : Type} {a b : String} (different : a ≠ b) (t : FileTree F)
    (op : QueueOperation) {loc : Location} (inside : outQueueTopDir ++ [b] <+: loc) :
    op.run (outQueueTopDir ++ [a]) t loc = t loc := by
  obtain ⟨tail, rfl⟩ := inside
  apply op.run_elsewhere
  · rintro ⟨rest, same⟩
    rw [List.append_assoc, List.append_assoc] at same
    obtain ⟨rfl, _⟩ := List.cons.inj (List.append_cancel_left same)
    exact different rfl
  · rintro ⟨rest, same⟩
    simp [outQueueTrashDir, outQueueTopDir, appBasePath] at same
  · rintro ⟨rest, same⟩
    simp [outQueueTrashDir, outQueueTopDir, appBasePath] at same

theorem config_found {F : Type} {name : String} (plain : IsPlainName name) {t : FileTree F}
    {entries : List String} {content : F}
    (listed : ∀ entry, t (schoolAuthoritiesConfigPath ++ [entry]) ≠ none → entry ∈ entries)
    (stored : t (configPath name) = some (.file content)) :
    configPath name ∈ schoolAuthorityConfigFiles t entries := by
  rw [configPath_plain plain] at stored ⊢
  have json : isJson ((segments name).2 ++ ".json") = true :=
    isJson_of_endsWith (Text.endsWith_append _ _)
  apply List.mem_map_of_mem
  rw [List.mem_filter, stored]
  exact ⟨listed _ (by rw [stored]; simp), json⟩

/-- Two authorities are isolated exactly if their names are plain and end in different parts. -/
theorem isolated_iff (a b : SchoolAuthorityConfiguration) :
    Isolated a b ↔
      IsPlainName a.name ∧ IsPlainName b.name ∧ (segments a.name).2 ≠ (segments b.name).2 := by
  have location : ∀ {config : SchoolAuthorityConfiguration}, IsPlainName config.name →
      (OutQueue.fromSchoolAuthority config).location =
        outQueueTopDir ++ [(segments config.name).2] :=
    fun plain => join_plain plain outQueueTopDir
  constructor
  · intro isolated
    have plain_a : IsPlainName a.name :=
      isPlainName_of_children isolated.children.1 isolated.stored.1
    have plain_b : IsPlainName b.name :=
      isPlainName_of_children isolated.children.2 isolated.stored.2
    refine ⟨plain_a, plain_b, fun same => ?_⟩
    apply isolated.distinct
    rw [configPath_plain plain_a, configPath_plain plain_b, same]
  · rintro ⟨plain_a, plain_b, different⟩
    have apart : ∀ {x y : String}, x ≠ y → ¬ outQueueTopDir ++ [x] <+: outQueueTopDir ++ [y] := by
      intro x y other inside
      rw [List.prefix_append_right_inj] at inside
      exact other (by simpa using inside)
    have isFile : ∀ (segment : String), segment ++ ".json" ≠ ".." := by
      intro segment same
      have long := congrArg String.length same
      rw [String.length_append] at long
      have ending : (".json" : String).length = 5 := rfl
      have two : (".." : String).length = 2 := rfl
      omega
    constructor
    · rw [location plain_a, location plain_b]
      exact ⟨⟨_, plain_a.2.2.2, rfl⟩, ⟨_, plain_b.2.2.2, rfl⟩⟩
    · rw [location plain_a, location plain_b]
      exact ⟨apart different, apart different.symm⟩
    · intro F t op loc
      rw [location plain_a, location plain_b]
      exact ⟨fun inside => run_apart different t op inside,
        fun inside => run_apart different.symm t op inside⟩
    · rw [configPath_plain plain_a, configPath_plain plain_b]
      exact ⟨⟨_, isFile _, rfl⟩, ⟨_, isFile _, rfl⟩⟩
    · rw [configPath_plain plain_a, configPath_plain plain_b]
      intro same
      have names := List.append_cancel_left same
      simp only [List.cons.injEq, and_true] at names
      have texts := congrArg String.toList names
      simp only [String.toList_append] at texts
      exact different (String.toList_inj.mp (List.append_cancel_right texts))
    · intro F t entries content listed
      exact ⟨config_found plain_a listed, config_found plain_b listed⟩

end Isolation

section Examples

attribute [local instance] asciiCaseMapping typedPydantic

open SimpleRpcServer

/-- The queue of the second authority is a directory in that of the first. -/
def nestedQueues : FileTree String := fun loc =>
  if loc = outQueueTopDir ++ ["Traeger1"] ∨ loc = outQueueTopDir ++ ["Traeger1", "trash"] ∨
    loc = outQueueTopDir ++ ["Traeger1", "b"] then some .dir else none

/-- Both names are accepted, and listing the files of the first queue moves the second away. -/
theorem nested_queue_moved :
    let first := createRequest "Traeger1" "s3cr3t"
    let second := createRequest "Traeger1/b" "s3cr3t"
    let server := (serve {} (some first) (.start [])).2
    (serve {} (some first) (.start [])).1.hasErrors = false ∧
      (serve {} (some second) server).1.hasErrors = false ∧
      (∀ a b : SchoolAuthorityConfiguration, a.name = "Traeger1" → b.name = "Traeger1/b" →
        ¬ Isolated a b) ∧
      (QueueOperation.queueFiles ["trash", "b"]).run (outQueueTopDir ++ ["Traeger1"]) nestedQueues
        (outQueueTopDir ++ ["Traeger1", "b"]) = none := by
  refine ⟨rfl, rfl, ?_, rfl⟩
  intro a b name_a name_b isolated
  obtain ⟨part, _, child⟩ := isolated.children.2
  have location : (OutQueue.fromSchoolAuthority b).location =
      join outQueueTopDir "Traeger1/b" := congrArg (join outQueueTopDir) name_b
  rw [location] at child
  have depth := congrArg List.length child
  rw [List.length_append, List.length_singleton] at depth
  exact absurd depth (by decide)

end Examples

end IdConnector
