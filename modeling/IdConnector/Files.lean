import IdConnector.Library.Directory
import IdConnector.Library.Text
import IdConnector.Models

/-! # Queue directories

The file operations of `FileQueue`. A queue directory holds the files waiting to
be handled and the sub-directories `trash` and `keep`; other sub-directories
are not represented. `discard_file` and `keep_file` differ when the sub-directory
already has a file of that name: the first then deletes the file, the second
leaves it where it is.
-/

namespace IdConnector

open Library

/-- The directory of a queue with its trash and keep directories. -/
structure QueueDir (F : Type) where
  files : Directory F
  trash : Directory F
  keep : Directory F

def isJson [CaseMapping] (name : String) : Bool := Text.endsWith (lower name) ".json"

def isReady (name : String) : Bool := Text.endsWith name "_ready.json"

/-- The name `preprocess_file` renames a file to. -/
def readyName (name : String) : String := Text.beforeLast '.' name ++ "_ready.json"

/-- The name under which a file is distributed. -/
def finalName (name : String) : String := if isReady name then name else readyName name

@[simp] theorem isReady_readyName (name : String) : isReady (readyName name) = true :=
  Text.endsWith_append _ _

@[simp] theorem isReady_finalName (name : String) : isReady (finalName name) = true := by
  unfold finalName
  split
  next ready => exact ready
  next => exact isReady_readyName name

theorem finalName_of_ready {name : String} (ready : isReady name = true) : finalName name = name :=
  if_pos ready

theorem finalName_of_plain {name : String} (plain : isReady name = false) :
    finalName name = readyName name :=
  if_neg (by simp [plain])

theorem isJson_of_endsWith [CaseMapping] {name : String}
    (ending : Text.endsWith name ".json" = true) : isJson name = true :=
  Text.endsWith_lower (by simp [IsLowerAscii]) ending

theorem isJson_of_ready [CaseMapping] {name : String} (ready : isReady name = true) :
    isJson name = true := by
  apply isJson_of_endsWith
  rw [isReady, Text.endsWith, List.isSuffixOf_iff_suffix] at ready
  rw [Text.endsWith, List.isSuffixOf_iff_suffix]
  exact List.IsSuffix.trans (by decide) ready

namespace QueueDir

variable {F : Type}

def empty : QueueDir F := ⟨.empty, .empty, .empty⟩

/-- `discard_file` -/
def discardFile (q : QueueDir F) (name : String) : QueueDir F :=
  match q.files.get name with
  | none => q
  | some content =>
      { q with
        files := q.files.remove name
        trash := if (q.trash.get name).isSome then q.trash else q.trash.put name content }

/-- `keep_file` -/
def keepFile (q : QueueDir F) (name : String) : QueueDir F :=
  match q.files.get name with
  | none => q
  | some content =>
      if (q.keep.get name).isSome then q
      else { q with files := q.files.remove name, keep := q.keep.put name content }

/-- The other effect of `queue_files`: files that are not JSON are discarded. -/
def purge [CaseMapping] (q : QueueDir F) : QueueDir F :=
  (q.files.names.filter fun name => !isJson name).foldl discardFile q

/-- The result of `queue_files`. -/
def queueFiles [CaseMapping] (q : QueueDir F) : List String := q.files.names.filter (isJson ·)

/-- `load_listener_file`, where `load` parses a document and asks the
    `get_listener_object` hooks. -/
def loadListenerFile (load : F → Option ListenerObject) (q : QueueDir F) (name : String) :
    Option ListenerObject :=
  (q.files.get name).bind load

/-- The queue has the file, in whichever of its directories. -/
def Holds (q : QueueDir F) (name : String) (content : F) : Prop :=
  q.files.get name = some content ∨ q.trash.get name = some content ∨ q.keep.get name = some content

/-- What moving files to `trash` and `keep` can do: a file stays in the queue unless the
    queue had two files of its name. -/
structure Settles (q q' : QueueDir F) : Prop where
  files : ∀ {name content}, q'.files.get name = some content → q.files.get name = some content
  holds : ∀ {name content}, q'.Holds name content → q.Holds name content
  kept : ∀ {name content}, (∀ other, q.Holds name other → other = content) →
    q.Holds name content → q'.Holds name content

theorem Settles.refl (q : QueueDir F) : Settles q q := ⟨id, id, fun _ held => held⟩

theorem Settles.trans {q q' q'' : QueueDir F} (first : Settles q q') (second : Settles q' q'') :
    Settles q q'' where
  files found := first.files (second.files found)
  holds held := first.holds (second.holds held)
  kept unique held :=
    second.kept (fun other held' => unique other (first.holds held')) (first.kept unique held)

theorem discardFile_files (q : QueueDir F) (name other : String) :
    (q.discardFile name).files.get other = if name = other then none else q.files.get other := by
  unfold discardFile
  split
  next missing =>
    split
    next same => exact same ▸ missing
    next => rfl
  next => exact Directory.get_remove q.files name other

theorem keepFile_files {q : QueueDir F} {name other : String} (different : name ≠ other) :
    (q.keepFile name).files.get other = q.files.get other := by
  grind [keepFile, Directory.get_remove]

theorem discardFile_settles (q : QueueDir F) (name : String) : Settles q (q.discardFile name) := by
  unfold discardFile
  split
  next => exact Settles.refl q
  next content found =>
    constructor
    · intro other _ left
      exact (Directory.get_of_get_remove left).1
    · intro other _ held
      grind [Holds, Directory.get_remove, Directory.get_put]
    · intro other old unique held
      by_cases same : name = other
      · subst same
        apply Or.inr ∘ Or.inl
        cases trashed : q.trash.get name with
        | none => simp [unique content (.inl found)]
        | some other => simp [trashed, unique other (.inr (.inl trashed))]
      · grind [Holds, Directory.get_remove, Directory.get_put]

theorem keepFile_settles (q : QueueDir F) (name : String) : Settles q (q.keepFile name) := by
  unfold keepFile
  split
  next => exact Settles.refl q
  next content found =>
    split
    next => exact Settles.refl q
    next =>
      constructor
      · intro other _ left
        exact (Directory.get_of_get_remove left).1
      · intro other _ held
        grind [Holds, Directory.get_remove, Directory.get_put]
      · intro other _ unique held
        grind [Holds, Directory.get_remove, Directory.get_put]

theorem foldl_discardFile_settles (names : List String) (q : QueueDir F) :
    Settles q (names.foldl discardFile q) := by
  induction names generalizing q with
  | nil => exact Settles.refl q
  | cons name rest ih => exact (discardFile_settles q name).trans (ih _)

theorem foldl_discardFile_files (names : List String) (q : QueueDir F) (other : String) :
    (names.foldl discardFile q).files.get other =
      if other ∈ names then none else q.files.get other := by
  induction names generalizing q with
  | nil => simp
  | cons name rest ih =>
      rw [List.foldl_cons, ih, discardFile_files]
      grind

section Listing

variable [CaseMapping]

theorem purge_settles (q : QueueDir F) : Settles q q.purge := foldl_discardFile_settles _ q

theorem mem_queueFiles {q : QueueDir F} {name : String} :
    name ∈ q.queueFiles ↔ (∃ content, q.files.get name = some content) ∧ isJson name := by
  rw [queueFiles, List.mem_filter, Directory.mem_names]

theorem purge_files (q : QueueDir F) (name : String) :
    q.purge.files.get name = if isJson name then q.files.get name else none := by
  rw [purge, foldl_discardFile_files]
  cases found : q.files.get name <;> grind [Directory.mem_names]

/-- After `queue_files` the directory has exactly the files of its result. -/
theorem mem_queueFiles_iff_purge {q : QueueDir F} {name : String} :
    name ∈ q.queueFiles ↔ ∃ content, q.purge.files.get name = some content := by
  rw [mem_queueFiles, purge_files]
  split <;> simp_all

theorem queueFiles_increasing (q : QueueDir F) : q.queueFiles.Pairwise (· < ·) :=
  q.files.names_increasing.sublist List.filter_sublist

end Listing

end QueueDir

end IdConnector
