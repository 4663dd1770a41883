import IdConnector.Files

/-! # Moved files

A file of a queue is renamed when it has been preprocessed, and moved to `trash` or `keep` when
it has been handled. The three calls treat a file that is already at the new place in three
ways. Without such a file nothing is lost in any run (`contents_run`).
-/

namespace IdConnector

open Library

/-- The calls that move a file of a queue. -/
inductive FileMove where
  | preprocess
  | discard
  | keep

/-- Where a moved file can be. -/
inductive Place where
  | queue (name : String)
  | trash (name : String)
  | keep (name : String)
  deriving DecidableEq

/-- Where the file is to be after the call. -/
def FileMove.target : FileMove → String → Place
  | .preprocess, name => .queue (readyName name)
  | .discard, name => .trash name
  | .keep, name => .keep name

/-- What is before the last dot gets longer each time a file is renamed. -/
theorem readyName_ne_self (name : String) : readyName name ≠ name := by
  intro same
  have split : readyName name =
      Text.beforeLast '.' name ++ "_ready" ++ String.ofList ('.' :: "json".toList) := by
    apply String.toList_inj.mp
    simp [readyName]
  have longer : Text.beforeLast '.' (readyName name) = Text.beforeLast '.' name ++ "_ready" := by
    rw [split, Text.beforeLast_append (by decide)]
  rw [same] at longer
  have length := congrArg String.length longer
  rw [String.length_append] at length
  simp at length

namespace QueueDir

variable {F : Type}

def fileAt (q : QueueDir F) : Place → Option F
  | .queue name => q.files.get name
  | .trash name => q.trash.get name
  | .keep name => q.keep.get name

/-- The renaming at the end of `preprocess_file`. -/
def preprocessRename (q : QueueDir F) (name : String) : QueueDir F :=
  { q with files := q.files.rename name (readyName name) }

def move (q : QueueDir F) (name : String) : FileMove → QueueDir F
  | .preprocess => q.preprocessRename name
  | .discard => q.discardFile name
  | .keep => q.keepFile name

def run (q : QueueDir F) (calls : List (FileMove × String)) : QueueDir F :=
  calls.foldl (fun q call => q.move call.2 call.1) q

/-- What a call does with a file. Nothing is said of a file that was under the new name when
    another one is renamed to it. -/
structure Moved (move : FileMove) (name : String) (content : F) (q q' : QueueDir F) : Prop where
  others : ∀ place, place ≠ .queue name → place ≠ move.target name →
    q'.fileAt place = q.fileAt place
  arrived : move = .preprocess ∨ q.fileAt (move.target name) = none →
    q'.fileAt (.queue name) = none ∧ q'.fileAt (move.target name) = some content
  discarded : move = .discard → ∀ old, q.fileAt (.trash name) = some old →
    q'.fileAt (.queue name) = none ∧ q'.fileAt (.trash name) = some old
  left : move = .keep → ∀ old, q.fileAt (.keep name) = some old → q' = q

variable {q : QueueDir F} {name : String} {content : F}

theorem move_preprocess (found : q.files.get name = some content) :
    Moved .preprocess name content q (q.move name .preprocess) where
  others place notOld notNew := by
    cases place with
    | queue other =>
        have different : readyName name ≠ other ∧ name ≠ other :=
          ⟨fun same => notNew (same ▸ rfl), fun same => notOld (same ▸ rfl)⟩
        simp [move, preprocessRename, fileAt, Directory.get_rename found, different]
    | trash | keep => rfl
  arrived _ := by
    simp [move, preprocessRename, fileAt, FileMove.target, Directory.get_rename found,
      readyName_ne_self]
  discarded := nofun
  left := nofun

theorem move_discard (found : q.files.get name = some content) :
    Moved .discard name content q (q.move name .discard) where
  others place notOld notNew := by
    cases place with
    | queue other =>
        have different : name ≠ other := fun same => notOld (same ▸ rfl)
        simp [move, fileAt, discardFile_files, different]
    | trash other =>
        have different : name ≠ other := fun same => notNew (same ▸ rfl)
        simp only [move, fileAt, discardFile, found]
        split
        next => rfl
        next => rw [Directory.get_put, if_neg different]
    | keep other => simp only [move, fileAt, discardFile, found]
  arrived free := by
    have free : q.trash.get name = none := free.resolve_left nofun
    simp [move, fileAt, FileMove.target, discardFile, found, free]
  discarded _ old taken := by
    have taken : q.trash.get name = some old := taken
    simp [move, fileAt, discardFile, found, taken]
  left := nofun

theorem move_keep (found : q.files.get name = some content) :
    Moved .keep name content q (q.move name .keep) where
  others place notOld notNew := by
    simp only [move, keepFile, found]
    split
    next => rfl
    next =>
      cases place with
      | queue other =>
          have different : name ≠ other := fun same => notOld (same ▸ rfl)
          simp [fileAt, Directory.get_remove, different]
      | trash other => rfl
      | keep other =>
          have different : name ≠ other := fun same => notNew (same ▸ rfl)
          simp [fileAt, Directory.get_put, different]
  arrived free := by
    have free : q.keep.get name = none := free.resolve_left (by simp)
    simp [move, fileAt, FileMove.target, keepFile, found, free]
  discarded := by simp
  left _ old taken := by
    have taken : q.keep.get name = some old := taken
    simp [move, keepFile, found, taken]

/-- Every call of a run does with its file what it is to do, and leaves all other files alone. -/
theorem moved_in_run (q : QueueDir F) (calls : List (FileMove × String)) (move : FileMove)
    (found : (q.run calls).files.get name = some content) :
    Moved move name content (q.run calls) (q.run (calls ++ [(move, name)])) := by
  have step : q.run (calls ++ [(move, name)]) = (q.run calls).move name move := by
    simp [run]
  rw [step]
  cases move with
  | preprocess => exact move_preprocess found
  | discard => exact move_discard found
  | keep => exact move_keep found

/-! ## Runs without a file at a new place -/

/-- What the files hold, wherever they are. -/
def contents (q : QueueDir F) : Multiset F :=
  q.files.contents + q.trash.contents + q.keep.contents

/-- No call of the run finds a file at the new place of its own. -/
def Unobstructed (q : QueueDir F) : List (FileMove × String) → Prop
  | [] => True
  | (move, name) :: rest =>
      q.fileAt (move.target name) = none ∧ (q.move name move).Unobstructed rest

theorem contents_move {move : FileMove} (free : q.fileAt (move.target name) = none) :
    (q.move name move).contents = q.contents := by
  cases found : q.files.get name with
  | none =>
      cases move <;> simp [QueueDir.move, preprocessRename, discardFile, keepFile,
        Directory.rename, found]
  | some content =>
      have taken := Directory.contents_remove found
      unfold contents
      cases move with
      | preprocess =>
          have free : (q.files.remove name).get (readyName name) = none := by
            rw [Directory.get_remove, if_neg (readyName_ne_self name).symm]
            exact free
          simp only [QueueDir.move, preprocessRename, Directory.rename, found]
          rw [Directory.contents_put free, taken]
      | discard =>
          have free : q.trash.get name = none := free
          simp only [QueueDir.move, discardFile, found, free, Option.isSome_none,
            Bool.false_eq_true, if_false]
          rw [Directory.contents_put free, Multiset.add_cons, ← Multiset.cons_add, taken]
      | keep =>
          have free : q.keep.get name = none := free
          simp only [QueueDir.move, keepFile, found, free, Option.isSome_none,
            Bool.false_eq_true, if_false]
          rw [Directory.contents_put free, Multiset.add_cons, ← Multiset.cons_add,
            ← Multiset.cons_add, taken]

theorem contents_run {calls : List (FileMove × String)} (free : q.Unobstructed calls) :
    (q.run calls).contents = q.contents := by
  induction calls generalizing q with
  | nil => rfl
  | cons call rest ih => exact (ih free.2).trans (contents_move free.1)

end QueueDir

section Examples

open QueueDir

/-- The file is at its new place only, and all other files are where they were. -/
def StaysSafe {F : Type} (move : FileMove) (name : String) (content : F) (q q' : QueueDir F) :
    Prop :=
  q'.fileAt (.queue name) = none ∧ q'.fileAt (move.target name) = some content ∧
    ∀ place old, place ≠ .queue name → q.fileAt place = some old → q'.fileAt place = some old

def twoFiles : QueueDir Nat where
  files := (Directory.empty.put "001.json" 1).put "001.JSON" 2
  trash := Directory.empty.put "001.json" 3
  keep := Directory.empty.put "001.json" 4

theorem collisions_are_not_safe :
    ¬ StaysSafe .discard "001.json" 1 twoFiles (twoFiles.move "001.json" .discard) ∧
      ¬ StaysSafe .keep "001.json" 1 twoFiles (twoFiles.move "001.json" .keep) ∧
      ¬ StaysSafe .preprocess "001.JSON" 2 (twoFiles.move "001.json" .preprocess)
        ((twoFiles.move "001.json" .preprocess).move "001.JSON" .preprocess) := by
  refine ⟨fun safe => absurd safe.2.1 (by decide), fun safe => absurd safe.1 (by decide),
    fun safe => ?_⟩
  exact absurd (safe.2.2 (.queue "001_ready.json") 1 (by decide) (by decide)) (by decide)

theorem moved_in_run_demo :
    Moved .discard "001.JSON" 2 (twoFiles.run [(.preprocess, "001.json")])
      (twoFiles.run ([(.preprocess, "001.json")] ++ [(.discard, "001.JSON")])) :=
  moved_in_run twoFiles [(.preprocess, "001.json")] .discard (by decide)

end Examples

end IdConnector
