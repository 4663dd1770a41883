import Mathlib.Data.List.Basic
import Mathlib.Data.String.Basic

/-! # Paths and a tree of files

Absolute paths as the lists of their parts from the root, joined like those of `pathlib`:
empty parts and `.` are dropped, `..` is kept, and an absolute text replaces what it is joined
to. A tree says what is at each location; a move changes only what lies below its source
and its target (`moveTo_elsewhere`).
-/

namespace Library.Path

abbrev Location := List String

/-! ## Joining a text to a path -/

/-- Add a character to the segments: those before the last `/` and the one after it. -/
def addChar (read : List String × String) (c : Char) : List String × String :=
  if c = '/' then (read.1 ++ [read.2], "") else (read.1, read.2.push c)

/-- The segments before the last `/`, and the segment after it. -/
def segments (s : String) : List String × String := s.toList.foldl addChar ([], "")

def isPart (segment : String) : Bool := segment ≠ "" ∧ segment ≠ "."

def parts (s : String) : Location :=
  ((segments s).1 ++ [(segments s).2]).filter isPart

def isAbsolute (s : String) : Bool := s.toList.head? = some '/'

def join (dir : Location) (s : String) : Location :=
  if isAbsolute s then parts s else dir ++ parts s

/-- The location is that of an entry of the directory. -/
def IsChild (dir loc : Location) : Prop := ∃ name, name ≠ ".." ∧ loc = dir ++ [name]

/-- A text without `/` goes to the end of the last segment. -/
theorem segments_append {s tail : String} (flat : '/' ∉ tail.toList) :
    segments (s ++ tail) = ((segments s).1, (segments s).2 ++ tail) := by
  have general : ∀ (chars : List Char) (read : List String × String), '/' ∉ chars →
      chars.foldl addChar read = (read.1, read.2 ++ String.ofList chars) := by
    intro chars
    induction chars with
    | nil => simp
    | cons c rest ih =>
        intro read absent
        have other : c ≠ '/' := fun same => absent (same ▸ List.mem_cons_self)
        rw [List.foldl_cons, ih _ (List.not_mem_of_not_mem_cons absent), addChar, if_neg other]
        simp [← String.toList_inj]
  rw [segments, String.toList_append, List.foldl_append, general _ _ flat, String.ofList_toList]
  rfl

theorem isAbsolute_append {s : String} (tail : String) (named : s ≠ "") :
    isAbsolute (s ++ tail) = isAbsolute s := by
  have nonempty : s.toList ≠ [] := by simpa using named
  cases chars : s.toList with
  | nil => exact absurd chars nonempty
  | cons c rest => simp [isAbsolute, chars]

/-! ## A tree of files -/

/-- What is found at a path. -/
inductive Node (F : Type) where
  | dir
  | file (content : F)

abbrev FileTree (F : Type) := Location → Option (Node F)

section Tree

variable {F : Type}

/-- Move everything at and below a location, over what is at the target. -/
def rename (t : FileTree F) (src dst : Location) : FileTree F := fun loc =>
  if dst <+: loc then t (src ++ loc.drop dst.length) else if src <+: loc then none else t loc

/-- Delete a file. -/
def unlink (t : FileTree F) (loc : Location) : FileTree F := fun other =>
  if other = loc then none else t other

/-- Make a directory and its parents, as far as nothing is there. -/
def makeDirs (t : FileTree F) (dir : Location) : FileTree F := fun loc =>
  if loc <+: dir ∧ (t loc).isNone then some .dir else t loc

/-- `shutil.move`: into a directory, else to that path; nothing stands for an exception. -/
def moveTo (t : FileTree F) (src dst : Location) : Option (FileTree F) :=
  match t src, t dst with
  | none, _ => none
  | some _, some .dir =>
      let target := dst ++ src.getLast?.toList
      if src <+: target ∨ (t target).isSome then none else some (rename t src target)
  | some .dir, some (.file _) => none
  | some _, _ =>
      if src = dst then some t else if src <+: dst then none else some (rename t src dst)

theorem rename_elsewhere {t : FileTree F} {src dst loc : Location} (notSource : ¬ src <+: loc)
    (notTarget : ¬ dst <+: loc) : rename t src dst loc = t loc := by
  rw [rename, if_neg notTarget, if_neg notSource]

/-- A move touches nothing outside its source and its target. -/
theorem moveTo_elsewhere {t t' : FileTree F} {src dst loc : Location}
    (moved : moveTo t src dst = some t') (notSource : ¬ src <+: loc) (notTarget : ¬ dst <+: loc) :
    t' loc = t loc := by
  have below : ∀ {tail : Location}, ¬ dst ++ tail <+: loc :=
    fun inside => notTarget ((List.prefix_append dst _).trans inside)
  unfold moveTo at moved
  split at moved
  · cases moved
  · dsimp only at moved
    split at moved
    · cases moved
    · obtain rfl := Option.some.inj moved
      exact rename_elsewhere notSource below
  · cases moved
  · split at moved
    · obtain rfl := Option.some.inj moved
      rfl
    · split at moved
      · cases moved
      · obtain rfl := Option.some.inj moved
        exact rename_elsewhere notSource notTarget

theorem makeDirs_elsewhere {t : FileTree F} {dir loc : Location} (notAbove : ¬ loc <+: dir) :
    makeDirs t dir loc = t loc := by
  simp [makeDirs, notAbove]

end Tree

end Library.Path
