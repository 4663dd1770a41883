import IdConnector.Library.Dict
import Mathlib.Data.List.Sort
import Mathlib.Data.Multiset.AddSub
import Mathlib.Data.String.Basic

/-! # Directories of files

A directory maps file names to contents. A name occurs once, so the sorted
listing is strictly increasing and each lookup finds the only file of that name.
-/

namespace Library

/-- A flat directory: files under distinct names. -/
structure Directory (F : Type) where
  entries : Dict String F
  distinct : entries.keys.Nodup

namespace Directory

variable {F : Type}

def empty : Directory F := ⟨[], List.nodup_nil⟩

def get (d : Directory F) (name : String) : Option F := d.entries.get name

/-- Write a file, over one of the same name. -/
def put (d : Directory F) (name : String) (content : F) : Directory F :=
  ⟨d.entries.set name content, Dict.nodup_set d.distinct name content⟩

def remove (d : Directory F) (name : String) : Directory F :=
  ⟨d.entries.del name, Dict.nodup_del d.distinct name⟩

/-- Rename a file, over one of the new name; a missing file renames nothing. -/
def rename (d : Directory F) (old new : String) : Directory F :=
  match d.get old with
  | none => d
  | some content => (d.remove old).put new content

/-- The listing, sorted by name. -/
def names (d : Directory F) : List String :=
  d.entries.keys.insertionSort fun a b => a.toList ≤ b.toList

@[simp] theorem get_empty (name : String) : (empty : Directory F).get name = none := rfl

theorem get_put (d : Directory F) (name : String) (content : F) (other : String) :
    (d.put name content).get other = if name = other then some content else d.get other :=
  Dict.get_set d.entries name content other

theorem get_remove (d : Directory F) (name other : String) :
    (d.remove name).get other = if name = other then none else d.get other :=
  Dict.get_del d.entries name other

@[simp] theorem get_put_self (d : Directory F) (name : String) (content : F) :
    (d.put name content).get name = some content := by
  simp [get_put]

@[simp] theorem get_remove_self (d : Directory F) (name : String) :
    (d.remove name).get name = none := by
  simp [get_remove]

theorem get_of_get_remove {d : Directory F} {name other : String} {content : F}
    (found : (d.remove name).get other = some content) :
    d.get other = some content ∧ name ≠ other := by
  grind [get_remove]

theorem get_rename {d : Directory F} {old : String} {content : F} (found : d.get old = some content)
    (new other : String) :
    (d.rename old new).get other =
      if new = other then some content else if old = other then none else d.get other := by
  simp [rename, found, get_put, get_remove]

theorem mem_names {d : Directory F} {name : String} :
    name ∈ d.names ↔ ∃ content, d.get name = some content := by
  rw [names, List.mem_insertionSort]
  exact Dict.mem_keys_iff

theorem names_nodup (d : Directory F) : d.names.Nodup :=
  (List.perm_insertionSort _ d.entries.keys).nodup_iff.mpr d.distinct

theorem names_increasing (d : Directory F) : d.names.Pairwise (· < ·) := by
  have total : Std.Total fun a b : String => a.toList ≤ b.toList := ⟨fun _ _ => le_total _ _⟩
  have trans : IsTrans String fun a b => a.toList ≤ b.toList := ⟨fun _ _ _ => le_trans⟩
  have sorted := List.pairwise_insertionSort (fun a b => a.toList ≤ b.toList) d.entries.keys
  exact (sorted.and d.names_nodup).imp fun both =>
    lt_of_le_of_ne (String.le_iff_toList_le.mpr both.1) both.2

/-- What the files hold. -/
def contents (d : Directory F) : Multiset F := ↑(d.entries.map Prod.snd)

theorem contents_remove {d : Directory F} {name : String} {content : F}
    (found : d.get name = some content) :
    content ::ₘ (d.remove name).contents = d.contents := by
  rcases d with ⟨entries, distinct⟩
  simp only [get, contents, remove, Multiset.cons_coe, Multiset.coe_eq_coe] at found ⊢
  induction entries with
  | nil => cases found
  | cons entry rest ih =>
      rcases entry with ⟨key, value⟩
      obtain ⟨unique, distinct⟩ := List.nodup_cons.mp distinct
      by_cases same : key = name
      · subst same
        obtain rfl : value = content := by simpa [Dict.get] using found
        simp [Dict.del, Dict.del_of_absent unique]
      · simp only [Dict.get, if_neg same] at found
        simp only [Dict.del, if_neg same, List.map_cons]
        exact (List.Perm.swap _ _ _).trans ((ih distinct found).cons value)

theorem contents_put {d : Directory F} {name : String} (absent : d.get name = none) (content : F) :
    (d.put name content).contents = content ::ₘ d.contents := by
  have appended : d.entries.set name content = d.entries ++ [(name, content)] :=
    Dict.set_of_absent content absent
  simp [contents, put, appended]

end Directory

end Library
