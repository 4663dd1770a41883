import IdConnector.Library.Document

/-! # Documents by their paths

What a nested document has at a path of keys: nothing, a dictionary or a value. Two
dictionaries that agree at every path only differ in the order of their keys. For a list
of documents the last one that has anything at a path decides.
-/

namespace Library.Document

variable {α : Type}

/-- Lists count up to the order of the keys inside them. -/
inductive Kind (α : Type) where
  | dict
  | value (v : Document α)
  deriving DecidableEq

def kindOf : Document α → Kind α
  | .dict _ => .dict
  | v => .value v.sortKeys

/-- What stands at a path of keys. -/
def kind : Document α → List String → Option (Kind α)
  | v, [] => some v.kindOf
  | .dict entries, k :: path => (Dict.get entries k).bind (kind · path)
  | _, _ :: _ => none

/-- The same keys at every depth, with the same values. -/
def Same (a b : Entries α) : Prop := ∀ path, kind (.dict a) path = kind (.dict b) path

/-- The second has no value where the first has a dictionary. -/
def Compatible (a b : Entries α) : Prop :=
  ∀ path v, kind (.dict a) path = some .dict → kind (.dict b) path ≠ some (.value v)

def lastKind (docs : List (Entries α)) (path : List String) : Option (Kind α) :=
  (docs.filterMap fun doc => kind (.dict doc) path).getLast?

@[simp] theorem kind_root (entries : Entries α) : kind (.dict entries) [] = some .dict := rfl

@[simp] theorem kind_empty (k : String) (path : List String) :
    kind (.dict ([] : Entries α)) (k :: path) = none := rfl

theorem kind_key (entries : Entries α) (k : String) (path : List String) :
    kind (.dict entries) (k :: path) = (Dict.get entries k).bind (kind · path) := rfl

theorem kind_below_value {v : Document α} (other : ∀ entries, v ≠ .dict entries) (k : String)
    (path : List String) : kind v (k :: path) = none := by
  cases v with
  | dict entries => exact absurd rfl (other entries)
  | null | atom | list => rfl

theorem kind_ne_dict {v : Document α} (other : ∀ entries, v ≠ .dict entries)
    (path : List String) : kind v path ≠ some .dict := by
  cases path with
  | nil =>
      cases v with
      | dict entries => exact absurd rfl (other entries)
      | null | atom | list => simp [kind, kindOf]
  | cons k path => simp [kind_below_value other]

theorem kind_dict_or_value (v : Document α) (path : List String) :
    kind v path = none ∨ kind v path = some .dict ∨ ∃ w, kind v path = some (.value w) := by
  cases kind v path with
  | none => exact Or.inl rfl
  | some found =>
      cases found with
      | dict => exact Or.inr (Or.inl rfl)
      | value w => exact Or.inr (Or.inr ⟨w, rfl⟩)

theorem compatible_empty (doc : Entries α) : Compatible [] doc := by
  intro path v
  cases path <;> simp

theorem lastKind_cons (doc : Entries α) (docs : List (Entries α)) (path : List String) :
    lastKind (doc :: docs) path = (lastKind docs path).or (kind (.dict doc) path) := by
  unfold lastKind
  cases found : kind (.dict doc) path with
  | none => simp [found]
  | some here =>
      simp only [List.filterMap_cons, found, List.getLast?_cons]
      cases (docs.filterMap fun doc => kind (.dict doc) path).getLast? <;> rfl

/-- Two documents in a row are at every path what the later one has there, and else what the
    earlier one has. -/
theorem lastKind_merge {a b r : Entries α}
    (merged : ∀ path, kind (.dict r) path = (kind (.dict b) path).or (kind (.dict a) path))
    (docs : List (Entries α)) (path : List String) :
    lastKind (r :: docs) path = lastKind (a :: b :: docs) path := by
  rw [lastKind_cons, lastKind_cons, lastKind_cons, merged, Option.or_assoc]

theorem pairwise_merge {a b r : Entries α} (compatible : Compatible a b)
    (merged : ∀ path, kind (.dict r) path = (kind (.dict b) path).or (kind (.dict a) path))
    (docs : List (Entries α)) :
    (r :: docs).Pairwise Compatible ↔ (a :: b :: docs).Pairwise Compatible := by
  -- the merged document has a dictionary exactly where one of the two has
  have dicts : ∀ path, kind (.dict r) path = some .dict ↔
      kind (.dict a) path = some .dict ∨ kind (.dict b) path = some .dict := by
    intro path
    rw [merged]
    rcases kind_dict_or_value (.dict b) path with here | here | ⟨w, here⟩
    · simp [here]
    · simp [here]
    · have free : kind (.dict a) path ≠ some .dict := fun dict => compatible path w dict here
      simp [here, free]
  have both : ∀ doc, Compatible r doc ↔ Compatible a doc ∧ Compatible b doc := by
    intro doc
    simp only [Compatible, dicts]
    grind
  simp only [List.pairwise_cons, List.forall_mem_cons, both]
  grind

end Library.Document
