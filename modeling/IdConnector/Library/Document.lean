import IdConnector.Library.Dict
import Mathlib.Data.List.Sort
import Mathlib.Data.String.Basic

/-! # Trees of nested dictionaries

Documents whose inner nodes are lists and string-keyed dictionaries, over an
arbitrary type of leaves. `overlay base patch` is the deep merge of two
documents: a key that is absent or null in the patch keeps what the base has, a
dictionary is merged key by key, and any other value replaces.
-/

namespace Library

/-- Nested lists and dictionaries over atoms, as in JSON. -/
inductive Document (α : Type) where
  | null
  | atom (value : α)
  | list (items : List (Document α))
  | dict (entries : List (String × Document α))
  deriving Repr

namespace Document

variable {α : Type}

mutual
def decEq [DecidableEq α] : (a b : Document α) → Decidable (a = b)
  | .null, .null => isTrue rfl
  | .atom a, .atom b => decidable_of_iff (a = b) (by simp)
  | .list as, .list bs =>
      match decEqList as bs with
      | isTrue same => isTrue (by rw [same])
      | isFalse different => isFalse (by simpa using different)
  | .dict as, .dict bs =>
      match decEqEntries as bs with
      | isTrue same => isTrue (by rw [same])
      | isFalse different => isFalse (by simpa using different)
  | .null, .atom _ | .null, .list _ | .null, .dict _ => isFalse (by simp)
  | .atom _, .null | .atom _, .list _ | .atom _, .dict _ => isFalse (by simp)
  | .list _, .null | .list _, .atom _ | .list _, .dict _ => isFalse (by simp)
  | .dict _, .null | .dict _, .atom _ | .dict _, .list _ => isFalse (by simp)

def decEqList [DecidableEq α] : (as bs : List (Document α)) → Decidable (as = bs)
  | [], [] => isTrue rfl
  | [], _ :: _ | _ :: _, [] => isFalse (by simp)
  | a :: as, b :: bs =>
      match decEq a b, decEqList as bs with
      | isTrue head, isTrue tail => isTrue (by rw [head, tail])
      | isFalse head, _ => isFalse (by simp [head])
      | _, isFalse tail => isFalse (by simp [tail])

def decEqEntries [DecidableEq α] : (as bs : List (String × Document α)) → Decidable (as = bs)
  | [], [] => isTrue rfl
  | [], _ :: _ | _ :: _, [] => isFalse (by simp)
  | (k, a) :: as, (l, b) :: bs =>
      match instDecidableEqString k l, decEq a b, decEqEntries as bs with
      | isTrue key, isTrue head, isTrue tail => isTrue (by rw [key, head, tail])
      | isFalse key, _, _ => isFalse (by simp [key])
      | _, isFalse head, _ => isFalse (by simp [head])
      | _, _, isFalse tail => isFalse (by simp [tail])
end

instance [DecidableEq α] : DecidableEq (Document α) := decEq

abbrev Entries (α : Type) := Dict String (Document α)

/-- The dictionary stored under a key, empty when the key holds anything else. -/
def subDict (d : Entries α) (k : String) : Entries α :=
  match d.get k with
  | some (.dict entries) => entries
  | _ => []

def holdsDict (d : Entries α) (k : String) : Bool :=
  match d.get k with
  | some (.dict _) => true
  | _ => false

def isNull : Document α → Bool
  | .null => true
  | _ => false

mutual
/-- Every dictionary reached through dictionaries has distinct keys. -/
def WellKeyed : List (String × Document α) → Prop
  | [] => True
  | (k, v) :: rest => k ∉ Dict.keys rest ∧ v.WellKeyedValue ∧ WellKeyed rest

def WellKeyedValue : Document α → Prop
  | .dict entries => WellKeyed entries
  | _ => True
end

mutual
/-- Some key, at any depth, holds null. -/
def hasNull : List (String × Document α) → Bool
  | [] => false
  | (_, v) :: rest => v.hasNullValue || hasNull rest

def hasNullValue : Document α → Bool
  | .null => true
  | .dict entries => hasNull entries
  | _ => false
end

mutual
def overlay (base : Entries α) : List (String × Document α) → Entries α
  | [] => base
  | (k, v) :: rest => overlay (overlayAt base k v) rest

/-- The merge of one entry of the patch. -/
def overlayAt (base : Entries α) (k : String) : Document α → Entries α
  | .null => base
  | .dict entries => base.set k (.dict (overlay (subDict base k) entries))
  | .atom value => base.set k (.atom value)
  | .list items => base.set k (.list items)
end

mutual
/-- The document as `sort_keys` writes it. -/
def sortKeys : Document α → Document α
  | .dict entries => .dict (sortEntries entries)
  | .list items => .list (sortItems items)
  | v => v

def sortItems : List (Document α) → List (Document α)
  | [] => []
  | item :: rest => item.sortKeys :: sortItems rest

def sortEntries : List (String × Document α) → Entries α
  | [] => []
  | (k, v) :: rest => (sortEntries rest).orderedInsert (fun a b => a.1 ≤ b.1) (k, v.sortKeys)
end

theorem subDict_of_get {d : Entries α} {k : String} {entries : List (String × Document α)}
    (found : d.get k = some (.dict entries)) : subDict d k = entries := by
  simp [subDict, found]

theorem subDict_of_not_dict {d : Entries α} {k : String}
    (other : ∀ entries, d.get k ≠ some (.dict entries)) : subDict d k = [] := by
  simp only [subDict]

theorem dict_or_other (d : Entries α) (k : String) :
    (∃ sub, d.get k = some (.dict sub)) ∨ ∀ sub, d.get k ≠ some (.dict sub) := by
  cases found : d.get k with
  | none => exact Or.inr (fun sub => nofun)
  | some v =>
      cases v with
      | dict sub => exact Or.inl ⟨sub, rfl⟩
      | null | atom | list => exact Or.inr (fun sub => by simp)

theorem overlayAt_get_ne (base : Entries α) {k k' : String} (v : Document α) (different : k ≠ k') :
    (overlayAt base k v).get k' = base.get k' := by
  cases v <;> simp [overlayAt, different]

/-- Keys the patch does not mention keep their value. -/
theorem overlay_get_absent (base : Entries α) (patch : List (String × Document α)) {k : String}
    (absent : k ∉ Dict.keys patch) : (overlay base patch).get k = base.get k := by
  induction patch generalizing base with
  | nil => rfl
  | cons entry rest ih =>
      rcases entry with ⟨key, v⟩
      have different : key ≠ k := fun same => absent (by simp [Dict.keys, same])
      have tail : k ∉ Dict.keys rest := fun h => absent (List.mem_cons_of_mem _ h)
      rw [overlay, ih _ tail, overlayAt_get_ne base v different]

/-- Every entry of a merge is one of the base or of the patch, or a dictionary. -/
theorem overlay_entries {base : Entries α} {patch : List (String × Document α)}
    {entry : String × Document α} (member : entry ∈ overlay base patch) :
    entry ∈ base ∨ entry ∈ patch ∨ ∃ k entries, entry = (k, .dict entries) := by
  induction patch generalizing base with
  | nil => exact Or.inl member
  | cons head rest ih =>
      rcases head with ⟨k, v⟩
      rw [overlay] at member
      have first : ∀ e, e ∈ overlayAt base k v →
          e ∈ base ∨ e = (k, v) ∨ ∃ k entries, e = (k, .dict entries) := by
        intro e here
        cases v with
        | null => exact Or.inl here
        | atom value => exact (Dict.mem_set here).imp_right Or.inl
        | list items => exact (Dict.mem_set here).imp_right Or.inl
        | dict entries => exact (Dict.mem_set here).imp_right fun same => Or.inr ⟨k, _, same⟩
      rcases ih member with here | tail | dict
      · rcases first entry here with old | rfl | dict
        · exact Or.inl old
        · exact Or.inr (Or.inl List.mem_cons_self)
        · exact Or.inr (Or.inr dict)
      · exact Or.inr (Or.inl (List.mem_cons_of_mem _ tail))
      · exact Or.inr (Or.inr dict)

mutual
theorem overlay_fresh (base : Entries α) (entries : List (String × Document α))
    (keyed : WellKeyed entries) (fresh : ∀ k ∈ Dict.keys entries, base.get k = none)
    (clean : hasNull entries = false) : overlay base entries = base ++ entries := by
  cases entries with
  | nil => simp [overlay]
  | cons entry rest =>
      rcases entry with ⟨k, v⟩
      simp only [hasNull, Bool.or_eq_false_iff] at clean
      obtain ⟨unique, keyedValue, keyedRest⟩ := keyed
      have head := overlayAt_fresh base k v keyedValue (fresh k (by simp [Dict.keys])) clean.1
      rw [overlay, head, overlay_fresh (base ++ [(k, v)]) rest keyedRest ?_ clean.2]
      · simp
      · intro k' member
        have different : k ≠ k' := fun same => unique (same ▸ member)
        rw [← Dict.set_of_absent v (fresh k (by simp [Dict.keys])), Dict.get_set_ne _ _ different]
        exact fresh k' (List.mem_cons_of_mem _ member)

theorem overlayAt_fresh (base : Entries α) (k : String) (v : Document α)
    (keyed : v.WellKeyedValue) (fresh : base.get k = none) (clean : v.hasNullValue = false) :
    overlayAt base k v = base ++ [(k, v)] := by
  cases v with
  | null => simp [hasNullValue] at clean
  | atom value => exact Dict.set_of_absent _ fresh
  | list items => exact Dict.set_of_absent _ fresh
  | dict entries =>
      have empty : subDict base k = [] := by simp [subDict, fresh]
      have inner := overlay_fresh [] entries keyed (by simp) clean
      rw [overlayAt, empty, inner, Dict.set_of_absent _ fresh]
      rfl
end

mutual
/-- A null below a new dictionary is dropped by the merge, so the merge differs
    from the plain copy at some key. -/
theorem overlay_drops_null (base : Entries α) (entries : List (String × Document α))
    (keyed : WellKeyed entries) (fresh : ∀ k ∈ Dict.keys entries, base.get k = none)
    (null : hasNull entries = true) :
    ∃ k ∈ Dict.keys entries, (overlay base entries).get k ≠ Dict.get entries k := by
  cases entries with
  | nil => simp [hasNull] at null
  | cons entry rest =>
      rcases entry with ⟨k, v⟩
      obtain ⟨unique, keyedValue, keyedRest⟩ := keyed
      by_cases head : v.hasNullValue = true
      · refine ⟨k, by simp [Dict.keys], ?_⟩
        rw [overlay, overlay_get_absent _ _ unique, Dict.get_cons, if_pos rfl]
        exact overlayAt_drops_null base k v keyedValue (fresh k (by simp [Dict.keys])) head
      · have tail : hasNull rest = true := by simpa [hasNull, head] using null
        have freshRest : ∀ k' ∈ Dict.keys rest, (overlayAt base k v).get k' = none := by
          intro k' member
          have different : k ≠ k' := fun same => unique (same ▸ member)
          rw [overlayAt_get_ne base v different]
          exact fresh k' (List.mem_cons_of_mem _ member)
        obtain ⟨k', member, differs⟩ := overlay_drops_null _ rest keyedRest freshRest tail
        refine ⟨k', List.mem_cons_of_mem _ member, ?_⟩
        have different : k ≠ k' := fun same => unique (same ▸ member)
        rwa [overlay, Dict.get_cons, if_neg different]

theorem overlayAt_drops_null (base : Entries α) (k : String) (v : Document α)
    (keyed : v.WellKeyedValue) (fresh : base.get k = none) (null : v.hasNullValue = true) :
    (overlayAt base k v).get k ≠ some v := by
  cases v with
  | null => simp [overlayAt, fresh]
  | atom value => simp [hasNullValue] at null
  | list items => simp [hasNullValue] at null
  | dict entries =>
      have empty : subDict base k = [] := by simp [subDict, fresh]
      obtain ⟨k', _, differs⟩ := overlay_drops_null [] entries keyed (by simp) null
      rw [overlayAt, empty, Dict.get_set_self]
      intro same
      injection same with same
      injection same with same
      exact differs (by rw [same])
end

theorem overlay_nil_eq_iff {entries : List (String × Document α)} (keyed : WellKeyed entries) :
    overlay [] entries = entries ↔ hasNull entries = false := by
  constructor
  · intro same
    by_contra null
    obtain ⟨k, _, differs⟩ := overlay_drops_null [] entries keyed (by simp) (by simpa using null)
    exact differs (by rw [same])
  · intro clean
    simpa using overlay_fresh [] entries keyed (by simp) clean

/-! ## Sorted keys -/

theorem get_orderedInsert (d : Entries α) (k : String) (v : Document α) (k' : String) :
    Dict.get (d.orderedInsert (fun a b => a.1 ≤ b.1) (k, v)) k' =
      if k = k' then some v else d.get k' := by
  induction d with
  | nil => rfl
  | cons entry rest ih =>
      rcases entry with ⟨key, w⟩
      rw [List.orderedInsert]
      split
      next => rw [Dict.get_cons]
      next greater =>
        have different : key ≠ k := fun same => greater (le_of_eq same.symm)
        rw [Dict.get_cons, Dict.get_cons, ih]
        grind

theorem get_sortEntries (entries : List (String × Document α)) (k : String) :
    Dict.get (sortEntries entries) k = (Dict.get entries k).map sortKeys := by
  induction entries with
  | nil => rfl
  | cons entry rest ih =>
      rcases entry with ⟨key, v⟩
      rw [sortEntries, get_orderedInsert, Dict.get_cons, ih]
      split <;> rfl

theorem sortEntries_perm (entries : List (String × Document α)) :
    (sortEntries entries).Perm (entries.map fun entry => (entry.1, entry.2.sortKeys)) := by
  induction entries with
  | nil => exact List.Perm.refl _
  | cons entry rest ih => exact (List.perm_orderedInsert _ _ _).trans (ih.cons _)

theorem pairwise_sortEntries (entries : List (String × Document α)) :
    (sortEntries entries).Pairwise fun a b => a.1 ≤ b.1 := by
  induction entries with
  | nil => exact List.Pairwise.nil
  | cons entry rest ih => exact ih.orderedInsert _ _

/-- Sorted entries whose values are sorted are left as they are. -/
theorem sortEntries_eq_self {entries : List (String × Document α)}
    (increasing : entries.Pairwise fun a b => a.1 ≤ b.1)
    (values : ∀ entry ∈ entries, entry.2.sortKeys = entry.2) : sortEntries entries = entries := by
  induction entries with
  | nil => rfl
  | cons entry rest ih =>
      rcases entry with ⟨k, v⟩
      have tail := ih increasing.of_cons fun entry member =>
        values entry (List.mem_cons_of_mem _ member)
      rw [sortEntries, tail, values (k, v) List.mem_cons_self]
      cases rest with
      | nil => rfl
      | cons next more =>
          exact List.orderedInsert_cons_of_le _ more
            (List.rel_of_pairwise_cons increasing List.mem_cons_self)

mutual
theorem sortKeys_idem (v : Document α) : v.sortKeys.sortKeys = v.sortKeys := by
  cases v with
  | null | atom => rfl
  | list items => exact congrArg list (sortItems_idem items)
  | dict entries =>
      exact congrArg dict (sortEntries_eq_self (pairwise_sortEntries entries)
        (sortEntries_values entries))

theorem sortItems_idem (items : List (Document α)) :
    sortItems (sortItems items) = sortItems items := by
  cases items with
  | nil => rfl
  | cons item rest => simp only [sortItems, sortKeys_idem item, sortItems_idem rest]

theorem sortEntries_values (entries : List (String × Document α)) :
    ∀ entry ∈ sortEntries entries, entry.2.sortKeys = entry.2 := by
  cases entries with
  | nil => exact nofun
  | cons entry rest =>
      rcases entry with ⟨k, v⟩
      intro found member
      rw [sortEntries, List.mem_orderedInsert] at member
      cases member with
      | inl here =>
          rw [here]
          exact sortKeys_idem v
      | inr there => exact sortEntries_values rest found there
end

end Document

end Library
