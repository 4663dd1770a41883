import Mathlib.Data.List.Induction
import Mathlib.Data.List.Nodup

/-! # Insertion-ordered dictionaries

An association list with the update rules of an insertion-ordered dictionary:
assigning to a present key keeps its position, assigning to a new key appends.
Everything that is stated by `get` alone is independent of the order, so the
order only matters where a caller walks the entries.
-/

namespace Library

abbrev Dict (κ ν : Type*) := List (κ × ν)

namespace Dict

variable {κ ν : Type*} [DecidableEq κ]

def get : Dict κ ν → κ → Option ν
  | [], _ => none
  | (key, value) :: rest, k => if key = k then some value else get rest k

/-- Overwrite in place, or append when the key is new. -/
def set : Dict κ ν → κ → ν → Dict κ ν
  | [], k, v => [(k, v)]
  | (key, value) :: rest, k, v =>
      if key = k then (key, v) :: rest else (key, value) :: set rest k v

/-- Remove every entry of a key. -/
def del : Dict κ ν → κ → Dict κ ν
  | [], _ => []
  | (key, value) :: rest, k => if key = k then del rest k else (key, value) :: del rest k

def keys (d : Dict κ ν) : List κ := d.map Prod.fst

/-- Assign every entry of `other`, in order. -/
def update (d : Dict κ ν) (other : Dict κ ν) : Dict κ ν :=
  other.foldl (fun acc entry => acc.set entry.1 entry.2) d

/-- A dictionary built from pairs: a later pair overwrites an earlier one. -/
def ofPairs (pairs : List (κ × ν)) : Dict κ ν := update [] pairs

@[simp] theorem get_nil (k : κ) : get ([] : Dict κ ν) k = none := rfl

theorem get_cons (key : κ) (value : ν) (rest : Dict κ ν) (k : κ) :
    get ((key, value) :: rest) k = if key = k then some value else get rest k := rfl

@[simp] theorem get_set_self (d : Dict κ ν) (k : κ) (v : ν) : (d.set k v).get k = some v := by
  induction d with
  | nil => simp [set, get]
  | cons entry rest ih =>
      rcases entry with ⟨key, value⟩
      by_cases same : key = k
      · simp [set, same, get]
      · simp [set, same, get, ih]

@[simp] theorem get_set_ne (d : Dict κ ν) {k k' : κ} (v : ν) (different : k ≠ k') :
    (d.set k v).get k' = d.get k' := by
  induction d with
  | nil => simp [set, get, different]
  | cons entry rest ih =>
      rcases entry with ⟨key, value⟩
      by_cases same : key = k
      · subst same
        simp [set, get, different]
      · simp [set, same, get, ih]

/-- Assignment changes exactly one observable key. -/
theorem get_set (d : Dict κ ν) (k : κ) (v : ν) (k' : κ) :
    (d.set k v).get k' = if k = k' then some v else d.get k' := by
  by_cases same : k = k'
  · subst same
    simp
  · simp [same]

@[simp] theorem get_del_self (d : Dict κ ν) (k : κ) : (d.del k).get k = none := by
  induction d with
  | nil => rfl
  | cons entry rest ih =>
      rcases entry with ⟨key, value⟩
      by_cases same : key = k
      · simp [del, same, ih]
      · simp [del, same, get, ih]

@[simp] theorem get_del_ne (d : Dict κ ν) {k k' : κ} (different : k ≠ k') :
    (d.del k).get k' = d.get k' := by
  induction d with
  | nil => rfl
  | cons entry rest ih =>
      rcases entry with ⟨key, value⟩
      by_cases same : key = k
      · subst same
        simp [del, get, different, ih]
      · simp [del, same, get, ih]

theorem get_del (d : Dict κ ν) (k k' : κ) :
    (d.del k).get k' = if k = k' then none else d.get k' := by
  by_cases same : k = k'
  · subst same
    simp
  · simp [same]

/-- Of two dictionaries in a row the first one decides. -/
theorem get_append (d other : Dict κ ν) (k : κ) : (d ++ other : Dict κ ν).get k = (d.get k).or (other.get k) := by
  induction d with
  | nil => rfl
  | cons entry rest ih =>
      rcases entry with ⟨key, value⟩
      rw [List.cons_append, get_cons, get_cons]
      split
      · rfl
      · exact ih

theorem mem_of_get {d : Dict κ ν} {k : κ} {v : ν} (found : d.get k = some v) : (k, v) ∈ d := by
  induction d with
  | nil => simp at found
  | cons entry rest ih =>
      rcases entry with ⟨key, value⟩
      by_cases same : key = k
      · subst same
        simp only [get, ↓reduceIte, Option.some.injEq] at found
        simp [found]
      · simp only [get, same, ↓reduceIte] at found
        exact List.mem_cons_of_mem _ (ih found)

theorem mem_keys_iff {d : Dict κ ν} {k : κ} : k ∈ d.keys ↔ ∃ v, d.get k = some v := by
  induction d with
  | nil => simp [keys]
  | cons entry rest ih =>
      rcases entry with ⟨key, value⟩
      by_cases same : key = k
      · simp [keys, get, same]
      · have other : k ≠ key := fun h => same h.symm
        simpa [keys, get, same, other] using ih

theorem get_eq_none_iff {d : Dict κ ν} {k : κ} : d.get k = none ↔ k ∉ d.keys := by
  rw [mem_keys_iff]
  cases d.get k <;> simp

theorem set_of_absent {d : Dict κ ν} {k : κ} (v : ν) (absent : d.get k = none) :
    d.set k v = d ++ [(k, v)] := by
  induction d with
  | nil => rfl
  | cons entry rest ih =>
      rcases entry with ⟨key, value⟩
      by_cases same : key = k
      · simp [get, same] at absent
      · simp only [get, same, ↓reduceIte] at absent
        simp only [set, same, ↓reduceIte, ih absent, List.cons_append]

theorem set_eq_self_iff {d : Dict κ ν} {k : κ} {v : ν} : d.set k v = d ↔ d.get k = some v := by
  constructor
  · intro same
    rw [← same, get_set_self]
  · intro found
    induction d with
    | nil => simp at found
    | cons entry rest ih =>
        rcases entry with ⟨key, value⟩
        by_cases same : key = k
        · simp only [get, same, ↓reduceIte, Option.some.injEq] at found
          simp [set, same, found]
        · simp only [get, same, ↓reduceIte] at found
          simp only [set, same, ↓reduceIte, ih found]

theorem mem_set {d : Dict κ ν} {k : κ} {v : ν} {entry : κ × ν} (member : entry ∈ d.set k v) :
    entry ∈ d ∨ entry = (k, v) := by
  induction d with
  | nil => exact Or.inr (List.mem_singleton.mp member)
  | cons head rest ih =>
      rcases head with ⟨key, value⟩
      by_cases same : key = k
      · simp only [set, same, ↓reduceIte, List.mem_cons] at member
        rcases member with here | tail
        · exact Or.inr here
        · exact Or.inl (List.mem_cons_of_mem _ tail)
      · simp only [set, same, ↓reduceIte, List.mem_cons] at member
        rcases member with rfl | tail
        · exact Or.inl List.mem_cons_self
        · exact (ih tail).imp_left (List.mem_cons_of_mem _)

theorem keys_set (d : Dict κ ν) (k : κ) (v : ν) :
    (d.set k v).keys = if k ∈ d.keys then d.keys else d.keys ++ [k] := by
  induction d with
  | nil => rfl
  | cons entry rest ih =>
      rcases entry with ⟨key, value⟩
      by_cases same : key = k
      · simp [set, keys, same]
      · have other : k ≠ key := fun h => same h.symm
        simp only [keys] at ih
        by_cases member : k ∈ rest.map Prod.fst
        · simp [set, keys, same, ih, member]
        · simp [set, keys, same, ih, member, other]

theorem nodup_set {d : Dict κ ν} (distinct : d.keys.Nodup) (k : κ) (v : ν) :
    (d.set k v).keys.Nodup := by
  rw [keys_set]
  split
  · exact distinct
  next absent => exact List.nodup_append'.mpr ⟨distinct, List.nodup_singleton k, by simpa using absent⟩

theorem nodup_update {d : Dict κ ν} (distinct : d.keys.Nodup) (other : Dict κ ν) :
    (d.update other).keys.Nodup := by
  induction other generalizing d with
  | nil => exact distinct
  | cons entry rest ih => exact ih (nodup_set distinct entry.1 entry.2)

theorem nodup_ofPairs (pairs : List (κ × ν)) : (ofPairs pairs).keys.Nodup :=
  nodup_update (d := []) List.nodup_nil pairs

theorem del_sublist (d : Dict κ ν) (k : κ) : (d.del k).Sublist d := by
  induction d with
  | nil => exact List.Sublist.slnil
  | cons entry rest ih =>
      unfold del
      split
      · exact ih.cons _
      · exact ih.cons_cons _

theorem del_of_absent {d : Dict κ ν} {k : κ} (absent : k ∉ d.keys) : d.del k = d := by
  induction d with
  | nil => rfl
  | cons entry rest ih =>
      obtain ⟨different, absentRest⟩ := not_or.mp (List.mem_cons.not.mp absent)
      rw [del, if_neg (Ne.symm different), ih absentRest]

theorem nodup_del {d : Dict κ ν} (distinct : d.keys.Nodup) (k : κ) : (d.del k).keys.Nodup :=
  distinct.sublist ((del_sublist d k).map Prod.fst)

theorem mem_keys_set {d : Dict κ ν} {k k' : κ} {v : ν} :
    k' ∈ (d.set k v).keys ↔ k' = k ∨ k' ∈ d.keys := by
  rw [keys_set]
  split
  next member =>
    constructor
    · exact Or.inr
    · rintro (rfl | old)
      · exact member
      · exact old
  next => rw [List.mem_append, List.mem_singleton, or_comm]

theorem mem_keys_update {d other : Dict κ ν} {k : κ} :
    k ∈ (d.update other).keys ↔ k ∈ d.keys ∨ k ∈ other.keys := by
  induction other generalizing d with
  | nil => simp [update, keys]
  | cons entry rest ih =>
      have step : (d.update (entry :: rest)) = (d.set entry.1 entry.2).update rest := rfl
      have head : (keys (entry :: rest)) = entry.1 :: keys rest := rfl
      rw [step, ih, mem_keys_set, head, List.mem_cons, or_comm (a := k = entry.1), or_assoc]

theorem mem_of_mem_update {d other : Dict κ ν} {entry : κ × ν} (member : entry ∈ d.update other) :
    entry ∈ d ∨ entry ∈ other := by
  induction other generalizing d with
  | nil => exact Or.inl member
  | cons head rest ih =>
      rcases ih (d := d.set head.1 head.2) member with assigned | later
      · rcases mem_set assigned with old | rfl
        · exact Or.inl old
        · exact Or.inr List.mem_cons_self
      · exact Or.inr (List.mem_cons_of_mem _ later)

/-- With distinct keys, `get` finds exactly the entries. -/
theorem get_eq_some_iff {d : Dict κ ν} (distinct : d.keys.Nodup) {k : κ} {v : ν} :
    d.get k = some v ↔ (k, v) ∈ d := by
  refine ⟨mem_of_get, fun member => ?_⟩
  induction d with
  | nil => simp at member
  | cons entry rest ih =>
      rcases entry with ⟨key, value⟩
      obtain ⟨unique, distinctRest⟩ := List.nodup_cons.mp distinct
      rcases List.mem_cons.mp member with same | tail
      · injection same with key_eq value_eq
        simp [get, key_eq, value_eq]
      · have different : key ≠ k := by
          rintro rfl
          have shadowed : (key, v).1 ∈ rest.map Prod.fst := List.mem_map_of_mem tail
          exact unique shadowed
        rw [get_cons, if_neg different]
        exact ih distinctRest tail

/-- Building from pairs with distinct keys keeps them as they are. -/
theorem ofPairs_eq {pairs : List (κ × ν)} (distinct : (keys pairs).Nodup) :
    ofPairs pairs = pairs := by
  suffices general : ∀ (d : Dict κ ν), (∀ k ∈ keys pairs, d.get k = none) →
      update d pairs = d ++ pairs by
    exact general [] (by simp)
  induction pairs with
  | nil => intro d _; simp [update]
  | cons entry rest ih =>
      rcases entry with ⟨key, value⟩
      obtain ⟨unique, distinctRest⟩ := List.nodup_cons.mp distinct
      intro d fresh
      have step := ih distinctRest (d.set key value) (by
        intro k member
        have different : key ≠ k := by
          rintro rfl
          exact unique member
        rw [get_set_ne _ _ different]
        exact fresh k (List.mem_cons_of_mem _ member))
      rw [set_of_absent value (fresh key (by simp [keys]))] at step
      simpa [update, set_of_absent value (fresh key (by simp [keys]))] using step

theorem ofPairs_snoc (pairs : List (κ × ν)) (k : κ) (v : ν) :
    ofPairs (pairs ++ [(k, v)]) = (ofPairs pairs).set k v := by
  simp [ofPairs, update]

/-! ## Keys that fall together -/

variable {κ' : Type*}

/-- The pair is the last of those whose keys have the same image as its own. -/
def LastUnder (f : κ → κ') (pairs : List (κ × ν)) (k : κ) (v : ν) : Prop :=
  ∃ front back, pairs = front ++ (k, v) :: back ∧ ∀ entry ∈ back, f entry.1 ≠ f k

omit [DecidableEq κ] in
theorem lastUnder_snoc {f : κ → κ'} {pairs : List (κ × ν)} {a k : κ} {w v : ν} :
    LastUnder f (pairs ++ [(a, w)]) k v ↔
      (a = k ∧ w = v) ∨ (f a ≠ f k ∧ LastUnder f pairs k v) := by
  constructor
  · rintro ⟨front, back, split, later⟩
    cases back using List.reverseRecOn with
    | nil =>
        obtain ⟨-, same⟩ := List.append_inj' split rfl
        exact Or.inl (by simpa using same)
    | append_singleton back last =>
        have regrouped : pairs ++ [(a, w)] = (front ++ (k, v) :: back) ++ [last] := by
          simpa using split
        obtain ⟨rfl, same⟩ := List.append_inj' regrouped rfl
        obtain rfl : (a, w) = last := by simpa using same
        refine Or.inr ⟨later (a, w) (by simp), front, back, rfl, fun entry member => ?_⟩
        exact later entry (List.mem_append_left _ member)
  · rintro (⟨rfl, rfl⟩ | ⟨different, front, back, rfl, later⟩)
    · exact ⟨pairs, [], rfl, nofun⟩
    · refine ⟨front, back ++ [(a, w)], by simp, fun entry member => ?_⟩
      rcases List.mem_append.mp member with old | new
      · exact later entry old
      · obtain rfl := List.mem_singleton.mp new
        exact different

omit [DecidableEq κ] in
/-- A dictionary built under an image of the keys has the last value of each image. -/
theorem get_ofPairs_map [DecidableEq κ'] (f : κ → κ') (pairs : List (κ × ν)) (x : κ') (v : ν) :
    (ofPairs (pairs.map fun entry => (f entry.1, entry.2))).get x = some v ↔
      ∃ k, LastUnder f pairs k v ∧ f k = x := by
  induction pairs using List.reverseRecOn with
  | nil => simp [ofPairs, update, LastUnder]
  | append_singleton pairs last ih =>
      rcases last with ⟨a, w⟩
      rw [List.map_append, List.map_singleton, ofPairs_snoc, get_set]
      split
      next same =>
        subst same
        constructor
        · rintro ⟨⟩
          exact ⟨a, lastUnder_snoc.mpr (.inl ⟨rfl, rfl⟩), rfl⟩
        · rintro ⟨k, last, same⟩
          rcases lastUnder_snoc.mp last with ⟨rfl, rfl⟩ | ⟨different, -⟩
          · rfl
          · exact absurd same.symm different
      next different =>
        rw [ih]
        constructor
        · rintro ⟨k, last, rfl⟩
          exact ⟨k, lastUnder_snoc.mpr (.inr ⟨different, last⟩), rfl⟩
        · rintro ⟨k, last, rfl⟩
          rcases lastUnder_snoc.mp last with ⟨rfl, rfl⟩ | ⟨-, old⟩
          · exact absurd rfl different
          · exact ⟨k, old, rfl⟩

omit [DecidableEq κ] in
/-- Whether the dictionary has an image as a key is a matter of the keys alone. -/
theorem get_ofPairs_map_none [DecidableEq κ'] (f : κ → κ') (pairs : List (κ × ν)) (x : κ') :
    (ofPairs (pairs.map fun entry => (f entry.1, entry.2))).get x = none ↔
      ∀ k ∈ keys pairs, f k ≠ x := by
  rw [get_eq_none_iff, ofPairs, mem_keys_update]
  simp [keys]

end Dict

end Library
