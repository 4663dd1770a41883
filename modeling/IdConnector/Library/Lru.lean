import IdConnector.Library.Dict

/-! # Caches of bounded size

A cache keeps the values that were used last. A relation between keys and values that every
value has when it is put in holds of whatever the cache answers (`Lru.Holds.answer`).
-/

namespace Library

/-- Entries with distinct keys, the one that was used last in front. -/
structure Lru (κ ν : Type) (size : Nat) where
  entries : Dict κ ν
  bounded : entries.length ≤ size
  distinct : entries.keys.Nodup

namespace Lru

variable {κ ν : Type} [DecidableEq κ] {size : Nat}

def empty : Lru κ ν size := ⟨[], Nat.zero_le size, List.nodup_nil⟩

def get (cache : Lru κ ν size) (k : κ) : Option ν := Dict.get cache.entries k

/-- Put an entry in front. If there is one too many, the last one goes. -/
def use (cache : Lru κ ν size) (k : κ) (v : ν) : Lru κ ν size where
  entries := ((k, v) :: cache.entries.del k).take size
  bounded := List.length_take_le size _
  distinct := by
    have absent : k ∉ (cache.entries.del k).keys := Dict.get_eq_none_iff.mp (Dict.get_del_self _ k)
    have fresh : (Dict.keys ((k, v) :: cache.entries.del k)).Nodup :=
      List.nodup_cons.mpr ⟨absent, Dict.nodup_del cache.distinct k⟩
    exact fresh.sublist ((List.take_sublist size _).map Prod.fst)

/-- The value of the cache, or else a new one, which is put in. -/
def answer (cache : Lru κ ν size) (k : κ) (new : ν) : ν × Lru κ ν size :=
  let v := (cache.get k).getD new
  (v, cache.use k v)

theorem get_use_self (positive : 0 < size) (cache : Lru κ ν size) (k : κ) (v : ν) :
    (cache.use k v).get k = some v := by
  obtain ⟨n, rfl⟩ := Nat.exists_eq_succ_of_ne_zero (Nat.ne_of_gt positive)
  simp [get, use, Dict.get]

/-- A value that was just asked for is answered again. -/
theorem answer_answer (positive : 0 < size) (cache : Lru κ ν size) (k : κ) (new newer : ν) :
    ((cache.answer k new).2.answer k newer).1 = (cache.answer k new).1 := by
  simp only [answer, get_use_self positive, Option.getD_some]

/-- Every value is related to its key. -/
def Holds (rel : κ → ν → Prop) (cache : Lru κ ν size) : Prop :=
  ∀ k v, (k, v) ∈ cache.entries → rel k v

variable {rel : κ → ν → Prop} {cache : Lru κ ν size}

omit [DecidableEq κ] in
theorem holds_empty : Holds rel (empty : Lru κ ν size) := by
  intro k v member
  exact absurd member List.not_mem_nil

theorem Holds.get (holds : Holds rel cache) {k : κ} {v : ν} (found : cache.get k = some v) :
    rel k v :=
  holds k v (Dict.mem_of_get found)

theorem Holds.use (holds : Holds rel cache) {k : κ} {v : ν} (new : rel k v) :
    Holds rel (cache.use k v) := by
  intro k' v' member
  rcases List.mem_cons.mp (List.mem_of_mem_take member) with same | old
  · cases same
    exact new
  · exact holds k' v' ((Dict.del_sublist cache.entries k).mem old)

/-- A cache with a right new value answers with a right value and stays right. -/
theorem Holds.answer (holds : Holds rel cache) {k : κ} {v : ν} (new : rel k v) :
    rel k (cache.answer k v).1 ∧ Holds rel (cache.answer k v).2 := by
  have right : rel k ((cache.get k).getD v) := by
    cases found : cache.get k with
    | none => exact new
    | some old => exact holds.get found
  exact ⟨right, holds.use right⟩

end Lru

end Library
