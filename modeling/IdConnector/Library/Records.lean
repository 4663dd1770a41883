import Mathlib.Data.Multiset.Filter
import Mathlib.Data.Multiset.ZeroCons
import Mathlib.Logic.Function.Basic

/-! # Collections of records as finite maps

A collection of records, no two of which have the same key, is a finite map. Adding a record,
replacing one and taking one out are updates of the map at one key.
-/

namespace Library.Records

variable {α κ ν : Type} {key : α → κ} {val : α → ν} {s : Multiset α} {m : κ → Option ν}

/-- The records show the map: every key is that of at most one record, which has the value. -/
structure Represents (key : α → κ) (val : α → ν) (s : Multiset α) (m : κ → Option ν) : Prop where
  distinct : (s.map key).Nodup
  shows : ∀ k v, m k = some v ↔ ∃ a ∈ s, key a = k ∧ val a = v

namespace Represents

theorem empty (key : α → κ) (val : α → ν) : Represents key val 0 fun _ => none where
  distinct := Multiset.nodup_zero
  shows _ _ := by simp

theorem absent_iff (rep : Represents key val s m) {k : κ} : m k = none ↔ ∀ a ∈ s, key a ≠ k := by
  constructor
  · intro unset a member same
    have shown := (rep.shows k (val a)).mpr ⟨a, member, same, rfl⟩
    rw [unset] at shown
    cases shown
  · intro other
    cases entry : m k with
    | none => rfl
    | some v =>
        obtain ⟨a, member, same, _⟩ := (rep.shows k v).mp entry
        exact absurd same (other a member)

theorem get_of_mem (rep : Represents key val s m) {a : α} (member : a ∈ s) :
    m (key a) = some (val a) :=
  (rep.shows _ _).mpr ⟨a, member, rfl, rfl⟩

theorem unique {m' : κ → Option ν} (rep : Represents key val s m) (rep' : Represents key val s m') :
    m = m' := by
  funext k
  apply Option.ext
  intro v
  rw [rep.shows, rep'.shows]

variable [DecidableEq κ]

/-- Under a key that is not in use nothing is found. -/
theorem filter_of_none (rep : Represents key val s m) {k : κ} (unset : m k = none) :
    s.filter (fun a => key a = k) = 0 := by
  rw [Multiset.filter_eq_nil]
  exact rep.absent_iff.mp unset

/-- Under a key that is in use exactly one record is found. -/
theorem filter_of_some (rep : Represents key val s m) {k : κ} {v : ν} (found : m k = some v) :
    ∃ a rest, s.filter (fun a => key a = k) = {a} ∧ s = a ::ₘ rest ∧ key a = k ∧ val a = v := by
  obtain ⟨a, member, same, value⟩ := (rep.shows k v).mp found
  obtain ⟨rest, split⟩ := Multiset.exists_cons_of_mem member
  have distinct := rep.distinct
  rw [split, Multiset.map_cons, Multiset.nodup_cons] at distinct
  refine ⟨a, rest, ?_, split, same, value⟩
  rw [split, Multiset.filter_cons_of_pos (p := fun a => key a = k) rest same]
  have none_left : rest.filter (fun a => key a = k) = 0 := by
    rw [Multiset.filter_eq_nil]
    intro b member' same'
    exact distinct.1 (Multiset.mem_map.mpr ⟨b, member', same'.trans same.symm⟩)
  rw [none_left]
  rfl

theorem insert (rep : Represents key val s m) {a : α} (unset : m (key a) = none) :
    Represents key val (a ::ₘ s) (Function.update m (key a) (some (val a))) where
  distinct := by
    rw [Multiset.map_cons, Multiset.nodup_cons]
    refine ⟨?_, rep.distinct⟩
    intro member
    obtain ⟨b, present, same⟩ := Multiset.mem_map.mp member
    exact rep.absent_iff.mp unset b present same
  shows k v := by
    by_cases same : k = key a
    · subst same
      rw [Function.update_self, Option.some.injEq]
      constructor
      · intro value
        exact ⟨a, Multiset.mem_cons_self a s, rfl, value⟩
      · rintro ⟨b, member, same', value⟩
        rcases Multiset.mem_cons.mp member with rfl | present
        · exact value
        · exact absurd same' (rep.absent_iff.mp unset b present)
    · rw [Function.update_of_ne same, rep.shows]
      constructor
      · rintro ⟨b, member, same', value⟩
        exact ⟨b, Multiset.mem_cons_of_mem member, same', value⟩
      · rintro ⟨b, member, rfl, value⟩
        rcases Multiset.mem_cons.mp member with rfl | present
        · exact absurd rfl same
        · exact ⟨b, present, rfl, value⟩

theorem erase {a : α} (rep : Represents key val (a ::ₘ s) m) :
    Represents key val s (Function.update m (key a) none) := by
  have distinct := rep.distinct
  rw [Multiset.map_cons, Multiset.nodup_cons] at distinct
  refine ⟨distinct.2, fun k v => ?_⟩
  by_cases same : k = key a
  · subst same
    rw [Function.update_self]
    constructor
    · intro value
      cases value
    · rintro ⟨b, present, same', -⟩
      exact absurd (Multiset.mem_map.mpr ⟨b, present, same'⟩) distinct.1
  · rw [Function.update_of_ne same, rep.shows]
    constructor
    · rintro ⟨b, member, rfl, value⟩
      rcases Multiset.mem_cons.mp member with rfl | present
      · exact absurd rfl same
      · exact ⟨b, present, rfl, value⟩
    · rintro ⟨b, present, same', value⟩
      exact ⟨b, Multiset.mem_cons_of_mem present, same', value⟩

theorem replace {a b : α} (rep : Represents key val (a ::ₘ s) m) (same : key b = key a) :
    Represents key val (b ::ₘ s) (Function.update m (key a) (some (val b))) := by
  have without := rep.erase
  rw [← same] at without ⊢
  have added := without.insert (Function.update_self (key b) none m)
  rwa [Function.update_idem] at added

end Represents

end Library.Records
