import Mathlib.Algebra.BigOperators.Group.List.Basic
import Mathlib.Data.Multiset.Filter
import Mathlib.Data.Multiset.ZeroCons

/-! # The part of a collection under some keys

A collection of records that others write to as well, seen through the keys that belong to
one writer: what is found under such a key, and what adding and taking out a record does.
-/

namespace Library.Keyed

variable {α κ : Type} [DecidableEq κ] {key : α → κ} {own : List κ}

/-- The keys of a collection that are among the given ones, with multiplicity. -/
def keysIn (key : α → κ) (own : List κ) (s : Multiset α) : Multiset κ :=
  (s.map key).filter (· ∈ own)

@[simp] theorem keysIn_cons_own {a : α} (s : Multiset α) (member : key a ∈ own) :
    keysIn key own (a ::ₘ s) = key a ::ₘ keysIn key own s := by
  simp [keysIn, Multiset.filter_cons_of_pos _ member]

theorem mem_keysIn {s : Multiset α} {k : κ} :
    k ∈ keysIn key own s ↔ k ∈ own ∧ ∃ a ∈ s, key a = k := by
  simp [keysIn, and_comm]

theorem keysIn_eq_zero_iff {s : Multiset α} :
    keysIn key own s = 0 ↔ ∀ a ∈ s, key a ∉ own := by
  simp [keysIn, Multiset.filter_eq_nil]

/-- Nothing is found under a key that is not in use. -/
theorem filter_eq_zero {s : Multiset α} {k : κ} (none : keysIn key own s = 0) (member : k ∈ own) :
    s.filter (fun a => key a = k) = 0 := by
  rw [Multiset.filter_eq_nil]
  intro a present same
  exact keysIn_eq_zero_iff.mp none a present (same ▸ member)

/-- Under the only key in use there is exactly one record. -/
theorem filter_eq_singleton {s : Multiset α} {k : κ} (single : keysIn key own s = {k}) :
    ∃ a rest, s.filter (fun a => key a = k) = {a} ∧ s = a ::ₘ rest ∧ key a = k ∧
      keysIn key own rest = 0 := by
  have used : k ∈ keysIn key own s := by simp [single]
  obtain ⟨member, a, present, same⟩ := mem_keysIn.mp used
  obtain ⟨rest, split⟩ := Multiset.exists_cons_of_mem present
  have left : keysIn key own rest = 0 := by
    rw [split, keysIn_cons_own rest (same ▸ member), same, ← Multiset.cons_zero] at single
    exact (Multiset.cons_inj_right k).mp single
  refine ⟨a, rest, ?_, split, same, left⟩
  rw [split, Multiset.filter_cons_of_pos (p := fun a => key a = k) rest same,
    filter_eq_zero left member]
  rfl

/-! ## Lists in which no key occurs twice -/

theorem filter_key {l : List α} (unique : (l.map key).Nodup) {a : α} (member : a ∈ l) :
    l.filter (fun b => key b = key a) = [a] := by
  induction l with
  | nil => cases member
  | cons b rest ih =>
      rw [List.map_cons, List.nodup_cons] at unique
      rcases List.mem_cons.mp member with rfl | later
      · rw [List.filter_cons_of_pos (by simp), List.filter_eq_nil_iff.mpr]
        intro c present same
        refine unique.1 (List.mem_map.mpr ⟨c, present, ?_⟩)
        simpa using same
      · have other : key b ≠ key a := by
          intro same
          exact unique.1 (List.mem_map.mpr ⟨a, later, same.symm⟩)
        rw [List.filter_cons_of_neg (by simpa using other), ih unique.2 later]

/-- Looking the records up again by their keys, where only those of a kind are found. -/
theorem sum_by_key {M : Type} [AddCommMonoid M] {l : List α} (unique : (l.map key).Nodup)
    (selected kind : α → Bool) (value : α → M) :
    ((l.filter selected).map fun a =>
        ((l.filter fun b => decide (key b = key a) && kind b).map value).sum).sum =
      ((l.filter fun a => selected a && kind a).map value).sum := by
  have found (a : α) (member : a ∈ l) :
      ((l.filter fun b => decide (key b = key a) && kind b).map value).sum =
        if kind a then value a else 0 := by
    have split : (l.filter fun b => decide (key b = key a) && kind b) = [a].filter kind := by
      rw [← filter_key unique member, List.filter_filter]
      exact List.filter_congr fun b _ => Bool.and_comm _ _
    rw [split]
    cases of_kind : kind a with
    | false => simp [of_kind]
    | true => simp [of_kind]
  rw [List.map_congr_left fun a member => found a (List.mem_of_mem_filter member)]
  clear found unique
  induction l with
  | nil => rfl
  | cons a rest ih =>
      cases chosen : selected a with
      | false => simpa [chosen] using ih
      | true =>
          cases of_kind : kind a with
          | false => simpa [chosen, of_kind] using ih
          | true => simpa [chosen, of_kind] using congrArg (value a + ·) ih

end Library.Keyed
