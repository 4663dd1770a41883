import Mathlib.Data.List.Basic
import Mathlib.Order.Lattice

/-! # The first match of a list

A list of objects in which a name stands for the first object that carries it:
looking it up, changing it in place and taking it out.
-/

namespace Library.First

variable {α β : Type} {p : α → Bool} {f : α → α}

/-- Change the first element that satisfies `p`. -/
def updateFirst (p : α → Bool) (f : α → α) : List α → List α
  | [] => []
  | a :: rest => if p a then f a :: rest else a :: updateFirst p f rest

theorem mem_updateFirst {l : List α} {a : α} (member : a ∈ updateFirst p f l) :
    a ∈ l ∨ ∃ b ∈ l, f b = a := by
  induction l with
  | nil => simp [updateFirst] at member
  | cons head rest ih =>
      unfold updateFirst at member
      split at member
      · rcases List.mem_cons.mp member with rfl | tail
        · exact Or.inr ⟨head, List.mem_cons_self, rfl⟩
        · exact Or.inl (List.mem_cons_of_mem _ tail)
      · rcases List.mem_cons.mp member with rfl | tail
        · exact Or.inl List.mem_cons_self
        · rcases ih tail with old | ⟨b, old, same⟩
          · exact Or.inl (List.mem_cons_of_mem _ old)
          · exact Or.inr ⟨b, List.mem_cons_of_mem _ old, same⟩

theorem find?_updateFirst (keeps : ∀ a, p a → p (f a)) (l : List α) :
    (updateFirst p f l).find? p = (l.find? p).map f := by
  induction l with
  | nil => rfl
  | cons head rest ih =>
      by_cases matches_p : p head
      · simp [updateFirst, matches_p, keeps head matches_p]
      · simp [updateFirst, matches_p, ih]

theorem map_updateFirst {g : α → β} (same : ∀ a, p a → g (f a) = g a) (l : List α) :
    (updateFirst p f l).map g = l.map g := by
  induction l with
  | nil => rfl
  | cons head rest ih =>
      unfold updateFirst
      split
      next matches_p => simp [same head matches_p]
      next => simp [ih]

/-- A change that the images show is a change of the images. -/
theorem map_updateFirst_comm {q : β → Bool} {h : β → β} {g : α → β} (same : ∀ a, q (g a) = p a)
    (comm : ∀ a, g (f a) = h (g a)) (l : List α) :
    (updateFirst p f l).map g = updateFirst q h (l.map g) := by
  induction l with
  | nil => rfl
  | cons head rest ih =>
      rw [List.map_cons, updateFirst, updateFirst, same]
      split
      · rw [List.map_cons, comm]
      · rw [List.map_cons, ih]

/-- A list is unchanged exactly if its first match is. -/
theorem updateFirst_eq_self_iff {l : List α} {a : α} (found : l.find? p = some a) :
    updateFirst p f l = l ↔ f a = a := by
  induction l with
  | nil => simp at found
  | cons head rest ih =>
      by_cases matches_p : p head
      · obtain rfl : head = a := by simpa [List.find?_cons, matches_p] using found
        simp [updateFirst, matches_p]
      · simp only [List.find?_cons, matches_p] at found
        simp [updateFirst, matches_p, ih found]

theorem updateFirst_updateFirst (keeps : ∀ a, p a → p (f a)) (g : α → α) (l : List α) :
    updateFirst p g (updateFirst p f l) = updateFirst p (g ∘ f) l := by
  induction l with
  | nil => rfl
  | cons head rest ih =>
      by_cases matches_p : p head
      · simp [updateFirst, matches_p, keeps head matches_p]
      · simp [updateFirst, matches_p, ih]

theorem eraseP_ne_self {l : List α} {a : α} (found : l.find? p = some a) : l.eraseP p ≠ l := by
  intro same
  have shorter := List.length_eraseP_of_mem (List.mem_of_find?_eq_some found)
    (List.find?_some found)
  have positive := List.length_pos_of_mem (List.mem_of_find?_eq_some found)
  rw [same] at shorter
  omega

/-- In a sorted list the first hit is the least element with a value. -/
theorem findSome?_sorted {γ : Type} [LinearOrder γ] {g : γ → Option β} {l : List γ} {b : β}
    (sorted : l.Pairwise (· < ·)) :
    l.findSome? g = some b ↔ ∃ a ∈ l, g a = some b ∧ ∀ a' ∈ l, a' < a → g a' = none := by
  induction l with
  | nil => simp
  | cons head rest ih =>
      obtain ⟨least, sorted⟩ := List.pairwise_cons.mp sorted
      cases value : g head with
      | some c =>
          rw [List.findSome?_cons, value]
          constructor
          · rintro ⟨⟩
            refine ⟨head, List.mem_cons_self, value, fun a' member below => ?_⟩
            rcases List.mem_cons.mp member with rfl | tail
            · exact absurd below (lt_irrefl a')
            · exact absurd below (lt_asymm (least a' tail))
          · rintro ⟨a, member, hit, earlier⟩
            rcases List.mem_cons.mp member with rfl | tail
            · exact value.symm.trans hit
            · cases value.symm.trans (earlier head List.mem_cons_self (least a tail))
      | none =>
          rw [List.findSome?_cons, value]
          refine (ih sorted).trans ?_
          simp only [List.exists_mem_cons_iff, List.forall_mem_cons, value, reduceCtorEq,
            false_and, false_or, implies_true, true_and]

end Library.First
