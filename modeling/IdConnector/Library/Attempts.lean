import Mathlib.Data.List.Basic

/-! # One attempt after the other

Calling a function that may raise for every element of a list: the first exception
ends the traversal, and without one there is a result for every element.
-/

namespace Library.Attempts

variable {ε α β : Type} {f : α → Except ε β}

theorem of_error {p : α → Prop} {e : ε} : ∀ a, (.error e : Except ε α) = .ok a → p a := by
  intro a same
  cases same

theorem bind_eq_ok {x : Except ε α} {b : β} : (x >>= f) = .ok b ↔ ∃ a, x = .ok a ∧ f a = .ok b := by
  cases x with
  | error e => simp [bind, Except.bind]
  | ok a => simp [bind, Except.bind]

theorem map_eq_ok {g : α → β} {x : Except ε α} {b : β} : g <$> x = .ok b ↔ ∃ a, x = .ok a ∧ g a = b := by
  cases x with
  | error e => simp [Functor.map, Except.map]
  | ok a => simp [Functor.map, Except.map]

theorem mapM_cons_ok {a : α} {b : β} {rest : List α} (first : f a = .ok b) :
    (a :: rest).mapM f = (rest.mapM f).map (b :: ·) := by
  rw [List.mapM_cons, first]
  cases rest.mapM f <;> rfl

theorem mapM_cons_error {a : α} {e : ε} {rest : List α} (first : f a = .error e) :
    (a :: rest).mapM f = .error e := by
  rw [List.mapM_cons, first]
  rfl

/-- The results are those of the single attempts, none of which raised. -/
theorem mapM_ok_iff {l : List α} {results : List β} :
    l.mapM f = .ok results ↔ l.map f = results.map .ok := by
  induction l generalizing results with
  | nil => simp [pure, Except.pure, eq_comm]
  | cons a rest ih =>
      cases first : f a with
      | error e =>
          rw [mapM_cons_error first]
          cases results <;> simp [first]
      | ok b =>
          rw [mapM_cons_ok first]
          cases others : rest.mapM f with
          | error e =>
              cases results with
              | nil => simp [Except.map]
              | cons c tail => simp [Except.map, first, ← ih, others]
          | ok tail =>
              have same := ih.mp others
              cases results with
              | nil => simp [Except.map]
              | cons c tail' => simp [Except.map, first, ← ih, others]

/-- A result that tells the element it belongs to gives back the list. -/
theorem map_of_mapM_ok {g : β → α} (back : ∀ {a b}, f a = .ok b → g b = a) {l : List α}
    {results : List β} (done : l.mapM f = .ok results) : results.map g = l := by
  have same := mapM_ok_iff.mp done
  induction l generalizing results with
  | nil =>
      obtain rfl : results = [] := by simpa using same.symm
      rfl
  | cons a rest ih =>
      cases results with
      | nil => simp at same
      | cons b tail =>
          obtain ⟨first, others⟩ := List.cons.inj same
          rw [List.map_cons, back first, ih (mapM_ok_iff.mpr others) others]

theorem exists_mapM_ok_iff {l : List α} :
    (∃ results, l.mapM f = .ok results) ↔ ∀ a ∈ l, ∃ b, f a = .ok b := by
  induction l with
  | nil => simp [pure, Except.pure]
  | cons a rest ih =>
      rw [List.forall_mem_cons, ← ih]
      cases first : f a with
      | error e => simp [mapM_cons_error first]
      | ok b => cases others : rest.mapM f <;> simp [mapM_cons_ok first, others, Except.map]

end Library.Attempts
