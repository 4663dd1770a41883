import IdConnector.Library.Action
import Mathlib.Data.List.Sort

/-! # Two runs of one program

`Coupled R E A m n`: from states related by `R` the two actions end in such states again, and
what they return or raise is related by `A` or `E`. There is a rule for every construct of an
action, so that a program is compared with itself piece by piece. Lists in two such states
are compared by their images under a function that only shows a part of their elements.
-/

namespace Library.Action

variable {σ ε α α' β β' : Type} {R : σ → σ → Prop} {E : ε → ε → Prop} {A : α → α' → Prop}
  {B : β → β' → Prop}

/-- Both returned related values or raised related exceptions. -/
def Alike (E : ε → ε → Prop) (A : α → α' → Prop) : Except ε α → Except ε α' → Prop
  | .ok a, .ok a' => A a a'
  | .error e, .error e' => E e e'
  | _, _ => False

def Coupled (R : σ → σ → Prop) (E : ε → ε → Prop) (A : α → α' → Prop) (m : Action σ ε α)
    (n : Action σ ε α') : Prop :=
  ∀ s t, R s t → Alike E A (exec m s).1 (exec n t).1 ∧ R (exec m s).2 (exec n t).2

theorem coupled_pure {a : α} {a' : α'} (related : A a a') :
    Coupled R E A (pure a : Action σ ε α) (pure a') :=
  fun _ _ same => ⟨related, same⟩

theorem coupled_throw {e e' : ε} (related : E e e') :
    Coupled R E A (throw e : Action σ ε α) (throw e') :=
  fun _ _ same => ⟨related, same⟩

theorem coupled_get : Coupled R E R (get : Action σ ε σ) get :=
  fun _ _ same => ⟨same, same⟩

theorem coupled_modify {f g : σ → σ} (step : ∀ s t, R s t → R (f s) (g t)) :
    Coupled R E (fun _ _ => True) (modify f : Action σ ε PUnit) (modify g) :=
  fun s t same => ⟨trivial, step s t same⟩

theorem coupled_ofExcept {result : Except ε α} {result' : Except ε α'}
    (alike : Alike E A result result') :
    Coupled R E A (ofExcept result : Action σ ε α) (ofExcept result') := by
  intro s t same
  rw [exec_ofExcept, exec_ofExcept]
  exact ⟨alike, same⟩

theorem coupled_require (ok : Bool) {e e' : ε} (related : E e e') :
    Coupled R E (fun _ _ => True) (require ok e : Action σ ε PUnit) (require ok e') := by
  cases ok with
  | true => exact coupled_pure trivial
  | false => exact coupled_throw related

theorem coupled_bind {m : Action σ ε α} {n : Action σ ε α'} {f : α → Action σ ε β}
    {g : α' → Action σ ε β'} (first : Coupled R E A m n)
    (rest : ∀ a a', A a a' → Coupled R E B (f a) (g a')) : Coupled R E B (m >>= f) (n >>= g) := by
  intro s t same
  rw [exec_bind, exec_bind]
  obtain ⟨alike, between⟩ := first s t same
  cases run : exec m s with
  | mk result s' =>
      cases run' : exec n t with
      | mk result' t' =>
          rw [run, run'] at alike between
          cases result with
          | ok a =>
              cases result' with
              | ok a' => exact rest a a' alike s' t' between
              | error e' => exact alike.elim
          | error e =>
              cases result' with
              | ok a' => exact alike.elim
              | error e' => exact ⟨alike, between⟩

end Library.Action

namespace Library

/-! ## Lists that show the same -/

variable {α β β' γ κ : Type}

/-- Lists with the same images under `f` and `g` have the same ones under every function that
    cannot tell more. -/
theorem map_eq_of_map_eq {f : α → β} {g : α → β'} {h : α → γ} {l m : List α}
    (coarser : ∀ a b, f a = f b → g a = g b → h a = h b) (first : l.map f = m.map f)
    (second : l.map g = m.map g) : l.map h = m.map h := by
  induction l generalizing m with
  | nil => cases m with
    | nil => rfl
    | cons => cases first
  | cons a rest ih => cases m with
    | nil => cases first
    | cons b more =>
        simp only [List.map_cons, List.cons.injEq] at first second ⊢
        exact ⟨coarser a b first.1 second.1, ih first.2 second.2⟩

/-- Lists with the same keys are sorted alike, so their sorted images tell their images. -/
theorem map_eq_of_sorted [LE κ] [DecidableLE κ] {key : α → κ} {f : α → β} {l m : List α}
    (keys : l.map key = m.map key)
    (sorted : (l.insertionSort fun a b => key a ≤ key b).map f =
      (m.insertionSort fun a b => key a ≤ key b).map f) : l.map f = m.map f := by
  have lengths : l.length = m.length := by simpa using congrArg List.length keys
  let pairs := l.zip m
  have left : pairs.map Prod.fst = l := List.map_fst_zip (le_of_eq lengths)
  have right : pairs.map Prod.snd = m := List.map_snd_zip (le_of_eq lengths.symm)
  rw [← left, ← right] at keys sorted ⊢
  simp only [List.map_map] at keys ⊢
  rw [List.map_inj_left] at keys ⊢
  have sortedLeft : (pairs.insertionSort fun p q => key p.1 ≤ key q.1).map Prod.fst =
      (pairs.map Prod.fst).insertionSort fun a b => key a ≤ key b :=
    List.map_insertionSort _ _ _ _ fun _ _ _ _ => Iff.rfl
  have sortedRight : (pairs.insertionSort fun p q => key p.1 ≤ key q.1).map Prod.snd =
      (pairs.map Prod.snd).insertionSort fun a b => key a ≤ key b := by
    apply List.map_insertionSort
    intro p here q there
    rw [show key p.1 = key p.2 from keys p here, show key q.1 = key q.2 from keys q there]
  rw [← sortedLeft, ← sortedRight, List.map_map, List.map_map, List.map_inj_left] at sorted
  exact fun p here => sorted p ((List.mem_insertionSort _).mpr here)

end Library
