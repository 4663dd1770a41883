import IdConnector.Library.Action

/-! # Actions that compute a value

An action may fail for reasons of its own, but as long as it returns, it returns the value of
a pure computation, and it preserves an invariant of its surroundings. Such facts compose, so
code written for any monad can be followed through its pure interpretation.
-/

namespace Library.Action

variable {σ ε α β : Type} {inv : σ → Prop}

/-- The action preserves the invariant, and what it returns is what `x` returns. -/
structure Computes (inv : σ → Prop) (m : Action σ ε α) (x : Except ε α) : Prop where
  preserves : Preserves inv m
  returns : ∀ s, inv s → ∀ a, (exec m s).1 = .ok a → x = .ok a

namespace Computes

/-- A run that has returned. -/
theorem of_exec {m : Action σ ε α} {x : Except ε α} (computes : Computes inv m x) {s s' : σ} {a : α}
    (holds : inv s) (done : exec m s = (.ok a, s')) : x = .ok a ∧ inv s' := by
  have kept := computes.preserves s holds
  have returned := computes.returns s holds a
  rw [done] at kept returned
  exact ⟨returned rfl, kept⟩

theorem pure (a : α) : Computes inv (Pure.pure a : Action σ ε α) (.ok a) where
  preserves := preserves_pure a
  returns _ _ _ same := same

theorem throw (e : ε) : Computes inv (MonadExcept.throw e : Action σ ε α) (.error e) where
  preserves := preserves_throw e
  returns _ _ _ same := same

theorem ofExcept (x : Except ε α) : Computes inv (MonadExcept.ofExcept x : Action σ ε α) x where
  preserves := preserves_ofExcept x
  returns s _ a same := by rwa [exec_ofExcept] at same

theorem bind {m : Action σ ε α} {x : Except ε α} {f : α → Action σ ε β} {g : α → Except ε β}
    (first : Computes inv m x) (rest : ∀ a, x = .ok a → Computes inv (f a) (g a)) :
    Computes inv (m >>= f) (x >>= g) where
  preserves s holds := by
    have between := first.preserves s holds
    refine exec_bind_state inv between fun a returned => ?_
    exact (rest a (first.returns s holds a returned)).preserves _ between
  returns s holds b done := by
    rw [exec_bind] at done
    cases run : exec m s with
    | mk result s' =>
        rw [run] at done
        cases result with
        | error e => cases done
        | ok a =>
            obtain ⟨rfl, kept⟩ := first.of_exec holds run
            exact (rest a rfl).returns s' kept b done

theorem map (f : α → β) {m : Action σ ε α} {x : Except ε α} (computes : Computes inv m x) :
    Computes inv (f <$> m) (f <$> x) := by
  rw [← bind_pure_comp, ← bind_pure_comp]
  exact bind computes fun a _ => pure (f a)

theorem foldlM {f : β → α → Action σ ε β} {g : β → α → Except ε β}
    (each : ∀ b a, Computes inv (f b a) (g b a)) (l : List α) (b : β) :
    Computes inv (l.foldlM f b) (l.foldlM g b) := by
  induction l generalizing b with
  | nil => exact pure b
  | cons a rest ih =>
      rw [List.foldlM_cons, List.foldlM_cons]
      exact bind (each b a) fun b' _ => ih b'

theorem mapM {f : α → Action σ ε β} {g : α → Except ε β} (each : ∀ a, Computes inv (f a) (g a))
    (l : List α) : Computes inv (l.mapM f) (l.mapM g) := by
  induction l with
  | nil => exact pure []
  | cons a rest ih =>
      rw [List.mapM_cons, List.mapM_cons]
      exact bind (each a) fun b _ => bind ih fun bs _ => pure (b :: bs)

end Computes

end Library.Action
