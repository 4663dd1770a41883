import Mathlib.Control.Basic

/-! # Actions that keep their state

Imperative code with exceptions: an action works on a state and either returns
or raises, and whatever it did to the state before it raised stays done.
-/

namespace Library

/-- An action on states `σ` that may raise an exception of type `ε`. -/
abbrev Action (σ ε α : Type) := ExceptT ε (StateM σ) α

namespace Action

variable {σ ε α β : Type}

/-- Run an action: what it returned or raised, and the state it left behind. -/
def exec (m : Action σ ε α) (s : σ) : Except ε α × σ := (ExceptT.run m).run s

/-- Raise unless the condition holds. -/
def require (ok : Bool) (e : ε) : Action σ ε PUnit :=
  if ok then pure ⟨⟩ else throw e

@[simp] theorem exec_pure (a : α) (s : σ) : exec (pure a : Action σ ε α) s = (.ok a, s) := rfl

@[simp] theorem exec_throw (e : ε) (s : σ) :
    exec (throw e : Action σ ε α) s = (.error e, s) := rfl

@[simp] theorem exec_get (s : σ) : exec (get : Action σ ε σ) s = (.ok s, s) := rfl

@[simp] theorem exec_set (s s' : σ) : exec (set s' : Action σ ε PUnit) s = (.ok ⟨⟩, s') := rfl

@[simp] theorem exec_modify (f : σ → σ) (s : σ) :
    exec (modify f : Action σ ε PUnit) s = (.ok ⟨⟩, f s) := rfl

@[simp] theorem exec_ofExcept (result : Except ε α) (s : σ) :
    exec (ofExcept result : Action σ ε α) s = (result, s) := by
  cases result <;> rfl

@[simp] theorem exec_require (ok : Bool) (e : ε) (s : σ) :
    exec (require ok e : Action σ ε PUnit) s = (if ok then .ok ⟨⟩ else .error e, s) := by
  cases ok <;> rfl

theorem exec_bind (m : Action σ ε α) (f : α → Action σ ε β) (s : σ) :
    exec (m >>= f) s =
      match exec m s with
      | (.ok a, s') => exec (f a) s'
      | (.error e, s') => (.error e, s') := by
  show (ExceptT.run (m >>= f)).run s = _
  simp only [ExceptT.run_bind, StateT.run_bind, exec]
  rcases (ExceptT.run m).run s with ⟨result, s'⟩
  cases result <;> rfl

theorem exec_bind_ok {m : Action σ ε α} {s s' : σ} {a : α} (f : α → Action σ ε β)
    (first : exec m s = (.ok a, s')) : exec (m >>= f) s = exec (f a) s' := by
  rw [exec_bind, first]

theorem exec_bind_error {m : Action σ ε α} {s s' : σ} {e : ε} (f : α → Action σ ε β)
    (first : exec m s = (.error e, s')) : exec (m >>= f) s = (.error e, s') := by
  rw [exec_bind, first]

/-- The state after a sequence is the one that its first part left behind when it raised, or
    the one that its second part has made of it. -/
theorem exec_bind_state {m : Action σ ε α} {f : α → Action σ ε β} {s : σ} (post : σ → Prop)
    (raised : post (exec m s).2) (returned : ∀ a, (exec m s).1 = .ok a →
      post (exec (f a) (exec m s).2).2) : post (exec (m >>= f) s).2 := by
  rw [exec_bind]
  cases run : exec m s with
  | mk result s' =>
      rw [run] at raised returned
      cases result with
      | ok a => exact returned a rfl
      | error e => exact raised

theorem exec_map (f : α → β) (m : Action σ ε α) (s : σ) :
    exec (f <$> m) s = ((exec m s).1.map f, (exec m s).2) := by
  have mapped : f <$> m = m >>= fun a => pure (f a) := (bind_pure_comp f m).symm
  rw [mapped, exec_bind]
  cases exec m s with
  | mk result s' => cases result <;> rfl

theorem exec_tryCatch (m : Action σ ε α) (handler : ε → Action σ ε α) (s : σ) :
    exec (tryCatch m handler) s =
      match exec m s with
      | (.ok a, s') => (.ok a, s')
      | (.error e, s') => exec (handler e) s' := by
  show StateT.run (ExceptT.run (tryCatch m handler)) s = _
  change (StateT.run (ExceptT.run m >>= fun result => match result with
    | .ok a => pure (.ok a)
    | .error e => ExceptT.run (handler e)) s) = _
  rw [StateT.run_bind]
  unfold exec
  cases StateT.run (ExceptT.run m) s with
  | mk result s' => cases result <;> rfl

/-- An action on a part of the state. -/
def zoom {τ : Type} (part : τ → σ) (put : σ → τ → τ) (m : Action σ ε α) : Action τ ε α :=
  ExceptT.mk fun s => ((exec m (part s)).1, put (exec m (part s)).2 s)

@[simp] theorem exec_zoom {τ : Type} (part : τ → σ) (put : σ → τ → τ) (m : Action σ ε α) (s : τ) :
    exec (zoom part put m) s = ((exec m (part s)).1, put (exec m (part s)).2 s) := rfl

/-- What a sequence returned was returned by its second part. -/
theorem exec_bind_eq_ok {m : Action σ ε α} {f : α → Action σ ε β} {s s' : σ} {b : β} :
    exec (m >>= f) s = (.ok b, s') ↔
      ∃ a s₁, exec m s = (.ok a, s₁) ∧ exec (f a) s₁ = (.ok b, s') := by
  rw [exec_bind]
  cases run : exec m s with
  | mk result s₁ =>
      cases result with
      | error e => simp
      | ok a =>
          constructor
          · intro done
            exact ⟨a, s₁, rfl, done⟩
          · rintro ⟨a', s', same, done⟩
            cases same
            exact done

/-! ## What an action preserves -/

/-- Whether it returns or raises, the action preserves the invariant. -/
def Preserves (inv : σ → Prop) (m : Action σ ε α) : Prop :=
  ∀ s, inv s → inv (exec m s).2

variable {inv : σ → Prop}

theorem preserves_pure (a : α) : Preserves inv (pure a : Action σ ε α) := fun _ holds => holds

theorem preserves_throw (e : ε) : Preserves inv (throw e : Action σ ε α) := fun _ holds => holds

theorem preserves_get : Preserves inv (get : Action σ ε σ) := fun _ holds => holds

theorem preserves_modify {f : σ → σ} (step : ∀ s, inv s → inv (f s)) :
    Preserves inv (modify f : Action σ ε PUnit) := step

theorem preserves_ofExcept (result : Except ε α) :
    Preserves inv (ofExcept result : Action σ ε α) := by
  intro s holds
  rw [exec_ofExcept]
  exact holds

theorem preserves_require (ok : Bool) (e : ε) :
    Preserves inv (require ok e : Action σ ε PUnit) := by
  intro s holds
  rw [exec_require]
  exact holds

theorem preserves_bind {m : Action σ ε α} {f : α → Action σ ε β} (first : Preserves inv m)
    (rest : ∀ a, Preserves inv (f a)) : Preserves inv (m >>= f) := by
  intro s holds
  have between := first s holds
  exact exec_bind_state inv between fun a _ => rest a _ between

theorem preserves_ite {p : Prop} [Decidable p] {m n : Action σ ε α} (yes : Preserves inv m)
    (no : Preserves inv n) : Preserves inv (if p then m else n) := by
  split
  · exact yes
  · exact no

theorem preserves_map {m : Action σ ε α} (f : α → β) (step : Preserves inv m) :
    Preserves inv (f <$> m) := by
  intro s holds
  rw [exec_map]
  exact step s holds

theorem preserves_mapM {f : α → Action σ ε β} (each : ∀ a, Preserves inv (f a)) (l : List α) :
    Preserves inv (l.mapM f) := by
  induction l with
  | nil => exact preserves_pure _
  | cons a rest ih =>
      rw [List.mapM_cons]
      exact preserves_bind (each a) fun _ => preserves_bind ih fun _ => preserves_pure _

theorem preserves_foldlM {f : β → α → Action σ ε β} (each : ∀ b a, Preserves inv (f b a))
    (l : List α) (b : β) : Preserves inv (l.foldlM f b) := by
  induction l generalizing b with
  | nil => exact preserves_pure _
  | cons a rest ih =>
      rw [List.foldlM_cons]
      exact preserves_bind (each b a) fun _ => ih _

theorem preserves_tryCatch {m : Action σ ε α} {handler : ε → Action σ ε α}
    (step : Preserves inv m) (handled : ∀ e, Preserves inv (handler e)) :
    Preserves inv (tryCatch m handler) := by
  intro s holds
  rw [exec_tryCatch]
  have between := step s holds
  cases run : exec m s with
  | mk result s' =>
      rw [run] at between
      cases result with
      | ok a => exact between
      | error e => exact handled e s' between

/-! ## What an action leaves alone -/

/-- Whether it returns or raises, the action does not change what `view` shows. -/
def Keeps {γ : Type} (view : σ → γ) (m : Action σ ε α) : Prop :=
  ∀ s, view (exec m s).2 = view s

variable {γ : Type} {view : σ → γ}

theorem keeps_iff_preserves {m : Action σ ε α} :
    Keeps view m ↔ ∀ shown, Preserves (fun s => view s = shown) m := by
  constructor
  · intro kept shown s same
    exact (kept s).trans same
  · intro preserved s
    exact preserved (view s) s rfl

theorem keeps_pure (a : α) : Keeps view (pure a : Action σ ε α) := fun _ => rfl

theorem keeps_throw (e : ε) : Keeps view (throw e : Action σ ε α) := fun _ => rfl

theorem keeps_get : Keeps view (get : Action σ ε σ) := fun _ => rfl

theorem keeps_modify {f : σ → σ} (same : ∀ s, view (f s) = view s) :
    Keeps view (modify f : Action σ ε PUnit) := same

theorem keeps_ofExcept (result : Except ε α) :
    Keeps view (ofExcept result : Action σ ε α) :=
  keeps_iff_preserves.mpr fun _ => preserves_ofExcept result

theorem keeps_require (ok : Bool) (e : ε) :
    Keeps view (require ok e : Action σ ε PUnit) :=
  keeps_iff_preserves.mpr fun _ => preserves_require ok e

theorem keeps_bind {m : Action σ ε α} {f : α → Action σ ε β} (first : Keeps view m)
    (rest : ∀ a, Keeps view (f a)) : Keeps view (m >>= f) := by
  rw [keeps_iff_preserves] at first ⊢
  intro shown
  exact preserves_bind (first shown) fun a => keeps_iff_preserves.mp (rest a) shown

theorem keeps_mapM {f : α → Action σ ε β} (each : ∀ a, Keeps view (f a)) (l : List α) :
    Keeps view (l.mapM f) :=
  keeps_iff_preserves.mpr fun shown => preserves_mapM (fun a => keeps_iff_preserves.mp (each a) shown) l

/-! ## What an action logs -/

/-- The action logs the entry or nothing, whether it returns or raises. -/
def LogsAtMost {κ : Type} (log : σ → List κ) (entry : κ) (m : Action σ ε α) : Prop :=
  ∀ s, log (exec m s).2 = log s ∨ log (exec m s).2 = log s ++ [entry]

variable {κ : Type} {log : σ → List κ} {entry : κ}

theorem logsAtMost_bind_left {m : Action σ ε α} {f : α → Action σ ε β} (first : Keeps log m)
    (rest : ∀ a, LogsAtMost log entry (f a)) : LogsAtMost log entry (m >>= f) := by
  intro s
  have between := first s
  refine exec_bind_state (fun t => log t = log s ∨ log t = log s ++ [entry]) (Or.inl between) ?_
  intro a _
  rw [← between]
  exact rest a _

theorem logsAtMost_bind_right {m : Action σ ε α} {f : α → Action σ ε β}
    (first : LogsAtMost log entry m) (rest : ∀ a, Keeps log (f a)) :
    LogsAtMost log entry (m >>= f) := by
  intro s
  have between := first s
  refine exec_bind_state (fun t => log t = log s ∨ log t = log s ++ [entry]) between ?_
  intro a _
  rw [rest a _]
  exact between

end Action

end Library
