import Mathlib.Algebra.BigOperators.Group.List.Basic
import Mathlib.Tactic.Abel

/-! # Tasks behind a semaphore

Tasks that run at the same time, at most as many as a semaphore has permits. A task goes through
a program in steps; a step reads a world, which may be another one at every step, and writes to a
log that all tasks share. An exception ends its task and nothing else, and the first one is kept.
What holds for every order of the steps: the permits are never exceeded (`step_permits`), what the
tasks write is what their programs have to write (`step_accounted`), and they come to an end
(`step_left`, `exists_step`).
-/

namespace Library

/-- What a step of a program leads to. -/
inductive Progress (P E : Type) where
  | more (program : P)
  | ended
  | raised (exception : E)

namespace Progress

variable {P E M : Type}

/-- What is still to be written, if `whole` is what a program has to write. -/
def pending [Zero M] (whole : P → M) : Progress P E → M
  | more program => whole program
  | _ => 0

def isRaised : Progress P E → Bool
  | raised _ => true
  | _ => false

/-- There is no exception, and what follows has the given property. -/
def Within (good : P → Prop) : Progress P E → Prop
  | more program => good program
  | ended => True
  | raised _ => False

end Progress

/-- Where a task of the pool is. -/
inductive PoolTask (P : Type) where
  /-- It has no permit yet. -/
  | waiting (program : P)
  | running (program : P)
  | ended

namespace PoolTask

variable {P M : Type}

/-- The permits that a task has. -/
def held : PoolTask P → Nat
  | running _ => 1
  | _ => 0

/-- What a task still has to write, if `whole` is what its program has to write. -/
def pending [Zero M] (whole : P → M) : PoolTask P → M
  | waiting program => whole program
  | running program => whole program
  | ended => 0

/-- A bound for the steps that a task can still make, if `size` is one for its program. -/
def left (size : P → Nat) : PoolTask P → Nat
  | waiting program => size program + 1
  | running program => size program
  | ended => 0

def isEnded : PoolTask P → Bool
  | ended => true
  | _ => false

/-- A task that has not ended goes through a program with the given property. -/
def Within (good : P → Prop) : PoolTask P → Prop
  | waiting program => good program
  | running program => good program
  | ended => True

end PoolTask

/-- Tasks that share a number of permits, and what they have logged and raised. -/
structure Pool (P O E : Type) where
  permits : Nat
  tasks : List (PoolTask P)
  raised : Option E
  log : List O

namespace Pool

variable {W P O E : Type}

def start (permits : Nat) (programs : List P) : Pool P O E :=
  ⟨permits, programs.map .waiting, none, []⟩

def AllEnded (pool : Pool P O E) : Prop := ∀ task ∈ pool.tasks, task.isEnded = true

instance (pool : Pool P O E) : Decidable pool.AllEnded :=
  inferInstanceAs (Decidable (∀ task ∈ pool.tasks, task.isEnded = true))

section Steps

variable (advance : W → P → Progress P E × List O)

/-- A task that has a permit makes a step in the world `w`. -/
def act (w : W) (i : Nat) (program : P) (pool : Pool P O E) : Pool P O E :=
  let log := pool.log ++ (advance w program).2
  match (advance w program).1 with
  | .more program => { pool with tasks := pool.tasks.set i (.running program), log }
  | .ended => { pool with tasks := pool.tasks.set i .ended, permits := pool.permits + 1, log }
  | .raised exception =>
      { pool with
        tasks := pool.tasks.set i .ended
        permits := pool.permits + 1
        raised := pool.raised.or (some exception)
        log }

/-- The next step of a task, if it can make one. -/
def step (w : W) (i : Nat) (pool : Pool P O E) : Option (Pool P O E) :=
  match pool.tasks[i]? with
  | some (.waiting program) =>
      if 0 < pool.permits then
        some { pool with
          tasks := pool.tasks.set i (.running program), permits := pool.permits - 1 }
      else none
  | some (.running program) => some (act advance w i program pool)
  | _ => none

/-- What a step can do. -/
theorem step_cases {w : W} {i : Nat} {pool pool' : Pool P O E}
    (stepped : step advance w i pool = some pool') :
    (∃ program, pool.tasks[i]? = some (.waiting program) ∧ 0 < pool.permits ∧
      pool' = { pool with
        tasks := pool.tasks.set i (.running program), permits := pool.permits - 1 }) ∨
    ∃ program, pool.tasks[i]? = some (.running program) ∧ pool' = act advance w i program pool := by
  unfold step at stepped
  split at stepped
  next program present =>
    split at stepped
    next free =>
      cases stepped
      exact .inl ⟨program, present, free, rfl⟩
    next => cases stepped
  next program present =>
    cases stepped
    exact .inr ⟨program, present, rfl⟩
  next => cases stepped

/-- What a step of a running task can do. -/
theorem act_cases (w : W) (i : Nat) (program : P) (pool : Pool P O E) :
    let out := (advance w program).2
    (∃ next, (advance w program).1 = .more next ∧
      act advance w i program pool =
        { pool with tasks := pool.tasks.set i (.running next), log := pool.log ++ out }) ∨
    ((advance w program).1 = .ended ∧
      act advance w i program pool =
        { pool with
          tasks := pool.tasks.set i .ended, permits := pool.permits + 1, log := pool.log ++ out }) ∨
    ∃ exception, (advance w program).1 = .raised exception ∧
      act advance w i program pool =
        { pool with
          tasks := pool.tasks.set i .ended
          permits := pool.permits + 1
          raised := pool.raised.or (some exception)
          log := pool.log ++ out } := by
  unfold act
  cases (advance w program).1 with
  | more next => exact .inl ⟨next, rfl, rfl⟩
  | ended => exact .inr (.inl ⟨rfl, rfl⟩)
  | raised exception => exact .inr (.inr ⟨exception, rfl, rfl⟩)

end Steps

/-! ## Sums over the tasks -/

section Sums

variable {M : Type} [AddCommMonoid M]

/-- Only the summand of the task that is replaced changes. -/
theorem sum_set {α : Type} (f : α → M) {l : List α} {i : Nat} {a : α} (present : l[i]? = some a) :
    ∃ rest, (l.map f).sum = f a + rest ∧ ∀ b, ((l.set i b).map f).sum = f b + rest := by
  induction l generalizing i with
  | nil => simp at present
  | cons head tail ih =>
      cases i with
      | zero =>
          simp only [List.getElem?_cons_zero, Option.some.injEq] at present
          subst present
          exact ⟨(tail.map f).sum, by simp, fun b => by simp⟩
      | succ i =>
          obtain ⟨rest, before, after⟩ := ih (by simpa using present)
          refine ⟨f head + rest, ?_, fun b => ?_⟩
          · rw [List.map_cons, List.sum_cons, before, add_left_comm]
          · rw [List.set_cons_succ, List.map_cons, List.sum_cons, after, add_left_comm]

end Sums

/-! ## Permits -/

section Permits

variable {advance : W → P → Progress P E × List O} {w : W} {i : Nat} {pool pool' : Pool P O E}

def held (pool : Pool P O E) : Nat := (pool.tasks.map PoolTask.held).sum

theorem held_start (permits : Nat) (programs : List P) :
    (start permits programs : Pool P O E).held = 0 := by
  simp [held, start, Function.comp_def, PoolTask.held]

theorem step_permits (stepped : step advance w i pool = some pool') :
    pool'.permits + pool'.held = pool.permits + pool.held := by
  obtain ⟨program, present, free, rfl⟩ | ⟨program, present, rfl⟩ := step_cases advance stepped
  · obtain ⟨rest, before, after⟩ := sum_set PoolTask.held present
    simp only [held, before, after, PoolTask.held]
    omega
  · obtain ⟨rest, before, after⟩ := sum_set PoolTask.held present
    obtain ⟨next, -, same⟩ | ⟨-, same⟩ | ⟨exception, -, same⟩ := act_cases advance w i program pool
    · simp only [same, held, before, after, PoolTask.held]
    · simp only [same, held, before, after, PoolTask.held]
      omega
    · simp only [same, held, before, after, PoolTask.held]
      omega

/-- As long as there are permits, no task is stuck behind the others. -/
theorem exists_step (advance : W → P → Progress P E × List O) (w : W)
    (some_permits : 0 < pool.permits + pool.held) (unfinished : ¬ pool.AllEnded) :
    ∃ i, (step advance w i pool).isSome := by
  by_cases busy : ∃ program, .running program ∈ pool.tasks
  · obtain ⟨program, member⟩ := busy
    obtain ⟨i, present⟩ := List.getElem?_of_mem member
    exact ⟨i, by rw [step, present]; rfl⟩
  · have none_held : pool.held = 0 := by
      refine List.sum_eq_zero fun held member => ?_
      obtain ⟨task, present, rfl⟩ := List.mem_map.mp member
      cases task with
      | waiting program => rfl
      | running program => exact absurd ⟨program, present⟩ busy
      | ended => rfl
    obtain ⟨task, member, unended⟩ : ∃ task ∈ pool.tasks, task.isEnded = false := by
      simpa [AllEnded] using unfinished
    obtain ⟨i, present⟩ := List.getElem?_of_mem member
    refine ⟨i, ?_⟩
    cases task with
    | waiting program =>
        rw [step, present]
        dsimp only
        rw [if_pos (by omega)]
        rfl
    | running program => exact absurd ⟨program, member⟩ busy
    | ended => cases unended

end Permits

/-! ## What is written -/

section Accounting

variable {M : Type} [AddCommMonoid M]

/-- What a program has to write is what its step writes and what follows has to write. With an
    exception something may be lost. -/
def Accounts (advance : W → P → Progress P E × List O) (value : O → M) (whole : P → M) (w : W) :
    Prop :=
  ∀ program, ∃ lost,
    whole program =
      ((advance w program).2.map value).sum + (advance w program).1.pending whole + lost ∧
    ((advance w program).1.isRaised = false → lost = 0)

/-- Something is `lost` of what the tasks have to write only if there was an exception. -/
def Accounted (value : O → M) (whole : P → M) (total : M) (pool : Pool P O E) : Prop :=
  ∃ lost, (pool.log.map value).sum + (pool.tasks.map (PoolTask.pending whole)).sum + lost = total ∧
    (pool.raised = none → lost = 0)

variable {advance : W → P → Progress P E × List O} {value : O → M} {whole : P → M} {w : W}
  {i : Nat} {pool pool' : Pool P O E} {total : M}

theorem accounted_start (permits : Nat) (programs : List P) :
    Accounted value whole (programs.map whole).sum (start permits programs : Pool P O E) :=
  ⟨0, by simp [start, Function.comp_def, PoolTask.pending], fun _ => rfl⟩

theorem step_accounted (accounts : Accounts advance value whole w)
    (stepped : step advance w i pool = some pool') (accounted : Accounted value whole total pool) :
    Accounted value whole total pool' := by
  obtain ⟨lost, balance, none_lost⟩ := accounted
  obtain ⟨program, present, free, rfl⟩ | ⟨program, present, rfl⟩ := step_cases advance stepped
  · obtain ⟨rest, before, after⟩ := sum_set (PoolTask.pending whole) present
    refine ⟨lost, ?_, none_lost⟩
    rw [before] at balance
    simp only [after]
    exact balance
  · obtain ⟨rest, before, after⟩ := sum_set (PoolTask.pending whole) present
    rw [before, PoolTask.pending] at balance
    obtain ⟨more, split, lost_now⟩ := accounts program
    rw [split] at balance
    obtain ⟨next, led, same⟩ | ⟨led, same⟩ | ⟨exception, led, same⟩ :=
      act_cases advance w i program pool
    · rw [led] at balance lost_now
      rw [lost_now rfl] at balance
      refine ⟨lost, ?_, by rwa [same]⟩
      rw [same, ← balance]
      simp only [List.map_append, List.sum_append, after, PoolTask.pending, Progress.pending]
      abel
    · rw [led] at balance lost_now
      rw [lost_now rfl] at balance
      refine ⟨lost, ?_, by rwa [same]⟩
      rw [same, ← balance]
      simp only [List.map_append, List.sum_append, after, PoolTask.pending, Progress.pending]
      abel
    · rw [led] at balance
      refine ⟨more + lost, ?_, fun none => ?_⟩
      · rw [same, ← balance]
        simp only [List.map_append, List.sum_append, after, PoolTask.pending, Progress.pending]
        abel
      · simp [same] at none

/-- Tasks that have ended without an exception have written everything. -/
theorem Accounted.complete (accounted : Accounted value whole total pool) (ended : pool.AllEnded)
    (fine : pool.raised = none) : (pool.log.map value).sum = total := by
  obtain ⟨lost, balance, none_lost⟩ := accounted
  have nothing : (pool.tasks.map (PoolTask.pending whole)).sum = 0 := by
    refine List.sum_eq_zero fun pending member => ?_
    obtain ⟨task, present, rfl⟩ := List.mem_map.mp member
    have closed := ended task present
    cases task with
    | waiting program => cases closed
    | running program => cases closed
    | ended => rfl
  rw [← balance, nothing, none_lost fine, add_zero, add_zero]

end Accounting

/-! ## The end -/

section Ending

variable {advance : W → P → Progress P E × List O} {w : W} {i : Nat} {pool pool' : Pool P O E}

def left (size : P → Nat) (pool : Pool P O E) : Nat := (pool.tasks.map (PoolTask.left size)).sum

theorem step_left {size : P → Nat} (positive : ∀ program, 0 < size program)
    (smaller : ∀ program next, (advance w program).1 = .more next → size next < size program)
    (stepped : step advance w i pool = some pool') : pool'.left size < pool.left size := by
  obtain ⟨program, present, free, rfl⟩ | ⟨program, present, rfl⟩ := step_cases advance stepped
  · obtain ⟨rest, before, after⟩ := sum_set (PoolTask.left size) present
    simp only [left, before, after, PoolTask.left]
    omega
  · obtain ⟨rest, before, after⟩ := sum_set (PoolTask.left size) present
    have some_left := positive program
    obtain ⟨next, led, same⟩ | ⟨led, same⟩ | ⟨exception, led, same⟩ :=
      act_cases advance w i program pool
    · have decreased := smaller program next led
      simp only [same, left, before, after, PoolTask.left]
      omega
    · simp only [same, left, before, after, PoolTask.left]
      omega
    · simp only [same, left, before, after, PoolTask.left]
      omega

end Ending

/-! ## Exceptions -/

section Exceptions

variable {advance : W → P → Progress P E × List O} {w : W} {i : Nat} {pool pool' : Pool P O E}

/-- Programs of a kind that raise nothing and stay of that kind. -/
def Fine (advance : W → P → Progress P E × List O) (good : P → Prop) (w : W) : Prop :=
  ∀ program, good program → (advance w program).1.Within good

/-- Nothing has been raised, and every task is at a good program. -/
structure Quiet (good : P → Prop) (pool : Pool P O E) : Prop where
  within : ∀ task ∈ pool.tasks, task.Within good
  raised : pool.raised = none

theorem quiet_start {good : P → Prop} {programs : List P} (all : ∀ program ∈ programs, good program)
    (permits : Nat) : Quiet good (start permits programs : Pool P O E) where
  within task member := by
    obtain ⟨program, present, rfl⟩ := List.mem_map.mp member
    exact all program present
  raised := rfl

theorem within_set {good : P → Prop} {tasks : List (PoolTask P)}
    (within : ∀ task ∈ tasks, task.Within good) (i : Nat) (task : PoolTask P)
    (here : task.Within good) : ∀ task' ∈ tasks.set i task, task'.Within good := by
  intro task' member
  rcases List.mem_or_eq_of_mem_set member with other | rfl
  · exact within task' other
  · exact here

theorem step_quiet {good : P → Prop} (fine : Fine advance good w)
    (stepped : step advance w i pool = some pool') (quiet : Quiet good pool) :
    Quiet good pool' := by
  obtain ⟨program, present, free, rfl⟩ | ⟨program, present, rfl⟩ := step_cases advance stepped
  · have here : good program := quiet.within _ (List.mem_of_getElem? present)
    exact ⟨within_set quiet.within i (.running program) here, quiet.raised⟩
  · have here : good program := quiet.within _ (List.mem_of_getElem? present)
    have kept := fine program here
    obtain ⟨next, led, same⟩ | ⟨led, same⟩ | ⟨exception, led, same⟩ :=
      act_cases advance w i program pool
    · rw [led] at kept
      rw [same]
      exact ⟨within_set quiet.within i (.running next) kept, quiet.raised⟩
    · rw [same]
      exact ⟨within_set quiet.within i .ended trivial, quiet.raised⟩
    · rw [led] at kept
      exact kept.elim

end Exceptions

end Pool

end Library
