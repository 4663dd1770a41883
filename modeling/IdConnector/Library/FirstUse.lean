import Mathlib.Data.List.Basic

/-! # Caches filled on first use

Calls that share, under a key, the value built by the first call that could build one.
Nothing ever removes a value, so the calls get the value of their own input exactly
as long as the inputs under a key do not change (`current_iff_constant`).
-/

namespace Library.FirstUse

variable {κ ι ν ε : Type} [DecidableEq κ]

/-- A call with its key, its input and what it was answered. -/
structure Call (κ ι ν ε : Type) where
  key : κ
  input : ι
  result : Except ε ν

variable (build : κ → ι → Except ε ν)

/-- The value of the first call under the key that could build one. -/
def firstBuilt (key : κ) : List (Call κ ι ν ε) → Option ν
  | [] => none
  | call :: rest =>
      if call.key = key then
        match build key call.input with
        | .ok v => some v
        | .error _ => firstBuilt key rest
      else firstBuilt key rest

/-- What the cache answers after some calls. -/
def answer (calls : List (Call κ ι ν ε)) (key : κ) (input : ι) : Except ε ν :=
  match firstBuilt build key calls with
  | some v => .ok v
  | none => build key input

/-- Calls that were answered one after the other, starting with an empty cache. -/
inductive Answered : List (Call κ ι ν ε) → Prop where
  | nil : Answered []
  | snoc {calls : List (Call κ ι ν ε)} {key : κ} {input : ι} (answered : Answered calls) :
      Answered (calls ++ [⟨key, input, answer build calls key input⟩])

/-- A value that the call got is the one its own input builds. -/
def Current (call : Call κ ι ν ε) : Prop :=
  ∀ v, call.result = .ok v → build call.key call.input = .ok v

/-- Once a value could be built under a key, the input under that key is the same. -/
def Constant (earlier later : Call κ ι ν ε) : Prop :=
  earlier.key = later.key → (∃ v, build earlier.key earlier.input = .ok v) →
    later.input = earlier.input

variable {build}

theorem firstBuilt_snoc (key : κ) (calls : List (Call κ ι ν ε)) (call : Call κ ι ν ε) :
    firstBuilt build key (calls ++ [call]) =
      (firstBuilt build key calls).or
        (if call.key = key then (build key call.input).toOption else none) := by
  induction calls with
  | nil =>
      simp only [List.nil_append, firstBuilt, Option.none_or]
      split
      · cases build key call.input <;> rfl
      · rfl
  | cons head rest ih =>
      simp only [List.cons_append, firstBuilt, ih]
      split
      · cases build key head.input <;> rfl
      · rfl

theorem exists_of_firstBuilt {key : κ} {calls : List (Call κ ι ν ε)} {v : ν}
    (first : firstBuilt build key calls = some v) :
    ∃ call ∈ calls, call.key = key ∧ build key call.input = .ok v := by
  induction calls with
  | nil => simp [firstBuilt] at first
  | cons head rest ih =>
      have later : firstBuilt build key rest = some v →
          ∃ call ∈ head :: rest, call.key = key ∧ build key call.input = .ok v := by
        intro found
        obtain ⟨call, member, here⟩ := ih found
        exact ⟨call, List.mem_cons_of_mem _ member, here⟩
      rw [firstBuilt] at first
      split at first
      next same =>
        cases built : build key head.input with
        | ok w =>
            simp only [built, Option.some.injEq] at first
            exact ⟨head, List.mem_cons_self, same, by rw [built, first]⟩
        | error e =>
            rw [built] at first
            exact later first
      next => exact later first

theorem firstBuilt_ne_none {key : κ} {calls : List (Call κ ι ν ε)} {call : Call κ ι ν ε} {v : ν}
    (member : call ∈ calls) (same : call.key = key) (built : build key call.input = .ok v) :
    firstBuilt build key calls ≠ none := by
  induction calls with
  | nil => simp at member
  | cons head rest ih =>
      rw [firstBuilt]
      rcases List.mem_cons.mp member with rfl | tail
      · simp [same, built]
      · split
        · cases build key head.input with
          | ok w => simp
          | error e => exact ih tail
        · exact ih tail

/-- As long as the inputs were constant, every call that could build a value had the input
    of the first one. -/
theorem input_of_constant {key : κ} {calls : List (Call κ ι ν ε)}
    (constant : calls.Pairwise (Constant build)) {v : ν}
    (first : firstBuilt build key calls = some v) :
    ∃ input, build key input = .ok v ∧
      ∀ call ∈ calls, call.key = key → (∃ w, build key call.input = .ok w) →
        call.input = input := by
  induction calls with
  | nil => simp [firstBuilt] at first
  | cons head rest ih =>
      obtain ⟨ahead, constantRest⟩ := List.pairwise_cons.mp constant
      rw [firstBuilt] at first
      by_cases same : head.key = key
      · rw [if_pos same] at first
        cases built : build key head.input with
        | ok w =>
            simp only [built, Option.some.injEq] at first
            refine ⟨head.input, by rw [built, first], fun call member here _ => ?_⟩
            rcases List.mem_cons.mp member with rfl | tail
            · rfl
            · exact ahead call tail (same.trans here.symm) ⟨w, by rw [same, built]⟩
        | error e =>
            rw [built] at first
            obtain ⟨input, builds, others⟩ := ih constantRest first
            refine ⟨input, builds, fun call member here buildable => ?_⟩
            rcases List.mem_cons.mp member with rfl | tail
            · obtain ⟨w, ok⟩ := buildable
              rw [built] at ok
              cases ok
            · exact others call tail here buildable
      · rw [if_neg same] at first
        obtain ⟨input, builds, others⟩ := ih constantRest first
        refine ⟨input, builds, fun call member here buildable => ?_⟩
        rcases List.mem_cons.mp member with rfl | tail
        · exact absurd here same
        · exact others call tail here buildable

/-- Every call got the value of its own input exactly if no input changed under its key
    after a value could be built. -/
theorem current_iff_constant {calls : List (Call κ ι ν ε)}
    (injective : ∀ {key a b v}, build key a = .ok v → build key b = .ok v → a = b)
    (answered : Answered build calls) :
    (∀ call ∈ calls, Current build call) ↔ calls.Pairwise (Constant build) := by
  induction answered with
  | nil => simp
  | @snoc calls key input answered ih =>
      rw [List.pairwise_append, ← ih]
      simp only [List.mem_append, List.mem_singleton, or_imp, forall_and, forall_eq,
        List.pairwise_singleton, true_and]
      refine and_congr_right fun allCurrent => ?_
      have constant := ih.mp allCurrent
      cases first : firstBuilt build key calls with
      | none =>
          refine iff_of_true (fun v got => ?_) fun call member same ⟨v, built⟩ => ?_
          · simpa [answer, first] using got
          · have here : call.key = key := same
            rw [here] at built
            exact absurd first (firstBuilt_ne_none member here built)
      | some v =>
          obtain ⟨used, builds, others⟩ := input_of_constant constant first
          constructor
          · intro current call member same ⟨w, built⟩
            have here : call.key = key := same
            have own : build key input = .ok v := current v (by simp [answer, first])
            rw [here] at built
            rw [others call member here ⟨w, built⟩]
            exact injective own builds
          · intro unchanged w got
            obtain rfl : v = w := by simpa [answer, first] using got
            obtain ⟨call, member, here, built⟩ := exists_of_firstBuilt first
            have same : input = call.input :=
              unchanged call member here ⟨v, by rw [here, built]⟩
            rw [same]
            exact built

end Library.FirstUse
