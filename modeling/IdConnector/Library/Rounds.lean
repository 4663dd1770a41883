import Mathlib.Data.Finset.Card
import Mathlib.Data.List.TakeWhile
import Mathlib.Order.Defs.LinearOrder

/-! # Going through a sorted list in rounds

A round takes from the front of a list whatever has the key of the first element. In a list
that is sorted by the keys each round takes all there is of one key, so there are as many rounds
as there are keys (`remaining_eq_nil`).
-/

namespace Library.Rounds

variable {α κ : Type} [LinearOrder κ] (key : α → κ)

/-- What a round takes. -/
def block : List α → List α
  | [] => []
  | a :: rest => (a :: rest).takeWhile fun b => key b ≤ key a

/-- What a round leaves. -/
def afterBlock : List α → List α
  | [] => []
  | a :: rest => (a :: rest).dropWhile fun b => key b ≤ key a

def rounds : Nat → List α → List (List α)
  | 0, _ => []
  | n + 1, l => block key l :: rounds n (afterBlock key l)

/-- What is left after some rounds. -/
def remaining : Nat → List α → List α
  | 0, l => l
  | n + 1, l => remaining n (afterBlock key l)

def Sorted (l : List α) : Prop := l.Pairwise fun a b => key a ≤ key b

/-- The keys that occur. -/
def keys (l : List α) : Finset κ := (l.map key).toFinset

theorem block_append (l : List α) : block key l ++ afterBlock key l = l := by
  cases l with
  | nil => rfl
  | cons a rest => exact List.takeWhile_append_dropWhile

theorem rounds_append (n : Nat) (l : List α) : (rounds key n l).flatten ++ remaining key n l = l := by
  induction n generalizing l with
  | zero => rfl
  | succ n ih =>
      rw [rounds, remaining, List.flatten_cons, List.append_assoc, ih, block_append]

theorem afterBlock_suffix (l : List α) : afterBlock key l <:+ l := ⟨block key l, block_append key l⟩

variable {key}

theorem Sorted.afterBlock {l : List α} (sorted : Sorted key l) : Sorted key (afterBlock key l) :=
  List.Pairwise.sublist (afterBlock_suffix key l).sublist sorted

theorem key_block {a b : α} {rest : List α} (sorted : Sorted key (a :: rest))
    (member : b ∈ block key (a :: rest)) : key b = key a := by
  have taken : key b ≤ key a := by
    have holds := List.mem_takeWhile_imp member
    simpa using holds
  have present : b ∈ a :: rest := (List.takeWhile_sublist _).mem member
  rcases List.mem_cons.mp present with rfl | later
  · rfl
  · exact le_antisymm taken ((List.pairwise_cons.mp sorted).1 b later)

theorem key_afterBlock {a b : α} {rest : List α} (sorted : Sorted key (a :: rest))
    (member : b ∈ afterBlock key (a :: rest)) : key a < key b := by
  cases left : afterBlock key (a :: rest) with
  | nil => simp [left] at member
  | cons c later =>
      have stops : ¬ key c ≤ key a := by
        have dropped : (a :: rest).dropWhile (fun b => key b ≤ key a) = c :: later := left
        have head := List.head_dropWhile_not (fun b => key b ≤ key a) (l := a :: rest)
          (by rw [dropped]; simp)
        simpa [dropped] using head
      have sortedLeft := sorted.afterBlock
      rw [left] at sortedLeft member
      rcases List.mem_cons.mp member with rfl | behind
      · exact not_le.mp stops
      · exact (not_le.mp stops).trans_le ((List.pairwise_cons.mp sortedLeft).1 b behind)

theorem card_keys_afterBlock {l : List α} (sorted : Sorted key l) (nonempty : l ≠ []) :
    (keys key (afterBlock key l)).card < (keys key l).card := by
  cases l with
  | nil => exact absurd rfl nonempty
  | cons a rest =>
      apply Finset.card_lt_card
      refine Finset.ssubset_iff_of_subset (fun k member => ?_) |>.mpr ⟨key a, ?_, ?_⟩
      · simp only [keys, List.mem_toFinset, List.mem_map] at member ⊢
        obtain ⟨b, left, same⟩ := member
        exact ⟨b, (afterBlock_suffix key _).mem left, same⟩
      · simp [keys]
      · simp only [keys, List.mem_toFinset, List.mem_map, not_exists, not_and]
        intro b left
        exact (key_afterBlock sorted left).ne'

/-- With a round for each key nothing is left. -/
theorem remaining_eq_nil {n : Nat} {l : List α} (sorted : Sorted key l)
    (enough : (keys key l).card ≤ n) : remaining key n l = [] := by
  induction n generalizing l with
  | zero =>
      cases l with
      | nil => rfl
      | cons a rest => simp [keys] at enough
  | succ n ih =>
      rw [remaining]
      by_cases empty : l = []
      · subst empty
        exact ih sorted.afterBlock (by simp [afterBlock, keys])
      · apply ih sorted.afterBlock
        have fewer := card_keys_afterBlock sorted empty
        omega

theorem rounds_flatten {n : Nat} {l : List α} (sorted : Sorted key l)
    (enough : (keys key l).card ≤ n) : (rounds key n l).flatten = l := by
  have whole := rounds_append key n l
  rwa [remaining_eq_nil sorted enough, List.append_nil] at whole

/-- Each round is about one key. -/
theorem key_rounds {n : Nat} {l round : List α} (sorted : Sorted key l)
    (member : round ∈ rounds key n l) {a b : α} (first : a ∈ round) (second : b ∈ round) :
    key a = key b := by
  induction n generalizing l with
  | zero => cases member
  | succ n ih =>
      rcases List.mem_cons.mp member with rfl | later
      · cases l with
        | nil => cases first
        | cons c rest => rw [key_block sorted first, key_block sorted second]
      · exact ih sorted.afterBlock later

end Library.Rounds
