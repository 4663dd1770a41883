import IdConnector.DictUpdate
import IdConnector.Models

/-! # What a failed update has changed

The update is made in place, so what it has stored before it raises stays stored.
`failed_update_changes_nothing_iff` says for which dictionaries a failed update leaves no trace.
-/

namespace IdConnector

open Library Library.Document

variable {α : Type}

mutual
/-- Everything that the update would store is there. -/
def StoredAlready (updateNoneValues : Bool) (ori : Entries α) : List (String × Document α) → Prop
  | [] => True
  | (k, v) :: rest =>
      StoredAlreadyAt updateNoneValues ori k v ∧ StoredAlready updateNoneValues ori rest

def StoredAlreadyAt (updateNoneValues : Bool) (ori : Entries α) (k : String) : Document α → Prop
  | .dict entries =>
      match ori.get k with
      | some (.dict sub) => StoredAlready updateNoneValues sub entries
      | _ => False
  | .null => updateNoneValues = false ∨ ori.get k = some .null
  | .atom value => ori.get k = some (.atom value)
  | .list items => ori.get k = some (.list items)
end

mutual
/-- Whatever the updater has before its first entry that replaces a dictionary, at the depth of
    this entry or around it, is there already. -/
def StoredBeforeFailure (updateNoneValues : Bool) (ori : Entries α) :
    List (String × Document α) → Prop
  | [] => True
  | (k, v) :: rest =>
      if replacesDictAt (fun _ => true) ori k v then StoredBeforeFailureAt updateNoneValues ori k v
      else StoredAlreadyAt updateNoneValues ori k v ∧ StoredBeforeFailure updateNoneValues ori rest

def StoredBeforeFailureAt (updateNoneValues : Bool) (ori : Entries α) (k : String) :
    Document α → Prop
  | .dict entries =>
      match ori.get k with
      | some (.dict sub) => StoredBeforeFailure updateNoneValues sub entries
      | _ => True
  | _ => True
end

theorem updateKey_stores (flag : Bool) (ori : Entries α) (k : String) (v : Document α) :
    (updateKey flag ori k v).1 = ori ∨ ∃ stored, (updateKey flag ori k v).1 = ori.set k stored := by
  cases v with
  | null =>
      simp only [updateKey]
      split
      · exact Or.inl rfl
      · cases flag with
        | true => exact Or.inr ⟨_, rfl⟩
        | false => exact Or.inl rfl
  | atom | list =>
      simp only [updateKey]
      split
      · exact Or.inl rfl
      · exact Or.inr ⟨_, rfl⟩
  | dict =>
      simp only [updateKey]
      split <;> exact Or.inr ⟨_, rfl⟩

theorem updateKey_eq_self {flag : Bool} {ori : Entries α} {k : String} {v : Document α}
    (same : (updateKey flag ori k v).1.get k = ori.get k) : (updateKey flag ori k v).1 = ori := by
  rcases updateKey_stores flag ori k v with unchanged | ⟨stored, changed⟩
  · exact unchanged
  · rw [changed, Dict.get_set_self] at same
    rw [changed, Dict.set_eq_self_iff, same]

/-- Later rounds neither undo a round nor see what it has stored. -/
theorem update_cons_eq_self_iff {flag : Bool} {ori : Entries α} {k : String} {v : Document α}
    {rest : List (String × Document α)} (unique : k ∉ Dict.keys rest)
    (passed : (updateKey flag ori k v).2 = none) :
    (recursiveDictUpdate flag ori ((k, v) :: rest)).1 = ori ↔
      (updateKey flag ori k v).1 = ori ∧ (recursiveDictUpdate flag ori rest).1 = ori := by
  rw [update_cons_of_passed passed]
  constructor
  · intro whole
    have atKey := congrArg (Dict.get · k) whole
    simp only [update_get_absent _ _ _ unique] at atKey
    have first := updateKey_eq_self atKey
    rw [first] at whole
    exact ⟨first, whole⟩
  · rintro ⟨first, later⟩
    rw [first, later]

mutual
theorem update_eq_self_iff (flag : Bool) (ori : Entries α) (updater : List (String × Document α))
    (keyed : WellKeyed updater) (clear : replacesDict (fun _ => true) ori updater = false) :
    (recursiveDictUpdate flag ori updater).1 = ori ↔ StoredAlready flag ori updater := by
  cases updater with
  | nil => simp [recursiveDictUpdate, StoredAlready]
  | cons entry rest =>
      rcases entry with ⟨k, v⟩
      obtain ⟨unique, keyedValue, keyedRest⟩ := keyed
      simp only [replacesDict, Bool.or_eq_false_iff] at clear
      have passed := (updateKey_succeeds_iff flag ori k v keyedValue).mpr clear.1
      rw [update_cons_eq_self_iff unique passed, StoredAlready,
        updateKey_eq_self_iff flag ori k v keyedValue clear.1,
        update_eq_self_iff flag ori rest keyedRest clear.2]

theorem updateKey_eq_self_iff (flag : Bool) (ori : Entries α) (k : String) (v : Document α)
    (keyed : v.WellKeyedValue) (clear : replacesDictAt (fun _ => true) ori k v = false) :
    (updateKey flag ori k v).1 = ori ↔ StoredAlreadyAt flag ori k v := by
  cases v with
  | null =>
      simp only [replacesDictAt, holdsDict, Bool.and_true] at clear
      simp only [updateKey, StoredAlreadyAt]
      split at clear
      · cases clear
      · cases flag <;> simp [Dict.set_eq_self_iff]
  | atom | list =>
      simp only [replacesDictAt, holdsDict, Bool.and_true] at clear
      simp only [updateKey, StoredAlreadyAt]
      split at clear
      · cases clear
      · simp only [Dict.set_eq_self_iff]
  | dict entries =>
      rcases dict_or_other ori k with ⟨sub, found⟩ | other
      · simp only [replacesDictAt, found] at clear
        rw [updateKey_dict_nested found, Dict.set_eq_self_iff, found]
        simp only [StoredAlreadyAt, found, Option.some.injEq, Document.dict.injEq]
        rw [eq_comm]
        exact update_eq_self_iff flag sub entries keyed clear
      · rw [updateKey_dict_new other, Dict.set_eq_self_iff]
        simp only [StoredAlreadyAt]
        exact iff_of_false (other entries) id
end

mutual
theorem failing_update_eq_self_iff (flag : Bool) (ori : Entries α)
    (updater : List (String × Document α)) (keyed : WellKeyed updater)
    (fails : replacesDict (fun _ => true) ori updater = true) :
    (recursiveDictUpdate flag ori updater).1 = ori ↔ StoredBeforeFailure flag ori updater := by
  cases updater with
  | nil => cases fails
  | cons entry rest =>
      rcases entry with ⟨k, v⟩
      obtain ⟨unique, keyedValue, keyedRest⟩ := keyed
      rw [StoredBeforeFailure]
      cases here : replacesDictAt (fun _ => true) ori k v with
      | true =>
          have stops : (recursiveDictUpdate flag ori ((k, v) :: rest)).1 =
              (updateKey flag ori k v).1 := by
            have raises := (updateKey_succeeds_iff flag ori k v keyedValue).not.mpr (by simp [here])
            rw [recursiveDictUpdate]
            cases result : updateKey flag ori k v with
            | mk ori' raised => cases raised <;> simp_all
          rw [stops, if_pos rfl]
          exact failing_round_eq_self_iff flag ori k v keyedValue here
      | false =>
          rw [replacesDict, here, Bool.false_or] at fails
          have passed := (updateKey_succeeds_iff flag ori k v keyedValue).mpr here
          rw [update_cons_eq_self_iff unique passed, if_neg Bool.false_ne_true,
            updateKey_eq_self_iff flag ori k v keyedValue here,
            failing_update_eq_self_iff flag ori rest keyedRest fails]

theorem failing_round_eq_self_iff (flag : Bool) (ori : Entries α) (k : String) (v : Document α)
    (keyed : v.WellKeyedValue) (fails : replacesDictAt (fun _ => true) ori k v = true) :
    (updateKey flag ori k v).1 = ori ↔ StoredBeforeFailureAt flag ori k v := by
  cases v with
  | null | atom | list =>
      simp only [replacesDictAt, holdsDict, Bool.and_true] at fails
      split at fails
      next held => simp only [updateKey, StoredBeforeFailureAt, held]
      next => cases fails
  | dict entries =>
      rcases dict_or_other ori k with ⟨sub, found⟩ | other
      · simp only [replacesDictAt, found] at fails
        rw [updateKey_dict_nested found, Dict.set_eq_self_iff, found]
        simp only [StoredBeforeFailureAt, found, Option.some.injEq, Document.dict.injEq]
        rw [eq_comm]
        exact failing_update_eq_self_iff flag sub entries keyed fails
      · simp only [replacesDictAt] at fails
        cases fails
end

/-- A failed update leaves no trace exactly if all that it stores before it fails is there
    already. -/
theorem failed_update_changes_nothing_iff (flag : Bool) (ori : Entries α)
    (updater : List (String × Document α)) (keyed : WellKeyed updater) :
    ((recursiveDictUpdate flag ori updater).2 ≠ none →
        (recursiveDictUpdate flag ori updater).1 = ori) ↔
      (replacesDict (fun _ => true) ori updater → StoredBeforeFailure flag ori updater) := by
  rw [ne_eq, update_succeeds_iff flag ori updater keyed, Bool.not_eq_false]
  exact forall_congr' fun fails => failing_update_eq_self_iff flag ori updater keyed fails

section Examples

def demoSettings : JsonObject :=
  [("url", Json.str "https://old/"), ("mapping", .dict [("users", .dict [])])]

theorem failed_update_leaves_trace :
    let updater : JsonObject := [("url", Json.str "https://new/"), ("mapping", Json.str "boom")]
    (recursiveDictUpdate true demoSettings updater).2 ≠ none ∧
      (recursiveDictUpdate true demoSettings updater).1 ≠ demoSettings := by
  constructor
  · simp [recursiveDictUpdate, updateKey, demoSettings, Dict.get, Dict.set, Json.str]
  · decide

theorem failed_update_without_trace :
    let updater : JsonObject := [("url", Json.str "https://old/"), ("mapping", Json.str "boom")]
    (recursiveDictUpdate true demoSettings updater).2 ≠ none →
      (recursiveDictUpdate true demoSettings updater).1 = demoSettings := by
  intro updater
  have keyed : WellKeyed updater := by
    simp [updater, WellKeyed, WellKeyedValue, Dict.keys, Json.str]
  refine (failed_update_changes_nothing_iff true demoSettings updater keyed).mpr fun _ => ?_
  simp [updater, demoSettings, StoredBeforeFailure, StoredBeforeFailureAt, StoredAlreadyAt,
    replacesDictAt, holdsDict, Dict.get, Json.str]

end Examples

end IdConnector
