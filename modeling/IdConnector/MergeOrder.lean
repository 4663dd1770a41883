import IdConnector.DictUpdate
import IdConnector.Library.Kind

/-! # Merging one update after the other

`recursiveDictUpdate` with its default for `None` values, by what it leaves at every path.
A list of updates merges without an error if no value meets a dictionary, and then the
last update with anything at a path decides what stands there.
-/

namespace IdConnector

open Library Library.Document

variable {α : Type}

/-- Merge updates into a dictionary, without a result for a `ValueError`. -/
def mergeAll (acc : Entries α) : List (Entries α) → Option (Entries α)
  | [] => some acc
  | update :: rest =>
      match recursiveDictUpdate true acc update with
      | (acc', none) => mergeAll acc' rest
      | (_, some _) => none

/-- Nothing the value has is to be replaced by a value where a dictionary is. -/
def CompatibleAt (ori : Entries α) (k : String) (v : Document α) : Prop :=
  ∀ path w, (ori.get k).bind (kind · path) = some .dict → kind v path ≠ some (.value w)

theorem compatible_cons_iff {ori : Entries α} {k : String} {v : Document α}
    {rest : List (String × Document α)} (unique : k ∉ Dict.keys rest) :
    Compatible ori ((k, v) :: rest) ↔ CompatibleAt ori k v ∧ Compatible ori rest := by
  have absent : Dict.get rest k = none := Dict.get_eq_none_iff.mpr unique
  constructor
  · intro compatible
    constructor
    · intro path w dict value
      apply compatible (k :: path) w dict
      rw [kind_key, Dict.get_cons, if_pos rfl]
      exact value
    · intro path w dict value
      cases path with
      | nil => simp [kind, kindOf] at value
      | cons key path =>
          apply compatible (key :: path) w dict
          have different : k ≠ key := by
            rintro rfl
            simp [kind_key, absent] at value
          rw [kind_key, Dict.get_cons, if_neg different]
          exact value
  · rintro ⟨here, others⟩ path w dict value
    cases path with
    | nil => simp [kind, kindOf] at value
    | cons key path =>
        rw [kind_key, Dict.get_cons] at value
        split at value
        next same =>
          subst same
          exact here path w dict value
        next => exact others (key :: path) w dict value

mutual
theorem replacesDict_iff (ori : Entries α) (updater : List (String × Document α))
    (keyed : WellKeyed updater) :
    replacesDict (fun _ => true) ori updater = false ↔ Compatible ori updater := by
  cases updater with
  | nil =>
      simp only [replacesDict, true_iff]
      intro path v _
      cases path <;> simp
  | cons entry rest =>
      rcases entry with ⟨k, v⟩
      obtain ⟨unique, keyedValue, keyedRest⟩ := keyed
      rw [compatible_cons_iff unique, replacesDict, Bool.or_eq_false_iff,
        replacesDictAt_iff ori k v keyedValue, replacesDict_iff ori rest keyedRest]

theorem replacesDictAt_iff (ori : Entries α) (k : String) (v : Document α)
    (keyed : v.WellKeyedValue) :
    replacesDictAt (fun _ => true) ori k v = false ↔ CompatibleAt ori k v := by
  rcases dict_or_other ori k with ⟨sub, found⟩ | other
  · cases v with
    | dict entries =>
        simp only [replacesDictAt, found, replacesDict_iff sub entries keyed, CompatibleAt]
        rfl
    | null | atom | list =>
        simp only [replacesDictAt, holdsDict, found, CompatibleAt]
        refine iff_of_false (by simp) fun compatible => ?_
        exact compatible [] _ rfl rfl
  · have free : CompatibleAt ori k v := by
      intro path w dict
      cases here : ori.get k with
      | none => simp [here] at dict
      | some old =>
          rw [here, Option.bind_some] at dict
          exact absurd dict (kind_ne_dict (fun entries same => other entries (same ▸ here)) path)
    refine iff_of_true ?_ free
    cases v with
    | dict entries =>
        simp only [replacesDictAt]
    | null | atom | list => simp only [replacesDictAt, holdsDict, Bool.false_and]
end

theorem update_passes_iff {ori : Entries α} {updater : List (String × Document α)}
    (keyed : WellKeyed updater) :
    (recursiveDictUpdate true ori updater).2 = none ↔ Compatible ori updater := by
  rw [update_succeeds_iff true ori updater keyed, replacesDict_iff ori updater keyed]

mutual
theorem kind_update {ori : Entries α} {updater : List (String × Document α)}
    (keyed : WellKeyed updater) (passes : (recursiveDictUpdate true ori updater).2 = none)
    (path : List String) :
    kind (.dict (recursiveDictUpdate true ori updater).1) path =
      (kind (.dict updater) path).or (kind (.dict ori) path) := by
  cases updater with
  | nil => cases path <;> simp [recursiveDictUpdate]
  | cons entry rest =>
      rcases entry with ⟨k, v⟩
      obtain ⟨unique, keyedValue, keyedRest⟩ := keyed
      rw [recursiveDictUpdate] at passes ⊢
      cases stepped : updateKey true ori k v with
      | mk ori' raised =>
          cases raised with
          | some error => simp [stepped] at passes
          | none =>
              simp only [stepped] at passes ⊢
              rw [kind_update keyedRest passes path]
              have others : ∀ {key}, k ≠ key → ori'.get key = ori.get key := by
                intro key different
                have kept := updateKey_get_ne true ori v different
                rwa [stepped] at kept
              have here := kind_updateKey keyedValue (by rw [stepped])
              rw [stepped] at here
              cases path with
              | nil => simp
              | cons key path =>
                  simp only [kind_key, Dict.get_cons]
                  split
                  next same =>
                    subst same
                    rw [Dict.get_eq_none_iff.mpr unique]
                    exact here path
                  next different => rw [others different]

theorem kind_updateKey {ori : Entries α} {k : String} {v : Document α}
    (keyed : v.WellKeyedValue) (passes : (updateKey true ori k v).2 = none)
    (path : List String) :
    ((updateKey true ori k v).1.get k).bind (kind · path) =
      (kind v path).or ((ori.get k).bind (kind · path)) := by
  rcases dict_or_other ori k with ⟨sub, found⟩ | other
  · cases v with
    | dict entries =>
        rw [updateKey_dict_nested found] at passes ⊢
        simp only [Dict.get_set_self, found, Option.bind_some]
        exact kind_update keyed passes path
    | null | atom | list => simp [updateKey, found] at passes
  · -- whatever was there, it has nothing below it and is replaced
    have stored : (updateKey true ori k v).1 = ori.set k v := by
      cases v <;> simp only [updateKey, ↓reduceIte]
    rw [stored, Dict.get_set_self, Option.bind_some]
    cases path with
    | nil => simp [kind]
    | cons key path =>
        have nothing : (ori.get k).bind (kind · (key :: path)) = none := by
          cases here : ori.get k with
          | none => rfl
          | some old => exact kind_below_value (fun entries same => other entries (same ▸ here)) _ _
        rw [nothing, Option.or_none]
end

/-- The merge meets no error exactly if no value comes after a dictionary of the same path. -/
theorem mergeAll_isSome_iff {updates : List (Entries α)} (keyed : ∀ update ∈ updates, WellKeyed update)
    (acc : Entries α) :
    (mergeAll acc updates).isSome ↔ (acc :: updates).Pairwise Compatible := by
  induction updates generalizing acc with
  | nil => simp [mergeAll]
  | cons update rest ih =>
      obtain ⟨keyed_update, keyed_rest⟩ := List.forall_mem_cons.mp keyed
      have passes : _ ↔ Compatible acc update := update_passes_iff keyed_update
      rw [mergeAll]
      cases merged : recursiveDictUpdate true acc update with
      | mk acc' raised =>
          rw [merged] at passes
          cases raised with
          | some error =>
              refine iff_of_false (by simp) fun pairwise => ?_
              have first := (List.pairwise_cons.mp pairwise).1 update List.mem_cons_self
              exact absurd (passes.mpr first) (by simp)
          | none =>
              have kinds := kind_update keyed_update (by rw [merged])
              rw [merged] at kinds
              simp only [ih keyed_rest acc']
              exact pairwise_merge (passes.mp rfl) kinds rest

theorem kind_mergeAll {updates : List (Entries α)} (keyed : ∀ update ∈ updates, WellKeyed update)
    {acc r : Entries α} (merged : mergeAll acc updates = some r) (path : List String) :
    kind (.dict r) path = lastKind (acc :: updates) path := by
  induction updates generalizing acc with
  | nil =>
      obtain rfl : acc = r := by simpa [mergeAll] using merged
      simp [lastKind]
  | cons update rest ih =>
      obtain ⟨keyed_update, keyed_rest⟩ := List.forall_mem_cons.mp keyed
      rw [mergeAll] at merged
      cases stepped : recursiveDictUpdate true acc update with
      | mk acc' raised =>
          cases raised with
          | some error => simp [stepped] at merged
          | none =>
              have kinds := kind_update keyed_update (by rw [stepped])
              rw [stepped] at merged kinds
              rw [ih keyed_rest merged, lastKind_merge kinds rest path]

/-- The results of two merges, which may have failed. -/
def SameMerge : Option (Entries α) → Option (Entries α) → Prop
  | some a, some b => Same a b
  | none, none => True
  | _, _ => False

theorem sameMerge_kind {a b : Option (Entries α)} (path : List String) (same : SameMerge a b) :
    (a.bind fun d => kind (.dict d) path) = b.bind fun d => kind (.dict d) path := by
  cases a <;> cases b <;> first | rfl | exact same.elim | exact same path

/-- Both lists meet an error or neither does, and then the last updates at every path agree. -/
def SameOutcome (us ws : List (Entries α)) : Prop :=
  (us.Pairwise Compatible ↔ ws.Pairwise Compatible) ∧
    (us.Pairwise Compatible → ∀ k path, lastKind us (k :: path) = lastKind ws (k :: path))

theorem pairwise_empty_cons {updates : List (Entries α)} :
    ([] :: updates).Pairwise Compatible ↔ updates.Pairwise Compatible := by
  rw [List.pairwise_cons]
  exact and_iff_right fun update _ => compatible_empty update

theorem sameMerge_iff {us ws : List (Entries α)} (keyed : ∀ update ∈ us, WellKeyed update)
    (keyed' : ∀ update ∈ ws, WellKeyed update) :
    SameMerge (mergeAll [] us) (mergeAll [] ws) ↔ SameOutcome us ws := by
  have passes := (mergeAll_isSome_iff keyed []).trans pairwise_empty_cons
  have passes' := (mergeAll_isSome_iff keyed' []).trans pairwise_empty_cons
  unfold SameOutcome
  rw [← passes, ← passes']
  cases merged : mergeAll [] us with
  | none => cases merged' : mergeAll [] ws <;> simp [SameMerge]
  | some a =>
      cases merged' : mergeAll [] ws with
      | none => simp [SameMerge]
      | some b =>
          simp only [SameMerge, Same, Option.isSome_some, true_implies, true_and]
          have same : ∀ path, kind (.dict a) path = kind (.dict b) path ↔
              lastKind ([] :: us) path = lastKind ([] :: ws) path := by
            intro path
            rw [kind_mergeAll keyed merged, kind_mergeAll keyed' merged']
          constructor
          · intro all k path
            have here := (same (k :: path)).mp (all (k :: path))
            simpa [lastKind_cons] using here
          · intro all path
            cases path with
            | nil => rfl
            | cons k path => exact (same (k :: path)).mpr (by simpa [lastKind_cons] using all k path)

end IdConnector
