import IdConnector.Library.Leaves

/-! # In-place recursive dictionary update

`recursiveDictUpdate` is the in-place merge of `utils.py`. It returns the
dictionary as the call leaves it together with the `ValueError` it raises, so a
failed call still shows what it changed before it failed.
-/

namespace IdConnector

open Library Library.Document

variable {α : Type}

/-- `ValueError(f"Cannot update dict from non-dict: k={k!r} ori={ori!r} v={v!r}")` -/
structure CannotUpdateDict (α : Type) where
  k : String
  ori : Entries α
  v : Document α

mutual
def recursiveDictUpdate (updateNoneValues : Bool) (ori : Entries α) :
    List (String × Document α) → Entries α × Option (CannotUpdateDict α)
  | [] => (ori, none)
  | (k, v) :: rest =>
      match updateKey updateNoneValues ori k v with
      | (ori', none) => recursiveDictUpdate updateNoneValues ori' rest
      | (ori', some error) => (ori', some error)

/-- One iteration of the loop over `updater.items()`. -/
def updateKey (updateNoneValues : Bool) (ori : Entries α) (k : String) :
    Document α → Entries α × Option (CannotUpdateDict α)
  | .dict entries =>
      match ori.get k with
      | some (.dict sub) =>
          let updated := recursiveDictUpdate updateNoneValues sub entries
          (ori.set k (.dict updated.1), updated.2)
      | _ => (ori.set k (.dict entries), none)
  | .null =>
      match ori.get k with
      | some (.dict _) => (ori, some ⟨k, ori, .null⟩)
      | _ => (if updateNoneValues then ori.set k .null else ori, none)
  | .atom value =>
      match ori.get k with
      | some (.dict _) => (ori, some ⟨k, ori, .atom value⟩)
      | _ => (ori.set k (.atom value), none)
  | .list items =>
      match ori.get k with
      | some (.dict _) => (ori, some ⟨k, ori, .list items⟩)
      | _ => (ori.set k (.list items), none)
end

mutual
/-- Some non-dictionary of the kind `counts` stands where `ori` has a dictionary. -/
def replacesDict (counts : Document α → Bool) (ori : Entries α) : List (String × Document α) → Bool
  | [] => false
  | (k, v) :: rest => replacesDictAt counts ori k v || replacesDict counts ori rest

def replacesDictAt (counts : Document α → Bool) (ori : Entries α) (k : String) : Document α → Bool
  | .dict entries =>
      match ori.get k with
      | some (.dict sub) => replacesDict counts sub entries
      | _ => false
  | .null => holdsDict ori k && counts .null
  | .atom value => holdsDict ori k && counts (.atom value)
  | .list items => holdsDict ori k && counts (.list items)
end

mutual
/-- Some null stands below a dictionary that is new to `ori`, so that the
    update stores the null with the dictionary instead of skipping it. -/
def introducesNull (ori : Entries α) : List (String × Document α) → Bool
  | [] => false
  | (k, v) :: rest => introducesNullAt ori k v || introducesNull ori rest

def introducesNullAt (ori : Entries α) (k : String) : Document α → Bool
  | .dict entries =>
      match ori.get k with
      | some (.dict sub) => introducesNull sub entries
      | _ => hasNull entries
  | _ => false
end

theorem updateKey_get_ne (flag : Bool) (ori : Entries α) {k k' : String} (v : Document α)
    (different : k ≠ k') : (updateKey flag ori k v).1.get k' = ori.get k' := by
  cases v with
  | null =>
      simp only [updateKey]
      split
      · rfl
      · split <;> simp [different]
  | atom | list | dict =>
      simp only [updateKey]
      split <;> simp [different]

theorem updateKey_entries {ori : Entries α} {k : String} {v : Document α} {entry : String × Document α}
    (member : entry ∈ (updateKey false ori k v).1) :
    entry ∈ ori ∨ entry = (k, v) ∨ ∃ k entries, entry = (k, .dict entries) := by
  cases v with
  | null =>
      simp only [updateKey] at member
      split at member <;> exact Or.inl (by simpa using member)
  | atom | list =>
      simp only [updateKey] at member
      split at member
      · exact Or.inl member
      · exact (Dict.mem_set member).imp_right Or.inl
  | dict entries =>
      simp only [updateKey] at member
      split at member <;>
        exact (Dict.mem_set member).imp_right fun same => Or.inr ⟨k, _, same⟩

/-- Every entry of an updated dictionary is an old one or one of the updater, or a
    dictionary. -/
theorem update_entries {ori : Entries α} {updater : List (String × Document α)}
    {entry : String × Document α} (member : entry ∈ (recursiveDictUpdate false ori updater).1) :
    entry ∈ ori ∨ entry ∈ updater ∨ ∃ k entries, entry = (k, .dict entries) := by
  induction updater generalizing ori with
  | nil => exact Or.inl member
  | cons head rest ih =>
      rcases head with ⟨k, v⟩
      have first : entry ∈ (updateKey false ori k v).1 →
          entry ∈ ori ∨ entry ∈ (k, v) :: rest ∨ ∃ k entries, entry = (k, .dict entries) := by
        intro here
        rcases updateKey_entries here with old | rfl | dict
        · exact Or.inl old
        · exact Or.inr (Or.inl List.mem_cons_self)
        · exact Or.inr (Or.inr dict)
      rw [recursiveDictUpdate] at member
      cases result : updateKey false ori k v with
      | mk ori' raised =>
          simp only [result] at member first
          cases raised with
          | some error => exact first member
          | none =>
              rcases ih member with here | tail | dict
              · exact first here
              · exact Or.inr (Or.inl (List.mem_cons_of_mem _ tail))
              · exact Or.inr (Or.inr dict)

theorem replacesDict_congr (counts : Document α → Bool) {ori ori' : Entries α}
    {updater : List (String × Document α)}
    (same : ∀ k ∈ Dict.keys updater, ori.get k = ori'.get k) :
    replacesDict counts ori updater = replacesDict counts ori' updater := by
  induction updater with
  | nil => rfl
  | cons entry rest ih =>
      rcases entry with ⟨k, v⟩
      have head : ori.get k = ori'.get k := same k (by simp [Dict.keys])
      have tail := ih (fun k' h => same k' (List.mem_cons_of_mem _ h))
      cases v <;> simp only [replacesDict, replacesDictAt, holdsDict, head, tail]

theorem introducesNull_congr {ori ori' : Entries α} {updater : List (String × Document α)}
    (same : ∀ k ∈ Dict.keys updater, ori.get k = ori'.get k) :
    introducesNull ori updater = introducesNull ori' updater := by
  induction updater with
  | nil => rfl
  | cons entry rest ih =>
      rcases entry with ⟨k, v⟩
      have head : ori.get k = ori'.get k := same k (by simp [Dict.keys])
      have tail := ih (fun k' h => same k' (List.mem_cons_of_mem _ h))
      cases v <;> simp only [introducesNull, introducesNullAt, head, tail]

theorem updateKey_dict_nested {flag : Bool} {ori : Entries α} {k : String}
    {entries sub : List (String × Document α)} (found : ori.get k = some (.dict sub)) :
    updateKey flag ori k (.dict entries) =
      (ori.set k (.dict (recursiveDictUpdate flag sub entries).1),
        (recursiveDictUpdate flag sub entries).2) := by
  simp only [updateKey, found]

theorem updateKey_dict_new {flag : Bool} {ori : Entries α} {k : String}
    {entries : List (String × Document α)} (other : ∀ sub, ori.get k ≠ some (.dict sub)) :
    updateKey flag ori k (.dict entries) = (ori.set k (.dict entries), none) := by
  simp only [updateKey]

theorem introducesNullAt_new {ori : Entries α} {k : String} {entries : List (String × Document α)}
    (other : ∀ sub, ori.get k ≠ some (.dict sub)) :
    introducesNullAt ori k (.dict entries) = hasNull entries := by
  simp only [introducesNullAt]

theorem update_cons_of_passed {flag : Bool} {ori : Entries α} {k : String} {v : Document α}
    {rest : List (String × Document α)} (passed : (updateKey flag ori k v).2 = none) :
    recursiveDictUpdate flag ori ((k, v) :: rest) =
      recursiveDictUpdate flag (updateKey flag ori k v).1 rest := by
  rw [recursiveDictUpdate]
  cases result : updateKey flag ori k v with
  | mk ori' raised =>
      have quiet : raised = none := by simpa [result] using passed
      simp [quiet]

mutual
theorem update_succeeds_iff (flag : Bool) (ori : Entries α) (updater : List (String × Document α))
    (keyed : WellKeyed updater) :
    (recursiveDictUpdate flag ori updater).2 = none ↔
      replacesDict (fun _ => true) ori updater = false := by
  cases updater with
  | nil => simp [recursiveDictUpdate, replacesDict]
  | cons entry rest =>
      rcases entry with ⟨k, v⟩
      obtain ⟨unique, keyedValue, keyedRest⟩ := keyed
      have head := updateKey_succeeds_iff flag ori k v keyedValue
      have same : ∀ k' ∈ Dict.keys rest, (updateKey flag ori k v).1.get k' = ori.get k' := by
        intro k' member
        have different : k ≠ k' := fun same => unique (same ▸ member)
        exact updateKey_get_ne flag ori v different
      have tail := update_succeeds_iff flag (updateKey flag ori k v).1 rest keyedRest
      rw [replacesDict_congr _ same] at tail
      rw [recursiveDictUpdate, replacesDict, Bool.or_eq_false_iff, ← head]
      cases result : updateKey flag ori k v with
      | mk ori' raised =>
          rw [result] at tail
          cases raised with
          | none => simpa using tail
          | some error => simp

theorem updateKey_succeeds_iff (flag : Bool) (ori : Entries α) (k : String) (v : Document α)
    (keyed : v.WellKeyedValue) :
    (updateKey flag ori k v).2 = none ↔ replacesDictAt (fun _ => true) ori k v = false := by
  cases v with
  | dict entries =>
      simp only [updateKey, replacesDictAt]
      split
      · exact update_succeeds_iff flag _ entries keyed
      · simp
  | null | atom | list =>
      simp only [updateKey, replacesDictAt, holdsDict]
      split <;> simp_all
end

theorem update_get_absent (flag : Bool) (ori : Entries α) (updater : List (String × Document α))
    {k : String} (absent : k ∉ Dict.keys updater) :
    (recursiveDictUpdate flag ori updater).1.get k = ori.get k := by
  induction updater generalizing ori with
  | nil => rfl
  | cons entry rest ih =>
      rcases entry with ⟨key, v⟩
      have different : key ≠ k := fun same => absent (by simp [Dict.keys, same])
      have tail : k ∉ Dict.keys rest := fun h => absent (List.mem_cons_of_mem _ h)
      have head := updateKey_get_ne flag ori v different
      rw [recursiveDictUpdate]
      cases result : updateKey flag ori key v with
      | mk ori' raised =>
          rw [result] at head
          cases raised with
          | none => exact (ih ori' tail).trans head
          | some error => exact head

/-- The entry step and its merge only differ in what they store at the key. -/
theorem updateKey_eq_of_get {ori : Entries α} {k : String} {v : Document α}
    (same : (updateKey false ori k v).1.get k = (overlayAt ori k v).get k)
    (clear : replacesDictAt (fun _ => true) ori k v = false) :
    (updateKey false ori k v).1 = overlayAt ori k v := by
  cases v with
  | null | atom | list =>
      simp only [replacesDictAt, holdsDict, Bool.and_true] at clear
      simp only [updateKey, overlayAt]
      split at clear <;> simp_all
  | dict entries =>
      rcases dict_or_other ori k with ⟨sub, found⟩ | other
      · rw [updateKey_dict_nested found] at same ⊢
        simp only [overlayAt, Dict.get_set_self, Option.some.injEq] at same ⊢
        rw [same]
      · rw [updateKey_dict_new other] at same ⊢
        simp only [overlayAt, Dict.get_set_self, Option.some.injEq] at same ⊢
        rw [same]

mutual
/-- Where the update does not raise, it is the deep merge unless it stores a null. -/
theorem update_eq_overlay_iff (ori : Entries α) (updater : List (String × Document α))
    (keyed : WellKeyed updater) (clear : replacesDict (fun _ => true) ori updater = false) :
    (recursiveDictUpdate false ori updater).1 = overlay ori updater ↔
      introducesNull ori updater = false := by
  cases updater with
  | nil => simp [recursiveDictUpdate, overlay, introducesNull]
  | cons entry rest =>
      rcases entry with ⟨k, v⟩
      obtain ⟨unique, keyedValue, keyedRest⟩ := keyed
      simp only [replacesDict, Bool.or_eq_false_iff] at clear
      have same : ∀ k' ∈ Dict.keys rest, (updateKey false ori k v).1.get k' = ori.get k' := by
        intro k' member
        have different : k ≠ k' := fun same => unique (same ▸ member)
        exact updateKey_get_ne false ori v different
      have head := updateKey_get_eq_iff ori k v keyedValue clear.1
      have clearRest := (replacesDict_congr (fun _ : Document α => true) same).trans clear.2
      have tail := update_eq_overlay_iff (updateKey false ori k v).1 rest keyedRest clearRest
      rw [introducesNull_congr same] at tail
      have passed := (updateKey_succeeds_iff false ori k v keyedValue).mpr clear.1
      rw [update_cons_of_passed passed, overlay, introducesNull, Bool.or_eq_false_iff]
      constructor
      · intro whole
        have atKey := congrArg (Dict.get · k) whole
        simp only [update_get_absent _ _ _ unique, overlay_get_absent _ _ unique] at atKey
        rw [← updateKey_eq_of_get atKey clear.1] at whole
        exact ⟨head.mp atKey, tail.mp whole⟩
      · rintro ⟨headClean, restClean⟩
        rw [← updateKey_eq_of_get (head.mpr headClean) clear.1]
        exact tail.mpr restClean

theorem updateKey_get_eq_iff (ori : Entries α) (k : String) (v : Document α)
    (keyed : v.WellKeyedValue) (clear : replacesDictAt (fun _ => true) ori k v = false) :
    (updateKey false ori k v).1.get k = (overlayAt ori k v).get k ↔
      introducesNullAt ori k v = false := by
  cases v with
  | null | atom | list =>
      simp only [replacesDictAt, holdsDict, Bool.and_true] at clear
      simp only [updateKey, overlayAt, introducesNullAt]
      split at clear <;> simp_all
  | dict entries =>
      rcases dict_or_other ori k with ⟨sub, found⟩ | other
      · simp only [replacesDictAt, found] at clear
        have inner := update_eq_overlay_iff sub entries keyed clear
        rw [updateKey_dict_nested found]
        simpa [overlayAt, introducesNullAt, subDict_of_get found, found] using inner
      · have inner := overlay_nil_eq_iff keyed
        rw [updateKey_dict_new other, introducesNullAt_new other, overlayAt,
          subDict_of_not_dict other, Dict.get_set_self, Dict.get_set_self, ← inner]
        simp only [Option.some.injEq, Document.dict.injEq]
        exact eq_comm
end

mutual
theorem replacesDict_or (a b : Document α → Bool) (ori : Entries α)
    (updater : List (String × Document α)) :
    replacesDict (fun v => a v || b v) ori updater =
      (replacesDict a ori updater || replacesDict b ori updater) := by
  cases updater with
  | nil => rfl
  | cons entry rest =>
      rcases entry with ⟨k, v⟩
      simp only [replacesDict, replacesDictAt_or a b ori k v, replacesDict_or a b ori rest]
      ac_rfl

theorem replacesDictAt_or (a b : Document α → Bool) (ori : Entries α) (k : String) (v : Document α) :
    replacesDictAt (fun v => a v || b v) ori k v =
      (replacesDictAt a ori k v || replacesDictAt b ori k v) := by
  cases v with
  | dict entries =>
      simp only [replacesDictAt]
      split
      · exact replacesDict_or a b _ entries
      · rfl
  | null | atom | list => simp only [replacesDictAt, Bool.and_or_distrib_left]
end

/-! ## Changed leaves -/

variable {β : Type}

def CannotUpdateDict.mapLeaves (f : Option String → α → β) (raised : CannotUpdateDict α) :
    CannotUpdateDict β :=
  ⟨raised.k, mapEntries f raised.ori, raised.v.mapLeaves f (some raised.k)⟩

mutual
/-- The update does not look at the leaves. -/
theorem update_mapEntries (f : Option String → α → β) (flag : Bool) (ori : Entries α)
    (updater : List (String × Document α)) :
    recursiveDictUpdate flag (mapEntries f ori) (mapEntries f updater) =
      (mapEntries f (recursiveDictUpdate flag ori updater).1,
        (recursiveDictUpdate flag ori updater).2.map (CannotUpdateDict.mapLeaves f)) := by
  cases updater with
  | nil => rfl
  | cons entry rest =>
      rcases entry with ⟨k, v⟩
      rw [mapEntries, recursiveDictUpdate, recursiveDictUpdate, updateKey_mapLeaves f flag ori k v]
      cases result : updateKey flag ori k v with
      | mk ori' raised =>
          cases raised with
          | none => exact update_mapEntries f flag ori' rest
          | some error => rfl

theorem updateKey_mapLeaves (f : Option String → α → β) (flag : Bool) (ori : Entries α)
    (k : String) (v : Document α) :
    updateKey flag (mapEntries f ori) k (v.mapLeaves f (some k)) =
      (mapEntries f (updateKey flag ori k v).1,
        (updateKey flag ori k v).2.map (CannotUpdateDict.mapLeaves f)) := by
  have looked := mapEntries_get f ori k
  cases v with
  | dict entries =>
      simp only [Document.mapLeaves, updateKey, looked]
      cases found : ori.get k with
      | none => simp [mapEntries_set, Document.mapLeaves]
      | some old =>
          cases old with
          | dict sub =>
              simp [mapEntries_set, Document.mapLeaves, update_mapEntries f flag sub entries]
          | null | atom | list => simp [mapEntries_set, Document.mapLeaves]
  | null | atom | list =>
      simp only [Document.mapLeaves, updateKey, looked]
      cases found : ori.get k with
      | none => cases flag <;> simp [mapEntries_set, Document.mapLeaves]
      | some old =>
          cases old <;> cases flag <;>
            simp [mapEntries_set, Document.mapLeaves, CannotUpdateDict.mapLeaves]
end

theorem updateKey_cons_frame {flag : Bool} {d d' : Entries α} {k key : String} {w : Document α}
    (v : Document α) (different : k ≠ key) (stepped : updateKey flag d key w = (d', none)) :
    updateKey flag ((k, v) :: d) key w = ((k, v) :: d', none) := by
  have looked : Dict.get ((k, v) :: d) key = d.get key := by
    rw [Dict.get_cons, if_neg different]
  have stored (new : Document α) : Dict.set ((k, v) :: d) key new = (k, v) :: d.set key new := by
    rw [Dict.set, if_neg different]
  cases w with
  | dict entries =>
      simp only [updateKey, looked, stored] at stepped ⊢
      split at stepped <;> simp_all
  | null | atom | list =>
      simp only [updateKey, looked, stored] at stepped ⊢
      split at stepped
      · simp at stepped
      · cases flag <;> simp_all

/-- An entry that the updater does not mention stays in front. -/
theorem update_cons_frame {flag : Bool} {d d' : Entries α} {updater : List (String × Document α)}
    {k : String} (v : Document α) (absent : k ∉ Dict.keys updater)
    (done : recursiveDictUpdate flag d updater = (d', none)) :
    recursiveDictUpdate flag ((k, v) :: d) updater = ((k, v) :: d', none) := by
  induction updater generalizing d with
  | nil =>
      obtain rfl := (Prod.mk.inj done).1
      rfl
  | cons entry rest ih =>
      rcases entry with ⟨key, w⟩
      have different : k ≠ key := fun same => absent (by simp [Dict.keys, same])
      have tail : k ∉ Dict.keys rest := fun h => absent (List.mem_cons_of_mem _ h)
      rw [recursiveDictUpdate] at done ⊢
      cases result : updateKey flag d key w with
      | mk d₁ raised =>
          rw [result] at done
          cases raised with
          | none =>
              rw [updateKey_cons_frame v different result]
              exact ih tail done
          | some error => simp at done

mutual
/-- Updating with a document that differs in its leaves alone gives that document. -/
theorem update_changedLeaves (f : Option String → α → α) (flag : Bool) {ori : Entries α}
    (keyed : WellKeyed ori) : recursiveDictUpdate flag ori (mapEntries f ori) = (mapEntries f ori, none) := by
  cases ori with
  | nil => rfl
  | cons entry rest =>
      rcases entry with ⟨k, v⟩
      obtain ⟨unique, keyedValue, keyedRest⟩ := keyed
      rw [mapEntries, recursiveDictUpdate, updateKey_changedLeaves f flag rest keyedValue]
      refine update_cons_frame _ ?_ (update_changedLeaves f flag keyedRest)
      rwa [keys_mapEntries]

theorem updateKey_changedLeaves (f : Option String → α → α) (flag : Bool) (rest : Entries α)
    {k : String} {v : Document α} (keyed : v.WellKeyedValue) :
    updateKey flag ((k, v) :: rest) k (v.mapLeaves f (some k)) =
      ((k, v.mapLeaves f (some k)) :: rest, none) := by
  cases v with
  | dict entries =>
      have keyedEntries : WellKeyed entries := keyed
      have inner := update_changedLeaves f flag keyedEntries
      simp [Document.mapLeaves, updateKey, Dict.get_cons, Dict.set, inner]
  | null | atom | list => cases flag <;> simp [Document.mapLeaves, updateKey, Dict.get_cons, Dict.set]
end

end IdConnector
