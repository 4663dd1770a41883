import IdConnector.Library.Attempts
import IdConnector.MergeOrder
import IdConnector.Reload
import IdConnector.UserAttributes
import Mathlib.Data.List.ReduceOption

/-! # Request bodies after a restart

The mapping that is loaded at the next start has its entries in another order.
`restart_same_body_iff` says when a dispatcher with the loaded configuration makes the same
request body of an object.
-/

namespace IdConnector

open Library Library.Document

/-! ## Request bodies as merges -/

namespace KelvinPerSAUserDispatcher

section Contributions

variable [CaseMapping]

/-- What an entry of the mapping adds to the request body, if anything. -/
def contribution (self : Dispatcher) (env : LdapEnvironment)
    (services : Services (Except HandlerError)) (obj : ListenerUserAddModifyObject)
    (entry : String × Json) : Except HandlerError (Option JsonObject) := do
  match ← valueHere self env services obj entry.1 with
  | some value => return some (← raising (updateForMappingData entry.2 value))
  | none => return none

/-- All additions to the request body, in the order in which they are merged. -/
def contributions (self : Dispatcher) (env : LdapEnvironment)
    (services : Services (Except HandlerError)) (obj : ListenerUserAddModifyObject)
    (entries : JsonObject) : Except HandlerError (List JsonObject) := do
  let updates ← entries.mapM (contribution self env services obj)
  return updates.reduceOption ++ [← handlePasswordHashes self obj]

variable {self self' : Dispatcher} {env : LdapEnvironment}
  {services : Services (Except HandlerError)} {obj : ListenerUserAddModifyObject}

omit [CaseMapping] in
theorem mergeAll_append (acc : JsonObject) (us ws : List JsonObject) :
    mergeAll acc (us ++ ws) = (mergeAll acc us).bind (mergeAll · ws) := by
  induction us generalizing acc with
  | nil => rfl
  | cons update rest ih =>
      simp only [List.cons_append, mergeAll]
      split
      · exact ih _
      · rfl

omit [CaseMapping] in
theorem updateBody_toOption (res update : JsonObject) :
    (updateBody res update : Except HandlerError JsonObject).toOption = mergeAll res [update] := by
  unfold updateBody mergeAll
  split <;> rename_i stepped <;> rw [stepped] <;> rfl

omit [CaseMapping] in
/-- Merging goes on with what the first update leaves. -/
theorem updateBody_bind (res update : JsonObject) (us : List JsonObject) :
    (updateBody res update : Except HandlerError JsonObject).toOption.bind (mergeAll · us) =
      mergeAll res (update :: us) := by
  rw [updateBody_toOption, ← mergeAll_append]
  rfl

theorem mapAttribute_eq (res : JsonObject) (entry : String × Json) :
    mapAttribute self env services obj res entry =
      (contribution self env services obj entry).bind fun
        | some update => updateBody res update
        | none => .ok res := by
  unfold mapAttribute contribution
  cases valueHere self env services obj entry.1 with
  | error raised => rfl
  | ok value =>
      cases value with
      | none => rfl
      | some v =>
          simp only [bind, Except.bind]
          cases updateForMappingData entry.2 v <;> rfl

/-- The loop over the mapping merges what its entries contribute, and raises if one does. -/
theorem foldlM_toOption (entries res : JsonObject) :
    (entries.foldlM (mapAttribute self env services obj) res).toOption =
      (entries.mapM (contribution self env services obj)).toOption.bind
        fun updates => mergeAll res updates.reduceOption := by
  induction entries generalizing res with
  | nil => rfl
  | cons entry rest ih =>
      rw [List.foldlM_cons, mapAttribute_eq]
      cases first : contribution self env services obj entry with
      | error raised =>
          rw [Attempts.mapM_cons_error first]
          rfl
      | ok added =>
          rw [Attempts.mapM_cons_ok first]
          cases added with
          | none =>
              refine (ih res).trans ?_
              cases rest.mapM (contribution self env services obj) <;> rfl
          | some update =>
              have merged := updateBody_bind res update
              simp only [bind, Except.bind]
              cases body : (updateBody res update : Except HandlerError JsonObject) with
              | error raised =>
                  rw [body] at merged
                  cases rest.mapM (contribution self env services obj) with
                  | error raised => rfl
                  | ok others => exact merged others.reduceOption
              | ok res' =>
                  rw [body] at merged
                  simp only [ih res']
                  cases rest.mapM (contribution self env services obj) with
                  | error raised => rfl
                  | ok others => exact merged others.reduceOption

/-- The whole request body is the merge of all contributions. -/
theorem mapAttributes_toOption {mapping : Json} {entries : JsonObject}
    (selected : getRoleSpecificMapping services
      ((obj.object.get "ucsschoolRole").getD (.list [])) mapping = .ok (.dict entries)) :
    (mapAttributes self env services obj mapping).toOption =
      (contributions self env services obj entries).toOption.bind (mergeAll []) := by
  have looped : (entries.foldlM (mapAttribute self env services obj) []).toOption = _ :=
    foldlM_toOption entries []
  unfold mapAttributes contributions
  simp only [selected, bind, Except.bind]
  cases body : entries.foldlM (mapAttribute self env services obj) [] with
  | error raised =>
      rw [body] at looped
      cases collected : entries.mapM (contribution self env services obj) with
      | error first => rfl
      | ok updates =>
          rw [collected] at looped
          cases (handlePasswordHashes self obj : Except HandlerError JsonObject) with
          | error first => rfl
          | ok hashes =>
              have merged := mergeAll_append [] updates.reduceOption [hashes]
              rw [show mergeAll [] updates.reduceOption = none from looped.symm] at merged
              exact merged.symm
  | ok res =>
      rw [body] at looped
      cases collected : entries.mapM (contribution self env services obj) with
      | error first => simp [collected, Except.toOption] at looped
      | ok updates =>
          rw [collected] at looped
          cases (handlePasswordHashes self obj : Except HandlerError JsonObject) with
          | error first => rfl
          | ok hashes =>
              have merged := mergeAll_append [] updates.reduceOption [hashes]
              rw [show mergeAll [] updates.reduceOption = some res from looped.symm] at merged
              exact (updateBody_toOption res hashes).trans merged.symm

/-! ## What the loaded dispatcher does alike -/

/-- A dispatcher with the settings of another one but for the order of their keys. -/
structure SameSettings (d d' : Dispatcher) : Prop where
  syncs : (syncPasswordHashes d' : Except HandlerError Bool) = syncPasswordHashes d
  mapping : d'.attributeMapping = d.attributeMapping.sortKeys

omit [CaseMapping] in
theorem init_user [KelvinClient] {config : SchoolAuthorityConfiguration} {pluginName : String}
    (built : Dispatcher.init .user config pluginName = .ok self) :
    self.schoolAuthority = config ∧ self.pluginName = pluginName ∧
      pluginSetting config pluginName "mapping" = .ok self.attributeMapping := by
  unfold Dispatcher.init Dispatcher.attributeMappingOf at built
  cases mapping : pluginSetting config pluginName "mapping" with
  | error raised => simp [mapping, bind, Except.bind] at built
  | ok attributeMapping =>
      cases opened : kelvinClientSession config pluginName with
      | error raised => simp [mapping, opened, bind, Except.bind, pure, Except.pure] at built
      | ok session =>
          simp only [mapping, opened, bind, Except.bind, pure, Except.pure] at built
          injection built with same
          subst same
          exact ⟨rfl, rfl, rfl⟩

omit [CaseMapping] in
theorem sameSettings_reloaded [KelvinClient] {config config' : SchoolAuthorityConfiguration}
    {pluginName : String} (reloaded : Reloaded config config')
    (built : Dispatcher.init .user config pluginName = .ok self)
    (built' : Dispatcher.init .user config' pluginName = .ok self') :
    SameSettings self self' := by
  obtain ⟨authority, plugin, mapping⟩ := init_user built
  obtain ⟨authority', plugin', mapping'⟩ := init_user built'
  have settings := reloaded.settings pluginName
  cases known : config.pluginConfigs.get pluginName with
  | none => simp [pluginSetting, known] at mapping
  | some values =>
      rw [known] at settings
      constructor
      · have plain : "sync_password_hashes" ∉ secretKeys := by decide
        simp only [syncPasswordHashes, authority, authority', plugin, plugin', known, settings,
          Option.map_some, get_reloadedSettings values plain]
        cases Dict.get values "sync_password_hashes" with
        | none => rfl
        | some v => simp [truthy_sortKeys]
      · have plain : "mapping" ∉ secretKeys := by decide
        simp only [pluginSetting, known, settings, Option.map_some, subscript,
          get_reloadedSettings values plain] at mapping mapping'
        cases found : Dict.get values "mapping" with
        | none => simp [found] at mapping
        | some v =>
            simp only [found, Option.map_some, Except.ok.injEq] at mapping mapping'
            rw [← mapping', ← mapping]

theorem valueHere_same (same : SameSettings self self') (key : String) :
    valueHere self' env services obj key = valueHere self env services obj key := by
  have handlers : handleAttr self' env services obj key = handleAttr self env services obj key := by
    unfold handleAttr handleAttrPassword
    rw [same.syncs]
  rw [valueHere, valueHere, handlers]

omit [CaseMapping] in
theorem updateForMappingData_sortKeys (keyThere value : Json) :
    updateForMappingData keyThere.sortKeys value = updateForMappingData keyThere value := by
  cases keyThere <;> rfl

theorem contributions_same (same : SameSettings self self') (entries : JsonObject) :
    contributions self' env services obj (sortEntries entries) =
      contributions self env services obj (sortEntries entries) := by
  have each : ∀ entry, contribution self' env services obj entry =
      contribution self env services obj entry := by
    intro entry
    simp only [contribution, valueHere_same same]
  have all : contribution self' env services obj = contribution self env services obj :=
    funext each
  simp only [contributions, handlePasswordHashes, all, same.syncs]

theorem exists_contributions_iff {entries : JsonObject} :
    (∃ us, contributions self env services obj entries = .ok us) ↔
      (∃ updates, entries.mapM (contribution self env services obj) = .ok updates) ∧
        ∃ hashes, (handlePasswordHashes self obj : Except HandlerError JsonObject) =
          .ok hashes := by
  unfold contributions
  cases collected : entries.mapM (contribution self env services obj) with
  | error raised => simp [bind, Except.bind]
  | ok updates =>
      cases hashed : (handlePasswordHashes self obj : Except HandlerError JsonObject) <;>
        simp [bind, Except.bind, pure, Except.pure]

/-- Sorting changes the order of the contributions, and not whether one of them raises. -/
theorem contributions_sorted (entries : JsonObject) :
    (∃ us, contributions self env services obj entries = .ok us) ↔
      ∃ ws, contributions self env services obj (sortEntries entries) = .ok ws := by
  have alone : ∀ entry : String × Json,
      contribution self env services obj (entry.1, entry.2.sortKeys) =
        contribution self env services obj entry := by
    intro entry
    simp only [contribution, updateForMappingData_sortKeys]
  rw [exists_contributions_iff, exists_contributions_iff, Attempts.exists_mapM_ok_iff,
    Attempts.exists_mapM_ok_iff]
  simp only [(sortEntries_perm entries).mem_iff, List.mem_map, forall_exists_index, and_imp,
    forall_apply_eq_imp_iff₂, alone]

theorem getRoleSpecificMapping_sortKeys (services : Services (Except HandlerError))
    (roles mapping : Json) :
    getRoleSpecificMapping services roles mapping.sortKeys =
      (getRoleSpecificMapping services roles mapping).map sortKeys := by
  have key : ∀ userRoles tried, mappingKey mapping.sortKeys userRoles tried =
      mappingKey mapping userRoles tried := by
    intro userRoles tried
    induction tried with
    | nil => rfl
    | cons role rest ih => simp only [mappingKey, contains_sortKeys, ih]
  unfold getRoleSpecificMapping
  simp only [key, subscript_sortKeys]
  cases services.handledSchools with
  | error raised => rfl
  | ok handled =>
      cases roles.iter.bind (List.mapM Json.matchable) with
      | error raised => rfl
      | ok texts =>
          simp only [raising, bind, Except.bind, pure, Except.pure]
          cases mappingKey mapping (userRoles (handled.map lower) texts) specialRoles with
          | error raised => rfl
          | ok name =>
              dsimp only
              cases subscript mapping name <;> rfl

/-! ## Distinct keys -/

omit [CaseMapping] in
theorem wellKeyed_get {entries : JsonObject} (keyed : WellKeyed entries) {k : String} {v : Json}
    (found : entries.get k = some v) : v.WellKeyedValue := by
  induction entries with
  | nil => simp at found
  | cons entry rest ih =>
      rcases entry with ⟨key, w⟩
      obtain ⟨-, keyed_value, keyed_rest⟩ := keyed
      rw [Dict.get_cons] at found
      split at found
      · obtain rfl := Option.some.inj found
        exact keyed_value
      · exact ih keyed_rest found

omit [CaseMapping] in
theorem wellKeyed_getD {entries : JsonObject} (keyed : WellKeyed entries) (k : String) :
    WellKeyedValue ((entries.get k).getD .null) := by
  cases found : entries.get k with
  | none => trivial
  | some v => exact wellKeyed_get keyed found

theorem nodup_addSchoolClass {known : List String} {res res' : Dict String (List String)}
    {groupsDns : List Json} (distinct : res.keys.Nodup)
    (added : groupsDns.foldlM (addSchoolClass env known) res = .ok res') : res'.keys.Nodup := by
  induction groupsDns generalizing res with
  | nil =>
      obtain rfl : res = res' := Except.ok.inj added
      exact distinct
  | cons groupDn rest ih =>
      rw [List.foldlM_cons] at added
      cases step : addSchoolClass env known res groupDn with
      | error raised => simp [step, bind, Except.bind] at added
      | ok next =>
          rw [step] at added
          refine ih ?_ added
          unfold addSchoolClass at step
          cases text : groupDn.matchable with
          | error raised => simp [text, bind, Except.bind] at step
          | ok dn =>
              simp only [text, bind, Except.bind] at step
              split at step
              · split at step
                · obtain rfl := Except.ok.inj step
                  exact Dict.nodup_set distinct _ _
                · obtain rfl := Except.ok.inj step
                  exact distinct
              · obtain rfl := Except.ok.inj step
                exact distinct

omit [CaseMapping] in
theorem wellKeyed_classes {res : Dict String (List String)} (distinct : res.keys.Nodup) :
    WellKeyed (res.map fun entry => (entry.1, Json.strs entry.2)) := by
  induction res with
  | nil => trivial
  | cons entry rest ih =>
      obtain ⟨unique, distinct_rest⟩ := List.nodup_cons.mp distinct
      refine ⟨?_, trivial, ih distinct_rest⟩
      simpa [Dict.keys] using unique

/-- Every dictionary in what was returned has distinct keys. -/
def Keyed (result : Except HandlerError Json) : Prop := ∀ v, result = .ok v → v.WellKeyedValue

omit [CaseMapping] in
theorem keyed_ok {v : Json} (keyed : v.WellKeyedValue) : Keyed (.ok v) := by
  intro w same
  obtain rfl := Except.ok.inj same
  exact keyed

omit [CaseMapping] in
theorem keyed_error {raised : HandlerError} : Keyed (.error raised) := nofun

omit [CaseMapping] in
theorem keyed_bind {α : Type} {first : Except HandlerError α} {f : α → Except HandlerError Json}
    (later : ∀ a, Keyed (f a)) : Keyed (first >>= f) := by
  cases first with
  | error raised => exact keyed_error
  | ok a => exact later a

omit [CaseMapping] in
theorem keyed_handleAttrDate (key : String) : Keyed (handleAttrDate obj key) := by
  unfold handleAttrDate
  split
  · split
    · exact keyed_ok trivial
    · split
      · exact keyed_ok trivial
      · exact keyed_error
  · split
    · exact keyed_error
    · exact keyed_ok trivial

omit [CaseMapping] in
theorem keyed_handleAttrDisabled : Keyed (handleAttrDisabled obj) := by
  unfold handleAttrDisabled
  split
  · exact keyed_ok trivial
  · exact keyed_error

omit [CaseMapping] in
theorem keyed_handleAttrRoles : Keyed (handleAttrRoles services obj) := by
  unfold handleAttrRoles
  split
  · exact keyed_bind fun ids => keyed_ok trivial
  · exact keyed_error

theorem keyed_handleAttrSchool : Keyed (handleAttrSchool services obj) := by
  apply keyed_bind
  intro onTarget
  cases obj.school with
  | none => exact keyed_error
  | some school =>
      dsimp only
      split
      · exact keyed_ok trivial
      · exact keyed_error

theorem keyed_handleAttrSchools : Keyed (handleAttrSchools services obj) := by
  apply keyed_bind
  intro onTarget
  cases obj.school with
  | none => exact keyed_error
  | some school =>
      dsimp only
      split
      · exact keyed_error
      · exact keyed_ok trivial

theorem keyed_handleAttrSchoolClasses : Keyed (handleAttrSchoolClasses env services obj) := by
  apply keyed_bind
  intro onTarget
  apply keyed_bind
  intro groupsDns
  cases added : groupsDns.foldlM (addSchoolClass env (onTarget.keys.map lower)) [] with
  | error raised => exact keyed_error
  | ok res =>
      have distinct : (Dict.keys ([] : Dict String (List String))).Nodup := List.nodup_nil
      exact keyed_ok (wellKeyed_classes (nodup_addSchoolClass distinct added))

omit [CaseMapping] in
theorem keyed_handleAttrSourceUid (keyed : WellKeyed obj.object) :
    Keyed (handleAttrSourceUid services obj) := by
  unfold handleAttrSourceUid
  dsimp only
  split
  · exact keyed_ok (wellKeyed_getD keyed _)
  · exact keyed_bind fun uid => keyed_ok trivial

theorem wellKeyed_handleAttr (keyed : WellKeyed obj.object) {key : String}
    {meth : Except HandlerError (Option Json)}
    (found : handleAttr self env services obj key = some meth) {v : Json}
    (done : meth = .ok (some v)) : v.WellKeyedValue := by
  have mapped : ∀ {result : Except HandlerError Json}, Keyed result →
      some (some <$> result) = some meth → v.WellKeyedValue := by
    intro result keyed_result same
    obtain rfl := Option.some.inj same
    cases result with
    | error raised => cases done
    | ok w =>
        obtain rfl : w = v := by simpa [Functor.map, Except.map] using done
        exact keyed_result w rfl
  unfold handleAttr at found
  split at found
  · exact mapped (keyed_handleAttrDate _) found
  · exact mapped keyed_handleAttrDisabled found
  · obtain rfl := Option.some.inj found
    unfold handleAttrPassword at done
    cases syncs : (syncPasswordHashes self : Except HandlerError Bool) with
    | error raised => simp [syncs, bind, Except.bind] at done
    | ok sync =>
        cases drawn : services.randomPassword <;> cases sync <;>
          simp [syncs, drawn, bind, Except.bind, pure, Except.pure] at done
        subst done
        trivial
  · exact mapped keyed_handleAttrRoles found
  · exact mapped keyed_handleAttrSchool found
  · exact mapped keyed_handleAttrSchools found
  · exact mapped keyed_handleAttrSchoolClasses found
  · exact mapped (keyed_handleAttrSourceUid keyed) found
  · exact mapped (keyed_handleAttrDate _) found
  · cases found

theorem wellKeyed_valueHere (keyed : WellKeyed obj.object) {key : String} {v : Json}
    (value : valueHere self env services obj key = .ok (some v)) : v.WellKeyedValue := by
  have replaced : handleNoneValue key = some v → v.WellKeyedValue := by
    intro done
    unfold handleNoneValue at done
    split at done
    · obtain rfl : Document.null = v := by simpa using done
      trivial
    · split at done
      · obtain rfl : Document.list [] = v := by simpa using done
        trivial
      · simp at done
  unfold valueHere at value
  cases found : handleAttr self env services obj key with
  | none =>
      simp only [found, bind, Except.bind, pure, Except.pure] at value
      split at value
      · exact replaced (Except.ok.inj value)
      · obtain rfl := Option.some.inj (Except.ok.inj value)
        exact wellKeyed_getD keyed key
  | some meth =>
      simp only [found, bind, Except.bind, pure, Except.pure] at value
      cases done : meth with
      | error raised => simp [done] at value
      | ok w =>
          rw [done] at value
          dsimp only at value
          split at value
          · exact replaced (Except.ok.inj value)
          · obtain rfl := Except.ok.inj value
            exact wellKeyed_handleAttr keyed found done

omit [CaseMapping] in
theorem wellKeyed_update {keyThere value : Json} (keyed : value.WellKeyedValue)
    {update : JsonObject} (done : updateForMappingData keyThere value = .ok update) :
    WellKeyed update := by
  unfold updateForMappingData at done
  cases target : keyThere.dictKey with
  | error raised => simp [target, bind, Except.bind] at done
  | ok key =>
      simp only [target, bind, Except.bind, pure, Except.pure] at done
      split at done
      · obtain rfl := Except.ok.inj done
        exact ⟨List.not_mem_nil, keyed, trivial⟩
      · obtain rfl := Except.ok.inj done
        exact ⟨List.not_mem_nil, ⟨List.not_mem_nil, keyed, trivial⟩, trivial⟩

theorem wellKeyed_contribution (keyed : WellKeyed obj.object) {entry : String × Json}
    {update : JsonObject}
    (done : contribution self env services obj entry = .ok (some update)) : WellKeyed update := by
  unfold contribution at done
  cases value : valueHere self env services obj entry.1 with
  | error raised => simp [value, bind, Except.bind] at done
  | ok here =>
      cases here with
      | none => simp [value, bind, Except.bind, pure, Except.pure] at done
      | some v =>
          simp only [value, bind, Except.bind] at done
          cases made : updateForMappingData entry.2 v with
          | error raised =>
              simp [made, raising, throw, throwThe, MonadExceptOf.throw] at done
          | ok added =>
              obtain rfl : added = update := by
                simpa [made, raising, pure, Except.pure] using done
              exact wellKeyed_update (wellKeyed_valueHere keyed value) made

omit [CaseMapping] in
theorem wellKeyed_hashes {hashes : JsonObject}
    (done : (handlePasswordHashes self obj : Except HandlerError JsonObject) = .ok hashes) :
    WellKeyed hashes := by
  unfold handlePasswordHashes at done
  cases syncs : (syncPasswordHashes self : Except HandlerError Bool) with
  | error raised => simp [syncs, bind, Except.bind] at done
  | ok sync =>
      cases sync <;> cases passwords : obj.userPasswords <;>
        simp [syncs, passwords, bind, Except.bind, pure, Except.pure] at done <;> subst done <;>
          simp [WellKeyed, WellKeyedValue, Dict.keys]

theorem wellKeyed_contributions (keyed : WellKeyed obj.object) {entries : JsonObject}
    {us : List JsonObject} (done : contributions self env services obj entries = .ok us) :
    ∀ update ∈ us, WellKeyed update := by
  unfold contributions at done
  cases collected : entries.mapM (contribution self env services obj) with
  | error raised => simp [collected, bind, Except.bind] at done
  | ok updates =>
      cases hashed : (handlePasswordHashes self obj : Except HandlerError JsonObject) with
      | error raised => simp [collected, hashed, bind, Except.bind] at done
      | ok hashes =>
          obtain rfl : updates.reduceOption ++ [hashes] = us := by
            simpa [collected, hashed, bind, Except.bind, pure, Except.pure] using done
          intro update member
          rcases List.mem_append.mp member with entry | last
          · replace entry := List.reduceOption_mem_iff.mp entry
            have returned :
                .ok (some update) ∈ entries.map (contribution self env services obj) := by
              rw [Attempts.mapM_ok_iff.mp collected]
              exact List.mem_map_of_mem entry
            obtain ⟨source, _, added⟩ := List.mem_map.mp returned
            exact wellKeyed_contribution keyed added
          · obtain rfl := List.mem_singleton.mp last
            exact wellKeyed_hashes hashed

/-! ## The request body after a restart -/

/-- At every path of the request body the order of the mapping and the sorted order let the
    same value win, or both fail; entries that raise fail in any order. -/
def OrderIrrelevant (self : Dispatcher) (env : LdapEnvironment)
    (services : Services (Except HandlerError)) (obj : ListenerUserAddModifyObject) : Prop :=
  ∀ entries us ws,
    getRoleSpecificMapping services ((obj.object.get "ucsschoolRole").getD (.list []))
      self.attributeMapping = .ok (.dict entries) →
    contributions self env services obj entries = .ok us →
    contributions self env services obj (sortEntries entries) = .ok ws → SameOutcome us ws

theorem mapAttributes_error {mapping : Json}
    (other : ∀ entries, getRoleSpecificMapping services
      ((obj.object.get "ucsschoolRole").getD (.list [])) mapping ≠ .ok (.dict entries)) :
    (mapAttributes self env services obj mapping).toOption = none := by
  unfold mapAttributes
  cases selected : getRoleSpecificMapping services
      ((obj.object.get "ucsschoolRole").getD (.list [])) mapping with
  | error raised => simp [selected, bind, Except.bind, Except.toOption]
  | ok used =>
      cases used with
      | dict entries => exact absurd selected (other entries)
      | null | atom | list =>
          simp [selected, raising, bind, Except.bind, throw, throwThe, MonadExceptOf.throw,
            Except.toOption]

theorem sameBody_iff (same : SameSettings self self') (keyed : WellKeyed obj.object) :
    SameMerge (mapAttributes self env services obj self.attributeMapping).toOption
        (mapAttributes self' env services obj self'.attributeMapping).toOption ↔
      OrderIrrelevant self env services obj := by
  have sorted := getRoleSpecificMapping_sortKeys services
    ((obj.object.get "ucsschoolRole").getD (.list [])) self.attributeMapping
  rw [← same.mapping] at sorted
  unfold OrderIrrelevant
  cases selected : getRoleSpecificMapping services
      ((obj.object.get "ucsschoolRole").getD (.list [])) self.attributeMapping with
  | error raised =>
      rw [selected] at sorted
      rw [mapAttributes_error (by simp [selected]),
        mapAttributes_error (by simp [sorted, Except.map])]
      exact iff_of_true trivial (by simp)
  | ok used =>
      rw [selected] at sorted
      cases used with
      | null | atom | list =>
          rw [mapAttributes_error (by simp [selected]),
            mapAttributes_error (by simp [sorted, Except.map, sortKeys])]
          exact iff_of_true trivial (by simp)
      | dict entries =>
          rw [mapAttributes_toOption selected, mapAttributes_toOption sorted,
            contributions_same same]
          have both : (∃ us, contributions self env services obj entries = .ok us) ↔ _ :=
            contributions_sorted entries
          cases before : contributions self env services obj entries with
          | error raised =>
              cases after : contributions self env services obj (sortEntries entries) with
              | ok ws => simp [before, after] at both
              | error raised' =>
                  refine iff_of_true trivial ?_
                  intro entries' us ws chosen done
                  obtain rfl : entries = entries' := by simpa using chosen
                  exact absurd (before.symm.trans done) (by simp)
          | ok us =>
              cases after : contributions self env services obj (sortEntries entries) with
              | error raised => simp [before, after] at both
              | ok ws =>
                  refine (sameMerge_iff (wellKeyed_contributions keyed before)
                    (wellKeyed_contributions keyed after)).trans ?_
                  constructor
                  · intro outcome entries' us' ws' chosen done done'
                    obtain rfl : entries = entries' := by simpa using chosen
                    obtain rfl : us = us' := Except.ok.inj (before.symm.trans done)
                    obtain rfl : ws = ws' := Except.ok.inj (after.symm.trans done')
                    exact outcome
                  · intro all
                    exact all entries us ws rfl before after

/-- A configuration that is saved and loaded again gives the same request body of an object
    exactly if the order of its mapping does not matter for the object. -/
theorem restart_same_body_iff [Pydantic] [KelvinClient] (env : LdapEnvironment)
    (services : Services (Except HandlerError)) {data : JsonObject}
    {config config' : SchoolAuthorityConfiguration} {self self' : Dispatcher}
    {obj : ListenerUserAddModifyObject}
    (accepted : SchoolAuthorityConfiguration.init data = .ok config)
    (saved : loadSchoolAuthority (.written (sortEntries config.dictSecretsAsStr)) = some config')
    (built : Dispatcher.init .user config kelvin = .ok self)
    (built' : Dispatcher.init .user config' kelvin = .ok self')
    (keyed : WellKeyed obj.object) :
    SameMerge (mapAttributes self env services obj self.attributeMapping).toOption
        (mapAttributes self' env services obj self'.attributeMapping).toOption ↔
      OrderIrrelevant self env services obj := by
  obtain ⟨loaded, found, reloaded⟩ := reload_accepted accepted
  obtain rfl : loaded = config' := Option.some.inj (found.symm.trans saved)
  exact sameBody_iff (sameSettings_reloaded reloaded built built') keyed

end Contributions

end KelvinPerSAUserDispatcher

section Examples

open KelvinPerSAUserDispatcher

attribute [local instance] asciiCaseMapping typedPydantic plainKelvinClient

/-- The mapping of users in the example configuration. -/
def exampleUsersMapping : JsonObject :=
  [("firstname", "firstname"), ("lastname", "lastname"), ("username", "name"),
    ("disabled", "disabled"), ("mailPrimaryAddress", "email"), ("e-mail", "email"),
    ("birthday", "birthday"), ("school", "school"), ("schools", "schools"),
    ("school_classes", "school_classes"), ("title", "title"), ("displayName", "displayName"),
    ("userexpiry", "expiration_date"), ("phone", "phone"), ("roles", "roles"),
    ("ucsschoolLegalWard", "legal_wards"), ("ucsschoolLegalGuardian", "legal_guardians"),
    ("ucsschoolRecordUID", "record_uid"), ("ucsschoolSourceUID", "source_uid")].map
      fun entry => (entry.1, Json.str entry.2)

/-- The example configuration of a school authority. -/
def exampleSchoolAuthority : JsonObject :=
  [("name", Json.str "Traeger1"), ("url", Json.str "https://10.200.3.242/ucsschool/kelvin/v1/"),
    ("active", Json.bool true), ("plugins", Json.strs ["kelvin"]),
    ("plugin_configs", .dict [("kelvin", .dict
      [("username", Json.str "Administrator"), ("password", Json.str "univention"),
        ("mapping", .dict [("users", .dict exampleUsersMapping)]),
        ("sync_password_hashes", Json.bool true),
        ("ssl_context", .dict [("check_hostname", Json.bool false)])])])]

/-- A user with both mail attributes. -/
def mailUser : ListenerUserAddModifyObject where
  dn := "uid=anna,cn=schueler,cn=users,ou=DEMOSCHOOL,dc=uni,dc=dtr"
  id := "9ad3"
  object :=
    [("username", Json.str "anna"), ("firstname", Json.str "Anna"), ("lastname", Json.str "Bode"),
      ("disabled", Json.str "0"), ("mailPrimaryAddress", Json.str "anna@uni.dtr"),
      ("e-mail", Json.strs ["anna@example.dtr"]), ("school", Json.strs ["DEMOSCHOOL"]),
      ("ucsschoolRecordUID", Json.str "anna"), ("ucsschoolSourceUID", Json.str "TESTID")]
  options := ["default", "ucsschoolStudent"]
  userPasswords := none
  oldData := none
  schools := ["DEMOSCHOOL"]
  schools_eq := rfl

/-- A target that knows the school of the user. -/
def fixedServices : Services (Except HandlerError) where
  schoolsIdsOnTarget := .ok [("DEMOSCHOOL", "DEMOSCHOOL")]
  rolesOnTarget := .ok [("student", "student")]
  handledSchools := .ok ["demoschool"]
  getSourceUid := .ok "TESTID"
  randomPassword := .ok "abc.def-ghi_jkl"

def exampleEnvironment : LdapEnvironment where
  ldapBase := "dc=uni,dc=dtr"

/-- The example configuration with the given settings of its plugin. -/
def exampleConfig (settings : JsonObject)
    (hidden : pluginConfigsPlainToSecret [("kelvin", settings)] = [("kelvin", settings)]) :
    SchoolAuthorityConfiguration :=
  ⟨"Traeger1", true, "https://10.200.3.242/ucsschool/kelvin/v1/", ["kelvin"],
    [("kelvin", settings)], hidden⟩

/-- What the constructor makes of the settings of the example. -/
def exampleSettings : JsonObject :=
  [("username", Json.str "Administrator"), ("password", .atom (.secret "univention")),
    ("mapping", .dict [("users", .dict exampleUsersMapping)]),
    ("sync_password_hashes", Json.bool true),
    ("ssl_context", .dict [("check_hostname", Json.bool false)])]

/-- A dispatcher of the example configuration. -/
def exampleDispatcher (config : SchoolAuthorityConfiguration) (users : JsonObject) :
    Dispatcher :=
  ⟨config, kelvin, .dict [("users", .dict users)],
    ⟨Json.str "Administrator", "univention", "10.200.3.242", [("check_hostname", Json.bool false)]⟩⟩

def savedConfig : SchoolAuthorityConfiguration := exampleConfig exampleSettings rfl

def loadedConfig : SchoolAuthorityConfiguration :=
  exampleConfig (reloadedSettings exampleSettings) (by decide +kernel)

def runningDispatcher : Dispatcher := exampleDispatcher savedConfig exampleUsersMapping

def restartedDispatcher : Dispatcher :=
  exampleDispatcher loadedConfig (sortEntries exampleUsersMapping)

private theorem example_accepted :
    SchoolAuthorityConfiguration.init exampleSchoolAuthority = .ok savedConfig := rfl

private theorem example_saved :
    loadSchoolAuthority (.written (sortEntries savedConfig.dictSecretsAsStr)) =
      some loadedConfig := by
  decide +kernel

private theorem example_built :
    Dispatcher.init .user savedConfig kelvin = .ok runningDispatcher ∧
      Dispatcher.init .user loadedConfig kelvin = .ok restartedDispatcher := by
  decide +kernel

private theorem mailUser_keyed : WellKeyed mailUser.object := by
  simp [mailUser, WellKeyed, WellKeyedValue, Dict.keys, Json.str, Json.strs]

/-- The request body that a dispatcher makes of the user. -/
def exampleBody (self : Dispatcher) : Option JsonObject :=
  (mapAttributes self exampleEnvironment fixedServices mailUser self.attributeMapping).toOption

theorem restart_same_body_demo :
    SameMerge (exampleBody runningDispatcher) (exampleBody restartedDispatcher) ↔
      OrderIrrelevant runningDispatcher exampleEnvironment fixedServices mailUser :=
  restart_same_body_iff exampleEnvironment fixedServices example_accepted example_saved
    example_built.1 example_built.2 mailUser_keyed

private theorem email_running :
    ((exampleBody runningDispatcher).bind fun body => kind (.dict body) ["email"]) =
      some (.value (Json.strs ["anna@example.dtr"])) := by
  decide +kernel

private theorem email_restarted :
    ((exampleBody restartedDispatcher).bind fun body => kind (.dict body) ["email"]) =
      some (.value (Json.str "anna@uni.dtr")) := by
  decide +kernel

/-- With the order of the example file the attribute `e-mail` is sent, after a restart
    `mailPrimaryAddress`. -/
theorem restart_changes_email :
    SchoolAuthorityConfiguration.init exampleSchoolAuthority = .ok savedConfig ∧
      loadSchoolAuthority (.written (sortEntries savedConfig.dictSecretsAsStr)) =
        some loadedConfig ∧
      Dispatcher.init .user savedConfig kelvin = .ok runningDispatcher ∧
      Dispatcher.init .user loadedConfig kelvin = .ok restartedDispatcher ∧
      WellKeyed mailUser.object ∧
      ¬ SameMerge (exampleBody runningDispatcher) (exampleBody restartedDispatcher) := by
  refine ⟨example_accepted, example_saved, example_built.1, example_built.2, mailUser_keyed, ?_⟩
  apply mt (sameMerge_kind ["email"])
  exact ne_of_eq_of_ne email_running (ne_of_ne_of_eq (by decide) email_restarted.symm)

end Examples

end IdConnector
