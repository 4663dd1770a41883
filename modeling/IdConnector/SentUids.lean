import IdConnector.UserHandler

/-! # The uids in a request body

An attribute mapping that sends both uids puts those of the object into every request body
that it makes, whatever else it sends.
-/

namespace IdConnector

open Library

namespace KelvinPerSAUserDispatcher

open Action

/-- The last entry for the target attribute has this source attribute. -/
def Sends (entries : List (String × Json)) (source target : String) : Prop :=
  ∃ before after, entries = before ++ (source, Json.str target) :: after ∧
    ∀ entry ∈ after, entry.2 ≠ Json.str target

/-- The keys of the mappings for users. -/
def userMappingKeys : List String := "users" :: specialRoles.map fun role => s!"users_{role}"

/-- Every mapping for users sends the record uid and the source uid. -/
def SendsUids (attributeMapping : Json) : Prop :=
  ∀ key ∈ userMappingKeys, ∀ entries, subscript attributeMapping key = .ok (.dict entries) →
    Sends entries "ucsschoolRecordUID" "record_uid" ∧
      (Sends entries "ucsschoolSourceUID" "source_uid" ∨ Sends entries "source_uid" "source_uid")

/-! ## Merging one contribution -/

section Merging

variable {σ : Type}

theorem exec_raising_ok {α : Type} {result : Except PyError α} {a : α} {s s' : σ} :
    exec (raising result : Action σ HandlerError α) s = (.ok a, s') ↔ result = .ok a ∧ s = s' := by
  cases result with
  | ok b => simp [raising]
  | error raised => simp [raising]

theorem exec_updateBody_ok {res update res' : JsonObject} {s s' : σ}
    (done : exec (updateBody res update : Action σ HandlerError JsonObject) s = (.ok res', s')) :
    recursiveDictUpdate true res update = (res', none) := by
  unfold updateBody at done
  split at done
  next updated same =>
    rw [exec_pure] at done
    cases done
    exact same
  next => simp [raising] at done

theorem updateBody_get_absent {res update res' : JsonObject} {s s' : σ} {key : String}
    (absent : key ∉ Dict.keys update)
    (done : exec (updateBody res update : Action σ HandlerError JsonObject) s = (.ok res', s')) :
    res'.get key = res.get key := by
  have kept := update_get_absent true res update absent
  rw [exec_updateBody_ok done] at kept
  exact kept

theorem updateBody_get_str {res res' : JsonObject} {s s' : σ} {key uid : String}
    (done : exec (updateBody res [(key, Json.str uid)] : Action σ HandlerError JsonObject) s =
      (.ok res', s')) : res'.get key = some (Json.str uid) := by
  have updated := exec_updateBody_ok done
  unfold recursiveDictUpdate Json.str updateKey at updated
  split at updated
  next ori' stored =>
    rw [recursiveDictUpdate] at updated
    cases updated
    split at stored
    · cases stored
    · cases stored
      exact Dict.get_set_self _ _ _
  next => cases updated

theorem updateForMappingData_str {key : String} (known : key ∈ kelvinApiSchoolAttributes)
    (value : Json) : updateForMappingData (Json.str key) value = .ok [(key, value)] := by
  simp [updateForMappingData, Json.str, Json.dictKey, Json.str?, known, bind, Except.bind, pure,
    Except.pure]

theorem str?_eq_some {value : Json} {text : String} (found : value.str? = some text) :
    value = Json.str text := by
  unfold Json.str? at found
  split at found
  · cases found
    rfl
  · cases found

theorem absent_updateForMappingData {keyThere value : Json} {update : JsonObject} {key : String}
    (other : keyThere ≠ Json.str key) (regular : key ≠ "udm_properties")
    (computed : updateForMappingData keyThere value = .ok update) : key ∉ Dict.keys update := by
  unfold updateForMappingData at computed
  cases text : keyThere.dictKey with
  | error raised => simp [text, bind, Except.bind] at computed
  | ok there =>
      simp only [text, bind, Except.bind, pure, Except.pure] at computed
      split at computed
      next sent =>
        cases computed
        intro member
        obtain rfl : key = there := by simpa [Dict.keys] using member
        exact other (str?_eq_some sent.1)
      next =>
        cases computed
        simpa [Dict.keys] using regular

end Merging

/-! ## The whole body -/

section Bodies

variable [CaseMapping] {σ : Type} {self : Dispatcher} {env : LdapEnvironment}
  {services : Services (Action σ HandlerError)} {obj : ListenerUserAddModifyObject}

theorem mapAttribute_get_ne {res res' : JsonObject} {entry : String × Json} {s s' : σ}
    {key : String} (other : entry.2 ≠ Json.str key) (regular : key ≠ "udm_properties")
    (done : exec (mapAttribute self env services obj res entry) s = (.ok res', s')) :
    res'.get key = res.get key := by
  unfold mapAttribute at done
  obtain ⟨value, s₁, _, merged⟩ := exec_bind_eq_ok.mp done
  split at merged
  next value =>
    obtain ⟨update, s₂, computed, updated⟩ := exec_bind_eq_ok.mp merged
    have absent := absent_updateForMappingData other regular (exec_raising_ok.mp computed).1
    exact updateBody_get_absent absent updated
  next =>
    rw [exec_pure] at merged
    cases merged
    rfl

theorem mapAttribute_get_str {res res' : JsonObject} {source key uid : String} {s s' : σ}
    (known : key ∈ kelvinApiSchoolAttributes)
    (here : ∀ s, exec (valueHere self env services obj source) s = (.ok (some (Json.str uid)), s))
    (done : exec (mapAttribute self env services obj res (source, Json.str key)) s =
      (.ok res', s')) : res'.get key = some (Json.str uid) := by
  unfold mapAttribute at done
  rw [exec_bind_ok _ (here s)] at done
  obtain ⟨update, s₂, computed, updated⟩ := exec_bind_eq_ok.mp done
  have single := (exec_raising_ok.mp computed).1
  rw [updateForMappingData_str known] at single
  cases single
  exact updateBody_get_str updated

theorem foldlM_mapAttribute_get_ne {entries : List (String × Json)} {res res' : JsonObject}
    {s s' : σ} {key : String} (others : ∀ entry ∈ entries, entry.2 ≠ Json.str key)
    (regular : key ≠ "udm_properties")
    (done : exec (entries.foldlM (mapAttribute self env services obj) res) s = (.ok res', s')) :
    res'.get key = res.get key := by
  induction entries generalizing res s with
  | nil =>
      rw [List.foldlM_nil, exec_pure] at done
      cases done
      rfl
  | cons entry rest ih =>
      rw [List.foldlM_cons] at done
      obtain ⟨between, s₁, first, remaining⟩ := exec_bind_eq_ok.mp done
      have head := mapAttribute_get_ne (others entry List.mem_cons_self) regular first
      exact (ih (fun e member => others e (List.mem_cons_of_mem _ member)) remaining).trans head

/-- The last entry for a target attribute decides what the loop leaves there. -/
theorem foldlM_mapAttribute_get {entries : List (String × Json)} {res res' : JsonObject}
    {s s' : σ} {source key uid : String} (sends : Sends entries source key)
    (known : key ∈ kelvinApiSchoolAttributes) (regular : key ≠ "udm_properties")
    (here : ∀ s, exec (valueHere self env services obj source) s = (.ok (some (Json.str uid)), s))
    (done : exec (entries.foldlM (mapAttribute self env services obj) res) s = (.ok res', s')) :
    res'.get key = some (Json.str uid) := by
  obtain ⟨before, after, rfl, others⟩ := sends
  rw [List.foldlM_append] at done
  obtain ⟨_, s₁, _, rest⟩ := exec_bind_eq_ok.mp done
  rw [List.foldlM_cons] at rest
  obtain ⟨sent, s₂, here', tail⟩ := exec_bind_eq_ok.mp rest
  rw [foldlM_mapAttribute_get_ne others regular tail]
  exact mapAttribute_get_str known here here'

/-- What is sent for an attribute without a handler of its own. -/
theorem exec_valueHere_raw {source uid : String}
    (plain : handleAttr self env services obj source = none)
    (found : obj.object.get source = some (Json.str uid)) (s : σ) :
    exec (valueHere self env services obj source) s = (.ok (some (Json.str uid)), s) := by
  unfold valueHere
  rw [plain, found]
  rfl

theorem exec_valueHere_sourceUid {uid : String} (set : uid ≠ "")
    (found : obj.object.get "ucsschoolSourceUID" = some (Json.str uid)) (s : σ) :
    exec (valueHere self env services obj "source_uid") s = (.ok (some (Json.str uid)), s) := by
  have truthy : (Json.str uid).truthy = true := by simpa [Json.str, Json.truthy] using set
  have own : exec (handleAttrSourceUid services obj) s = (.ok (Json.str uid), s) := by
    unfold handleAttrSourceUid
    simp [found, truthy]
  have wrapped : exec (some <$> handleAttrSourceUid services obj) s =
      (.ok (some (Json.str uid)), s) := by
    rw [exec_map, own]
    rfl
  have handled : handleAttr self env services obj "source_uid" =
      some (some <$> handleAttrSourceUid services obj) := rfl
  unfold valueHere
  rw [handled, exec_bind_ok _ wrapped]
  rfl

omit [CaseMapping] in
theorem mappingKey_mem {mapping : Json} {roles userRoles : List String} {key : String}
    (chosen : mappingKey mapping userRoles roles = .ok key) :
    key = "users" ∨ ∃ role ∈ roles, key = s!"users_{role}" := by
  induction roles with
  | nil =>
      cases chosen
      exact Or.inl rfl
  | cons role rest ih =>
      have skip (chosen : mappingKey mapping userRoles rest = .ok key) :
          key = "users" ∨ ∃ r ∈ role :: rest, key = s!"users_{r}" := by
        rcases ih chosen with users | ⟨r, member, same⟩
        · exact Or.inl users
        · exact Or.inr ⟨r, List.mem_cons_of_mem _ member, same⟩
      unfold mappingKey at chosen
      split at chosen
      · cases asked : contains s!"users_{role}" mapping with
        | error raised =>
            rw [asked] at chosen
            cases chosen
        | ok found =>
            rw [asked] at chosen
            cases found with
            | true =>
                cases chosen
                exact Or.inr ⟨role, List.mem_cons_self, rfl⟩
            | false => exact skip chosen
      · exact skip chosen

theorem getRoleSpecificMapping_ok {roles mapping used : Json} {s s' : σ}
    (done : exec (getRoleSpecificMapping services roles mapping) s = (.ok used, s')) :
    ∃ key ∈ userMappingKeys, subscript mapping key = .ok used := by
  unfold getRoleSpecificMapping at done
  obtain ⟨handled, s₁, _, rest⟩ := exec_bind_eq_ok.mp done
  obtain ⟨texts, s₂, _, rest⟩ := exec_bind_eq_ok.mp rest
  obtain ⟨key, s₃, chosen, rest⟩ := exec_bind_eq_ok.mp rest
  refine ⟨key, ?_, (exec_raising_ok.mp rest).1⟩
  rcases mappingKey_mem (exec_raising_ok.mp chosen).1 with rfl | ⟨role, member, rfl⟩
  · exact List.mem_cons_self
  · exact List.mem_cons_of_mem _ (List.mem_map_of_mem member)

omit [CaseMapping] in
theorem handlePasswordHashes_absent {update : JsonObject} {s s' : σ} {key : String}
    (other : key ≠ kelvinApiPasswordHashesAttribute)
    (done : exec (handlePasswordHashes self obj : Action σ HandlerError JsonObject) s =
      (.ok update, s')) : key ∉ Dict.keys update := by
  unfold handlePasswordHashes at done
  obtain ⟨hashes, s₁, _, rest⟩ := exec_bind_eq_ok.mp done
  split at rest
  · split at rest
    · rw [exec_pure] at rest
      cases rest
      simpa [Dict.keys] using other
    · rw [exec_pure] at rest
      cases rest
      simp [Dict.keys]
  · rw [exec_pure] at rest
    cases rest
    simp [Dict.keys]

/-- The uids that a mapping sends are in every request body that it makes. -/
theorem mapAttributes_sends {mapping : Json} {body : JsonObject} {s s' : σ}
    {recordUid sourceUid : String} (sends : SendsUids mapping)
    (record : obj.recordUid = some recordUid) (source : obj.sourceUid = some sourceUid)
    (set : sourceUid ≠ "")
    (done : exec (mapAttributes self env services obj mapping) s = (.ok body, s')) :
    body.get "record_uid" = some (Json.str recordUid) ∧
      body.get "source_uid" = some (Json.str sourceUid) := by
  have record_found : obj.object.get "ucsschoolRecordUID" = some (Json.str recordUid) := by
    obtain ⟨value, found, text⟩ := Option.bind_eq_some_iff.mp record
    rw [found, str?_eq_some text]
  have source_found : obj.object.get "ucsschoolSourceUID" = some (Json.str sourceUid) := by
    obtain ⟨value, found, text⟩ := Option.bind_eq_some_iff.mp source
    rw [found, str?_eq_some text]
  unfold mapAttributes at done
  obtain ⟨used, s₁, selected, rest⟩ := exec_bind_eq_ok.mp done
  obtain ⟨mappingKey, known, subscripted⟩ := getRoleSpecificMapping_ok selected
  split at rest
  next entries =>
    obtain ⟨res, s₂, looped, rest⟩ := exec_bind_eq_ok.mp rest
    obtain ⟨update, s₃, hashes, updated⟩ := exec_bind_eq_ok.mp rest
    obtain ⟨record_sent, source_sent⟩ := sends mappingKey known entries subscripted
    constructor
    · rw [updateBody_get_absent (handlePasswordHashes_absent (by decide) hashes) updated]
      exact foldlM_mapAttribute_get record_sent (by decide) (by decide)
        (exec_valueHere_raw rfl record_found) looped
    · rw [updateBody_get_absent (handlePasswordHashes_absent (by decide) hashes) updated]
      rcases source_sent with raw | handled
      · exact foldlM_mapAttribute_get raw (by decide) (by decide)
          (exec_valueHere_raw rfl source_found) looped
      · exact foldlM_mapAttribute_get handled (by decide) (by decide)
          (exec_valueHere_sourceUid set source_found) looped
  next => simp [raising] at rest

end Bodies

end KelvinPerSAUserDispatcher

end IdConnector
