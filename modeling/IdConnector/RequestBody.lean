import IdConnector.Deletion
import IdConnector.SentUids

/-! # What is in a request body

Every entry of the selected mapping yields a value for its target or skips it. The request
body has the targets that got a value, those that the target system does not know below
`udm_properties`, and the password hashes, and nothing else.
-/

namespace IdConnector

open Library Library.Document

/-! ## Values for one key -/

section Slots

variable {α : Type}

def IsDict (v : Document α) : Prop := ∃ entries, v = .dict entries

/-- Something is stored exactly if there was a value for it, and it is the last one unless
    dictionaries were merged. -/
structure HoldsLast (stored : Option (Document α)) (values : List (Document α)) : Prop where
  present : stored.isSome = true ↔ values ≠ []
  last : (∀ v ∈ values, ¬ IsDict v) → stored = values.getLast?

theorem holdsLast_nil : HoldsLast (none : Option (Document α)) [] :=
  ⟨by simp, fun _ => rfl⟩

theorem holdsLast_concat_some {stored : Document α} {values : List (Document α)}
    {v : Document α} (last : ¬ IsDict v → stored = v) : HoldsLast (some stored) (values ++ [v]) where
  present := by simp
  last plain := by
    rw [List.getLast?_concat, last (plain v (by simp))]

/-- What one round of the update stores at its key. -/
theorem updateKey_get_self {ori ori' : Entries α} {k : String} {v : Document α}
    (passed : updateKey true ori k v = (ori', none)) :
    ∃ stored, ori'.get k = some stored ∧ (¬ IsDict v → stored = v) := by
  cases v with
  | null | atom | list =>
      simp only [updateKey, if_true] at passed
      split at passed
      · cases passed
      · cases passed
        exact ⟨_, Dict.get_set_self ori k _, fun _ => rfl⟩
  | dict entries =>
      simp only [updateKey] at passed
      split at passed
      · simp only [Prod.mk.injEq] at passed
        obtain ⟨rfl, -⟩ := passed
        exact ⟨_, Dict.get_set_self ori k _, fun plain => absurd ⟨entries, rfl⟩ plain⟩
      · cases passed
        exact ⟨_, Dict.get_set_self ori k _, fun _ => rfl⟩

theorem updateKey_holdsLast {ori ori' : Entries α} {k : String} {v : Document α}
    (passed : updateKey true ori k v = (ori', none)) (values : List (Document α)) :
    HoldsLast (ori'.get k) (values ++ [v]) := by
  obtain ⟨stored, found, last⟩ := updateKey_get_self passed
  rw [found]
  exact holdsLast_concat_some last

theorem update_singleton {ori ori' : Entries α} {k : String} {v : Document α} :
    recursiveDictUpdate true ori [(k, v)] = (ori', none) ↔ updateKey true ori k v = (ori', none) := by
  rw [recursiveDictUpdate]
  cases updateKey true ori k v with
  | mk updated raised => cases raised <;> simp [recursiveDictUpdate]

end Slots

namespace KelvinPerSAUserDispatcher

open Action

/-! ## What the entries yield -/

/-- The attribute of a Kelvin user that a target is. -/
def attributeOf (target : Json) : Option String :=
  target.str?.filter (· ∈ kelvinApiSchoolAttributes)

/-- The UDM property that any other target is. -/
def propertyOf (target : Json) : Option String :=
  if attributeOf target = none then target.dictKey.toOption else none

/-- The values for one place, in the order of the mapping. -/
def valuesAt (place : Json → Option String) (t : String) (sent : List (Json × Json)) : List Json :=
  (sent.filter fun entry => place entry.1 = some t).map Prod.snd

theorem valuesAt_append (place : Json → Option String) (t : String) (sent more : List (Json × Json)) :
    valuesAt place t (sent ++ more) = valuesAt place t sent ++ valuesAt place t more := by
  simp [valuesAt]

theorem valuesAt_here {place : Json → Option String} {t : String} {target value : Json}
    (here : place target = some t) : valuesAt place t [(target, value)] = [value] := by
  simp [valuesAt, here]

theorem valuesAt_other {place : Json → Option String} {t : String} {target value : Json}
    (other : place target ≠ some t) : valuesAt place t [(target, value)] = [] := by
  simp [valuesAt, other]

/-- A target is an attribute or becomes a key of `udm_properties`. -/
theorem updateForMappingData_ok {target value : Json} {update : JsonObject}
    (computed : updateForMappingData target value = .ok update) :
    ∃ t, (attributeOf target = some t ∧ t ∈ kelvinApiSchoolAttributes ∧ update = [(t, value)]) ∨
      (attributeOf target = none ∧ propertyOf target = some t ∧
        update = [("udm_properties", .dict [(t, value)])]) := by
  unfold updateForMappingData at computed
  cases key : target.dictKey with
  | error raised => simp [key, bind, Except.bind] at computed
  | ok t =>
      simp only [key, bind, Except.bind, pure, Except.pure] at computed
      refine ⟨t, ?_⟩
      split at computed
      next known =>
        cases computed
        exact Or.inl ⟨by simp [attributeOf, known.1, known.2], known.2, rfl⟩
      next unknown =>
        cases computed
        have property : attributeOf target = none := by
          cases text : target.str? with
          | none => simp [attributeOf, text]
          | some k =>
              rw [str?_eq_some text] at key
              obtain rfl : k = t := Except.ok.inj key
              have absent : k ∉ kelvinApiSchoolAttributes := fun member => unknown ⟨text, member⟩
              simp [attributeOf, text, absent]
        exact Or.inr ⟨property, by simp [propertyOf, property, key, Except.toOption], rfl⟩

/-! ## The body so far -/

/-- The part below `udm_properties` holds the values of all targets that are no attributes,
    and is missing where there is none. -/
def HoldsProperties (sent : List (Json × Json)) (stored : Option Json) : Prop :=
  (stored = none ∧ ∀ t, valuesAt propertyOf t sent = []) ∨
    ∃ properties, stored = some (.dict properties) ∧ (∃ t, valuesAt propertyOf t sent ≠ []) ∧
      ∀ t, HoldsLast (Dict.get properties t) (valuesAt propertyOf t sent)

/-- The body holds what has been yielded so far. -/
structure Holds (sent : List (Json × Json)) (body : JsonObject) : Prop where
  attributes : ∀ t, t ≠ "udm_properties" → HoldsLast (body.get t) (valuesAt attributeOf t sent)
  properties : HoldsProperties sent (body.get "udm_properties")

theorem holds_nil : Holds [] [] where
  attributes _ _ := holdsLast_nil
  properties := Or.inl ⟨rfl, fun _ => rfl⟩

theorem holds_attribute {sent : List (Json × Json)} {body body' : JsonObject} {target value : Json}
    {t : String} (held : Holds sent body) (place : attributeOf target = some t)
    (known : t ∈ kelvinApiSchoolAttributes)
    (merged : recursiveDictUpdate true body [(t, value)] = (body', none)) :
    Holds (sent ++ [(target, value)]) body' := by
  have updated := update_singleton.mp merged
  have others (t' : String) (other : t ≠ t') : body'.get t' = body.get t' := by
    have kept := updateKey_get_ne true body value other
    rwa [updated] at kept
  have regular : t ≠ "udm_properties" := by
    rintro rfl
    exact absurd known (by decide)
  constructor
  · intro t' ordinary
    rw [valuesAt_append]
    by_cases same : t = t'
    · subst same
      rw [valuesAt_here place]
      exact updateKey_holdsLast updated _
    · rw [valuesAt_other (by rw [place]; simpa using same), List.append_nil, others t' same]
      exact held.attributes t' ordinary
  · have none_sent (t' : String) : valuesAt propertyOf t' [(target, value)] = [] :=
      valuesAt_other (by simp [propertyOf, place])
    rw [others _ regular]
    unfold HoldsProperties
    simp only [valuesAt_append, none_sent, List.append_nil]
    exact held.properties

theorem holds_property {sent : List (Json × Json)} {body body' : JsonObject} {target value : Json}
    {t : String} (held : Holds sent body) (ordinary : attributeOf target = none)
    (place : propertyOf target = some t)
    (merged : recursiveDictUpdate true body [("udm_properties", .dict [(t, value)])] =
      (body', none)) :
    Holds (sent ++ [(target, value)]) body' := by
  have updated := update_singleton.mp merged
  constructor
  · intro t' other
    have kept := updateKey_get_ne true body (.dict [(t, value)]) (Ne.symm other)
    rw [updated] at kept
    rw [valuesAt_append, valuesAt_other (by simp [ordinary]), List.append_nil, kept]
    exact held.attributes t' other
  · refine Or.inr ?_
    have here : valuesAt propertyOf t (sent ++ [(target, value)]) ≠ [] := by
      rw [valuesAt_append, valuesAt_here place]
      simp
    have elsewhere {t' : String} (other : t ≠ t') :
        valuesAt propertyOf t' (sent ++ [(target, value)]) = valuesAt propertyOf t' sent := by
      rw [valuesAt_append, valuesAt_other (by rw [place]; simpa using other), List.append_nil]
    rcases held.properties with ⟨missing, nothing⟩ | ⟨properties, stored, -, each⟩
    · rw [updateKey_dict_new (by simp [missing])] at updated
      cases updated
      refine ⟨_, Dict.get_set_self _ _ _, ⟨t, here⟩, fun t' => ?_⟩
      by_cases same : t = t'
      · subst same
        rw [valuesAt_append, valuesAt_here place, Dict.get_cons, if_pos rfl]
        exact holdsLast_concat_some fun _ => rfl
      · rw [elsewhere same, nothing, Dict.get_cons, if_neg same]
        exact holdsLast_nil
    · rw [updateKey_dict_nested stored, Prod.mk.injEq] at updated
      obtain ⟨rfl, passed⟩ := updated
      have inner : updateKey true properties t value =
          ((recursiveDictUpdate true properties [(t, value)]).1, none) :=
        update_singleton.mp (Prod.ext rfl passed)
      refine ⟨_, Dict.get_set_self _ _ _, ⟨t, here⟩, fun t' => ?_⟩
      by_cases same : t = t'
      · subst same
        rw [valuesAt_append, valuesAt_here place]
        exact updateKey_holdsLast inner _
      · have kept := updateKey_get_ne true properties value same
        rw [inner] at kept
        rw [elsewhere same, kept]
        exact each t'

section Running

variable [CaseMapping] {σ : Type} {self : Dispatcher} {env : LdapEnvironment}
  {services : Services (Action σ HandlerError)} {obj : ListenerUserAddModifyObject}

variable (self env services obj) in
/-- A run of the loop over the mapping: the targets and their values, in order, without those
    that are skipped. -/
inductive Yields : List (String × Json) → σ → List (Json × Json) → σ → Prop where
  | done (s : σ) : Yields [] s [] s
  | skipped {source target rest s s₁ sent s'}
      (here : exec (valueHere self env services obj source) s = (.ok none, s₁))
      (later : Yields rest s₁ sent s') : Yields ((source, target) :: rest) s sent s'
  | sent {source target rest s s₁ value sent s'}
      (here : exec (valueHere self env services obj source) s = (.ok (some value), s₁))
      (later : Yields rest s₁ sent s') :
      Yields ((source, target) :: rest) s ((target, value) :: sent) s'

omit [CaseMapping] in
theorem exec_updateBody_state {res update res' : JsonObject} {s s' : σ}
    (done : exec (updateBody res update : Action σ HandlerError JsonObject) s = (.ok res', s')) :
    s = s' := by
  unfold updateBody at done
  split at done
  next => exact congrArg Prod.snd done
  next => simp [raising] at done

theorem exec_mapAttribute_ok {res res' : JsonObject} {source : String} {target : Json} {s s' : σ}
    (done : exec (mapAttribute self env services obj res (source, target)) s = (.ok res', s')) :
    (exec (valueHere self env services obj source) s = (.ok none, s') ∧ res' = res) ∨
      ∃ value update, exec (valueHere self env services obj source) s = (.ok (some value), s') ∧
        updateForMappingData target value = .ok update ∧
        recursiveDictUpdate true res update = (res', none) := by
  unfold mapAttribute at done
  obtain ⟨value, s₁, here, merged⟩ := exec_bind_eq_ok.mp done
  cases value with
  | none =>
      rw [exec_pure] at merged
      cases merged
      exact Or.inl ⟨here, rfl⟩
  | some value =>
      obtain ⟨update, s₂, raised, updated⟩ := exec_bind_eq_ok.mp merged
      obtain ⟨computed, rfl⟩ := exec_raising_ok.mp raised
      obtain rfl := exec_updateBody_state updated
      exact Or.inr ⟨value, update, here, computed, exec_updateBody_ok updated⟩

/-- The loop leaves what its entries yield. -/
theorem foldlM_holds {entries : List (String × Json)} {sent : List (Json × Json)}
    {res res' : JsonObject} {s s' : σ} (held : Holds sent res)
    (done : exec (entries.foldlM (mapAttribute self env services obj) res) s = (.ok res', s')) :
    ∃ more, Yields self env services obj entries s more s' ∧ Holds (sent ++ more) res' := by
  induction entries generalizing res sent s with
  | nil =>
      rw [List.foldlM_nil, exec_pure] at done
      cases done
      exact ⟨[], .done _, by rwa [List.append_nil]⟩
  | cons entry rest ih =>
      rcases entry with ⟨source, target⟩
      rw [List.foldlM_cons] at done
      obtain ⟨between, s₁, first, remaining⟩ := exec_bind_eq_ok.mp done
      rcases exec_mapAttribute_ok first with ⟨here, rfl⟩ | ⟨value, update, here, computed, merged⟩
      · obtain ⟨more, later, held'⟩ := ih held remaining
        exact ⟨more, .skipped here later, held'⟩
      · have step : Holds (sent ++ [(target, value)]) between := by
          obtain ⟨t, ⟨place, known, rfl⟩ | ⟨ordinary, place, rfl⟩⟩ := updateForMappingData_ok computed
          · exact holds_attribute held place known merged
          · exact holds_property held ordinary place merged
        obtain ⟨more, later, held'⟩ := ih step remaining
        rw [List.append_assoc] at held'
        exact ⟨(target, value) :: more, .sent here later, held'⟩

/-! ## The whole body -/

/-- The body has the mapped attributes, the other targets below `udm_properties` and the
    password hashes, if they are to be sent and the object has them. -/
structure ExactBody (self : Dispatcher) (obj : ListenerUserAddModifyObject)
    (sent : List (Json × Json)) (body : JsonObject) : Prop where
  attributes : ∀ t ∈ kelvinApiSchoolAttributes,
    HoldsLast (body.get t) (valuesAt attributeOf t sent)
  properties : HoldsProperties sent (body.get "udm_properties")
  passwordHashes : ∃ settings, self.schoolAuthority.pluginConfigs.get self.pluginName =
      some settings ∧ body.get kelvinApiPasswordHashesAttribute =
    if ((Dict.get settings "sync_password_hashes").getD (Json.bool false)).truthy then
      obj.userPasswords.map fun passwords => .atom (.hashes passwords.hashes)
    else none
  nothingElse : ∀ k ∈ Dict.keys body, k ∈ kelvinApiSchoolAttributes ∨ k = "udm_properties" ∨
    k = kelvinApiPasswordHashesAttribute

omit [CaseMapping] in
theorem valuesAt_attributeOf_unknown {t : String} (unknown : t ∉ kelvinApiSchoolAttributes)
    (sent : List (Json × Json)) : valuesAt attributeOf t sent = [] := by
  simp only [valuesAt, List.map_eq_nil_iff, List.filter_eq_nil_iff, decide_eq_true_eq]
  intro entry _ here
  exact unknown (by simpa using (Option.filter_eq_some_iff.mp here).2)

omit [CaseMapping] in
/-- The hashes come last, to a body without them. -/
theorem exec_handlePasswordHashes_ok {update : JsonObject} {s s' : σ}
    (done : exec (handlePasswordHashes self obj : Action σ HandlerError JsonObject) s =
      (.ok update, s')) :
    s = s' ∧ ∃ settings, self.schoolAuthority.pluginConfigs.get self.pluginName = some settings ∧
      update = (((if ((Dict.get settings "sync_password_hashes").getD (Json.bool false)).truthy then
        obj.userPasswords else none).map fun passwords =>
          Leaf.hashes passwords.hashes).map fun value =>
          (kelvinApiPasswordHashesAttribute, Document.atom value)).toList := by
  unfold handlePasswordHashes syncPasswordHashes at done
  cases configured : self.schoolAuthority.pluginConfigs.get self.pluginName with
  | none => simp [configured, raising] at done
  | some settings =>
      simp only [configured, pure_bind] at done
      refine (?_ : _ ∧ _).imp_right fun computed => ⟨settings, rfl, computed⟩
      split at done
      next truthy =>
        rw [if_pos truthy]
        cases given : obj.userPasswords with
        | none =>
            simp only [given, exec_pure, Prod.mk.injEq, Except.ok.injEq] at done
            exact ⟨done.2, done.1.symm⟩
        | some passwords =>
            simp only [given, exec_pure, Prod.mk.injEq, Except.ok.injEq] at done
            exact ⟨done.2, done.1.symm⟩
      next falsy =>
        rw [if_neg falsy]
        simp only [exec_pure, Prod.mk.injEq, Except.ok.injEq] at done
        exact ⟨done.2, done.1.symm⟩

omit [CaseMapping] in
theorem update_optional {res body : JsonObject} {k : String} {leaf : Option Leaf}
    (absent : res.get k = none)
    (merged : recursiveDictUpdate true res (leaf.map fun value => (k, Document.atom value)).toList =
      (body, none)) :
    body.get k = leaf.map .atom ∧ ∀ k', k ≠ k' → body.get k' = res.get k' := by
  cases leaf with
  | none =>
      simp only [Option.map_none, Option.toList_none, recursiveDictUpdate, Prod.mk.injEq,
        and_true] at merged
      subst merged
      exact ⟨absent, fun _ _ => rfl⟩
  | some value =>
      have updated := update_singleton.mp merged
      obtain ⟨stored, found, last⟩ := updateKey_get_self updated
      refine ⟨?_, fun k' other => ?_⟩
      · rw [found, last (by rintro ⟨entries, same⟩; cases same)]
        rfl
      · have kept := updateKey_get_ne true res (.atom value) other
        rwa [updated] at kept

/-- Whenever `map_attributes` returns, the request body is exactly what the entries of the
    selected mapping yield, and the password hashes. -/
theorem mapAttributes_exact {mapping : Json} {body : JsonObject} {s s' : σ}
    (done : exec (mapAttributes self env services obj mapping) s = (.ok body, s')) :
    ∃ entries s₁ sent,
      exec (getRoleSpecificMapping services ((obj.object.get "ucsschoolRole").getD (.list []))
        mapping) s = (.ok (.dict entries), s₁) ∧
      Yields self env services obj entries s₁ sent s' ∧ ExactBody self obj sent body := by
  unfold mapAttributes at done
  obtain ⟨used, s₁, selected, rest⟩ := exec_bind_eq_ok.mp done
  split at rest
  next entries =>
    obtain ⟨res, s₂, looped, rest⟩ := exec_bind_eq_ok.mp rest
    obtain ⟨update, s₃, hashes, updated⟩ := exec_bind_eq_ok.mp rest
    obtain ⟨sent, yields, held⟩ := foldlM_holds holds_nil looped
    obtain ⟨rfl, settings, configured, rfl⟩ := exec_handlePasswordHashes_ok hashes
    obtain rfl := exec_updateBody_state updated
    refine ⟨entries, s₁, sent, selected, yields, ?_⟩
    have unsent : res.get kelvinApiPasswordHashesAttribute = none := by
      have nothing := (held.attributes kelvinApiPasswordHashesAttribute (by decide)).present
      rw [List.nil_append, valuesAt_attributeOf_unknown (by decide)] at nothing
      simpa using nothing
    obtain ⟨stored, others⟩ := update_optional unsent (exec_updateBody_ok updated)
    rw [List.nil_append] at held
    constructor
    · intro t known
      rw [others t (by rintro rfl; exact absurd known (by decide))]
      exact held.attributes t (by rintro rfl; exact absurd known (by decide))
    · rw [others _ (by decide)]
      exact held.properties
    · refine ⟨settings, configured, stored.trans ?_⟩
      split <;> simp [Function.comp_def]
    · intro k member
      by_contra other
      push Not at other
      obtain ⟨value, found⟩ := Dict.mem_keys_iff.mp member
      have nothing := (held.attributes k other.2.1).present
      rw [valuesAt_attributeOf_unknown other.1, ← others k (Ne.symm other.2.2), found] at nothing
      simp at nothing
  next => simp [raising] at rest

end Running

end KelvinPerSAUserDispatcher

section Examples

open KelvinPerSAUserDispatcher

attribute [local instance] asciiCaseMapping

/-- Two targets that Kelvin knows, and two sources for one that it does not know. -/
def pupilMapping : Json :=
  .dict [("users", .dict [("username", Json.str "name"), ("ucsschoolRecordUID", Json.str "uid"),
    ("ucsschoolLegalGuardian", Json.str "legal_guardians"), ("phone", Json.str "name"),
    ("ucsschoolSourceUID", Json.str "uid")])]

def hashingDispatcher : Dispatcher where
  schoolAuthority :=
    ⟨"Traeger1", true, "https://traeger1/ucsschool/kelvin/v1/", [kelvin],
      [(kelvin, [("sync_password_hashes", Json.bool true)])], rfl⟩
  pluginName := kelvin
  attributeMapping := pupilMapping
  session := ⟨Json.str "Administrator", "univention", "traeger1", []⟩

/-- The object has no phone and no passwords. -/
def pupilBody : JsonObject :=
  [("name", Json.str "anna"), ("udm_properties", .dict [("uid", Json.str "TESTID")]),
    ("legal_guardians", .list [])]

private theorem pupil_mapped :
    Action.exec (mapAttributes hashingDispatcher demoEnvironment (services schoollessTarget) pupil
      pupilMapping) freshHandling = (.ok pupilBody, freshHandling) := rfl

theorem pupil_body_exact :
    ∃ entries s₁ sent,
      Action.exec (getRoleSpecificMapping (services schoollessTarget)
        ((pupil.object.get "ucsschoolRole").getD (.list [])) pupilMapping) freshHandling =
          (.ok (.dict entries), s₁) ∧
      Yields hashingDispatcher demoEnvironment (services schoollessTarget) pupil entries s₁ sent
        freshHandling ∧
      ExactBody hashingDispatcher pupil sent pupilBody :=
  mapAttributes_exact pupil_mapped

end Examples

end IdConnector
