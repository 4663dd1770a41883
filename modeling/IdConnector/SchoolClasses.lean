import IdConnector.Deletion
import IdConnector.Library.Computes
import IdConnector.Library.Records
import IdConnector.SchoolClassHandler

/-! # The school classes of a target

For the dispatcher a target is a map from names and schools of classes to attributes: an add or
modify object overwrites the attributes that are sent, a remove object takes the class out.
`handle_outcome` is the refinement: whatever the handler does, its target shows the map after
the event, or that before the event if the target refused the class or something was raised.
-/

namespace IdConnector

open Library Library.Action Library.Records KelvinPerSASchoolClassDispatcher
  KelvinPartialGroupSyncPerSASchoolClassDispatcher
open KelvinPerSAUserDispatcher (raising targetSchools)

abbrev Attributes := String → Option Json

/-- Name and school, up to case. -/
abbrev ClassKey := String × String

abbrev Classes := ClassKey → Option Attributes

/-- The attributes of a request body replace those of the class. -/
def overlay (requestBody : JsonObject) (attributes : Attributes) : Attributes :=
  fun key => (requestBody.get key).or (attributes key)

/-- What a target stores. -/
structure ClassStore (T SchoolClass : Type) where
  classes : T → Multiset SchoolClass
  attributes : SchoolClass → Attributes
  /-- The attributes of a new class that its request body says nothing about. -/
  blank : Attributes

/-- What a change to the target can lead to: it is made, it is refused, or something is
    raised before or after it is made. -/
def Effect (made unchanged : Prop) : Except HandlerError Saved → Prop
  | .ok .done => made
  | .ok .noObject => unchanged
  | .error _ => unchanged ∨ made

theorem Effect.mono {made made' unchanged : Prop} {result : Except HandlerError Saved}
    (effect : Effect made unchanged result) (implies : made → made') :
    Effect made' unchanged result := by
  cases result with
  | error raised => exact effect.imp_right implies
  | ok saved =>
      cases saved with
      | done => exact implies effect
      | noObject => exact effect

section Targets

variable [CaseMapping] {T SchoolClass : Type}

def classKey (name school : String) : ClassKey := (lower name, lower school)

def ClassOutside.key (outside : ClassOutside T SchoolClass) (schoolClass : SchoolClass) : ClassKey :=
  classKey (outside.name schoolClass) (outside.school schoolClass)

/-- If the request body has a name and a school, the class has these. -/
def ClassOutside.Named (outside : ClassOutside T SchoolClass) (requestBody : JsonObject)
    (schoolClass : SchoolClass) : Prop :=
  ∀ name school, requestBody.get "name" = some (Json.str name) →
    requestBody.get "school" = some (Json.str school) →
      outside.name schoolClass = name ∧ outside.school schoolClass = school

/-- Reading does not change the classes, searches ignore case and are exact for a name without
    wildcards, and changes are made as a whole or not at all. -/
structure KelvinClasses (store : ClassStore T SchoolClass) (outside : ClassOutside T SchoolClass) :
    Prop where
  now : ∀ t, store.classes (outside.shared.now t).2 = store.classes t
  fetchSchools : Keeps store.classes outside.shared.fetchSchools
  handledSchools : Keeps store.classes outside.shared.handledSchools
  getUser : ∀ username, Keeps store.classes (outside.getUser username)
  searchClasses : ∀ name school, Keeps store.classes (outside.searchClasses name school)
  exact : ∀ {name school t t' found}, '*' ∉ name.toList →
    exec (outside.searchClasses name school) t = (.ok found, t') →
      (found : Multiset SchoolClass) =
        (store.classes t).filter fun schoolClass => outside.key schoolClass = classKey name school
  searchRaises : ∀ {name school t t' raised},
    exec (outside.searchClasses name school) t = (.error raised, t') →
      ∃ reason, raised = .client reason
  getClass : ∀ name school, Keeps store.classes (outside.getClass name school)
  got : ∀ {name school t t' schoolClass},
    exec (outside.getClass name school) t = (.ok (some schoolClass), t') →
      schoolClass ∈ store.classes t ∧ outside.key schoolClass = classKey name school
  missing : ∀ {name school t t'}, exec (outside.getClass name school) t = (.ok none, t') →
    ∀ schoolClass ∈ store.classes t, outside.key schoolClass ≠ classKey name school
  users : ∀ schoolClass,
    store.attributes schoolClass "users" = some (Json.strs (outside.users schoolClass))
  create : ∀ {requestBody t result t'}, exec (outside.createClass requestBody) t = (result, t') →
    Effect (∃ saved, store.classes t' = saved ::ₘ store.classes t ∧
        store.attributes saved = overlay requestBody store.blank ∧
          outside.Named requestBody saved)
      (store.classes t' = store.classes t) result
  modify : ∀ {requestBody schoolClass others t result t'},
    store.classes t = schoolClass ::ₘ others →
    exec (outside.modifyClass requestBody schoolClass) t = (result, t') →
      Effect (∃ saved, store.classes t' = saved ::ₘ others ∧
          store.attributes saved = overlay requestBody (store.attributes schoolClass) ∧
            outside.Named requestBody saved)
        (store.classes t' = store.classes t) result
  delete : ∀ {schoolClass others t result t'}, store.classes t = schoolClass ::ₘ others →
    exec (outside.deleteClass schoolClass) t = (result, t') →
      store.classes t' = others ∨ (∃ raised, result = .error raised) ∧
        store.classes t' = store.classes t

/-- A search for the class of this DN takes its name literally. -/
def LiteralName (env : LdapEnvironment) (dn : String) : Prop :=
  ∀ m ∈ schoolClassDnRegex env dn, '*' ∉ m.name.toList

instance (env : LdapEnvironment) (dn : String) : Decidable (LiteralName env dn) :=
  inferInstanceAs (Decidable (∀ m ∈ schoolClassDnRegex env dn, '*' ∉ m.name.toList))

/-! ## What an event does to the map -/

/-- A dispatcher and its target, which keeps its schools. -/
structure ClassTarget (T SchoolClass : Type) where
  env : LdapEnvironment
  self : Dispatcher
  outside : ClassOutside T SchoolClass
  store : ClassStore T SchoolClass
  schools : List String

/-- The last entry of the mapping for the target attribute has this source attribute. -/
def SendsLast (mapping : Json) (source target : String) : Prop :=
  ∃ before after, mapping = .dict (before ++ (source, Json.str target) :: after) ∧
    ∀ entry ∈ after, entry.2.dictKey ≠ .ok target

/-- The target and its schools are as described, and names and schools are sent to it. -/
structure ClassTarget.Serves (K : ClassTarget T SchoolClass) : Prop where
  api : KelvinClasses K.store K.outside
  reports : ∀ {t names t'}, exec K.outside.shared.fetchSchools t = (.ok names, t') →
    names = K.schools
  sendsName : SendsLast K.self.attributeMapping "name" "name"
  sendsSchool : SendsLast K.self.attributeMapping "school" "school"

/-- A target with one of the two dispatchers. -/
structure ClassSetting (T SchoolClass : Type) extends ClassTarget T SchoolClass where
  services : ClassServices (Action (ClassHandling T SchoolClass) HandlerError)
  /-- What `_handle_attr_users` computes while the target has these classes. -/
  members : Classes → ListenerGroupAddModifyObject → Except HandlerError (List String)

namespace ClassSetting

variable (S : ClassSetting T SchoolClass)

/-- What the cache of the dispatcher has, unless it is empty. -/
def schoolIds : Dict String String := .ofPairs (S.schools.map fun n => (n, n))

def pureServices (classes : Classes) : ClassServices (Except HandlerError) where
  schoolsIdsOnTarget := .ok S.schoolIds
  handleAttrUsers := S.members classes

def requestBody (classes : Classes) (obj : ListenerGroupAddModifyObject) :
    Except HandlerError JsonObject :=
  mapAttributes S.env (S.pureServices classes) obj S.self.attributeMapping

/-- The class that an object is about, if its school is one of the target. -/
def subject (dn : String) : Option ClassKey :=
  match schoolClassDnRegex S.env dn with
  | some m => if lower m.ou ∈ S.schoolIds.keys.map lower then some (classKey m.name m.ou) else none
  | none => none

/-- A class is created or modified. -/
def put (classes : Classes) (key : ClassKey) (requestBody : JsonObject) : Classes :=
  Function.update classes key (some (overlay requestBody ((classes key).getD S.store.blank)))

def apply (classes : Classes) (obj : ListenerGroupObject) : Except HandlerError Classes :=
  match S.subject obj.dn, obj with
  | none, _ => .ok classes
  | some key, .addModify obj => S.put classes key <$> S.requestBody classes obj
  | some key, .remove _ => .ok (Function.update classes key none)

/-- The target shows the map, and the dispatcher knows the right schools or none. -/
structure Shows (classes : Classes) (refused : List JsonObject)
    (s : ClassHandling T SchoolClass) : Prop where
  represents : Represents S.outside.key S.store.attributes (S.store.classes s.base.target) classes
  cache : s.base.schools.names = [] ∨ s.base.schools.names = S.schoolIds
  log : s.refused = refused

/-- The target serves a dispatcher that computes these members. -/
structure Connected : Prop extends S.toClassTarget.Serves where
  schoolsIdsOnTarget : S.services.schoolsIdsOnTarget = schoolsIdsOnTarget S.outside
  members : ∀ classes refused obj, Computes (S.Shows classes refused)
    (S.services.handleAttrUsers obj) (S.members classes obj)

/-! ## What is sent -/

section Sending

variable {env : LdapEnvironment} {services : ClassServices (Except HandlerError)}
  {obj : ListenerGroupAddModifyObject} {res res' : JsonObject}

omit [CaseMapping] in
theorem updateBody_ok {update : JsonObject}
    (updated : (KelvinPerSAUserDispatcher.updateBody res update : Except HandlerError JsonObject) =
      .ok res') : recursiveDictUpdate true res update = (res', none) := by
  unfold KelvinPerSAUserDispatcher.updateBody at updated
  split at updated
  next body same =>
    cases updated
    exact same
  next => cases updated

theorem mapAttribute_get_ne {entry : String × Json} {key : String}
    (other : entry.2.dictKey ≠ .ok key)
    (done : mapAttribute env services obj res entry = .ok res') : res'.get key = res.get key := by
  unfold mapAttribute at done
  obtain ⟨value, _, rest⟩ := Attempts.bind_eq_ok.mp done
  cases value with
  | none =>
      cases rest
      rfl
  | some value =>
      obtain ⟨update, computed, updated⟩ := Attempts.bind_eq_ok.mp rest
      cases there : entry.2.dictKey with
      | error raised => simp [updateForMappingData, there, raising, bind, Except.bind] at computed
      | ok target =>
          simp only [updateForMappingData, there, raising, bind, Except.bind, pure, Except.pure,
            Except.ok.injEq] at computed
          subst computed
          have absent : key ∉ Dict.keys [(target, value)] := by
            rintro member
            obtain rfl : key = target := by simpa [Dict.keys] using member
            exact other there
          have kept := update_get_absent true res [(target, value)] absent
          rwa [updateBody_ok updated] at kept

theorem foldlM_mapAttribute_get_ne {entries : List (String × Json)} {key : String}
    (others : ∀ entry ∈ entries, entry.2.dictKey ≠ .ok key)
    (done : entries.foldlM (mapAttribute env services obj) res = .ok res') :
    res'.get key = res.get key := by
  induction entries generalizing res with
  | nil =>
      cases done
      rfl
  | cons entry rest ih =>
      rw [List.foldlM_cons] at done
      obtain ⟨between, first, remaining⟩ := Attempts.bind_eq_ok.mp done
      have head := mapAttribute_get_ne (others entry List.mem_cons_self) first
      exact (ih (fun e member => others e (List.mem_cons_of_mem _ member)) remaining).trans head

omit [CaseMapping] in
theorem recursiveDictUpdate_single {key : String} {value : Json} (plain : ∀ entries, value ≠ .dict entries)
    (updated : recursiveDictUpdate true res [(key, value)] = (res', none)) :
    res'.get key = some value := by
  unfold recursiveDictUpdate at updated
  split at updated
  next ori' stored =>
    rw [recursiveDictUpdate] at updated
    cases updated
    cases value with
    | dict entries => exact absurd rfl (plain entries)
    | null | atom | list =>
        unfold updateKey at stored
        split at stored
        · cases stored
        · cases stored
          exact Dict.get_set_self _ _ _
  next => cases updated

/-- The last entry for a target attribute decides what is sent for it. -/
theorem mapAttributes_get {mapping : Json} {source target : String} {post : Json → Prop}
    {requestBody : JsonObject} (sends : SendsLast mapping source target)
    (here : ∀ sent, valueHere env services obj source = .ok sent →
      ∃ value, sent = some value ∧ (∀ entries, value ≠ .dict entries) ∧ post value)
    (computed : mapAttributes env services obj mapping = .ok requestBody) :
    ∃ value, requestBody.get target = some value ∧ post value := by
  obtain ⟨before, after, rfl, others⟩ := sends
  have looped : (before ++ (source, Json.str target) :: after).foldlM
      (mapAttribute env services obj) [] = .ok requestBody := computed
  rw [List.foldlM_append] at looped
  obtain ⟨first, _, rest⟩ := Attempts.bind_eq_ok.mp looped
  rw [List.foldlM_cons] at rest
  obtain ⟨sent, this, last⟩ := Attempts.bind_eq_ok.mp rest
  rw [foldlM_mapAttribute_get_ne others last]
  unfold mapAttribute at this
  obtain ⟨found, valued, merged⟩ := Attempts.bind_eq_ok.mp this
  obtain ⟨value, rfl, plain, holds⟩ := here found valued
  exact ⟨value, recursiveDictUpdate_single plain (updateBody_ok merged), holds⟩

end Sending

variable {S : ClassSetting T SchoolClass}

omit [CaseMapping] in
theorem schoolIds_same {name school : String} (member : (name, school) ∈ S.schoolIds) :
    name = school := by
  rcases Dict.mem_of_mem_update member with nowhere | reported
  · cases nowhere
  · obtain ⟨n, _, same⟩ := List.mem_map.mp reported
    cases same
    rfl

theorem targetSchools_get {ou school : String}
    (found : (targetSchools S.schoolIds).get (lower ou) = some school) :
    lower school = lower ou := by
  obtain ⟨name, ⟨front, back, split, _⟩, same⟩ := (Dict.get_ofPairs_map lower _ _ _).mp found
  have member : (name, school) ∈ S.schoolIds := by
    rw [split]
    exact List.mem_append_right front List.mem_cons_self
  rw [← same, schoolIds_same member]

theorem searchParams_of_match {env : LdapEnvironment} {dn : String} {m : ClassDn}
    (matched : schoolClassDnRegex env dn = some m) : searchParams env dn = .ok ⟨m.name, m.ou⟩ := by
  unfold searchParams
  rw [matched]

theorem schoolClassDnRegex_filled {env : LdapEnvironment} {dn : String} {m : ClassDn}
    (matched : schoolClassDnRegex env dn = some m) : m.name ≠ "" := by
  unfold schoolClassDnRegex at matched
  obtain ⟨rest, _, matched⟩ := Option.bind_eq_some_iff.mp matched
  refine Text.lazyGroup_filled (p := fun m => m.name ≠ "") ?_ matched
  rintro ou afterOu found - inner
  obtain ⟨rest, _, inner⟩ := Option.bind_eq_some_iff.mp inner
  refine Text.lazyGroup_filled (p := fun m => m.name ≠ "") ?_ inner
  intro name afterName last filled ended
  simp only [Option.bind_eq_bind, Option.bind_eq_some_iff, Option.some.injEq, pure] at ended
  obtain ⟨_, _, _, _, _, _, rfl⟩ := ended
  simpa using filled

omit [CaseMapping] in
theorem str_ne_dict (text : String) (entries : JsonObject) : Json.str text ≠ .dict entries := by
  intro same
  cases same

section Bodies

variable {classes : Classes} {obj : ListenerGroupAddModifyObject} {m : ClassDn}
  {requestBody : JsonObject}

/-- The class that is sent is the one that the object is about. -/
theorem requestBody_names (connected : S.Connected)
    (matched : schoolClassDnRegex S.env obj.dn = some m)
    (computed : S.requestBody classes obj = .ok requestBody) :
    requestBody.get "name" = some (Json.str m.name) ∧
      ∃ school, requestBody.get "school" = some (Json.str school) ∧ lower school = lower m.ou := by
  have params := searchParams_of_match matched
  have name_valued : ∀ sent, valueHere S.env (S.pureServices classes) obj "name" = .ok sent →
      ∃ value, sent = some value ∧ (∀ entries, value ≠ .dict entries) ∧
        value = Json.str m.name := by
    intro sent valued
    unfold valueHere handleAttr handleAttrName at valued
    rw [params] at valued
    cases valued
    exact ⟨_, rfl, str_ne_dict _, rfl⟩
  have school_valued : ∀ sent, valueHere S.env (S.pureServices classes) obj "school" = .ok sent →
      ∃ value, sent = some value ∧ (∀ entries, value ≠ .dict entries) ∧
        ∃ school, value = Json.str school ∧ lower school = lower m.ou := by
    intro sent valued
    unfold valueHere handleAttr handleAttrSchool at valued
    rw [params] at valued
    simp only [pureServices, raising, bind, Except.bind, pure, Except.pure] at valued
    cases found : (targetSchools S.schoolIds).get (lower m.ou) with
    | none =>
        rw [found] at valued
        cases valued
    | some school =>
        rw [found] at valued
        cases valued
        exact ⟨_, rfl, str_ne_dict _, school, rfl, targetSchools_get found⟩
  obtain ⟨_, named, rfl⟩ := mapAttributes_get connected.sendsName name_valued computed
  obtain ⟨_, placed, school, rfl, same⟩ :=
    mapAttributes_get connected.sendsSchool school_valued computed
  exact ⟨named, school, placed, same⟩

/-- The members that are sent are the computed ones. -/
theorem requestBody_users (sends : SendsLast S.self.attributeMapping "users" "users")
    (computed : S.requestBody classes obj = .ok requestBody) :
    ∃ usernames, requestBody.get "users" = some (Json.strs usernames) ∧
      S.members classes obj = .ok usernames := by
  have valued : ∀ sent, valueHere S.env (S.pureServices classes) obj "users" = .ok sent →
      ∃ value, sent = some value ∧ (∀ entries, value ≠ .dict entries) ∧
        ∃ usernames, value = Json.strs usernames ∧ S.members classes obj = .ok usernames := by
    intro sent valued
    obtain ⟨value, handled, rfl⟩ := Attempts.map_eq_ok.mp valued
    obtain ⟨usernames, members, rfl⟩ := Attempts.map_eq_ok.mp handled
    exact ⟨_, rfl, by simp [Json.strs], usernames, rfl, members⟩
  obtain ⟨value, sent, usernames, rfl, members⟩ := mapAttributes_get sends valued computed
  exact ⟨usernames, sent, members⟩

omit [CaseMapping] in
theorem strs_injective {xs ys : List String} (same : Json.strs xs = Json.strs ys) : xs = ys := by
  have injective : Function.Injective Json.str := fun x y same => by simpa [Json.str] using same
  exact List.map_injective_iff.mpr injective (Document.list.inj same)

end Bodies

/-! ## Reading -/

omit [CaseMapping] in
theorem exec_call {α : Type} (action : Action T HandlerError α) (s : ClassHandling T SchoolClass) :
    exec (call action) s = ((exec action s.base.target).1,
      { s with base := { s.base with target := (exec action s.base.target).2 } }) := rfl

section Reading

variable {classes : Classes} {refused : List JsonObject} {s : ClassHandling T SchoolClass}

/-- Only the classes of the target matter. -/
theorem Shows.with_classes (shown : S.Shows classes refused s) {target : T} {after : Classes}
    (represents : Represents S.outside.key S.store.attributes (S.store.classes target) after) :
    S.Shows after refused { s with base := { s.base with target } } where
  represents := represents
  cache := shown.cache
  log := shown.log

theorem Shows.with_target (shown : S.Shows classes refused s) {target : T}
    (kept : S.store.classes target = S.store.classes s.base.target) :
    S.Shows classes refused { s with base := { s.base with target } } :=
  shown.with_classes (kept ▸ shown.represents)

theorem preserves_call {α : Type} {action : Action T HandlerError α}
    (kept : Keeps S.store.classes action) : Preserves (S.Shows classes refused) (call action) := by
  intro s shown
  rw [exec_call]
  exact shown.with_target (kept _)

omit [CaseMapping] in
theorem computes_raising {α σ : Type} {inv : σ → Prop} (x : Except PyError α) :
    Computes inv (raising x : Action σ HandlerError α) (raising x : Except HandlerError α) := by
  cases x with
  | ok a => exact .pure a
  | error raised => exact .throw _

/-- The schools are those of the target, whether they are cached or not. -/
theorem afterRefresh_shows (connected : S.Connected) (shown : S.Shows classes refused s) :
    (∀ names, (KelvinPerSAUserDispatcher.afterRefresh S.outside.shared s.base).1 = .ok names →
        names = S.schoolIds) ∧
      S.Shows classes refused
        { s with base := (KelvinPerSAUserDispatcher.afterRefresh S.outside.shared s.base).2 } := by
  have kept := connected.api.fetchSchools s.base.target
  unfold KelvinPerSAUserDispatcher.afterRefresh
  cases answer : exec S.outside.shared.fetchSchools s.base.target with
  | mk result target =>
      rw [answer] at kept
      cases result with
      | error raised => exact ⟨Attempts.of_error, kept ▸ shown.represents, Or.inl rfl, shown.log⟩
      | ok names =>
          obtain rfl := connected.reports answer
          refine ⟨?_, ?_, Or.inr rfl, shown.log⟩
          · rintro names ⟨⟩
            rfl
          · have same := (connected.api.now target).trans kept
            exact same ▸ shown.represents

theorem computes_schoolsIdsOnTarget (connected : S.Connected) :
    Computes (S.Shows classes refused) (schoolsIdsOnTarget S.outside) (.ok S.schoolIds) := by
  have spec (s : ClassHandling T SchoolClass) (shown : S.Shows classes refused s) :
      (∀ names, (exec (schoolsIdsOnTarget S.outside) s).1 = .ok names → names = S.schoolIds) ∧
        S.Shows classes refused (exec (schoolsIdsOnTarget S.outside) s).2 := by
    unfold schoolsIdsOnTarget shared
    rw [exec_zoom, KelvinPerSAUserDispatcher.exec_schoolsIdsOnTarget]
    have later : S.Shows classes refused
        { s with base := { s.base with target := (S.outside.shared.now s.base.target).2 } } :=
      shown.with_target (connected.api.now _)
    split
    next => exact afterRefresh_shows connected shown
    next known =>
      split
      next => exact afterRefresh_shows connected later
      next =>
        refine ⟨?_, later⟩
        rintro names ⟨⟩
        exact shown.cache.resolve_left known
  refine ⟨fun s shown => (spec s shown).2, fun s shown names listed => ?_⟩
  rw [(spec s shown).1 names listed]

theorem handleAttr_other {m : Type → Type} [Monad m] [MonadExceptOf HandlerError m]
    (env : LdapEnvironment) (services : ClassServices m) (obj : ListenerGroupAddModifyObject)
    {keyHere : String} (name : keyHere ≠ "name") (school : keyHere ≠ "school")
    (users : keyHere ≠ "users") : handleAttr env services obj keyHere = none := by
  unfold handleAttr
  split
  · contradiction
  · contradiction
  · contradiction
  · rfl

/-- What the dispatcher sends is computed from the map. -/
theorem computes_mapAttributes (connected : S.Connected) (obj : ListenerGroupAddModifyObject)
    (mapping : Json) :
    Computes (S.Shows classes refused) (mapAttributes S.env S.services obj mapping)
      (mapAttributes S.env (S.pureServices classes) obj mapping) := by
  have school : Computes (S.Shows classes refused) (handleAttrSchool S.env S.services obj)
      (handleAttrSchool S.env (S.pureServices classes) obj) := by
    unfold handleAttrSchool
    rw [connected.schoolsIdsOnTarget]
    refine Computes.bind (computes_schoolsIdsOnTarget connected) fun names _ => ?_
    refine Computes.bind (computes_raising _) fun params _ => ?_
    split
    · exact .pure _
    · exact .throw _
  have valueHere (keyHere : String) : Computes (S.Shows classes refused)
      (valueHere S.env S.services obj keyHere)
      (valueHere S.env (S.pureServices classes) obj keyHere) := by
    unfold KelvinPerSASchoolClassDispatcher.valueHere
    by_cases isName : keyHere = "name"
    · subst isName
      exact (Computes.bind (computes_raising _) fun _ _ => .pure _).map _
    by_cases isSchool : keyHere = "school"
    · subst isSchool
      exact school.map _
    by_cases isUsers : keyHere = "users"
    · subst isUsers
      exact ((connected.members classes refused obj).map _).map _
    rw [handleAttr_other S.env S.services obj isName isSchool isUsers,
      handleAttr_other S.env (S.pureServices classes) obj isName isSchool isUsers]
    exact .pure _
  unfold mapAttributes
  cases mapping with
  | dict entries =>
      refine Computes.foldlM (fun res entry => ?_) entries []
      unfold mapAttribute
      refine Computes.bind (valueHere entry.1) fun value _ => ?_
      cases value with
      | none => exact .pure _
      | some value =>
          refine Computes.bind (computes_raising _) fun update _ => ?_
          unfold KelvinPerSAUserDispatcher.updateBody
          split
          · exact .pure _
          · exact computes_raising _
  | null | atom | list => exact computes_raising _

/-! ## Searching -/

omit [CaseMapping] in
theorem loggingMissingData_ok {α : Type} {action : Action (ClassHandling T SchoolClass) HandlerError α}
    {s' : ClassHandling T SchoolClass} {a : α} (done : exec action s = (.ok a, s')) :
    exec (loggingMissingData action) s = (.ok (some a), s') := by
  unfold loggingMissingData
  rw [exec_tryCatch, exec_map, done]
  rfl

omit [CaseMapping] in
theorem loggingMissingData_error {α : Type}
    {action : Action (ClassHandling T SchoolClass) HandlerError α}
    {s' : ClassHandling T SchoolClass} {raised : HandlerError}
    (other : ∀ param, raised ≠ .missingData param) (failed : exec action s = (.error raised, s')) :
    exec (loggingMissingData action) s = (.error raised, s') := by
  unfold loggingMissingData
  rw [exec_tryCatch, exec_map, failed]
  cases raised with
  | missingData param => exact absurd rfl (other param)
  | _ => rfl

/-- The search finds the class of the object, if the target has it. -/
theorem existsOnTarget_shows (connected : S.Connected) (shown : S.Shows classes refused s)
    {dn : String} (literal : LiteralName S.env dn) {m : ClassDn}
    (matched : schoolClassDnRegex S.env dn = some m) :
    let run := exec (loggingMissingData (existsOnTarget S.outside S.env dn)) s
    S.Shows classes refused run.2 ∧ ∀ found, run.1 = .ok found →
      found = some none ∧ classes (classKey m.name m.ou) = none ∨
        ∃ schoolClass, found = some (some schoolClass) ∧
          S.outside.key schoolClass = classKey m.name m.ou ∧
            schoolClass ∈ S.store.classes run.2.base.target := by
  have kept := connected.api.searchClasses m.name m.ou s.base.target
  have searched : exec (existsOnTarget S.outside S.env dn) s =
      exec (fetchObj S.outside ⟨m.name, m.ou⟩) s := by
    unfold existsOnTarget
    rw [searchParams_of_match matched]
    simp only [raising, pure_bind, schoolClassDnRegex_filled matched, if_false]
  cases answer : exec (S.outside.searchClasses m.name m.ou) s.base.target with
  | mk result target =>
      rw [answer] at kept
      have after : S.Shows classes refused { s with base := { s.base with target } } :=
        shown.with_target kept
      cases result with
      | error raised =>
          obtain ⟨reason, rfl⟩ := connected.api.searchRaises answer
          have failed : exec (existsOnTarget S.outside S.env dn) s =
              (.error (.client reason), { s with base := { s.base with target } }) := by
            rw [searched, fetchObj, exec_bind, exec_call, answer]
          rw [loggingMissingData_error (by simp) failed]
          exact ⟨after, Attempts.of_error⟩
      | ok found =>
          have hits := connected.api.exact (literal m matched) answer
          cases entry : classes (classKey m.name m.ou) with
          | none =>
              rw [shown.represents.filter_of_none entry] at hits
              obtain rfl : found = [] := by simpa using hits
              have nothing : exec (existsOnTarget S.outside S.env dn) s =
                  (.ok none, { s with base := { s.base with target } }) := by
                rw [searched, fetchObj, exec_bind, exec_call, answer]
                rfl
              rw [loggingMissingData_ok nothing]
              exact ⟨after, fun _ same => Or.inl ⟨(Except.ok.inj same).symm, rfl⟩⟩
          | some attributes =>
              obtain ⟨schoolClass, rest, only, split, key, _⟩ :=
                shown.represents.filter_of_some entry
              rw [only] at hits
              obtain rfl : found = [schoolClass] := by simpa using hits
              have one : exec (existsOnTarget S.outside S.env dn) s =
                  (.ok (some schoolClass), { s with base := { s.base with target } }) := by
                rw [searched, fetchObj, exec_bind, exec_call, answer]
                rfl
              rw [loggingMissingData_ok one]
              refine ⟨after, fun _ same => Or.inr ⟨schoolClass, (Except.ok.inj same).symm, key, ?_⟩⟩
              dsimp only
              rw [kept, split]
              exact Multiset.mem_cons_self _ _

end Reading

/-! ## Changing the target -/

/-- How the handling of an event ends: the target shows the next map, or the one before if the
    target refused the class or something was raised. -/
inductive Outcome (S : ClassSetting T SchoolClass) (classes : Classes) (refused : List JsonObject)
    (next : Except HandlerError Classes) :
    Except HandlerError Unit → ClassHandling T SchoolClass → Prop
  | handled {after s} (effect : next = .ok after) (shown : S.Shows after refused s) :
      Outcome S classes refused next (.ok ()) s
  | refused {requestBody s} (shown : S.Shows classes (refused ++ [requestBody]) s) :
      Outcome S classes refused next (.ok ()) s
  | failed {raised after s} (effect : after = classes ∨ next = .ok after)
      (shown : S.Shows after refused s) : Outcome S classes refused next (.error raised) s

section Changing

variable {classes : Classes} {refused : List JsonObject} {s : ClassHandling T SchoolClass}
  {requestBody : JsonObject} {name school : String}

/-- A call that changes the target or is refused, after which the refusal is logged. -/
theorem save_outcome {action : Action T HandlerError Saved} {after : Classes}
    (shown : S.Shows classes refused s)
    (effects : ∀ result target, exec action s.base.target = (result, target) →
      Effect (Represents S.outside.key S.store.attributes (S.store.classes target) after)
        (S.store.classes target = S.store.classes s.base.target) result) :
    Outcome S classes refused (.ok after)
      (exec (do logRefusal requestBody (← call action)) s).1
      (exec (do logRefusal requestBody (← call action)) s).2 := by
  rw [exec_bind, exec_call]
  cases run : exec action s.base.target with
  | mk result target =>
      have effect := effects result target run
      cases result with
      | error raised =>
          rcases effect with unchanged | represents
          · exact .failed (Or.inl rfl) (shown.with_target unchanged)
          · exact .failed (Or.inr rfl) (shown.with_classes represents)
      | ok saved =>
          cases saved with
          | done => exact .handled rfl (shown.with_classes effect)
          | noObject =>
              have same := shown.with_target effect
              exact .refused ⟨same.represents, same.cache, congrArg (· ++ _) same.log⟩

/-- Reading first does not change how the handling ends. -/
theorem outcome_bind {α : Type} {action : Action (ClassHandling T SchoolClass) HandlerError α}
    {rest : α → Action (ClassHandling T SchoolClass) HandlerError Unit}
    {next : Except HandlerError Classes} (shown : S.Shows classes refused (exec action s).2)
    (later : ∀ a, (exec action s).1 = .ok a → Outcome S classes refused next
      (exec (rest a) (exec action s).2).1 (exec (rest a) (exec action s).2).2) :
    Outcome S classes refused next (exec (action >>= rest) s).1 (exec (action >>= rest) s).2 := by
  rw [exec_bind]
  cases run : exec action s with
  | mk result s' =>
      rw [run] at shown later
      cases result with
      | error raised => exact .failed (Or.inl rfl) shown
      | ok a => exact later a rfl

theorem doCreate_outcome (connected : S.Connected) (shown : S.Shows classes refused s)
    (named : requestBody.get "name" = some (Json.str name))
    (placed : requestBody.get "school" = some (Json.str school))
    (absent : classes (classKey name school) = none) :
    Outcome S classes refused (.ok (S.put classes (classKey name school) requestBody))
      (exec (doCreate S.outside requestBody) s).1 (exec (doCreate S.outside requestBody) s).2 := by
  unfold doCreate
  rw [named]
  refine save_outcome shown fun result target done => (connected.api.create done).mono ?_
  rintro ⟨saved, added, attributes, carries⟩
  obtain ⟨rfl, rfl⟩ := carries name school named placed
  rw [added, put, absent, Option.getD_none, ← attributes]
  exact shown.represents.insert absent

/-- `get` finds the class that was searched for. -/
theorem getClass_shows (connected : S.Connected) (shown : S.Shows classes refused s)
    (name school : String) :
    S.Shows classes refused (exec (getClass S.outside name school) s).2 ∧
      ∀ schoolClass, (exec (getClass S.outside name school) s).1 = .ok schoolClass →
        S.outside.key schoolClass = classKey name school ∧
          schoolClass ∈ S.store.classes (exec (getClass S.outside name school) s).2.base.target := by
  have kept := connected.api.getClass name school s.base.target
  unfold getClass
  rw [exec_bind, exec_call]
  cases answer : exec (S.outside.getClass name school) s.base.target with
  | mk result target =>
      rw [answer] at kept
      have after : S.Shows classes refused { s with base := { s.base with target } } :=
        shown.with_target kept
      cases result with
      | error raised => exact ⟨after, Attempts.of_error⟩
      | ok found =>
          cases found with
          | none => exact ⟨after, Attempts.of_error⟩
          | some schoolClass =>
              obtain ⟨member, key⟩ := connected.api.got answer
              refine ⟨after, ?_⟩
              rintro _ ⟨⟩
              exact ⟨key, kept ▸ member⟩

theorem doModify_outcome (connected : S.Connected) (shown : S.Shows classes refused s)
    {found : SchoolClass} (key : S.outside.key found = classKey name school)
    (named : requestBody.get "name" = some (Json.str name))
    (placed : requestBody.get "school" = some (Json.str school)) :
    Outcome S classes refused (.ok (S.put classes (classKey name school) requestBody))
      (exec (doModify S.outside requestBody found) s).1
      (exec (doModify S.outside requestBody found) s).2 := by
  obtain ⟨after, got⟩ := getClass_shows connected shown (S.outside.name found)
    (S.outside.school found)
  refine outcome_bind after fun schoolClass returned => ?_
  obtain ⟨same, member⟩ := got schoolClass returned
  obtain ⟨others, split⟩ := Multiset.exists_cons_of_mem member
  have same : S.outside.key schoolClass = classKey name school := same.trans key
  refine save_outcome after fun result target done => (connected.api.modify split done).mono ?_
  rintro ⟨saved, replaced, attributes, carries⟩
  obtain ⟨rfl, rfl⟩ := carries name school named placed
  have represents := after.represents
  have entry := represents.get_of_mem member
  rw [split] at represents
  rw [replaced, put, ← same, entry, Option.getD_some, ← attributes]
  exact represents.replace same.symm

theorem doRemove_outcome (connected : S.Connected) (shown : S.Shows classes refused s)
    {found : SchoolClass} (key : S.outside.key found = classKey name school) :
    Outcome S classes refused (.ok (Function.update classes (classKey name school) none))
      (exec (doRemove S.outside found) s).1 (exec (doRemove S.outside found) s).2 := by
  obtain ⟨after, got⟩ := getClass_shows connected shown (S.outside.name found)
    (S.outside.school found)
  refine outcome_bind after fun schoolClass returned => ?_
  obtain ⟨same, member⟩ := got schoolClass returned
  obtain ⟨others, split⟩ := Multiset.exists_cons_of_mem member
  have same : S.outside.key schoolClass = classKey name school := same.trans key
  have without := after.represents
  rw [split] at without
  have without := without.erase
  rw [same] at without
  rw [exec_call]
  cases run : exec (S.outside.deleteClass schoolClass)
      (exec (getClass S.outside (S.outside.name found) (S.outside.school found)) s).2.base.target with
  | mk result target =>
      rcases connected.api.delete split run with deleted | ⟨⟨raised, rfl⟩, unchanged⟩
      · rw [← deleted] at without
        cases result with
        | ok done => exact .handled rfl (after.with_classes without)
        | error raised => exact .failed (Or.inr rfl) (after.with_classes without)
      · exact .failed (Or.inl rfl) (after.with_target unchanged)

end Changing

/-! ## Handling an object -/

section Handling

variable {classes : Classes} {refused : List JsonObject} {s : ClassHandling T SchoolClass}

theorem subject_eq {dn : String} {m : ClassDn} (matched : schoolClassDnRegex S.env dn = some m) :
    S.subject dn =
      if lower m.ou ∈ S.schoolIds.keys.map lower then some (classKey m.name m.ou) else none := by
  unfold subject
  rw [matched]

theorem schoolExists_shows (connected : S.Connected) (shown : S.Shows classes refused s)
    {dn : String} {m : ClassDn} (matched : schoolClassDnRegex S.env dn = some m) :
    let run := exec (schoolClassSchoolExistsOnTarget S.outside S.env dn) s
    S.Shows classes refused run.2 ∧ ∀ met, run.1 = .ok met → met = (S.subject dn).isSome := by
  have listing : Computes (S.Shows classes refused) _ _ := computes_schoolsIdsOnTarget connected
  unfold schoolClassSchoolExistsOnTarget
  rw [searchParams_of_match matched]
  simp only [raising, pure_bind]
  rw [exec_bind]
  cases run : exec (schoolsIdsOnTarget S.outside) s with
  | mk result s' =>
      have kept := listing.preserves s shown
      rw [run] at kept
      cases result with
      | error raised => exact ⟨kept, Attempts.of_error⟩
      | ok names =>
          obtain rfl := Except.ok.inj (listing.of_exec shown run).1
          refine ⟨kept, ?_⟩
          rintro met ⟨⟩
          rw [subject_eq matched]
          split <;> simp [*]

theorem createOrUpdatePreconditionsMet_shows (connected : S.Connected)
    (shown : S.Shows classes refused s) (obj : ListenerGroupAddModifyObject) :
    let run := exec (createOrUpdatePreconditionsMet S.outside S.env obj) s
    S.Shows classes refused run.2 ∧ ∀ met, run.1 = .ok met → met = (S.subject obj.dn).isSome := by
  unfold createOrUpdatePreconditionsMet isSchoolsClass
  cases matched : schoolClassDnRegex S.env obj.dn with
  | none =>
      refine ⟨shown, ?_⟩
      rintro met ⟨⟩
      unfold subject
      rw [matched]
      rfl
  | some m =>
      have asked := schoolExists_shows connected shown matched
      simp only [Option.isSome_some, Bool.not_true, Bool.false_eq_true, if_false]
      rw [exec_bind]
      cases run : exec (schoolClassSchoolExistsOnTarget S.outside S.env obj.dn) s with
      | mk result s' =>
          rw [run] at asked
          cases result with
          | error raised => exact ⟨asked.1, Attempts.of_error⟩
          | ok found =>
              have same := asked.2 found rfl
              cases found with
              | true =>
                  refine ⟨asked.1, ?_⟩
                  rintro met ⟨⟩
                  exact same
              | false =>
                  cases name : className obj with
                  | error raised => exact ⟨asked.1, Attempts.of_error⟩
                  | ok text =>
                      refine ⟨asked.1, ?_⟩
                      rintro met ⟨⟩
                      exact same

theorem removePreconditionsMet_shows (connected : S.Connected) (shown : S.Shows classes refused s)
    (obj : ListenerGroupRemoveObject) :
    let run := exec (removePreconditionsMet S.outside S.env obj) s
    S.Shows classes refused run.2 ∧ ∀ met, run.1 = .ok met → met = (S.subject obj.dn).isSome := by
  unfold removePreconditionsMet isSchoolsClass
  cases matched : schoolClassDnRegex S.env obj.dn with
  | none =>
      refine ⟨shown, ?_⟩
      rintro met ⟨⟩
      unfold subject
      rw [matched]
      rfl
  | some m => exact schoolExists_shows connected shown matched

/-- A class that is handled has a DN from which its name and its school are read. -/
theorem subject_isSome {dn : String} (some_class : true = (S.subject dn).isSome) :
    ∃ m, schoolClassDnRegex S.env dn = some m ∧ S.subject dn = some (classKey m.name m.ou) := by
  cases matched : schoolClassDnRegex S.env dn with
  | none => simp [subject, matched] at some_class
  | some m =>
      rw [subject_eq matched] at some_class ⊢
      split at some_class
      next known => exact ⟨m, rfl, if_pos known⟩
      next => cases some_class

theorem subject_isNone {dn : String} (no_class : false = (S.subject dn).isSome) :
    S.subject dn = none := by
  cases subject : S.subject dn with
  | none => rfl
  | some key => simp [subject] at no_class

theorem doCreateOrUpdate_outcome (connected : S.Connected) (shown : S.Shows classes refused s)
    {obj : ListenerGroupAddModifyObject} (literal : LiteralName S.env obj.dn) {m : ClassDn}
    (matched : schoolClassDnRegex S.env obj.dn = some m) :
    Outcome S classes refused
      (S.put classes (classKey m.name m.ou) <$> S.requestBody classes obj)
      (exec (doCreateOrUpdate S.outside S.env S.services S.self obj) s).1
      (exec (doCreateOrUpdate S.outside S.env S.services S.self obj) s).2 := by
  have mapping : Computes (S.Shows classes refused) _ _ :=
    computes_mapAttributes connected obj S.self.attributeMapping
  refine outcome_bind (mapping.preserves s shown) fun requestBody returned => ?_
  have computed : S.requestBody classes obj = .ok requestBody :=
    mapping.returns s shown requestBody returned
  obtain ⟨named, school, placed, same⟩ := requestBody_names connected matched computed
  have key : classKey m.name m.ou = classKey m.name school := by rw [classKey, classKey, same]
  have next : S.put classes (classKey m.name m.ou) <$> S.requestBody classes obj =
      .ok (S.put classes (classKey m.name school) requestBody) := by
    rw [computed, key]
    rfl
  rw [next]
  obtain ⟨after, found⟩ :=
    existsOnTarget_shows connected (mapping.preserves s shown) literal matched
  refine outcome_bind after fun exists_ returned => ?_
  rcases found exists_ returned with ⟨rfl, absent⟩ | ⟨schoolClass, rfl, same_key, _⟩
  · exact doCreate_outcome connected after named placed (key ▸ absent)
  · exact doModify_outcome connected after (same_key.trans key) named placed

/-- Whatever happens while an object is handled, the target shows the map after it or before. -/
theorem handle_outcome (connected : S.Connected) (shown : S.Shows classes refused s)
    (obj : ListenerGroupObject) (literal : LiteralName S.env obj.dn) :
    let run := exec (handleListenerObject S.outside S.env S.services S.self obj) s
    Outcome S classes refused (S.apply classes obj) run.1 run.2 := by
  cases obj with
  | addModify obj =>
      obtain ⟨after, met⟩ := createOrUpdatePreconditionsMet_shows connected shown obj
      refine outcome_bind after fun asked returned => ?_
      have some_class := met asked returned
      cases asked with
      | false =>
          refine .handled ?_ after
          simp [apply, ListenerGroupObject.dn, subject_isNone some_class]
      | true =>
          obtain ⟨m, matched, subject⟩ := subject_isSome some_class
          have next : S.apply classes (.addModify obj) =
              S.put classes (classKey m.name m.ou) <$> S.requestBody classes obj := by
            simp [apply, ListenerGroupObject.dn, subject]
          rw [next]
          exact doCreateOrUpdate_outcome connected after literal matched
  | remove obj =>
      obtain ⟨after, met⟩ := removePreconditionsMet_shows connected shown obj
      refine outcome_bind after fun asked returned => ?_
      have some_class := met asked returned
      cases asked with
      | false =>
          refine .handled ?_ after
          simp [apply, ListenerGroupObject.dn, subject_isNone some_class]
      | true =>
          obtain ⟨m, matched, subject⟩ := subject_isSome some_class
          have next : S.apply classes (.remove obj) =
              .ok (Function.update classes (classKey m.name m.ou) none) := by
            simp [apply, ListenerGroupObject.dn, subject]
          rw [next]
          obtain ⟨searched, found⟩ := existsOnTarget_shows connected after literal matched
          refine outcome_bind searched fun exists_ returned => ?_
          rcases found exists_ returned with ⟨rfl, absent⟩ | ⟨schoolClass, rfl, same_key, _⟩
          · refine .handled ?_ searched
            rw [← absent, Function.update_eq_self]
          · exact doRemove_outcome connected searched same_key

end Handling

end ClassSetting

end Targets

end IdConnector
