import IdConnector.SchoolClasses

/-! # Convergence of school classes

A run handles one object after the other, while the dispatcher may be restarted and the target
may change elsewhere. Each event is applied to the map of the classes, lost because the target
refused it, or, if something was raised, one of the two. So a class is at the target as the
last event that was handled has it; the other classes stay as they are.
-/

namespace IdConnector

open Library Library.Action Library.Records KelvinPerSASchoolClassDispatcher

/-- What became of an object, as the queue and the log tell it. -/
inductive Fate where
  | handled
  | refused
  | failed
  deriving Repr, DecidableEq

section Runs

variable {T SchoolClass : Type}

/-- An object whose class was refused is handled as far as the queue is concerned. -/
def fateOf (before : ClassHandling T SchoolClass)
    (run : Except HandlerError Unit × ClassHandling T SchoolClass) : Fate :=
  match run.1 with
  | .error _ => .failed
  | .ok () => if run.2.refused.length = before.refused.length then .handled else .refused

variable [CaseMapping]

namespace ClassSetting

def handle (S : ClassSetting T SchoolClass) (obj : ListenerGroupObject)
    (s : ClassHandling T SchoolClass) : Except HandlerError Unit × ClassHandling T SchoolClass :=
  exec (handleListenerObject S.outside S.env S.services S.self obj) s

/-- The history of a dispatcher and its target, with what became of each object. -/
inductive Run (S : ClassSetting T SchoolClass) (start : ClassHandling T SchoolClass) :
    List (ListenerGroupObject × Fate) → ClassHandling T SchoolClass → Prop
  | start : Run S start [] start
  | event {history s fate} (before : Run S start history s) (obj : ListenerGroupObject)
      (became : fateOf s (S.handle obj s) = fate) :
      Run S start (history ++ [(obj, fate)]) (S.handle obj s).2
  /-- Other things happen to the target, or the dispatcher is restarted. -/
  | elsewhere {history s s'} (before : Run S start history s)
      (classes : S.store.classes s'.base.target = S.store.classes s.base.target)
      (cache : s'.base.schools.names = [] ∨ s'.base.schools = s.base.schools)
      (log : s'.refused = s.refused) : Run S start history s'

/-- What an event with this fate does to the map. -/
def Replays (S : ClassSetting T SchoolClass) (classes : Classes)
    (event : ListenerGroupObject × Fate) (after : Classes) : Prop :=
  match event.2 with
  | .handled => S.apply classes event.1 = .ok after
  | .refused => after = classes
  | .failed => after = classes ∨ S.apply classes event.1 = .ok after

/-- The maps that a history can lead to. -/
def ReplaysAll (S : ClassSetting T SchoolClass) (classes : Classes) :
    List (ListenerGroupObject × Fate) → Classes → Prop
  | [], after => after = classes
  | event :: later, after =>
      ∃ between, S.Replays classes event between ∧ ReplaysAll S between later after

variable {S : ClassSetting T SchoolClass} {classes : Classes} {refused : List JsonObject}
  {start s : ClassHandling T SchoolClass} {history : List (ListenerGroupObject × Fate)}

theorem replays_of_outcome (shown : S.Shows classes refused s) {obj : ListenerGroupObject}
    {run : Except HandlerError Unit × ClassHandling T SchoolClass}
    (outcome : Outcome S classes refused (S.apply classes obj) run.1 run.2) :
    ∃ after refused', S.Replays classes (obj, fateOf s run) after ∧ S.Shows after refused' run.2 := by
  obtain ⟨result, s'⟩ := run
  cases outcome with
  | handled effect after =>
      have same : s'.refused.length = s.refused.length := by rw [after.log, shown.log]
      have fate : fateOf s (.ok (), s') = .handled := if_pos same
      refine ⟨_, _, ?_, after⟩
      rw [fate]
      exact effect
  | refused after =>
      have longer : s'.refused.length ≠ s.refused.length := by
        rw [after.log, shown.log, List.length_append, List.length_singleton]
        omega
      have fate : fateOf s (.ok (), s') = .refused := if_neg longer
      refine ⟨_, _, ?_, after⟩
      rw [fate]
      exact rfl
  | failed effect after => exact ⟨_, _, effect, after⟩

theorem replaysAll_append {first later : List (ListenerGroupObject × Fate)} {after : Classes} :
    S.ReplaysAll classes (first ++ later) after ↔
      ∃ between, S.ReplaysAll classes first between ∧ S.ReplaysAll between later after := by
  induction first generalizing classes with
  | nil => simp [ReplaysAll]
  | cons event rest ih =>
      simp only [List.cons_append, ReplaysAll, ih]
      constructor
      · rintro ⟨next, this, between, front, back⟩
        exact ⟨between, ⟨next, this, front⟩, back⟩
      · rintro ⟨between, ⟨next, this, front⟩, back⟩
        exact ⟨next, this, between, front, back⟩

theorem run_replays (connected : S.Connected) (shown : S.Shows classes refused start)
    (run : Run S start history s) (literal : ∀ event ∈ history, LiteralName S.env event.1.dn) :
    ∃ after refused', S.ReplaysAll classes history after ∧ S.Shows after refused' s := by
  induction run with
  | start => exact ⟨classes, refused, rfl, shown⟩
  | event before obj became ih =>
      obtain ⟨between, refused', replayed, shown'⟩ :=
        ih fun event member => literal event (List.mem_append_left _ member)
      subst became
      have here := literal _ (List.mem_append_right _ (List.mem_singleton_self _))
      obtain ⟨after, refused'', replays, shown''⟩ :=
        replays_of_outcome shown' (handle_outcome connected shown' obj here)
      exact ⟨after, refused'', replaysAll_append.mpr ⟨between, replayed, after, replays, rfl⟩,
        shown''⟩
  | elsewhere before same cache log ih =>
      obtain ⟨between, refused', replayed, shown'⟩ := ih literal
      refine ⟨between, refused', replayed, same ▸ shown'.represents, ?_, log.trans shown'.log⟩
      rcases cache with empty | kept
      · exact Or.inl empty
      · exact kept ▸ shown'.cache

/-! ## One class -/

variable {key : ClassKey} {after : Classes}

theorem apply_ok {obj : ListenerGroupObject} (applied : S.apply classes obj = .ok after) :
    S.subject obj.dn = none ∧ after = classes ∨ ∃ own, S.subject obj.dn = some own ∧
      ((∃ group requestBody, obj = .addModify group ∧ S.requestBody classes group = .ok requestBody ∧
          after = S.put classes own requestBody) ∨
        (∃ group, obj = .remove group) ∧ after = Function.update classes own none) := by
  unfold apply at applied
  split at applied
  next none_ =>
    exact Or.inl ⟨none_, (Except.ok.inj applied).symm⟩
  next own group subject =>
    obtain ⟨requestBody, computed, rfl⟩ := Attempts.map_eq_ok.mp applied
    exact Or.inr ⟨own, subject, Or.inl ⟨group, requestBody, rfl, computed, rfl⟩⟩
  next own group subject =>
    exact Or.inr ⟨own, subject, Or.inr ⟨⟨group, rfl⟩, (Except.ok.inj applied).symm⟩⟩

theorem apply_other {obj : ListenerGroupObject} (other : S.subject obj.dn ≠ some key)
    (applied : S.apply classes obj = .ok after) : after key = classes key := by
  rcases apply_ok applied with ⟨_, rfl⟩ | ⟨own, subject, change⟩
  · rfl
  · have different : key ≠ own := fun same => other (same ▸ subject)
    rcases change with ⟨_, requestBody, _, _, rfl⟩ | ⟨_, rfl⟩
    · exact Function.update_of_ne different _ _
    · exact Function.update_of_ne different _ _

theorem replays_quiet {event : ListenerGroupObject × Fate}
    (quiet : S.subject event.1.dn = some key → event.2 = .refused)
    (replays : S.Replays classes event after) : after key = classes key := by
  obtain ⟨obj, fate⟩ := event
  cases fate with
  | refused => exact congrFun replays key
  | handled => exact apply_other (fun about => Fate.noConfusion (quiet about)) replays
  | failed =>
      rcases replays with same | applied
      · exact congrFun same key
      · exact apply_other (fun about => Fate.noConfusion (quiet about)) applied

theorem replaysAll_quiet {events : List (ListenerGroupObject × Fate)}
    (quiet : ∀ event ∈ events, S.subject event.1.dn = some key → event.2 = .refused)
    (replays : S.ReplaysAll classes events after) : after key = classes key := by
  induction events generalizing classes with
  | nil => exact congrFun replays key
  | cons event rest ih =>
      obtain ⟨between, this, later⟩ := replays
      have kept := replays_quiet (quiet event List.mem_cons_self) this
      exact (ih (fun e member => quiet e (List.mem_cons_of_mem _ member)) later).trans kept

/-- After events that are not handled the class is as before or as a failed attempt has it. -/
theorem replaysAll_failed {events : List (ListenerGroupObject × Fate)}
    (unhandled : ∀ event ∈ events, S.subject event.1.dn = some key → event.2 ≠ .handled)
    (replays : S.ReplaysAll classes events after) :
    after key = classes key ∨ ∃ obj before made, (obj, .failed) ∈ events ∧
      S.subject obj.dn = some key ∧ S.apply before obj = .ok made ∧ after key = made key := by
  induction events generalizing classes with
  | nil => exact .inl (congrFun replays key)
  | cons event rest ih =>
      obtain ⟨between, this, later⟩ := replays
      rcases ih (fun e member => unhandled e (List.mem_cons_of_mem _ member)) later with
        same | ⟨obj, before, made, member, about, applied, kept⟩
      · by_cases quiet : S.subject event.1.dn = some key → event.2 = .refused
        · exact .inl (same.trans (replays_quiet quiet this))
        · obtain ⟨about, unrefused⟩ := Classical.not_imp.mp quiet
          obtain ⟨obj, fate⟩ := event
          cases fate with
          | refused => exact absurd rfl unrefused
          | handled => exact absurd rfl (unhandled (obj, .handled) List.mem_cons_self about)
          | failed =>
              rcases this with rfl | applied
              · exact .inl same
              · exact .inr ⟨obj, classes, between, List.mem_cons_self, about, applied, same⟩
      · exact .inr ⟨obj, before, made, List.mem_cons_of_mem _ member, about, applied, kept⟩

end ClassSetting

/-! ## The Kelvin dispatcher -/

namespace ClassTarget

/-- The target with a `KelvinPerSASchoolClassDispatcher`. -/
def kelvin (K : ClassTarget T SchoolClass) : ClassSetting T SchoolClass where
  toClassTarget := K
  services := kelvinServices K.outside
  members _ obj := handleAttrUsers obj

theorem Serves.kelvin {K : ClassTarget T SchoolClass} (serves : K.Serves) : K.kelvin.Connected where
  toServes := serves
  schoolsIdsOnTarget := rfl
  members _ _ _ := .ofExcept _

/-- The target has the class as the object describes it, with the members of the object as far as
    these are sent, or it has no such class any more. -/
def Agrees (K : ClassTarget T SchoolClass) (key : ClassKey) (s : ClassHandling T SchoolClass) :
    ListenerGroupObject → Prop
  | .addModify obj => ∃ requestBody schoolClass,
      K.kelvin.requestBody (fun _ => none) obj = .ok requestBody ∧
        (K.store.classes s.base.target).filter (fun c => K.outside.key c = key) = {schoolClass} ∧
          (∀ name value, requestBody.get name = some value →
            K.store.attributes schoolClass name = some value) ∧
            (SendsLast K.self.attributeMapping "users" "users" →
              handleAttrUsers obj = .ok (K.outside.users schoolClass))
  | .remove _ => (K.store.classes s.base.target).filter (fun c => K.outside.key c = key) = 0

variable {K : ClassTarget T SchoolClass} {classes after : Classes} {refused : List JsonObject}
  {start s : ClassHandling T SchoolClass} {history : List (ListenerGroupObject × Fate)}
  {key : ClassKey}

/-- What the map has after an object has been handled is what the target has. -/
theorem agrees_of_apply (serves : K.Serves) {obj : ListenerGroupObject}
    (about : K.kelvin.subject obj.dn = some key) (applied : K.kelvin.apply classes obj = .ok after)
    {final : Classes} (kept : final key = after key) (shown : K.kelvin.Shows final refused s) :
    K.Agrees key s obj := by
  rcases ClassSetting.apply_ok applied with ⟨nothing, _⟩ | ⟨own, subject, change⟩
  · rw [about] at nothing
    cases nothing
  · obtain rfl : key = own := Option.some.inj (about.symm.trans subject)
    rcases change with ⟨group, requestBody, rfl, computed, rfl⟩ | ⟨⟨group, rfl⟩, rfl⟩
    · rw [ClassSetting.put, Function.update_self] at kept
      obtain ⟨schoolClass, rest, only, _, _, attributes⟩ := shown.represents.filter_of_some kept
      have shows_sent {name : String} {value : Json} (sent : requestBody.get name = some value) :
          K.store.attributes schoolClass name = some value := by
        have shown_there : K.store.attributes schoolClass = _ := attributes
        rw [shown_there, overlay, sent]
        rfl
      refine ⟨requestBody, schoolClass, computed, only, fun _ _ => shows_sent, fun sends => ?_⟩
      obtain ⟨usernames, sent, members⟩ := ClassSetting.requestBody_users sends computed
      have stored := (serves.api.users schoolClass).symm.trans (shows_sent sent)
      rw [ClassSetting.strs_injective (Option.some.inj stored)]
      exact members
    · rw [Function.update_self] at kept
      exact shown.represents.filter_of_none kept

/-- After any run the target agrees with the last object about a class that was handled, or with a
    later one of that class whose handling failed. -/
theorem class_converges (serves : K.Serves) (shown : K.kelvin.Shows classes refused start)
    (run : K.kelvin.Run start history s) (literal : ∀ event ∈ history, LiteralName K.env event.1.dn)
    {earlier later : List (ListenerGroupObject × Fate)}
    {obj : ListenerGroupObject} (split : history = earlier ++ (obj, .handled) :: later)
    (about : K.kelvin.subject obj.dn = some key)
    (last : ∀ event ∈ later, K.kelvin.subject event.1.dn = some key → event.2 ≠ .handled) :
    K.Agrees key s obj ∨ ∃ attempt, (attempt, .failed) ∈ later ∧
      K.kelvin.subject attempt.dn = some key ∧ K.Agrees key s attempt := by
  obtain ⟨final, refused', replays, shown'⟩ :=
    ClassSetting.run_replays serves.kelvin shown run literal
  rw [split, ClassSetting.replaysAll_append] at replays
  obtain ⟨before, _, after, applied, rest⟩ := replays
  rcases ClassSetting.replaysAll_failed last rest with
    kept | ⟨attempt, earlier, made, member, about', applied', kept⟩
  · exact .inl (agrees_of_apply serves about applied kept shown')
  · exact .inr ⟨attempt, member, about', agrees_of_apply serves about' applied' kept shown'⟩

end ClassTarget

end Runs

/-! ## A target with four users -/

section Examples

open KelvinPerSAUserDispatcher (raising)

attribute [local instance] asciiCaseMapping

/-- A class of the example target. -/
structure DemoClass where
  members : List String
  others : JsonObject
  deriving DecidableEq

namespace DemoClass

/-- A text attribute. -/
def text (c : DemoClass) (name : String) : String := ((c.others.get name).bind Json.str?).getD ""

def attributes (c : DemoClass) : Attributes :=
  fun name => if name = "users" then some (Json.strs c.members) else c.others.get name

def key (c : DemoClass) : ClassKey := classKey (c.text "name") (c.text "school")

end DemoClass

/-- The members that a request body asks for, if they are a list of names. -/
def demoMembers (requestBody : JsonObject) (before : List String) : Option (List String) :=
  match requestBody.get "users" with
  | none => some before
  | some (.list items) => items.mapM Json.str?
  | some _ => none

/-- Save a class that has the members that the request body asks for, all of whom are known. -/
def demoSave (requestBody : JsonObject) (before : DemoClass) (others : List DemoClass) :
    Action (List DemoClass) HandlerError Saved := do
  match demoMembers requestBody before.members with
  | none => throw (.client "422")
  | some members =>
      if members ⊆ ["anna", "bert", "frieda", "extern"] then
        set (⟨members, requestBody ++ before.others⟩ :: others)
        return .done
      else return .noObject

/-- A clock that stands still, and one school. -/
def demoShared : Outside (List DemoClass) DemoClass where
  now t := (0, t)
  fetchSchools := pure ["DEMOSCHOOL"]
  fetchRoles := pure []
  search _ _ := pure []
  create _ := pure ()
  modify _ _ := pure ()
  remove _ := pure ()
  handledSchools := pure ["demoschool"]
  getSourceUid := pure ""
  randomPassword := pure ""

def demoClasses : ClassOutside (List DemoClass) DemoClass where
  shared := demoShared
  name c := c.text "name"
  school c := c.text "school"
  users c := c.members
  searchClasses name school := do return (← get).filter fun c => c.key = classKey name school
  getClass name school := do return (← get).find? fun c => c.key = classKey name school
  createClass requestBody := do demoSave requestBody ⟨[], []⟩ (← get)
  modifyClass requestBody c := do demoSave requestBody c ((← get).erase c)
  deleteClass c := modify (·.erase c)
  getUser username := raising (LdapAccess.getUser classLdap 1000 none username true)

def demoClassStore : ClassStore (List DemoClass) DemoClass where
  classes t := t
  attributes := DemoClass.attributes
  blank := DemoClass.attributes ⟨[], []⟩

theorem demoMembers_some {requestBody : JsonObject} {before members : List String}
    (found : demoMembers requestBody before = some members) :
    (requestBody.get "users").or (some (Json.strs before)) = some (Json.strs members) := by
  unfold demoMembers at found
  split at found
  next asked =>
    rw [asked, Option.none_or, Option.some.inj found]
  next items asked =>
    have texts : items = members.map Json.str := by
      clear asked
      induction items generalizing members with
      | nil =>
          cases found
          rfl
      | cons item rest ih =>
          rw [List.mapM_cons] at found
          obtain ⟨text, this, others⟩ := Option.bind_eq_some_iff.mp found
          obtain ⟨texts, rest_, same⟩ := Option.bind_eq_some_iff.mp others
          cases same
          rw [ih rest_, KelvinPerSAUserDispatcher.str?_eq_some this]
          rfl
    rw [asked, texts]
    rfl
  next => cases found

theorem demoSave_effect {requestBody : JsonObject} {before : DemoClass} {others : List DemoClass}
    {t t' : List DemoClass} {result : Except HandlerError Saved}
    (done : exec (demoSave requestBody before others) t = (result, t')) :
    Effect (∃ saved, (t' : Multiset DemoClass) = saved ::ₘ others ∧
        saved.attributes = overlay requestBody before.attributes ∧
          demoClasses.Named requestBody saved) ((t' : Multiset DemoClass) = t) result := by
  unfold demoSave at done
  cases asked : demoMembers requestBody before.members with
  | none =>
      rw [asked] at done
      cases done
      exact Or.inl rfl
  | some members =>
      rw [asked] at done
      by_cases known : members ⊆ ["anna", "bert", "frieda", "extern"]
      · simp only [known, if_true] at done
        cases done
        refine ⟨⟨members, requestBody ++ before.others⟩, rfl, ?_, ?_⟩
        · funext name
          unfold DemoClass.attributes overlay
          by_cases users : name = "users"
          · subst users
            exact (demoMembers_some asked).symm
          · simp only [users, if_false]
            exact Dict.get_append _ _ _
        · intro name school named placed
          have shown {key text : String} (sent : requestBody.get key = some (Json.str text)) :
              DemoClass.text ⟨members, requestBody ++ before.others⟩ key = text := by
            unfold DemoClass.text
            rw [Dict.get_append, sent]
            rfl
          exact ⟨shown named, shown placed⟩
      · simp only [known, if_false] at done
        cases done
        rfl

theorem demo_erase {t : List DemoClass} {schoolClass : DemoClass} {others : Multiset DemoClass}
    (split : (t : Multiset DemoClass) = schoolClass ::ₘ others) :
    ((t.erase schoolClass : List DemoClass) : Multiset DemoClass) = others := by
  rw [← Multiset.coe_erase, split, Multiset.erase_cons_head]

theorem demoClasses_serve : KelvinClasses demoClassStore demoClasses where
  now _ := rfl
  fetchSchools := keeps_pure _
  handledSchools := keeps_pure _
  getUser username := by
    have same (x : Except PyError (Option User)) : Keeps demoClassStore.classes
        (raising x : Action (List DemoClass) HandlerError (Option User)) := by
      cases x with
      | ok a => exact keeps_pure a
      | error raised => exact keeps_throw _
    exact same _
  searchClasses _ _ _ := rfl
  exact := by
    rintro name school t t' found - done
    cases done
    rfl
  searchRaises := by
    rintro name school t t' raised done
    cases done
  getClass _ _ _ := rfl
  got := by
    rintro name school t t' schoolClass done
    have found : t.find? (fun c => c.key = classKey name school) = some schoolClass :=
      Except.ok.inj (congrArg Prod.fst done)
    have same : schoolClass.key = classKey name school := by simpa using List.find?_some found
    exact ⟨List.mem_of_find?_eq_some found, same⟩
  missing := by
    rintro name school t t' done schoolClass member same
    have nothing : t.find? (fun c => c.key = classKey name school) = none :=
      Except.ok.inj (congrArg Prod.fst done)
    have other := List.find?_eq_none.mp nothing schoolClass member
    exact other (decide_eq_true same)
  users schoolClass := by
    show schoolClass.attributes "users" = _
    exact if_pos rfl
  create done := demoSave_effect done
  modify := by
    rintro requestBody schoolClass others t result t' split done
    have effect := demoSave_effect done
    rw [demo_erase split] at effect
    exact effect
  delete := by
    rintro schoolClass others t result t' split done
    cases done
    exact Or.inl (demo_erase split)

/-- The target, and a dispatcher that sends the members. -/
def demoKelvin : ClassTarget (List DemoClass) DemoClass where
  env := { ldapBase := "dc=uni,dc=dtr" }
  self := { partialDispatcher with attributeMapping := .dict [("name", Json.str "name"),
    ("description", Json.str "description"), ("school", Json.str "school"),
    ("users", Json.str "users")] }
  outside := demoClasses
  store := demoClassStore
  schools := ["DEMOSCHOOL"]

theorem demoKelvin_serves : demoKelvin.Serves where
  api := demoClasses_serve
  reports := by
    rintro t names t' ⟨⟩
    rfl
  sendsName := ⟨[], _, rfl, by decide⟩
  sendsSchool := ⟨[_, _], _, rfl, by decide⟩

def emptyHandling : ClassHandling (List DemoClass) DemoClass :=
  ⟨⟨[], ⟨[], 0⟩, [], []⟩, []⟩

theorem emptyHandling_shows : demoKelvin.kelvin.Shows (fun _ => none) [] emptyHandling where
  represents := .empty _ _
  cache := Or.inl rfl
  log := rfl

def demoEvent (members : List String) : ListenerGroupObject := .addModify (schoolClass members)

/-- Two objects about one class, the second of which has a member that the target does not know. -/
def demoObjects : List ListenerGroupObject :=
  [demoEvent ["uid=bert,cn=users,ou=DEMOSCHOOL,dc=uni,dc=dtr"],
    demoEvent ["uid=gast,cn=users,dc=uni,dc=dtr"]]

def demoHandled : ClassHandling (List DemoClass) DemoClass :=
  demoObjects.foldl (fun s obj => (demoKelvin.kelvin.handle obj s).2) emptyHandling

theorem demoHandled_run : demoKelvin.kelvin.Run emptyHandling
    (demoObjects.zip [.handled, .refused]) demoHandled :=
  .event (.event .start _ (by decide +kernel)) _ (by decide +kernel)

theorem demo_class_converges :
    demoKelvin.Agrees (classKey "1a" "DEMOSCHOOL") demoHandled
        (demoEvent ["uid=bert,cn=users,ou=DEMOSCHOOL,dc=uni,dc=dtr"]) ∨
      ∃ attempt,
        (attempt, Fate.failed) ∈ [(demoEvent ["uid=gast,cn=users,dc=uni,dc=dtr"], Fate.refused)] ∧
          demoKelvin.kelvin.subject attempt.dn = some (classKey "1a" "DEMOSCHOOL") ∧
          demoKelvin.Agrees (classKey "1a" "DEMOSCHOOL") demoHandled attempt := by
  refine ClassTarget.class_converges demoKelvin_serves emptyHandling_shows demoHandled_run
    (by decide +kernel) (show _ = [] ++ _ :: [_] from rfl) (by decide +kernel) ?_
  rintro event member -
  obtain rfl := List.mem_singleton.mp member
  exact nofun

end Examples

end IdConnector
