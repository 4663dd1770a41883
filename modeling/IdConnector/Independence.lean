import IdConnector.Distribution

/-! # Routing and the other authorities

Whether an object is routed to an authority is a matter of the mapping and of its own
out queue, except for one test: the Kelvin hooks first ask for any active
authority with the Kelvin plugin. `routing_independent_iff` compares two states of the
in-queue that only have the mapping and the out queue of the authority in common.
-/

namespace IdConnector

open Library

section Independence

variable [CaseMapping]

/-- The plugins and the active flag of the out queue of an authority. -/
def InQueue.queuesOf (q : InQueue) (authority : String) : List (List String × Bool) :=
  (q.outQueues.filter fun out => out.schoolAuthority.name = authority).map
    fun out => (out.schoolAuthority.plugins, out.schoolAuthority.active)

/-- Only a Kelvin hook can select the authority for the object: a user of one of its schools,
    or one of its classes while it does without the partial group sync. -/
def InQueue.NeedsKelvinHook (q : InQueue) (env : LdapEnvironment) (authority : String)
    (obj : ListenerObject) : Prop :=
  (∃ school ∈ obj.routedSchools,
      q.schoolAuthorityMapping.entries.get (lower school) = some authority) ∨
    (∃ ou, obj.IsClassOf env ou ∧
        q.schoolAuthorityMapping.entries.get (lower ou) = some authority) ∧
      q.HasPlugin authority kelvin ∧ ¬ q.HasPlugin authority kelvinPartialGroupSync

theorem hasPlugin_iff_queuesOf {q : InQueue} {authority pluginName : String} :
    q.HasPlugin authority pluginName ↔ ∃ entry ∈ q.queuesOf authority, pluginName ∈ entry.1 := by
  constructor
  · rintro ⟨out, registered, name, plugin⟩
    refine ⟨_, List.mem_map_of_mem (List.mem_filter.mpr ⟨registered, ?_⟩), plugin⟩
    exact decide_eq_true name
  · rintro ⟨entry, member, plugin⟩
    obtain ⟨out, listed, rfl⟩ := List.mem_map.mp member
    obtain ⟨registered, name⟩ := List.mem_filter.mp listed
    exact ⟨out, registered, of_decide_eq_true name, plugin⟩

theorem hasPlugin_congr {q q' : InQueue} {authority : String}
    (same : q.queuesOf authority = q'.queuesOf authority) (pluginName : String) :
    q.HasPlugin authority pluginName ↔ q'.HasPlugin authority pluginName := by
  rw [hasPlugin_iff_queuesOf, hasPlugin_iff_queuesOf, same]

theorem mem_schoolAuthoritiesToDistributeTo_iff {env : LdapEnvironment} {q : InQueue}
    {obj : ListenerObject} {authority : String} :
    authority ∈ schoolAuthoritiesToDistributeTo env q obj ↔
      q.HasActiveKelvin ∧
          ((∃ school ∈ obj.routedSchools,
              q.schoolAuthorityMapping.entries.get (lower school) = some authority) ∨
            authority ∈ groupAuthorities env kelvin q obj) ∨
        authority ∈ groupAuthorities env kelvinPartialGroupSync q obj := by
  simp only [schoolAuthoritiesToDistributeTo, partialGroupSyncAuthorities, List.mem_union_iff,
    mem_userAuthorities_iff, mem_kelvinGroupAuthorities_iff]
  rw [and_or_left, or_assoc]

/-- The other out queues have no say in the routing to an authority exactly if they do
    not make the difference between some and no active Kelvin authority, or if no
    Kelvin hook is needed. -/
theorem routing_independent_iff (env : LdapEnvironment) (q q' : InQueue) (authority : String)
    (obj : ListenerObject) (sameMapping : q.schoolAuthorityMapping = q'.schoolAuthorityMapping)
    (sameQueue : q.queuesOf authority = q'.queuesOf authority) :
    (authority ∈ schoolAuthoritiesToDistributeTo env q obj ↔
        authority ∈ schoolAuthoritiesToDistributeTo env q' obj) ↔
      (q.NeedsKelvinHook env authority obj → (q.HasActiveKelvin ↔ q'.HasActiveKelvin)) := by
  have plugins := hasPlugin_congr sameQueue
  simp only [mem_schoolAuthoritiesToDistributeTo_iff, mem_groupAuthorities_iff,
    InQueue.NeedsKelvinHook, ← sameMapping, ← plugins]
  have exclusive : (∃ school ∈ obj.routedSchools,
      q.schoolAuthorityMapping.entries.get (lower school) = some authority) →
        ¬ ∃ ou, obj.IsClassOf env ou ∧
          q.schoolAuthorityMapping.entries.get (lower ou) = some authority := by
    rintro ⟨school, member, -⟩ ⟨ou, isClass, -⟩
    cases obj with
    | userAddModify _ | userRemove _ => exact isClass
    | groupAddModify _ | groupRemove _ => simp [ListenerObject.routedSchools] at member
  generalize (∃ school ∈ obj.routedSchools,
    q.schoolAuthorityMapping.entries.get (lower school) = some authority) = ofUser at *
  generalize (∃ ou, obj.IsClassOf env ou ∧
    q.schoolAuthorityMapping.entries.get (lower ou) = some authority) = ofClass at *
  by_cases active : q.HasActiveKelvin <;> by_cases active' : q'.HasActiveKelvin <;>
    simp only [active, active'] <;> grind

end Independence

section Examples

attribute [local instance] asciiCaseMapping

/-- The active authority Traeger1 with these plugins, and a second one with the Kelvin plugin. -/
def demoQueuePair (plugins : List String) (otherActive : Bool) : InQueue :=
  { demoQueue [kelvin] with
    outQueues :=
      [.fromSchoolAuthority ⟨"Traeger1", true, "https://traeger1/ucsschool/kelvin/v1/", plugins, [],
          pluginConfigsPlainToSecret_nil⟩,
        .fromSchoolAuthority ⟨"Traeger2", otherActive, "https://traeger2/ucsschool/kelvin/v1/",
          [kelvin], [], pluginConfigsPlainToSecret_nil⟩] }

theorem routing_independent_demo :
    ("Traeger1" ∈
          schoolAuthoritiesToDistributeTo demoEnvironment (demoQueuePair [kelvin] true) demoUser ↔
        "Traeger1" ∈
          schoolAuthoritiesToDistributeTo demoEnvironment (demoQueuePair [kelvin] false) demoUser) ↔
      ((demoQueuePair [kelvin] true).NeedsKelvinHook demoEnvironment "Traeger1" demoUser →
        ((demoQueuePair [kelvin] true).HasActiveKelvin ↔
          (demoQueuePair [kelvin] false).HasActiveKelvin)) :=
  routing_independent_iff demoEnvironment (demoQueuePair [kelvin] true)
    (demoQueuePair [kelvin] false) "Traeger1" demoUser rfl (by decide)

/-- With the partial group sync, the users of Traeger1 are queued only as long as Traeger2 is
    active. -/
theorem other_authority_decides :
    let q := demoQueuePair [kelvinPartialGroupSync] true
    let q' := demoQueuePair [kelvinPartialGroupSync] false
    q.schoolAuthorityMapping = q'.schoolAuthorityMapping ∧
      q.queuesOf "Traeger1" = q'.queuesOf "Traeger1" ∧
      "Traeger1" ∈ schoolAuthoritiesToDistributeTo demoEnvironment q demoUser ∧
      "Traeger1" ∉ schoolAuthoritiesToDistributeTo demoEnvironment q' demoUser :=
  ⟨rfl, by decide, by decide, by decide⟩

end Examples

end IdConnector
