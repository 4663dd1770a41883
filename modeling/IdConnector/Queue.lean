import IdConnector.Configuration
import IdConnector.Library.First
import Mathlib.Data.List.Sort

/-! # Queue objects

What the in-queue and the out queues hold in memory. The keys of
`school_authority_mapping` are lower-cased wherever it is filled, and a queue
leaves the list of out queues before its directory is deleted; the two
structures carry these facts.
-/

namespace IdConnector

open Library Library.First

/-- A dictionary whose keys are distinct and lower-case. -/
structure LoweredDict [CaseMapping] (ν : Type) where
  entries : Dict String ν
  distinct : entries.keys.Nodup
  lowered : ∀ k ∈ entries.keys, lower k = k

namespace LoweredDict

variable [CaseMapping] {ν : Type}

@[ext] theorem ext {a b : LoweredDict ν} (same : a.entries = b.entries) : a = b := by
  cases a
  cases b
  cases same
  rfl

def empty : LoweredDict ν := ⟨[], List.nodup_nil, nofun⟩

private theorem keys_lowered (mapping : List (String × ν)) :
    ∀ k ∈ Dict.keys (Dict.ofPairs (mapping.map fun entry => (lower entry.1, entry.2))),
      lower k = k := by
  intro k member
  have fromPairs := (Dict.mem_keys_update (d := [])).mp member
  obtain ⟨entry, _, rfl⟩ : ∃ entry ∈ mapping, lower entry.1 = k := by
    simpa [Dict.keys] using fromPairs
  simp

/-- `{k.lower(): v for k, v in mapping.items()}` -/
def lowerKeys (mapping : Dict String ν) : LoweredDict ν :=
  ⟨Dict.ofPairs (mapping.map fun entry => (lower entry.1, entry.2)), Dict.nodup_ofPairs _,
    keys_lowered mapping⟩

end LoweredDict

/-- The queue of a school authority. -/
structure OutQueue where
  name : String
  /-- The directory of the queue, relative to `OUT_QUEUE_TOP_DIR`. -/
  path : String
  schoolAuthority : SchoolAuthorityConfiguration
  /-- Whether `task` is set and not closed. -/
  taskRunning : Bool
  deleted : Bool
  deriving DecidableEq

/-- The queue object as the constructor leaves it. -/
def OutQueue.fromSchoolAuthority (config : SchoolAuthorityConfiguration) : OutQueue :=
  ⟨config.name, config.name, config, false, false⟩

/-- What the routing hooks see of the in-queue. -/
structure InQueue [CaseMapping] where
  outQueues : List OutQueue
  schoolAuthorityMapping : LoweredDict String

/-- The queue objects of the server, none of them marked as deleted. -/
structure OutQueues where
  queues : List OutQueue
  live : ∀ q ∈ queues, q.deleted = false

namespace OutQueues

@[ext] theorem ext {a b : OutQueues} (same : a.queues = b.queues) : a = b := by
  cases a
  cases b
  cases same
  rfl

instance : DecidableEq OutQueues := fun a b =>
  decidable_of_iff (a.queues = b.queues) ⟨ext, fun same => same ▸ rfl⟩

def empty : OutQueues := ⟨[], nofun⟩

def isNamed (name : String) (q : OutQueue) : Bool := q.schoolAuthority.name = name

/-- The first queue whose school authority has the name. -/
def find (out : OutQueues) (name : String) : Option OutQueue := out.queues.find? (isNamed name)

/-- Append a new queue and sort the list by name. -/
def register (out : OutQueues) (config : SchoolAuthorityConfiguration) : OutQueues where
  queues := (out.queues ++ [OutQueue.fromSchoolAuthority config]).insertionSort fun a b => a.name ≤ b.name
  live := by
    intro q member
    rw [List.mem_insertionSort, List.mem_append, List.mem_singleton] at member
    rcases member with old | rfl
    · exact out.live q old
    · rfl

/-- Take the first queue of this name out of the list. -/
def remove (out : OutQueues) (name : String) : OutQueues where
  queues := out.queues.eraseP fun q => q.name = name
  live := fun q member => out.live q (List.mem_of_mem_eraseP member)

/-- Change the queue object that `find` returns. -/
def update (out : OutQueues) (name : String) (f : OutQueue → OutQueue)
    (keeps : ∀ q, (f q).deleted = q.deleted) : OutQueues where
  queues := updateFirst (isNamed name) f out.queues
  live := by
    intro q member
    rcases mem_updateFirst member with old | ⟨b, old, rfl⟩
    · exact out.live q old
    · rw [keeps, out.live b old]

/-- `task` of the queue is closed or newly spawned. -/
def setTask (out : OutQueues) (name : String) (running : Bool) : OutQueues :=
  out.update name (fun q => { q with taskRunning := running }) fun _ => rfl

def setSchoolAuthority (out : OutQueues) (name : String)
    (config : SchoolAuthorityConfiguration) : OutQueues :=
  out.update name (fun q => { q with schoolAuthority := config }) fun _ => rfl

theorem find_live {out : OutQueues} {name : String} {q : OutQueue}
    (found : out.find name = some q) : q.deleted = false :=
  out.live q (List.mem_of_find?_eq_some found)

theorem find_name {out : OutQueues} {name : String} {q : OutQueue}
    (found : out.find name = some q) : q.schoolAuthority.name = name := by
  simpa [isNamed] using List.find?_some found

theorem find_update {out : OutQueues} {name : String} {f : OutQueue → OutQueue}
    (keeps : ∀ q, (f q).deleted = q.deleted)
    (named : ∀ q, isNamed name q → isNamed name (f q)) :
    (out.update name f keeps).find name = (out.find name).map f :=
  find?_updateFirst named out.queues

theorem find_setTask (out : OutQueues) (name : String) (running : Bool) :
    (out.setTask name running).find name =
      (out.find name).map fun q => { q with taskRunning := running } :=
  find_update _ fun _ named => named

theorem find_setSchoolAuthority (out : OutQueues) {name : String}
    {config : SchoolAuthorityConfiguration} (same : config.name = name) :
    (out.setSchoolAuthority name config).find name =
      (out.find name).map fun q => { q with schoolAuthority := config } :=
  find_update _ fun _ _ => decide_eq_true same

theorem update_eq_self_iff {out : OutQueues} {name : String} {f : OutQueue → OutQueue}
    (keeps : ∀ q, (f q).deleted = q.deleted) {q : OutQueue} (found : out.find name = some q) :
    out.update name f keeps = out ↔ f q = q := by
  rw [OutQueues.ext_iff]
  exact updateFirst_eq_self_iff found

theorem setTask_eq_self_iff {out : OutQueues} {name : String} {running : Bool} {q : OutQueue}
    (found : out.find name = some q) :
    out.setTask name running = out ↔ q.taskRunning = running := by
  rw [setTask, update_eq_self_iff _ found]
  cases q
  simp [eq_comm]

/-- Stopping the task and replacing the configuration changes nothing exactly if no task
    was running and the configuration is the old one. -/
theorem stop_and_set_eq_self_iff {out : OutQueues} {name : String}
    {config : SchoolAuthorityConfiguration} {q : OutQueue} (found : out.find name = some q) :
    (out.setTask name false).setSchoolAuthority name config = out ↔
      q.taskRunning = false ∧ config = q.schoolAuthority := by
  have both : (out.setTask name false).setSchoolAuthority name config =
      out.update name (fun q => { q with taskRunning := false, schoolAuthority := config })
        fun _ => rfl :=
    OutQueues.ext (updateFirst_updateFirst (p := isNamed name)
      (f := fun q => { q with taskRunning := false }) (fun _ named => named)
      (fun q => { q with schoolAuthority := config }) out.queues)
  rw [both, update_eq_self_iff _ found]
  cases q
  simp [eq_comm, and_comm]

theorem register_ne (out : OutQueues) (config : SchoolAuthorityConfiguration) :
    out.register config ≠ out := by
  intro same
  have longer := congrArg (fun o => o.queues.length) same
  simp [register, List.length_insertionSort] at longer

theorem remove_ne {out : OutQueues} {name : String} {q : OutQueue}
    (found : out.queues.find? (fun q => q.name = name) = some q) : out.remove name ≠ out := by
  rw [Ne, OutQueues.ext_iff]
  exact eraseP_ne_self found

end OutQueues

end IdConnector
