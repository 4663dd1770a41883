import IdConnector.Delivery
import IdConnector.Distribution

/-! # At-least-once delivery

A file that `distribute` has taken out of the in-queue stays with every registered
authority it was routed to: it is in the directory of the out queue or in its `trash`
or `keep`, or `handle` has returned for it. The statement is about contents, so it
needs names that stand for one file each.
-/

namespace IdConnector

open Library

variable {F : Type}

/-- The out queue still has the file, or `handle` has run to completion on it. -/
def OutBox.Safe (o : OutBox F) (name : String) (content : F) : Prop :=
  o.dir.Holds name content ∨ (name, some content) ∈ o.completed

theorem ScanStep.safe [CaseMapping] {load : F → Option ListenerObject} {faults : Prop}
    {o o' : OutBox F} (step : ScanStep load faults o o') (listed : o.Listed) {canon : String → Option F}
    {name : String} {content : F} (canonical : ∀ other, o.Mentions name other → canon name = some other)
    (safe : o.Safe name content) : o'.Safe name content := by
  rcases safe with held | completed
  · have unique : ∀ other, o.Mentions name other → other = content := fun other mentioned =>
      Option.some.inj ((canonical other mentioned).symm.trans (canonical content (Or.inl held)))
    rcases step.dir_cases with settles | ⟨path, read, done, dir⟩
    · exact Or.inl (settles.kept (fun other held' => unique other (Or.inl held')) held)
    · by_cases same : path = name
      · subst same
        apply Or.inr
        apply step.completed_grows
        -- the unlinked file is the one that `handle` was called with
        have current := ScanTask.current_of_done done
        obtain ⟨other, rfl⟩ := Option.ne_none_iff_exists'.mp (listed.read path read current)
        exact unique other (Or.inr current) ▸ listed.completed path _ done
      · apply Or.inl
        rw [dir]
        refine held.imp_left fun found => ?_
        rw [Directory.get_remove, if_neg same]
        exact found
  · exact Or.inr (step.completed_grows completed)

namespace Service

section Runs

/-- The invariant of delivery: what is owed is safe, and while a file is copied its copies
    so far are. -/
structure Delivered (authorities : List String) (s : Service F) : Prop where
  owed : ∀ {authority name content}, (authority, name, content) ∈ s.owed →
    (s.outs authority).Safe name content
  copied : ∀ {path names rest todo}, s.inTask = .copying path names rest todo →
    ∃ done content, names = done ++ rest ∧ s.inDir.files.get path = some content ∧
      ∀ authority ∈ done, authority ∈ authorities → (s.outs authority).Safe path content

theorem empty_delivered (authorities : List String) : (empty : Service F).Delivered authorities :=
  ⟨nofun, nofun⟩

variable [CaseMapping] {authorities : List String} {load : F → Option ListenerObject}
  {faults : Prop} {s s' : Service F}

/-- No step loses a file of an out queue. -/
theorem Step.safe {admits : List String → String → Prop}
    (step : Step authorities load faults admits s s') {canon : String → Option F}
    (consistent : s.Consistent canon) (listed : ∀ authority, (s.outs authority).Listed)
    {authority name : String} {content : F} (safe : (s.outs authority).Safe name content) :
    (s'.outs authority).Safe name content := by
  cases step with
  | @copied path _ other _ _ copy next known found =>
      by_cases same : authority = other
      · subst same
        have agree : path = name → (s.outs authority).dir.Holds name content → copy = content := by
          rintro rfl held
          have is_ready : isReady path = true :=
            consistent.readyTask path (by simp [next, InTask.readyNames])
          exact Option.some.inj
            ((consistent.ready is_ready found).symm.trans (consistent.mentioned (.inl held)).2)
        rcases safe with held | completed
        · have either := fun same => agree same held
          apply Or.inl
          simp only [copyFile, Function.update_self, QueueDir.Holds, Directory.get_put] at held ⊢
          grind
        · exact Or.inr (by simpa [copyFile] using completed)
      · simpa [copyFile, Function.update_of_ne same] using safe
  | @scan other o known running step =>
      by_cases same : authority = other
      · subst same
        simpa using step.safe (listed authority)
          (fun other mentioned => (consistent.mentioned mentioned).2) safe
      · simpa [Function.update_of_ne same] using safe
  | start | preprocessed =>
      unfold beginDistribute
      split <;> exact safe
  | _ => exact safe

omit [CaseMapping] in
theorem mem_routes {path : String} {names : List String} {authority name : String} {content : F}
    (member : (authority, name, content) ∈ s.routes authorities path names) :
    authority ∈ names ∧ authority ∈ authorities ∧ name = path ∧
      s.inDir.files.get path = some content := by
  simp only [routes, List.mem_flatMap, Option.mem_toList, List.mem_map, List.mem_filter,
    decide_eq_true_eq, Prod.mk.injEq] at member
  grind

theorem Step.delivered (step : Step authorities load faults FreshName s s') {canon : String → Option F}
    (consistent : s.Consistent canon) (listed : ∀ authority, (s.outs authority).Listed)
    (delivered : s.Delivered authorities) : s'.Delivered authorities := by
  have safe : ∀ {authority name content}, (s.outs authority).Safe name content →
      (s'.outs authority).Safe name content := step.safe consistent listed
  have owed_safe : ∀ {authority name content}, (authority, name, content) ∈ s.owed →
      (s'.outs authority).Safe name content := fun member => safe (delivered.owed member)
  cases step with
  | @arrive name content allowed =>
      refine ⟨owed_safe, fun {path} _ _ _ copying => ?_⟩
      obtain ⟨done, copy, split, found, copies⟩ := delivered.copied copying
      refine ⟨done, copy, split, ?_, copies⟩
      have is_ready : isReady path = true := by
        apply consistent.readyTask
        simp [show s.inTask = _ from copying, InTask.readyNames]
      have different : name ≠ path := by
        rintro rfl
        exact allowed (consistent.waiting found)
      simpa [putFile, Directory.get_put, different] using found
  | @copied path names other rest todo copy next known found =>
      refine ⟨owed_safe, ?_⟩
      rintro _ _ _ _ ⟨⟩
      obtain ⟨done, content, split, found', copies⟩ := delivered.copied next
      obtain rfl : copy = content := Option.some.inj (found.symm.trans found')
      refine ⟨done ++ [other], copy, by simp [split], found, fun authority member registered => ?_⟩
      rcases List.mem_append.mp member with before | last
      · exact safe (copies authority before registered)
      · obtain rfl := List.mem_singleton.mp last
        exact Or.inl (Or.inl (by simp [copyFile]))
  | @unknown path names other rest todo next unregistered =>
      refine ⟨owed_safe, ?_⟩
      rintro _ _ _ _ ⟨⟩
      obtain ⟨done, content, split, found, copies⟩ := delivered.copied next
      refine ⟨done ++ [other], content, by simp [split], found, fun authority member registered => ?_⟩
      rcases List.mem_append.mp member with before | last
      · exact copies authority before registered
      · exact absurd (List.mem_singleton.mp last ▸ registered) unregistered
  | @routed path todo obj names some_name next object =>
      refine ⟨owed_safe, ?_⟩
      rintro _ _ _ _ ⟨⟩
      obtain ⟨content, found, _⟩ := Option.bind_eq_some_iff.mp object
      exact ⟨[], content, rfl, found, by simp⟩
  | unlinked next =>
      refine ⟨fun member => ?_, by simp⟩
      rcases List.mem_append.mp member with before | now
      · exact delivered.owed before
      · obtain ⟨routed, registered, rfl, found⟩ := mem_routes now
        obtain ⟨done, content, split, found', copies⟩ := delivered.copied next
        rw [List.append_nil] at split
        obtain rfl := Option.some.inj (found.symm.trans found')
        exact copies _ (split ▸ routed) registered
  | saved content hooked found =>
      refine ⟨owed_safe, fun copying => ?_⟩
      cases hooked.symm.trans copying
  | scan known running step =>
      refine ⟨owed_safe, fun copying => ?_⟩
      obtain ⟨done, content, split, found, copies⟩ := delivered.copied copying
      exact ⟨done, content, split, found, fun authority member registered =>
        safe (copies authority member registered)⟩
  | start | preprocessed =>
      unfold beginDistribute
      split <;> exact ⟨delivered.owed, by simp⟩
  | _ =>
      refine ⟨owed_safe, ?_⟩
      rintro _ _ _ _ ⟨⟩

theorem run_delivered (run : Run authorities load faults FreshName empty s) :
    s.Delivered authorities := by
  induction run with
  | refl => exact empty_delivered authorities
  | tail before step ih =>
      obtain ⟨canon, consistent⟩ := run_consistent before
      exact step.delivered consistent (run_listed before) ih

/-- In every run the files that `distribute` has taken out of the in-queue are safe with the
    registered authorities they were routed to, and what an out queue has stays safe from
    then on, whatever is stopped, cancelled or started. -/
theorem at_least_once (run : Run authorities load faults FreshName empty s) :
    (∀ authority name content, (authority, name, content) ∈ s.owed →
      (s.outs authority).Safe name content) ∧
      ∀ s', Run authorities load faults FreshName s s' →
        ∀ authority name content, (s.outs authority).dir.files.get name = some content →
          (s'.outs authority).Safe name content := by
  constructor
  · intro authority name content owed
    exact (run_delivered run).owed owed
  · intro s' later authority name content found
    induction later with
    | refl => exact Or.inl (Or.inl found)
    | tail between step ih =>
        have before := run.trans between
        obtain ⟨canon, consistent⟩ := run_consistent before
        exact step.safe consistent (run_listed before) ih

end Runs

section Examples

attribute [local instance] asciiCaseMapping

/-- One file travels from the listener converter to the out queue of Traeger1. The pass over that
    queue is cancelled while the file is handled, and the service is killed and started again. -/
private theorem demoRun : ∃ s : Service String,
    Run ["Traeger1"] (fun _ => some demoUser) True FreshName empty s ∧
      ("Traeger1", "001_ready.json", "anna") ∈ s.owed := by
  have unused : FreshName [] "001.json" := nofun
  have registered : "Traeger1" ∈ ["Traeger1"] := List.mem_cons_self
  have run : Run ["Traeger1"] (fun _ => some demoUser) True FreshName (empty : Service String) _ :=
    .single (.arrive "anna" unused)
  have run := (run.tail (.start rfl)).tail (.started rfl rfl)
  have run := ((run.tail (.startTask rfl rfl)).tail (.loaded rfl rfl)).tail (.renamed rfl rfl)
  have run := (run.tail (.preprocessed rfl)).tail (.routed ["Traeger1"] (by decide) rfl rfl)
  have run := (run.tail (.copied rfl registered rfl)).tail (.unlinked rfl)
  have run := run.tail (.scan registered rfl (.startTask rfl))
  have run := run.tail (.scan registered rfl (.pingOk rfl))
  have run := run.tail (.scan registered rfl (.collected rfl rfl))
  have run := run.tail (.scan registered rfl (.sorted rfl))
  have run := run.tail (.scan registered rfl (.called rfl (by decide)))
  have run := run.tail (.scan registered rfl (.ended trivial))
  have run := ((run.tail .crashed).tail (.start rfl)).tail (.started rfl rfl)
  have run := run.tail (.scan registered rfl (.startTask rfl))
  exact ⟨_, run, by decide⟩

theorem at_least_once_demo : ∃ s : Service String,
    ("Traeger1", "001_ready.json", "anna") ∈ s.owed ∧
      (s.outs "Traeger1").Safe "001_ready.json" "anna" := by
  obtain ⟨s, run, owed⟩ := demoRun
  exact ⟨s, owed, (at_least_once run).1 "Traeger1" "001_ready.json" "anna" owed⟩

end Examples

end Service

end IdConnector
