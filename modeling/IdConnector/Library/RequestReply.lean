import Mathlib.Data.List.Infix
import Mathlib.Data.List.Nodup
import Mathlib.Logic.Relation

/-! # Callers of a server that serves one request at a time

Any number of callers send requests and wait for the replies; a caller may give up waiting, and
its request may be served all the same. In between, the state of the server may change for reasons
of its own. However the steps are interleaved, every reply is explained by one order of the events
(`Run.explained`), and a caller who reads after the last write has been answered reads what that
write has left (`Run.reads_last_write`).
-/

namespace Library

/-- Where the caller of a request is. -/
inductive Caller (ρ : Type) where
  | waiting
  | received (reply : ρ)
  | gaveUp

/-- A request with what has become of it. -/
structure Call (μ ρ : Type) where
  request : μ
  /-- The reply of the server, once it has served the request. -/
  reply : Option ρ
  caller : Caller ρ

/-- What changes the state of the server. -/
inductive Event (μ δ σ : Type) where
  /-- It serves a request; what its operations come to is the `outcome`. -/
  | served (call : Nat) (request : μ) (outcome : δ)
  | changed (state : σ)

/-- The calls in the order in which they were made, and the events so far. -/
structure Exchange (μ ρ δ σ : Type) where
  calls : List (Call μ ρ)
  state : σ
  log : List (Event μ δ σ)

namespace Exchange

variable {μ ρ δ σ : Type}

def start (state : σ) : Exchange μ ρ δ σ := ⟨[], state, []⟩

def send (x : Exchange μ ρ δ σ) (request : μ) : Exchange μ ρ δ σ :=
  { x with calls := x.calls ++ [⟨request, none, .waiting⟩] }

def setCaller (x : Exchange μ ρ δ σ) (i : Nat) (call : Call μ ρ) (caller : Caller ρ) :
    Exchange μ ρ δ σ :=
  { x with calls := x.calls.set i { call with caller } }

def change (x : Exchange μ ρ δ σ) (state : σ) : Exchange μ ρ δ σ :=
  { x with state, log := x.log ++ [.changed state] }

end Exchange

open Exchange

section Steps

variable {μ ρ δ σ : Type} (serve : δ → μ → σ → ρ × σ) (internal : σ → σ → Prop)

/-- The server serves the call `i`. -/
def Exchange.serveCall (x : Exchange μ ρ δ σ) (i : Nat) (call : Call μ ρ) (outcome : δ) :
    Exchange μ ρ δ σ where
  calls := x.calls.set i { call with reply := some (serve outcome call.request x.state).1 }
  state := (serve outcome call.request x.state).2
  log := x.log ++ [.served i call.request outcome]

/-- A step of a caller, of the server or of what else changes its state. A request is served at
    most once, in any order, also after its caller has given up. -/
inductive Exchange.Step : Exchange μ ρ δ σ → Exchange μ ρ δ σ → Prop where
  | send (x : Exchange μ ρ δ σ) (request : μ) : Step x (x.send request)
  | serve (x : Exchange μ ρ δ σ) {i : Nat} {call : Call μ ρ} (outcome : δ)
      (made : x.calls[i]? = some call) (fresh : call.reply = none) :
      Step x (x.serveCall serve i call outcome)
  | receive (x : Exchange μ ρ δ σ) {i : Nat} {call : Call μ ρ} {reply : ρ}
      (made : x.calls[i]? = some call) (waits : call.caller = .waiting)
      (replied : call.reply = some reply) : Step x (x.setCaller i call (.received reply))
  | giveUp (x : Exchange μ ρ δ σ) {i : Nat} {call : Call μ ρ}
      (made : x.calls[i]? = some call) (waits : call.caller = .waiting) :
      Step x (x.setCaller i call .gaveUp)
  | internal (x : Exchange μ ρ δ σ) {state : σ} (changes : internal x.state state) :
      Step x (x.change state)

def Exchange.Run : Exchange μ ρ δ σ → Exchange μ ρ δ σ → Prop :=
  Relation.ReflTransGen (Step serve internal)

/-- A call that is served and answered before anything else happens. -/
def Exchange.afterCall (x : Exchange μ ρ δ σ) (request : μ) (outcome : δ) : Exchange μ ρ δ σ where
  calls := x.calls ++ [⟨request, some (serve outcome request x.state).1,
    .received (serve outcome request x.state).1⟩]
  state := (serve outcome request x.state).2
  log := x.log ++ [.served x.calls.length request outcome]

/-! ## Events -/

def Event.run (s : σ) : Event μ δ σ → σ
  | .served _ request outcome => (serve outcome request s).2
  | .changed state => state

def Event.call? : Event μ δ σ → Option Nat
  | .served i _ _ => some i
  | .changed _ => none

/-- The state after a sequence of events. -/
def replay (s : σ) (log : List (Event μ δ σ)) : σ := log.foldl (Event.run serve) s

def Event.Possible (s : σ) : Event μ δ σ → Prop
  | .served _ _ _ => True
  | .changed state => internal s state

/-- Every event of the sequence can happen where it does. -/
def PossibleLog (s : σ) : List (Event μ δ σ) → Prop
  | [] => True
  | event :: rest => event.Possible internal s ∧ PossibleLog (event.run serve s) rest

/-- The calls that the sequence serves. -/
def servedCalls (log : List (Event μ δ σ)) : List Nat := log.filterMap Event.call?

/-- The reply is the one that the call got in its place of the sequence. -/
def RepliedIn (s : σ) (log : List (Event μ δ σ)) (i : Nat) (request : μ) (reply : ρ) : Prop :=
  ∃ before outcome after, log = before ++ .served i request outcome :: after ∧
    reply = (serve outcome request (replay serve s before)).1

/-- The sequence of events explains the state and every reply, and serves no call twice. -/
structure Exchange.Explained (s : σ) (x : Exchange μ ρ δ σ) : Prop where
  state : x.state = replay serve s x.log
  possible : PossibleLog serve internal s x.log
  once : (servedCalls x.log).Nodup
  replied : ∀ (i : Nat) (call : Call μ ρ) (reply : ρ), x.calls[i]? = some call →
    call.reply = some reply → RepliedIn serve s x.log i call.request reply
  served : ∀ (i : Nat) (request : μ) (outcome : δ), .served i request outcome ∈ x.log →
    ∃ call reply, x.calls[i]? = some call ∧ call.request = request ∧ call.reply = some reply
  received : ∀ (i : Nat) (call : Call μ ρ) (reply : ρ), x.calls[i]? = some call →
    call.caller = .received reply → call.reply = some reply

end Steps

section Explaining

variable {μ ρ δ σ : Type} {serve : δ → μ → σ → ρ × σ} {internal : σ → σ → Prop}
  {s : σ} {x y : Exchange μ ρ δ σ}

theorem replay_append (s : σ) (log more : List (Event μ δ σ)) :
    replay serve s (log ++ more) = replay serve (replay serve s log) more :=
  List.foldl_append

theorem servedCalls_append (log more : List (Event μ δ σ)) :
    servedCalls (log ++ more) = servedCalls log ++ servedCalls more :=
  List.filterMap_append

theorem servedCalls_served (i : Nat) (request : μ) (outcome : δ) (log : List (Event μ δ σ)) :
    servedCalls (.served i request outcome :: log) = i :: servedCalls log := rfl

theorem mem_servedCalls {log : List (Event μ δ σ)} {i : Nat} :
    i ∈ servedCalls log ↔ ∃ request outcome, .served i request outcome ∈ log := by
  simp only [servedCalls, List.mem_filterMap]
  constructor
  · rintro ⟨event, member, isCall⟩
    cases event with
    | served j request outcome =>
        obtain rfl : j = i := Option.some.inj isCall
        exact ⟨request, outcome, member⟩
    | changed state => cases isCall
  · rintro ⟨request, outcome, member⟩
    exact ⟨_, member, rfl⟩

theorem PossibleLog.append {log more : List (Event μ δ σ)} :
    PossibleLog serve internal s (log ++ more) ↔
      PossibleLog serve internal s log ∧ PossibleLog serve internal (replay serve s log) more := by
  induction log generalizing s with
  | nil => simp [PossibleLog, replay]
  | cons event rest ih =>
      simp only [List.cons_append, PossibleLog, ih, and_assoc]
      rfl

theorem RepliedIn.append {log : List (Event μ δ σ)} {i : Nat} {request : μ} {reply : ρ}
    (replied : RepliedIn serve s log i request reply) (more : List (Event μ δ σ)) :
    RepliedIn serve s (log ++ more) i request reply := by
  obtain ⟨before, outcome, after, rfl, same⟩ := replied
  exact ⟨before, outcome, after ++ more, by simp, same⟩

theorem RepliedIn.served {log : List (Event μ δ σ)} {i : Nat} {request : μ} {reply : ρ}
    (replied : RepliedIn serve s log i request reply) : i ∈ servedCalls log := by
  obtain ⟨before, outcome, after, rfl, -⟩ := replied
  exact mem_servedCalls.mpr ⟨request, outcome, by simp⟩

theorem explained_start (s : σ) :
    (Exchange.start s : Exchange μ ρ δ σ).Explained serve internal s where
  state := rfl
  possible := trivial
  once := List.nodup_nil
  replied i call reply made := by simp [Exchange.start] at made
  served i request outcome member := by simp [Exchange.start] at member
  received i call reply made := by simp [Exchange.start] at made

/-- A call that has been made is among the old ones or the new one. -/
theorem made_append {calls : List (Call μ ρ)} {new call : Call μ ρ} {i : Nat}
    (made : (calls ++ [new])[i]? = some call) : calls[i]? = some call ∨ call = new := by
  by_cases old : i < calls.length
  · rw [List.getElem?_append_left old] at made
    exact .inl made
  · rw [List.getElem?_append_right (by omega)] at made
    exact .inr (List.eq_of_mem_singleton (List.mem_of_getElem? made))

theorem made_of_old {calls : List (Call μ ρ)} {call : Call μ ρ} {i : Nat}
    (made : calls[i]? = some call) (more : List (Call μ ρ)) :
    (calls ++ more)[i]? = some call := by
  obtain ⟨there, -⟩ := List.getElem?_eq_some_iff.mp made
  rw [List.getElem?_append_left there, made]

/-- After a call has been replaced, each call is the new one or an old one elsewhere. -/
theorem made_set {calls : List (Call μ ρ)} {new call : Call μ ρ} {i j : Nat}
    (made : (calls.set i new)[j]? = some call) :
    (j = i ∧ call = new) ∨ (j ≠ i ∧ calls[j]? = some call) := by
  by_cases here : i = j
  · subst here
    rw [List.getElem?_set_self'] at made
    obtain ⟨_, -, same⟩ := Option.map_eq_some_iff.mp made
    exact .inl ⟨rfl, same.symm⟩
  · rw [List.getElem?_set_ne here] at made
    exact .inr ⟨Ne.symm here, made⟩

theorem set_made {calls : List (Call μ ρ)} {old : Call μ ρ} {i : Nat}
    (made : calls[i]? = some old) (new : Call μ ρ) : (calls.set i new)[i]? = some new := by
  obtain ⟨there, -⟩ := List.getElem?_eq_some_iff.mp made
  exact List.getElem?_set_self there

theorem Exchange.Explained.send (explained : x.Explained serve internal s) (request : μ) :
    (x.send request).Explained serve internal s where
  state := explained.state
  possible := explained.possible
  once := explained.once
  replied i call reply made replied := by
    rcases made_append made with old | rfl
    · exact explained.replied i call reply old replied
    · cases replied
  served i request outcome member := by
    obtain ⟨call, reply, made, rest⟩ := explained.served i request outcome member
    exact ⟨call, reply, made_of_old made _, rest⟩
  received i call reply made received := by
    rcases made_append made with old | rfl
    · exact explained.received i call reply old received
    · cases received

theorem Exchange.Explained.setCaller (explained : x.Explained serve internal s) {i : Nat}
    {call : Call μ ρ} (made : x.calls[i]? = some call) {caller : Caller ρ}
    (replied : ∀ reply, caller = .received reply → call.reply = some reply) :
    (x.setCaller i call caller).Explained serve internal s where
  state := explained.state
  possible := explained.possible
  once := explained.once
  replied j call' reply made' replied' := by
    rcases made_set made' with ⟨rfl, rfl⟩ | ⟨-, old⟩
    · exact explained.replied j call reply made replied'
    · exact explained.replied j call' reply old replied'
  served j request outcome member := by
    obtain ⟨call', reply, made', same, replied'⟩ := explained.served j request outcome member
    by_cases here : i = j
    · subst here
      obtain rfl : call = call' := Option.some.inj (made.symm.trans made')
      exact ⟨_, reply, set_made made _, same, replied'⟩
    · exact ⟨call', reply, (List.getElem?_set_ne here).trans made', same, replied'⟩
  received j call' reply made' received := by
    rcases made_set made' with ⟨rfl, rfl⟩ | ⟨-, old⟩
    · exact replied reply received
    · exact explained.received j call' reply old received

theorem Exchange.Explained.serveCall (explained : x.Explained serve internal s) {i : Nat}
    {call : Call μ ρ} (made : x.calls[i]? = some call) (fresh : call.reply = none) (outcome : δ) :
    (x.serveCall serve i call outcome).Explained serve internal s where
  state := by
    rw [Exchange.serveCall, replay_append, ← explained.state]
    rfl
  possible := PossibleLog.append.mpr ⟨explained.possible, trivial, trivial⟩
  once := by
    have new : i ∉ servedCalls x.log := by
      intro member
      obtain ⟨request, outcome', old⟩ := mem_servedCalls.mp member
      obtain ⟨call', reply, made', -, replied⟩ := explained.served i request outcome' old
      obtain rfl : call = call' := Option.some.inj (made.symm.trans made')
      rw [fresh] at replied
      cases replied
    rw [Exchange.serveCall, servedCalls_append]
    exact List.nodup_append'.mpr ⟨explained.once, List.nodup_singleton _, by
      simpa [servedCalls, Event.call?] using new⟩
  replied j call' reply made' replied := by
    rcases made_set made' with ⟨rfl, rfl⟩ | ⟨-, old⟩
    · obtain rfl := Option.some.inj replied
      exact ⟨x.log, outcome, [], rfl, by rw [← explained.state]⟩
    · exact (explained.replied j call' reply old replied).append _
  served j request outcome' member := by
    rcases List.mem_append.mp member with old | new
    · obtain ⟨call', reply, made', same, replied⟩ := explained.served j request outcome' old
      by_cases here : i = j
      · subst here
        obtain rfl : call = call' := Option.some.inj (made.symm.trans made')
        exact ⟨_, _, set_made made _, same, rfl⟩
      · exact ⟨call', reply, (List.getElem?_set_ne here).trans made', same, replied⟩
    · cases List.mem_singleton.mp new
      exact ⟨_, _, set_made made _, rfl, rfl⟩
  received j call' reply made' received := by
    rcases made_set made' with ⟨rfl, rfl⟩ | ⟨-, old⟩
    · have replied := explained.received j call reply made received
      rw [fresh] at replied
      cases replied
    · exact explained.received j call' reply old received

theorem Exchange.Explained.change (explained : x.Explained serve internal s) {state : σ}
    (changes : internal x.state state) : (x.change state).Explained serve internal s where
  state := by
    rw [Exchange.change, replay_append]
    rfl
  possible :=
    PossibleLog.append.mpr ⟨explained.possible, explained.state ▸ changes, trivial⟩
  once := by
    have same : servedCalls (x.change state).log = servedCalls x.log := by
      rw [Exchange.change, servedCalls_append]
      exact List.append_nil _
    exact same ▸ explained.once
  replied i call reply made replied := (explained.replied i call reply made replied).append _
  served i request outcome member := by
    rcases List.mem_append.mp member with old | new
    · exact explained.served i request outcome old
    · cases List.mem_singleton.mp new
  received := explained.received

theorem Exchange.Explained.step (explained : x.Explained serve internal s)
    (step : Step serve internal x y) : y.Explained serve internal s := by
  cases step with
  | send request => exact explained.send request
  | serve outcome made fresh => exact explained.serveCall made fresh outcome
  | receive made waits replied =>
      refine explained.setCaller made fun reply same => ?_
      cases same
      exact replied
  | giveUp made waits => exact explained.setCaller made fun reply same => by cases same
  | internal changes => exact explained.change changes

/-- Whatever the callers and the server have done, the events explain it. -/
theorem Exchange.Run.explained (run : Run serve internal x y)
    (explained : x.Explained serve internal s) : y.Explained serve internal s := by
  induction run with
  | refl => exact explained
  | tail _ step ih => exact ih.step step

/-! ## What stays -/

/-- The events so far and the requests of the calls stay as they are. -/
structure Exchange.Grows (x y : Exchange μ ρ δ σ) : Prop where
  log : x.log <+: y.log
  length : x.calls.length ≤ y.calls.length
  request : ∀ (i : Nat) (call : Call μ ρ), x.calls[i]? = some call →
    ∃ call', y.calls[i]? = some call' ∧ call'.request = call.request

theorem Exchange.grows_set {i : Nat} {old new : Call μ ρ} (made : x.calls[i]? = some old)
    (calls : y.calls = x.calls.set i new) (same : new.request = old.request)
    (log : x.log <+: y.log) : x.Grows y where
  log := log
  length := by rw [calls, List.length_set]
  request j call there := by
    rw [calls]
    by_cases here : i = j
    · subst here
      obtain rfl : old = call := Option.some.inj (made.symm.trans there)
      exact ⟨new, set_made made new, same⟩
    · exact ⟨call, (List.getElem?_set_ne here).trans there, rfl⟩

theorem Exchange.Step.grows (step : Step serve internal x y) : x.Grows y := by
  cases step with
  | send request =>
      refine ⟨List.prefix_rfl, by simp [Exchange.send], fun i call made => ?_⟩
      exact ⟨call, made_of_old made _, rfl⟩
  | serve outcome made fresh => exact grows_set made rfl rfl (List.prefix_append _ _)
  | receive made waits replied => exact grows_set made rfl rfl List.prefix_rfl
  | giveUp made waits => exact grows_set made rfl rfl List.prefix_rfl
  | internal changes => exact ⟨List.prefix_append _ _, le_rfl, fun i call made => ⟨call, made, rfl⟩⟩

theorem Exchange.Run.grows (run : Run serve internal x y) : x.Grows y := by
  induction run with
  | refl => exact ⟨List.prefix_rfl, le_rfl, fun i call made => ⟨call, made, rfl⟩⟩
  | tail _ step ih =>
      have more := step.grows
      refine ⟨ih.log.trans more.log, ih.length.trans more.length, fun i call made => ?_⟩
      obtain ⟨call', made', same⟩ := ih.request i call made
      obtain ⟨call'', made'', same'⟩ := more.request i call' made'
      exact ⟨call'', made'', same'.trans same⟩

/-! ## The order of the events -/

theorem prefix_before {α : Type} {log before after : List α} {event : α}
    (initial : log <+: before ++ event :: after) (new : event ∉ log) : log <+: before := by
  obtain ⟨more, same⟩ := initial
  rcases List.append_eq_append_iff.mp same with ⟨rest, longer, -⟩ | ⟨rest, shorter, tail⟩
  · exact ⟨rest, longer.symm⟩
  · cases rest with
    | nil =>
        rw [shorter, List.append_nil]
    | cons first others =>
        obtain ⟨rfl, -⟩ := List.cons.inj tail
        exact absurd (by simp [shorter]) new

/-- Calls that have not been made are not served. -/
theorem Exchange.Explained.unserved (explained : x.Explained serve internal s) {i : Nat}
    (later : x.calls.length ≤ i) (request : μ) (outcome : δ) :
    .served i request outcome ∉ x.log := by
  intro member
  obtain ⟨call, -, made, -⟩ := explained.served i request outcome member
  obtain ⟨there, -⟩ := List.getElem?_eq_some_iff.mp made
  omega

theorem Exchange.Explained.answered (explained : x.Explained serve internal s) {i : Nat}
    {call : Call μ ρ} {reply : ρ} (made : x.calls[i]? = some call)
    (received : call.caller = .received reply) :
    RepliedIn serve s x.log i call.request reply :=
  explained.replied i call reply made (explained.received i call reply made received)

theorem Exchange.run_afterCall (x : Exchange μ ρ δ σ) (request : μ) (outcome : δ) :
    Run serve internal (x.send request) (x.afterCall serve request outcome) := by
  have sent : (x.send request).calls[x.calls.length]? = some ⟨request, none, .waiting⟩ := by
    simp [send]
  let served := (x.send request).serveCall serve x.calls.length ⟨request, none, .waiting⟩ outcome
  have serves : Step serve internal (x.send request) served := .serve _ outcome sent rfl
  have made : served.calls[x.calls.length]? =
      some ⟨request, some (serve outcome request x.state).1, .waiting⟩ := by
    simp [served, serveCall, send]
  have receives : Step serve internal served (x.afterCall serve request outcome) := by
    have step : Step serve internal served _ := .receive served made rfl rfl
    have last : ∀ call : Call μ ρ, (x.calls ++ [call]).set x.calls.length = fun new =>
        x.calls ++ [new] := by
      intro call
      funext new
      rw [List.set_append_right _ _ le_rfl, Nat.sub_self, List.set_cons_zero]
    simpa only [served, serveCall, setCaller, send, afterCall, last] using step
  exact .tail (.single serves) receives

/-! ## Reading what was written last -/

/-- A view of the state that only some requests change; of everything else it stays the same in
    the given sense. -/
structure KeepsView {ν : Type} (serve : δ → μ → σ → ρ × σ) (internal : σ → σ → Prop)
    (inv : σ → Prop) (view : σ → ν) (same : ν → ν → Prop) (writes : μ → Prop) : Prop where
  refl : ∀ v, same v v
  trans : ∀ u v w, same u v → same v w → same u w
  inv_served : ∀ outcome request s, inv s → inv (serve outcome request s).2
  inv_changed : ∀ s s', inv s → internal s s' → inv s'
  served : ∀ outcome request s, inv s → ¬ writes request →
    same (view s) (view (serve outcome request s).2)
  changed : ∀ s s', inv s → internal s s' → same (view s) (view s')

section Views

variable {ν : Type} {inv : σ → Prop} {view : σ → ν} {same : ν → ν → Prop} {writes : μ → Prop}

theorem KeepsView.replay_inv (keeps : KeepsView serve internal inv view same writes)
    {log : List (Event μ δ σ)} (initial : inv s) (possible : PossibleLog serve internal s log) :
    inv (replay serve s log) := by
  induction log generalizing s with
  | nil => exact initial
  | cons event rest ih =>
      cases event with
      | served i request outcome => exact ih (keeps.inv_served _ _ _ initial) possible.2
      | changed state => exact ih (keeps.inv_changed _ _ initial possible.1) possible.2

theorem KeepsView.replay_view (keeps : KeepsView serve internal inv view same writes)
    {log : List (Event μ δ σ)} (initial : inv s) (possible : PossibleLog serve internal s log)
    (others : ∀ i request outcome, .served i request outcome ∈ log → ¬ writes request) :
    same (view s) (view (replay serve s log)) := by
  induction log generalizing s with
  | nil => exact keeps.refl _
  | cons event rest ih =>
      have tail : ∀ i request outcome, .served i request outcome ∈ rest → ¬ writes request :=
        fun i request outcome member => others i request outcome (List.mem_cons_of_mem _ member)
      cases event with
      | served i request outcome =>
          have now := keeps.served outcome request s initial
            (others i request outcome List.mem_cons_self)
          exact keeps.trans _ _ _ now (ih (keeps.inv_served _ _ _ initial) possible.2 tail)
      | changed state =>
          have now := keeps.changed s state initial possible.1
          have after := keeps.inv_changed s state initial possible.1
          exact keeps.trans _ _ _ now (ih after possible.2 tail)

/-- A call made after the last write was answered sees the state as that write left it, if every
    other write that is served at all had been served when it was made. The callers of the other
    writes may have given up. -/
theorem Exchange.Run.reads_last_write (keeps : KeepsView serve internal inv view same writes)
    (initial : inv s) {z : Exchange μ ρ δ σ} (before : Run serve internal (Exchange.start s) x)
    {write : μ} (first : Run serve internal (x.send write) y) (second : Run serve internal y z)
    {written : Call μ ρ} {reply : ρ} (madeWrite : y.calls[x.calls.length]? = some written)
    (answered : written.caller = .received reply)
    {r : Nat} (later : y.calls.length ≤ r) {read : Call μ ρ} {reply' : ρ}
    (madeRead : z.calls[r]? = some read) (answered' : read.caller = .received reply')
    (others : ∀ (i : Nat) (call : Call μ ρ) (reply : ρ), z.calls[i]? = some call →
      writes call.request → call.reply = some reply → i ≠ x.calls.length →
        ∃ (call' : Call μ ρ) (reply' : ρ), x.calls[i]? = some call' ∧ call'.reply = some reply') :
    ∃ outcome outcome' t t', inv t ∧ inv t' ∧ reply = (serve outcome write t).1 ∧
      reply' = (serve outcome' read.request t').1 ∧
      same (view (serve outcome write t).2) (view t') := by
  have explained : x.Explained serve internal s := before.explained (explained_start s)
  have explainedY := first.explained (explained.send write)
  have explainedZ := second.explained explainedY
  obtain rfl : written.request = write := by
    have sent : (x.send write).calls[x.calls.length]? = some ⟨write, none, .waiting⟩ := by
      simp [Exchange.send]
    obtain ⟨call, made, kept⟩ := first.grows.request _ _ sent
    obtain rfl : written = call := Option.some.inj (madeWrite.symm.trans made)
    exact kept
  obtain ⟨early, outcome, late, logY, sameW⟩ := explainedY.answered madeWrite answered
  obtain ⟨seen, outcome', rest, logZ, sameR⟩ := explainedZ.answered madeRead answered'
  -- everything up to the answer to the write comes before the read
  obtain ⟨middle, rfl⟩ : y.log <+: seen :=
    prefix_before (logZ ▸ second.grows.log) (explainedY.unserved later _ _)
  have possible := (PossibleLog.append.mp (logZ ▸ explainedZ.possible)).1
  rw [logY, List.append_assoc, List.cons_append, PossibleLog.append] at possible
  have invT := keeps.replay_inv initial possible.1
  have invAfter := keeps.inv_served outcome written.request _ invT
  have state : replay serve s (y.log ++ middle) =
      replay serve (serve outcome written.request (replay serve s early)).2 (late ++ middle) := by
    rw [logY, List.append_assoc, replay_append]
    rfl
  refine ⟨outcome, outcome', replay serve s early, replay serve s (y.log ++ middle), invT, ?_,
    sameW, sameR, ?_⟩
  · rw [state]
    exact keeps.replay_inv invAfter possible.2.2
  · rw [state]
    refine keeps.replay_view invAfter possible.2.2 fun i request outcome'' member isWrite => ?_
    have listed : .served i request outcome'' ∈ z.log := by
      rw [logZ, logY]
      simp only [List.mem_append, List.mem_cons] at member ⊢
      rcases member with member | member <;> simp [member]
    obtain ⟨call, replied, made, rfl, served⟩ := explainedZ.served i request outcome'' listed
    have once := explainedZ.once
    rw [logZ, logY, List.append_assoc, List.append_assoc, servedCalls_append, List.cons_append,
      ← List.append_assoc late] at once
    have again : i ∈ servedCalls (late ++ middle) := mem_servedCalls.mpr ⟨_, _, member⟩
    have twice : i ∈ servedCalls (.served x.calls.length written.request outcome ::
        (late ++ middle ++ .served r read.request outcome' :: rest)) := by
      rw [← List.singleton_append, servedCalls_append, servedCalls_append]
      exact List.mem_append_right _ (List.mem_append_left _ again)
    obtain ⟨-, onceLater, apart⟩ := List.nodup_append'.mp once
    by_cases own : i = x.calls.length
    · rw [servedCalls_served] at onceLater
      refine (List.nodup_cons.mp onceLater).1 ?_
      rw [← own]
      exact servedCalls_append (late ++ middle) _ ▸ List.mem_append_left _ again
    · obtain ⟨call', reply'', made', before⟩ := others i call replied made isWrite served own
      have initialX : x.log <+: early :=
        prefix_before (logY ▸ first.grows.log) (explained.unserved le_rfl _ _)
      obtain ⟨more, rfl⟩ := initialX
      refine apart ?_ twice
      rw [servedCalls_append]
      exact List.mem_append_left _ (explained.replied i call' reply'' made' before).served

end Views

end Explaining

end Library
