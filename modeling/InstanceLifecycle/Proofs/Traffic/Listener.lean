import InstanceLifecycle.Probe.Listen
import InstanceLifecycle.Proofs.Event.Chain
import InstanceLifecycle.Proofs.Traffic.Likeness
import InstanceLifecycle.Proofs.Traffic.Overtaking
import InstanceLifecycle.Proofs.Traffic.Provenance

/-!
# Who sees the listener and the reporters

A registration whose listener cannot be bound goes on as if it could, and what reporters answer to
events is swallowed. So two runs with the same moves should not differ whatever the listener comes
to and whoever is reported to. This is compared step by step: controllers that differ in the
listener only make steps that lead to the same stage with the same effects, but for log entries.
A call that comes to the listener is answered at once if the address is written in numbers. If a
name has to be looked up first, other calls go on in the meantime, and they wait for the listener or
not according to whether it was bound before; then only runs with the same outcomes are alike.

Results:

* `Likeness.upToListener`: controllers that differ in the listener only are alike for every
  instance, so that the steps of calls with different listeners match;
* `after_settle`, `after_serve`: a call that is answered makes one step, whether it comes to a
  prompt listener or not;
* `Alike.serve`, `Telemetry.alike_run`: moves with prompt listeners keep runs alike, and so do moves
  with the same outcomes;
* `telemetry_unseen_iff`: the lifecycle does not depend on the listener and the reporters exactly if
  the address is written in numbers, and each reporter takes every event once and in order;
* `listener_decides`: two runs that a listener with a name in its address keeps apart.
-/

namespace InstanceLifecycle

/-! ## Controllers with different listeners -/

/-- Two controllers that differ at most in the listeners of their probe servers. If these are not
prompt, both are bound or neither is. -/
structure Controller.Alike (isPrompt : Bool) (c d : Controller) : Prop where
  settings : c.settings = d.settings
  states : c.states = d.states
  summaries : c.summaries = d.summaries
  routes : c.server.routes = d.server.routes
  address : isPrompt = false → c.server.address = d.server.address

protected theorem Controller.Alike.refl (isPrompt : Bool) (c : Controller) : c.Alike isPrompt c :=
  ⟨rfl, rfl, rfl, rfl, fun _ => rfl⟩

/-- Whether an effect is more than a log entry or the count of a listener that could not
be bound. -/
def Effect.matters : Effect → Bool
  | log _ => false
  | count .probeBindFailure _ => false
  | _ => true

/-- Two steps that lead to the same stage with the same effects, but for log entries and the
listener. -/
structure Step.Matches (isPrompt : Bool) {σ : Type} (s s' : Step σ) : Prop where
  controller : s.controller.Alike isPrompt s'.controller
  stage : s.stage = s'.stage
  effects : s.effects.filter Effect.matters = s'.effects.filter Effect.matters

/-- Controllers that differ in their listeners only are alike for every instance. -/
def Likeness.upToListener (isPrompt : Bool) (k : InstanceKey) : Likeness k where
  Like := Controller.Alike isPrompt
  shows := Effect.matters
  isPrompt := isPrompt
  Allows binding binding' := isPrompt = false → binding = binding'
  settings h := h.settings
  states h := congrArg (Table.get? · k) h.states
  summaries h := congrArg (Table.get? · k) h.summaries
  address h := h.address
  insert_state h s :=
    ⟨h.settings, congrArg (Table.insert · k s) h.states, h.summaries, h.routes, h.address⟩
  insert_summary h p :=
    ⟨h.settings, h.states, congrArg (Table.insert · k p) h.summaries, h.routes, h.address⟩
  insert_route h path handler :=
    ⟨h.settings, h.states, h.summaries, congrArg (Table.insert · path handler) h.routes, h.address⟩
  run h allowed :=
    ⟨h.settings, h.states, h.summaries,
      (ProbeServer.routes_run ..).trans (h.routes.trans (ProbeServer.routes_run ..).symm),
      fun slow => by simp only [ProbeServer.address_run, h.address slow, allowed slow]⟩
  shows_log _ := rfl
  shows_bindFailure _ := rfl
  shows_installed h path := by
    unfold ProbeServer.has
    rw [h.routes]

theorem Step.Matches.of_likeness {isPrompt : Bool} {k : InstanceKey} {σ : Type} {s s' : Step σ}
    (h : (Likeness.upToListener isPrompt k).Matches s s') : s.Matches isPrompt s' :=
  ⟨h.controller, h.stage, h.effects⟩

namespace Traffic

/-! ## Traffic with a listener -/

/-- Whether a deed is more than a log entry or an encounter with the listener. -/
def Deed.matters : Deed → Bool
  | told (.register (.bound _)) => false
  | reached (.register (.binding _)) => false
  | effect x => x.matters
  | _ => true

/-- A call that waits for the listener is answered. -/
def settle (binding : Nat → Except String String) (t : Traffic) (n : Nat) : Traffic :=
  match t.stage? n with
  | some (.register (.binding _)) => t.step (.answer n (.register (.bound (binding n))))
  | _ => t

/-- Takes a move with a listener that comes to these outcomes, one for each call that may have to
wait for it. If the listener is prompt a call is answered as soon as it comes to it; else the answer
is a move of its own, after which other calls may have gone on. -/
def serve (isPrompt : Bool) (binding : Nat → Except String String) (t : Traffic) : Move → Traffic
  | .answer n a =>
    let u := t.step (.answer n (a.bind (binding n)))
    if isPrompt then u.settle binding n else u
  | m => t.step m

/-- Two traffics that differ at most in their listeners and in what was logged and counted about
them. -/
structure Alike (isPrompt : Bool) (t u : Traffic) : Prop where
  timer : t.timer = u.timer
  controller : t.controller.Alike isPrompt u.controller
  calls : t.calls = u.calls
  now : t.now = u.now
  isCancelled : t.isCancelled = u.isCancelled
  trace : t.trace.filter (·.deed.matters) = u.trace.filter (·.deed.matters)

/-- The deeds of a step that matter. -/
theorem filter_deedsOf (s : Step Stage) :
    (deedsOf s).filter Deed.matters = (s.effects.filter Effect.matters).map .effect ++
      [Deed.reached s.stage].filter Deed.matters := by
  rw [deedsOf, List.filter_append, List.filter_map]
  rfl

theorem filter_told (a : Answer) (s : Step Stage) :
    (.told a :: deedsOf s).filter Deed.matters =
      [Deed.told a].filter Deed.matters ++ (deedsOf s).filter Deed.matters := by
  rw [← List.singleton_append, List.filter_append]

/-- What was written down and matters. -/
theorem filter_note (t : Traffic) (n : Nat) (i : Instance) (ds : List Deed) :
    (t.note n i ds).filter (·.deed.matters) = t.trace.filter (·.deed.matters) ++
      (ds.filter Deed.matters).map fun d => ⟨t.now, n, i, d⟩ := by
  rw [note, List.filter_append, List.filter_map]
  rfl

/-- Timers are started by effects that matter. -/
theorem timersOf_filter (now : Nat) (fx : List Effect) :
    timersOf now (fx.filter Effect.matters) = timersOf now fx := by
  unfold timersOf
  rw [List.filterMap_filter]
  congr 1
  funext x
  cases x with
  | count c n => cases c <;> rfl
  | _ => rfl

/-- The traffic after a call was told something and has made a step, but for what does
not matter. -/
structure After (t : Traffic) (n : Nat) (i : Instance) (a : Answer) (s : Step Stage) (v : Traffic) :
    Prop where
  controller : v.controller = s.controller
  calls : v.calls = t.calls.set n ⟨i, s.stage, t.now⟩ ++ timersOf t.now s.effects
  now : v.now = t.now
  timer : v.timer = t.timer
  isCancelled : v.isCancelled = t.isCancelled
  trace : v.trace.filter (·.deed.matters) =
    (t.note n i (.told a :: deedsOf s)).filter (·.deed.matters)

theorem after_proceed (t : Traffic) (n : Nat) (x : Call) (a : Answer) :
    After t n x.inst a (x.resume t.controller a t.now) (t.proceed n x a) :=
  ⟨rfl, rfl, rfl, rfl, rfl, rfl⟩

theorem timersOf_append (now : Nat) (fx gx : List Effect) :
    timersOf now (fx ++ gx) = timersOf now fx ++ timersOf now gx := List.filterMap_append

/-- A call that has come to the listener goes on when it is answered: both steps together
are one. -/
theorem after_bound {t v : Traffic} {n : Nat} {i : Instance} {a : Answer} {s : Step Stage}
    (first : After t n i a s v) {p : Policy} (hs : s.stage = .register (.binding p))
    (hn : n < t.calls.length) (binding : Except String String) :
    After t n i a
      ((ofRegister (Register.followBinding s.controller i p t.now binding)).after s.effects)
      (v.proceed n ⟨i, .register (.binding p), t.now⟩ (.register (.bound binding))) := by
  have second := after_proceed v n ⟨i, .register (.binding p), t.now⟩ (.register (.bound binding))
  have step : Call.resume ⟨i, .register (.binding p), t.now⟩ v.controller
      (.register (.bound binding)) v.now =
      ofRegister (Register.followBinding s.controller i p t.now binding) := by
    rw [first.controller, first.now]
    rfl
  rw [step] at second
  generalize ofRegister (Register.followBinding s.controller i p t.now binding) = r at *
  refine ⟨second.controller, ?_, second.now.trans first.now, second.timer.trans first.timer,
    second.isCancelled.trans first.isCancelled, ?_⟩
  · rw [second.calls, first.calls, first.now, List.set_append_left _ _ (by simpa using hn),
      List.set_set, Step.effects_after, timersOf_append, List.append_assoc]
    rfl
  · rw [second.trace, filter_note, first.trace, filter_note, filter_note, first.now,
      List.append_assoc, ← List.map_append]
    have silent : [Deed.reached s.stage].filter Deed.matters = [] := by
      rw [hs]
      rfl
    have unheard : [Deed.told (.register (.bound binding))].filter Deed.matters = [] := rfl
    congr 2
    rw [filter_told, filter_told, filter_told, filter_deedsOf, filter_deedsOf, filter_deedsOf,
      silent, unheard, Step.effects_after, List.filter_append, List.map_append]
    simp only [List.append_nil, List.nil_append, List.append_assoc, Step.stage_after]

/-- A call that comes to the listener and is answered at once makes one step. -/
theorem after_settle {t : Traffic} {n : Nat} {x : Call} (hx : t.calls[n]? = some x) (a : Answer)
    (binding : Nat → Except String String) :
    After t n x.inst a (boundAtOnce x.inst t.now (binding n) (x.resume t.controller a t.now))
      ((t.proceed n x a).settle binding n) := by
  have first := after_proceed t n x a
  have stage := stage?_proceed hx a
  have call := (goes_proceed hx a).call
  have hn := (List.getElem?_eq_some_iff.mp hx).1
  generalize x.resume t.controller a t.now = s at *
  generalize t.proceed n x a = v at *
  unfold settle boundAtOnce
  rw [stage]
  split
  · next p hs =>
    have hs : s.stage = .register (.binding p) := by simpa using hs
    rw [hs] at call
    rw [step_answer call rfl]
    simp only [hs]
    exact after_bound first hs hn (binding n)
  · next hs =>
    split
    · next p hp => exact absurd hp (by simpa using hs p)
    · exact first

/-! ### Two listeners -/

theorem told_bind (a : Answer) (binding binding' : Except String String) :
    [Deed.told (a.bind binding)].filter Deed.matters =
      [Deed.told (a.bind binding')].filter Deed.matters := by
  cases a with
  | register a => cases a <;> rfl
  | _ => rfl

/-- Whether an answer can come does not depend on the outcome of the listener. -/
theorem accepts_bind (x : Call) (τ : Timer) (isCancelled : Bool) (now : Nat) (a : Answer)
    (binding : Except String String) :
    x.accepts τ isCancelled now (a.bind binding) = x.accepts τ isCancelled now a := by
  cases a with
  | register a =>
    cases a with
    | bound r =>
      obtain ⟨i, stage, since⟩ := x
      cases stage with
      | register s => cases s <;> rfl
      | deregister isProbe s => cases s <;> rfl
      | _ => rfl
    | _ => rfl
  | _ => rfl

/-- A call that is answered makes a step; if the listener is prompt the step does not end there. -/
theorem after_serve {isPrompt : Bool} {binding : Nat → Except String String} {t : Traffic} {n : Nat}
    {x : Call} (hx : t.calls[n]? = some x) {a : Answer}
    (ha : x.accepts t.timer t.isCancelled t.now a = true) :
    After t n x.inst (a.bind (binding n))
      (boundIf isPrompt x.inst t.now (binding n)
        (x.resume t.controller (a.bind (binding n)) t.now))
      (t.serve isPrompt binding (.answer n a)) := by
  have step : t.step (.answer n (a.bind (binding n))) = t.proceed n x (a.bind (binding n)) :=
    step_answer hx ((accepts_bind ..).trans ha)
  simp only [serve, step]
  cases isPrompt with
  | true => exact after_settle hx _ binding
  | false => exact after_proceed t n x _

namespace Alike

variable {isPrompt : Bool} {t u : Traffic} (h : t.Alike isPrompt u)
include h

/-- Calls that make matching steps leave matching traffics. -/
theorem of_after {v v' : Traffic} {n : Nat} {i : Instance} {a a' : Answer} {s s' : Step Stage}
    (hv : After t n i a s v) (hv' : After u n i a' s' v') (hs : s.Matches isPrompt s')
    (ha : [Deed.told a].filter Deed.matters = [Deed.told a'].filter Deed.matters) :
    v.Alike isPrompt v' := by
  refine ⟨?_, ?_, ?_, ?_, ?_, ?_⟩
  · rw [hv.timer, hv'.timer, h.timer]
  · rw [hv.controller, hv'.controller]
    exact hs.controller
  · rw [hv.calls, hv'.calls, h.calls, h.now, hs.stage, ← timersOf_filter, hs.effects,
      timersOf_filter]
  · rw [hv.now, hv'.now, h.now]
  · rw [hv.isCancelled, hv'.isCancelled, h.isCancelled]
  · rw [hv.trace, hv'.trace, filter_note, filter_note, h.trace, h.now, filter_told, filter_told,
      filter_deedsOf, filter_deedsOf, ha, hs.effects, hs.stage]

/-- Calls that begin with matching steps leave matching traffics. -/
theorem launch (i : Instance) {s s' : Step Stage} (hs : s.Matches isPrompt s') :
    (t.launch i s).Alike isPrompt (u.launch i s') := by
  refine ⟨h.timer, hs.controller, ?_, h.now, h.isCancelled, ?_⟩
  · show t.calls ++ [_] = u.calls ++ [_]
    rw [h.calls, h.now, hs.stage]
  · show (t.note t.calls.length i (deedsOf s)).filter _ =
      (u.note u.calls.length i (deedsOf s')).filter _
    rw [filter_note, filter_note, h.trace, h.calls, h.now, filter_deedsOf, filter_deedsOf,
      hs.effects, hs.stage]

variable {binding binding' : Nat → Except String String}
  (allowed : isPrompt = false → binding = binding')
include allowed

/-- A call that waits for the listener goes on in the same way. -/
theorem settle (n : Nat) : (t.settle binding n).Alike isPrompt (u.settle binding' n) := by
  have stage : t.stage? n = u.stage? n := by rw [stage?, stage?, h.calls]
  unfold Traffic.settle
  rw [← stage]
  split
  · next p hs =>
    obtain ⟨⟨i, s, since⟩, hx, hs⟩ := Option.map_eq_some_iff.mp hs
    obtain rfl : s = .register (.binding p) := hs
    rw [step_answer hx rfl, step_answer (h.calls ▸ hx) rfl]
    refine h.of_after (after_proceed ..) (after_proceed ..) ?_ rfl
    rw [← h.now]
    exact .of_likeness <| matches_ofRegister <|
      Register.matches_bound (L := .upToListener isPrompt i.key) h.controller t.now
        fun slow => congrFun (allowed slow) n
  · exact h

/-- A move leaves matching traffics, if the listeners are prompt or come to the same outcomes. -/
theorem serve (m : Move) :
    (t.serve isPrompt binding m).Alike isPrompt (u.serve isPrompt binding' m) := by
  cases m with
  | pass millis =>
    exact ⟨h.timer, h.controller, h.calls, congrArg (· + millis) h.now, h.isCancelled, h.trace⟩
  | register i => exact h.launch i ⟨h.controller, rfl, rfl⟩
  | deregister i isProbe =>
    exact h.launch i <| .of_likeness <| matches_ofDeregister
      (Deregister.matches_start (L := .upToListener isPrompt i.key) h.controller) isProbe
  | cancel => exact ⟨h.timer, h.controller, h.calls, h.now, rfl, h.trace⟩
  | answer n a =>
    have idle : Traffic.Alike isPrompt (if isPrompt then t.settle binding n else t)
        (if isPrompt then u.settle binding' n else u) := by
      split
      · exact h.settle allowed n
      · exact h
    cases hx : t.calls[n]? with
    | none =>
      have hy : u.calls[n]? = none := h.calls ▸ hx
      simpa only [Traffic.serve, Traffic.step, hx, hy] using idle
    | some x =>
      have hy : u.calls[n]? = some x := h.calls ▸ hx
      have same : x.accepts u.timer u.isCancelled u.now a =
          x.accepts t.timer t.isCancelled t.now a := by rw [h.timer, h.isCancelled, h.now]
      cases ha : x.accepts t.timer t.isCancelled t.now a with
      | false =>
        simpa only [Traffic.serve, Traffic.step, hx, hy, accepts_bind, same, ha,
          Bool.false_eq_true, if_false] using idle
      | true =>
        have first : After t n x.inst _ _ (t.serve isPrompt binding (.answer n a)) :=
          after_serve hx ha
        have second : After u n x.inst _ _ (u.serve isPrompt binding' (.answer n a)) :=
          after_serve hy (same.trans ha)
        refine h.of_after first second ?_ (told_bind ..)
        rw [← h.now]
        exact .of_likeness <| matches_call (L := .upToListener isPrompt x.inst.key) h.controller
          x.stage x.since a t.now fun slow => congrFun (allowed slow) n

end Alike

/-! ## Telemetry -/

/-- What callers, the registrar and the reporters see of some traffic: the calls with their results,
the states of all instances, and what calls have done and met with, but for the listener and the
log. -/
structure Lifecycle where
  calls : List Call
  states : RegistrationStates
  summaries : Table InstanceKey PolicySummary
  now : Nat
  isCancelled : Bool
  trace : List Happening

/-- What is seen of some traffic. -/
def lifecycle (t : Traffic) : Lifecycle :=
  ⟨t.calls, t.controller.states, t.controller.summaries, t.now, t.isCancelled,
    t.trace.filter (·.deed.matters)⟩

theorem Alike.lifecycle {isPrompt : Bool} {t u : Traffic} (h : t.Alike isPrompt u) :
    t.lifecycle = u.lifecycle := by
  unfold Traffic.lifecycle
  rw [h.calls, h.controller.states, h.controller.summaries, h.now, h.isCancelled, h.trace]

/-- Whether a call waits for the listener. -/
def Call.isBinding (x : Call) : Bool :=
  match x.stage with
  | .register s => s.isBinding
  | _ => false

/-- Whether some call waits for the listener. -/
def isBinding (t : Traffic) : Bool := t.calls.any Call.isBinding

/-- All that watches the lifecycle: what the listener comes to for each call that may have to wait
for it, a chain of reporters of any kind, and the texts that stand for the times of events. -/
structure Telemetry (α : Type) where
  binding : Nat → Except String String
  offer : α → Event → α × Except ReportError Unit
  reporters : List α
  stamp : Nat → String

/-- The events among some happenings, in order. -/
def emitted (stamp : Nat → String) (hs : List Happening) : List Event :=
  hs.filterMap fun e =>
    match e.deed with
    | .effect (.event kind i info) => some (.ofInstance kind (stamp e.time) i info)
    | _ => none

theorem trace_settle (binding : Nat → Except String String) (t : Traffic) (n : Nat) :
    t.trace <+: (t.settle binding n).trace := by
  unfold settle
  split
  · rw [trace_step]
    exact List.prefix_append ..
  · exact List.prefix_refl _

/-- What was written down stays. -/
theorem trace_serve (isPrompt : Bool) (binding : Nat → Except String String) (t : Traffic)
    (m : Move) : t.trace <+: (t.serve isPrompt binding m).trace := by
  have step (m : Move) : t.trace <+: (t.step m).trace := by
    rw [trace_step]
    exact List.prefix_append ..
  cases m with
  | answer n a =>
    simp only [serve]
    split
    · exact (step _).trans (trace_settle ..)
    · exact step _
  | _ => exact step _

/-- A move with a listener is one move of the traffic, or two. -/
theorem run_of_serve (isPrompt : Bool) (binding : Nat → Except String String) (t : Traffic)
    (m : Move) : ∃ ns, t.serve isPrompt binding m = t.run ns := by
  cases m with
  | answer n a =>
    let first : Move := .answer n (a.bind (binding n))
    simp only [serve, settle]
    split
    · split
      · exact ⟨[first, .answer n (.register (.bound (binding n)))], rfl⟩
      · exact ⟨[first], rfl⟩
    · exact ⟨[first], rfl⟩
  | pass millis => exact ⟨[.pass millis], rfl⟩
  | register i => exact ⟨[.register i], rfl⟩
  | deregister i isProbe => exact ⟨[.deregister i isProbe], rfl⟩
  | cancel => exact ⟨[.cancel], rfl⟩

namespace Telemetry

variable {α β : Type} (A : Telemetry α) (isPrompt : Bool)

/-- Takes a move and reports its events to the chain. -/
def step (s : Traffic × List α) (m : Move) : Traffic × List α :=
  let t := s.1.serve isPrompt A.binding m
  (t, Chain.reportAll A.offer (emitted A.stamp (t.trace.drop s.1.trace.length)) s.2)

/-- Takes some moves. -/
def run (s : Traffic × List α) (ms : List Move) : Traffic × List α := ms.foldl (A.step isPrompt) s

/-- Takes some moves from the start. The listener is prompt if its address is written in numbers;
else a name has to be looked up first, and other calls may go on meanwhile. -/
def watch (t : Traffic) (ms : List Move) : Traffic × List α :=
  A.run (Listen.isNumeric t.controller.server.listen) (t, A.reporters) ms

/-- What is watched is a run of the traffic. -/
theorem exists_run (s : Traffic × List α) (ms : List Move) :
    ∃ ns, (A.run isPrompt s ms).1 = s.1.run ns := by
  induction ms generalizing s with
  | nil => exact ⟨[], rfl⟩
  | cons m ms ih =>
    obtain ⟨ns, rest⟩ := ih (A.step isPrompt s m)
    obtain ⟨first, served⟩ := run_of_serve isPrompt A.binding s.1 m
    refine ⟨first ++ ns, ?_⟩
    rw [run_append, ← served]
    exact rest

/-- Each reporter has taken the events of a run, each once and in order. -/
theorem reporters_run (s : Traffic × List α) (ms : List Move) :
    ∃ es, (A.run isPrompt s ms).1.trace = s.1.trace ++ es ∧
      (A.run isPrompt s ms).2 =
        s.2.map fun r => (emitted A.stamp es).foldl (Chain.take A.offer) r := by
  induction ms generalizing s with
  | nil => exact ⟨[], (List.append_nil _).symm, by simp [run, emitted]⟩
  | cons m ms ih =>
    obtain ⟨rest, htrace, hreporters⟩ := ih (A.step isPrompt s m)
    obtain ⟨first, served⟩ := trace_serve isPrompt A.binding s.1 m
    have took : (A.step isPrompt s m).2 =
        s.2.map fun r => (emitted A.stamp first).foldl (Chain.take A.offer) r := by
      rw [← Chain.reportAll_eq_map]
      simp only [step]
      rw [← served, List.drop_left]
    refine ⟨first ++ rest, ?_, ?_⟩
    · show (A.run isPrompt (A.step isPrompt s m) ms).1.trace = _
      rw [htrace, ← List.append_assoc, served]
      rfl
    · show (A.run isPrompt (A.step isPrompt s m) ms).2 = _
      rw [hreporters, took, List.map_map]
      simp only [emitted, List.filterMap_append, List.foldl_append]
      rfl

/-- Runs with the same moves stay alike, if the listeners are prompt or come to the
same outcomes. -/
theorem alike_run (B : Telemetry β) (allowed : isPrompt = false → A.binding = B.binding)
    {s : Traffic × List α} {s' : Traffic × List β} (h : s.1.Alike isPrompt s'.1) (ms : List Move) :
    (A.run isPrompt s ms).1.Alike isPrompt (B.run isPrompt s' ms).1 := by
  induction ms generalizing s s' with
  | nil => exact h
  | cons m ms ih =>
    have served : (A.step isPrompt s m).1.Alike isPrompt (B.step isPrompt s' m).1 :=
      h.serve allowed m
    exact ih served

end Telemetry

/-! ## A listener with a name in its address -/

/-- Settings with a readiness probe. -/
def readySettings : GracefulSettings :=
  { enabled := true, readiness := { enabled := true, path := "/readiness" } }

/-- A listener that always comes to the same outcome, and nobody to report to. -/
def alone (binding : Except String String) : Telemetry Unit :=
  ⟨fun _ => binding, fun _ _ => ((), .ok ()), [], fun _ => ""⟩

/-- An instance that comes online first. -/
def firstInstance : Instance := ⟨"default", "echo", "127.0.0.1", 8080, none, none, none, none⟩

/-- An instance that two calls register. -/
def secondInstance : Instance := ⟨"default", "echo", "127.0.0.1", 8081, none, none, none, none⟩

/-- An instance comes online. Then two calls register another one. The earlier one wants a probe,
and may have to wait for the listener; the later one comes under a rule without probes. -/
def contend (i j : Instance) : List Move :=
  let ruled (n : Nat) (r : Option RemoteRule) : Move := .answer n (.register (.rule (.ok r)))
  let bound (n : Nat) : Move := .answer n (.register (.bound (.ok "")))
  let accepted (n : Nat) : Move := .answer n (.register (.registered (.ok ⟨"ins-1", false⟩)))
  [.register i, ruled 0 none, bound 0, accepted 0, .register j, .register j, ruled 1 none,
    ruled 2 (some unprobedRule), bound 1, accepted 1, accepted 2]

/-- Whether a registration that is over has succeeded. -/
def Call.hasSucceeded? (x : Call) : Option Bool :=
  match x.stage with
  | .register (.done r) => some r.isOk
  | _ => none

/-- Where no call has begun, traffics are alike whatever their listeners are called. -/
theorem alike_start (isPrompt : Bool) (τ : Timer) (settings : GracefulSettings)
    (listen listen' : String) :
    (start τ settings { listen }).Alike isPrompt (start τ settings { listen := listen' }) :=
  ⟨rfl, ⟨rfl, rfl, rfl, rfl, fun _ => rfl⟩, rfl, rfl, rfl, rfl⟩

/-- What comes of contending calls, if a name has to be looked up for the listener. It does not
depend on the name. -/
theorem lifecycle_contend {listen : String} (named : Listen.isNumeric listen = false)
    (binding : Except String String) :
    ((alone binding).watch (start .thirtyYears readySettings { listen })
        (contend firstInstance secondInstance)).1.lifecycle =
      ((alone binding).run false (start .thirtyYears readySettings { listen := "localhost:9090" }, [])
        (contend firstInstance secondInstance)).1.lifecycle := by
  unfold Telemetry.watch
  have slow : Listen.isNumeric (start .thirtyYears readySettings
      { listen }).controller.server.listen = false := named
  rw [slow]
  exact (Telemetry.alike_run _ false _ (fun _ => rfl) (alike_start false ..) _).lifecycle

/-- The lifecycle is the same whatever the listener comes to and whoever is reported to, exactly if
the address of the listener is written in numbers, so that no other call goes on while one waits for
it. And each reporter of a chain takes every event that was reported, once and in order, whatever
the others answer; a report changes nothing but the reporters. -/
theorem telemetry_unseen_iff (listen : String) :
    (Listen.isNumeric listen = true ↔
      ∀ (α β : Type) (A : Telemetry α) (B : Telemetry β) (τ : Timer) (settings : GracefulSettings)
        (server : ProbeServer) (ms : List Move), server.listen = listen →
        (A.watch (start τ settings server) ms).1.isBinding = false →
        (B.watch (start τ settings server) ms).1.isBinding = false →
        (A.watch (start τ settings server) ms).1.lifecycle =
          (B.watch (start τ settings server) ms).1.lifecycle) ∧
    (∀ (α : Type) (A : Telemetry α) (τ : Timer) (settings : GracefulSettings)
        (server : ProbeServer) (ms : List Move), ∃ ns,
        let u := (start τ settings server).run ns
        A.watch (start τ settings server) ms =
          (u, A.reporters.map fun r => (emitted A.stamp u.trace).foldl (Chain.take A.offer) r)) ∧
    ∀ (w : Rehearsal.World) (e : Event),
      (w.report e).sinks.toList = Chain.report Rehearsal.Sink.offer e w.sinks.toList ∧
        (w.report e).circumstances = w.circumstances := by
  refine ⟨⟨?_, fun same => ?_⟩, fun α A τ settings server ms => ?_,
    fun w e => ⟨w.sinks_report e, w.circumstances_report e⟩⟩
  · rintro numeric α β A B τ settings server ms rfl - -
    have alike : (start τ settings server).Alike true (start τ settings server) :=
      ⟨rfl, .refl .., rfl, rfl, rfl, rfl⟩
    have prompt : Listen.isNumeric (start τ settings server).controller.server.listen = true :=
      numeric
    unfold Telemetry.watch
    rw [prompt]
    exact (Telemetry.alike_run A true B nofun alike ms).lifecycle
  · by_contra numeric
    have named : Listen.isNumeric listen = false := by simpa using numeric
    have bound := lifecycle_contend named (.ok "127.0.0.1:9090")
    have free := lifecycle_contend named (.error "in use")
    have calm {t u : Traffic} (h : t.lifecycle = u.lifecycle) (calm : u.isBinding = false) :
        t.isBinding = false :=
      (congrArg (fun l => l.calls.any Call.isBinding) h).trans calm
    have seen := same Unit Unit (alone (.ok "127.0.0.1:9090")) (alone (.error "in use")) .thirtyYears
      readySettings { listen } (contend firstInstance secondInstance) rfl
      (calm bound (by decide +kernel)) (calm free (by decide +kernel))
    rw [bound, free] at seen
    exact absurd (congrArg (fun l => l.calls.map Call.hasSucceeded?) seen) (by decide +kernel)
  · let s₀ := (start τ settings server, A.reporters)
    let isPrompt := Listen.isNumeric server.listen
    obtain ⟨ns, hns⟩ := A.exists_run isPrompt s₀ ms
    obtain ⟨es, trace, reporters⟩ := A.reporters_run isPrompt s₀ ms
    refine ⟨ns, Prod.ext hns ?_⟩
    have all : ((start τ settings server).run ns).trace = es := by
      rw [← hns, trace]
      exact List.nil_append _
    rw [all]
    exact reporters

/-- The same calls with the same answers, and a name in the address of the listener: which of two
calls registers the instance depends on whether the listener could be bound before. -/
theorem listener_decides :
    let t := start .thirtyYears readySettings { listen := "localhost:9090" }
    let ends (binding : Except String String) :=
      ((alone binding).watch t (contend firstInstance secondInstance)).1
    ((ends (.ok "127.0.0.1:9090")).calls.map Call.hasSucceeded? =
        [some true, some true, some false] ∧
      (ends (.ok "127.0.0.1:9090")).isBinding = false) ∧
    ((ends (.error "Address already in use")).calls.map Call.hasSucceeded? =
        [some true, some false, some true] ∧
      (ends (.error "Address already in use")).isBinding = false) := by
  decide +kernel

end Traffic

end InstanceLifecycle
