import InstanceLifecycle.Proofs.Rehearsal.Turns
import InstanceLifecycle.Rehearsal.Session
import InstanceLifecycle.Rehearsal.Setup

/-!
# Sessions run the controller

Whatever is done in a session, what it does to the controller is a run of its turns, from a
controller that was just created. In a session that neither shuts the controller down nor runs or
stops the probe server, or gives it handlers, past the controller, this is a run of moves of the
traffic. So what holds after every run holds in every session.

Results:

* `Follows.run`, `Follows.act`: a command and an action continue the run of the controller;
* `exists_run_session`: after every session the controller is that after a run from there;
* `exists_moves_session`: after a calm one its traffic is that after a run of moves.
-/

namespace InstanceLifecycle.Rehearsal

/-- Whether an action installs a handler by itself, or runs or stops the probe server. -/
def Action.isServing : Action → Bool
  | run c _ => c.isServing
  | handle .. => true
  | _ => false

namespace World

namespace Follows

variable {w : World} {c₀ : Traffic.Closing} {isCalm : Bool}

/-! ## Running -/

theorem advance (h : w.Follows c₀ isCalm) (time : Nat) : (w.advance time).Follows c₀ isCalm :=
  (h.move (.pass (time - w.now))).wakeAll _

theorem settleWithin (h : w.Follows c₀ isCalm) (fuel : Nat) :
    (World.settleWithin fuel w).Follows c₀ isCalm := by
  induction fuel generalizing w with
  | zero => exact h
  | succ fuel ih =>
    unfold World.settleWithin
    split
    · next u hu => exact ih (h.turn? hu)
    · exact h

theorem awaitWithin (h : w.Follows c₀ isCalm) (n fuel : Nat) :
    (World.awaitWithin n fuel w).Follows c₀ isCalm := by
  induction fuel generalizing w with
  | zero => exact h
  | succ fuel ih =>
    unfold World.awaitWithin
    split
    · exact h
    · split
      · next u hu => exact ih (h.turn? hu)
      · split
        · exact ih (h.advance _)
        · exact h

/-- A command that is carried out continues the run of the controller. -/
theorem run (h : w.Follows c₀ isCalm) {c : Command} (calm : isCalm = true → c.isServing = false) :
    (w.run c).1.Follows c₀ isCalm := by
  have ready : isCalm = true → (Job.begin c).isServing = false := calm
  have begun := h.put (n := 0) ready (.until w.now .ready)
  exact awaitWithin (w := { w.put 0 (.begin c) (.until w.now .ready) with running := some 0 })
    (begun.of_eq rfl rfl) 0 turnBudget

theorem launch (h : w.Follows c₀ isCalm) {c : Command}
    (calm : isCalm = true → c.isServing = false) (name : String) :
    (w.launch name c).Follows c₀ isCalm :=
  spawn (w := { w with names := (name, w.nextTask) :: w.names }) (h.of_eq rfl rfl) calm

/-! ## Actions -/

/-- What each of some steps continues, all of them continue, whatever else they collect. -/
theorem foldl {α β : Type} {f : World × β → α → World × β} (h : w.Follows c₀ isCalm) (b : β)
    {as : List α}
    (step : ∀ a ∈ as, ∀ v c, v.Follows c₀ isCalm → (f (v, c) a).1.Follows c₀ isCalm) :
    (as.foldl f (w, b)).1.Follows c₀ isCalm := by
  induction as generalizing w b with
  | nil => exact h
  | cons a as ih =>
    exact ih (step a List.mem_cons_self w b h) _ fun a ha => step a (List.mem_cons_of_mem _ ha)

theorem offer (h : w.Follows c₀ isCalm) (e : Event) (j : Nat) : (w.offer e j).1.Follows c₀ isCalm :=
  h.of_circumstances (circumstances_offer ..)

theorem offerAll (h : w.Follows c₀ isCalm) (i : Instance) (kinds : List EventKind) :
    (w.offerAll i kinds).1.Follows c₀ isCalm := by
  exact h.foldl (f := fun x k =>
      ((x.1.offer (.ofInstance k x.1.stamp i none) 0).1,
        x.2 ++ [(x.1.offer (.ofInstance k x.1.stamp i none) 0).2]))
    [] fun _ _ _ _ hv => hv.offer ..

theorem runTicks (h : w.Follows c₀ isCalm) (ts : List Tick) :
    (w.runTicks ts).1.Follows c₀ isCalm := by
  have joined (ns : List Nat) {u : World} (hu : u.Follows c₀ isCalm) :
      (ns.foldl (fun w n => (w.run (.join n)).1) u).Follows c₀ isCalm := by
    induction ns generalizing u with
    | nil => exact hu
    | cons n ns ih => exact ih (hu.run fun _ => rfl)
  refine joined _ <| h.foldl (f := fun x t =>
      ((x.1.spawn (.adjust t)).settle, x.2 ++ [x.1.nextTask]))
    [] fun t _ _ _ hv => settleWithin (hv.spawn (c := .adjust t) fun _ => rfl) turnBudget

theorem request (h : w.Follows c₀ isCalm) (method target : String) :
    (w.request method target).1.Follows c₀ isCalm := by
  unfold World.request
  dsimp only
  split
  · exact h
  · split
    · exact h
    · split
      · exact h
      · exact h
      · exact h
      · exact h
      · next i _ =>
        have ran := h.run (c := .offline i) fun _ => rfl
        split <;> next heq => rw [heq] at ran; exact ran

theorem handle (h : w.Follows c₀ isCalm) (noisy : isCalm = false) (path : String)
    (handler : Handler) : (w.handle path handler).1.Follows c₀ isCalm := by
  unfold World.handle
  dsimp only
  split
  · next server _ =>
    have served : (w.serving server).Follows c₀ isCalm := h.turn_of_noisy noisy _
    exact served.of_circumstances (circumstances_perform ..)
  · exact h

/-- Every action continues the run of the controller. -/
theorem act (h : w.Follows c₀ isCalm) {a : Action} (calm : isCalm = true → a.isServing = false) :
    (w.act a).1.Follows c₀ isCalm := by
  cases a with
  | run c name =>
    dsimp only [World.act]
    split
    · exact h
    · cases name with
      | some name => exact h.launch calm name
      | none => exact h.run calm
  | join name =>
    dsimp only [World.act]
    split
    · exact h
    · exact run (w := w.forget name) (h.of_eq rfl rfl) fun _ => rfl
  | isDone name =>
    dsimp only [World.act]
    split <;> exact h
  | request method target => exact h.request ..
  | handle path handler =>
    have noisy : isCalm = false := by simpa [Action.isServing] using calm
    exact h.handle noisy path handler
  | instruct f => exact h.of_eq rfl rfl
  | drop => exact release (w := { w with isDropped := true }) (h.of_eq rfl rfl)
  | parallel ts => exact h.runTicks ts
  | invalidate k =>
    exact performAll (w := { w with adjuster := w.adjuster.invalidate k }) (h.of_eq rfl rfl) _
  | offer i kinds => exact h.offerAll ..
  | report i k => exact h.of_circumstances (circumstances_report ..)
  | _ => exact h

theorem step (h : w.Follows c₀ isCalm) {a : Action} (calm : isCalm = true → a.isServing = false) :
    (w.step a).1.Follows c₀ isCalm :=
  ((h.act calm).settleWithin turnBudget).of_eq rfl rfl

theorem session (h : w.Follows c₀ isCalm) {as : List Action}
    (calm : isCalm = true → ∀ a ∈ as, a.isServing = false) :
    (w.session as).1.Follows c₀ isCalm := by
  exact h.foldl (f := fun x a => ((x.1.step a).1, (x.1.step a).2 :: x.2)) []
    fun a ha _ _ hv => hv.step fun hc => calm hc a ha

/-- In a calm world the traffic is that after a run of moves. -/
theorem exists_moves (h : w.Follows c₀ true) : ∃ ms, w.traffic = c₀.traffic.run ms := by
  obtain ⟨ts, closing, within⟩ := h.turns
  refine ⟨ts.map Traffic.Closing.Turn.move, ?_⟩
  rw [World.traffic, closing]
  exact Traffic.Closing.run_within (within rfl)

/-! ## Setting up -/

theorem withAdjuster (h : w.Follows c₀ isCalm) (s : Settings) :
    (w.withAdjuster s).Follows c₀ isCalm :=
  h.of_eq rfl rfl

theorem withRecorder (h : w.Follows c₀ isCalm) (name : String) (refusal : Option Refusal) :
    (w.withRecorder name refusal).Follows c₀ isCalm :=
  h.of_eq rfl rfl

theorem withReporter (h : w.Follows c₀ isCalm) {name : String} {s : Settings}
    {canLocate : Bool} {u : World}
    (hu : w.withReporter name s canLocate = some u) : u.Follows c₀ isCalm := by
  unfold World.withReporter at hu
  split at hu
  · obtain rfl := Option.some.inj hu
    exact h
  · obtain ⟨r, -, rfl⟩ := Option.map_eq_some_iff.mp hu
    exact (h.withSinks _).spawn fun _ => rfl

theorem withCancellation (h : w.Follows c₀ isCalm) (millis : Option Nat) :
    (w.withCancellation millis).Follows c₀ isCalm := by
  unfold World.withCancellation
  split
  · exact h
  · exact h.cancel
  · exact h.spawn fun _ => rfl

end Follows

/-- A controller that was just created has the settings that it is created with. -/
theorem settings_of_create {s : Settings} {server : ProbeServer} {c : Controller}
    {fx : List Effect} (h : Controller.create s server = .ok (c, fx)) :
    c = { settings := s.graceful, server := c.server } := by
  unfold Controller.create at h
  split at h
  · cases h
    rfl
  · split at h <;> cases h
    rfl

/-- A world that was just created has a controller that was just created. -/
theorem exists_follows_create {s : Settings} {x : Surroundings} {w : World}
    (h : create s x = .ok w) (isCalm : Bool) :
    ∃ server, w.Follows (.start x.timer s.graceful server) isCalm := by
  unfold create at h
  split at h
  · cases h
  · next c fx hc =>
    obtain rfl := Except.ok.inj h
    refine ⟨c.server, Follows.performAll ⟨⟨[], ?_, by simp⟩, fun _ t ht => ?_⟩ fx⟩
    · show ({ traffic := { timer := x.timer, controller := c } } : Traffic.Closing) =
        .start x.timer s.graceful c.server
      rw [settings_of_create hc]
      rfl
    · obtain rfl : t = ⟨.finished .nothing, .never⟩ := by simpa using ht
      rfl

/-- After every session the controller is that after some run from a controller that was just
created, so that whatever holds after every run of turns holds in every session. -/
theorem exists_run_session {s : Settings} {x : Surroundings} {w : World}
    (h : create s x = .ok w) (as : List Action) :
    ∃ server ts,
      (w.session as).1.closing = (Traffic.Closing.start x.timer s.graceful server).run ts := by
  obtain ⟨server, follows⟩ := exists_follows_create h false
  have after : (w.session as).1.Follows _ false := follows.session nofun
  obtain ⟨ts, closing, -⟩ := after.turns
  exact ⟨server, ts, closing⟩

/-- After every calm session the traffic is that after some run of moves, so that whatever holds
after every run of moves holds in every calm session. -/
theorem exists_moves_session {s : Settings} {x : Surroundings} {w : World}
    (h : create s x = .ok w) {as : List Action} (calm : ∀ a ∈ as, a.isServing = false) :
    ∃ server ms, (w.session as).1.traffic = (Traffic.start x.timer s.graceful server).run ms := by
  obtain ⟨server, follows⟩ := exists_follows_create h true
  exact ⟨server, (follows.session fun _ => calm).exists_moves⟩

end World

end InstanceLifecycle.Rehearsal
