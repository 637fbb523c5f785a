import InstanceLifecycle.Proofs.Event.Chain
import InstanceLifecycle.Proofs.Traffic.Shutdown
import InstanceLifecycle.Rehearsal.Turn

/-!
# Tasks take turns of the controller

What the tasks of a rehearsal do to the controller is what the turns of one that may be shut down
do, and nothing else: whatever an action leads to is a run of such turns. Only tasks that run or
stop the probe server, a shutdown among them, do more than move the traffic; a world without them
is calm.

Results:

* `Follows.take`, `Follows.turn`: a move of the traffic and a turn of the controller continue its
  run;
* `Follows.start`, `Follows.resume`: so does a task that begins or goes on, whatever it is for;
* `Follows.turn?`: so does every turn of a task.
-/

namespace InstanceLifecycle.Rehearsal

/-! ## Tasks that leave the probe server alone -/

/-- Whether a command runs or stops the probe server by itself. -/
def Command.isServing : Command → Bool
  | runServer | stopServer | shutdown => true
  | _ => false

/-- Whether a job runs or stops the probe server by itself, or is part of a shutdown. -/
def Job.isServing : Job → Bool
  | begin c => c.isServing
  | runServer => true
  | stopServer _ => true
  | closeReporters _ shutdown => shutdown.isSome
  | awaitConsumer _ shutdown => shutdown.isSome
  | _ => false

namespace World

theorem circumstances_wakeAll (w : World) (ns : List Nat) :
    (w.wakeAll ns).circumstances = w.circumstances := by
  induction ns generalizing w with
  | nil => rfl
  | cons n ns ih => exact (ih (w.wake n)).trans (circumstances_wake w n)

/-- What a world comes from: its controller has taken some turns from this state on. In a calm one
these are moves of the traffic, and no task runs or stops the probe server by itself. -/
structure Follows (w : World) (c₀ : Traffic.Closing) (isCalm : Bool) : Prop where
  turns : ∃ ts, w.closing = c₀.run ts ∧ (isCalm = true → ∀ t ∈ ts, t.isWithin = true)
  calm : isCalm = true → ∀ t ∈ w.tasks, t.job.isServing = false

namespace Follows

variable {w u : World} {c₀ : Traffic.Closing} {isCalm : Bool} {n k : Nat} {job : Job}

/-! ### What does not touch the controller -/

theorem of_eq (h : w.Follows c₀ isCalm) (closing : u.closing = w.closing)
    (tasks : u.tasks = w.tasks) : u.Follows c₀ isCalm := by
  obtain ⟨turns, calm⟩ := h
  exact ⟨closing ▸ turns, tasks ▸ calm⟩

theorem of_circumstances (h : w.Follows c₀ isCalm) (same : u.circumstances = w.circumstances) :
    u.Follows c₀ isCalm :=
  h.of_eq (congrArg Circumstances.closing same) (congrArg Circumstances.tasks same)

theorem rest (h : w.Follows c₀ isCalm) : w.rest.Follows c₀ isCalm := h.of_eq rfl rfl

theorem withSinks (h : w.Follows c₀ isCalm) (sinks : Array Sink) :
    ({ w with sinks } : World).Follows c₀ isCalm := h.of_eq rfl rfl

theorem wake (h : w.Follows c₀ isCalm) (n : Nat) : (w.wake n).Follows c₀ isCalm :=
  h.of_circumstances (circumstances_wake w n)

theorem wakeAll (h : w.Follows c₀ isCalm) (ns : List Nat) : (w.wakeAll ns).Follows c₀ isCalm :=
  h.of_circumstances (circumstances_wakeAll w ns)

theorem link (h : w.Follows c₀ isCalm) (n : Nat) : (w.link n).Follows c₀ isCalm := by
  unfold World.link
  split
  · exact h
  · exact h.of_eq rfl rfl

theorem performAll (h : w.Follows c₀ isCalm) (fx : List Effect) :
    (w.performAll fx).Follows c₀ isCalm :=
  h.of_circumstances (sinks_performAll w fx).2

/-! ### Tasks -/

theorem put (h : w.Follows c₀ isCalm) (calm : isCalm = true → job.isServing = false) (wait : Wait) :
    (w.put n job wait).Follows c₀ isCalm := by
  refine ⟨h.turns, fun hc t ht => ?_⟩
  rcases Array.mem_or_eq_of_mem_setIfInBounds ht with ht | rfl
  · exact h.calm hc t ht
  · exact calm hc

theorem spawn (h : w.Follows c₀ isCalm) {c : Command} (calm : isCalm = true → c.isServing = false) :
    (w.spawn c).Follows c₀ isCalm := by
  refine wake (w := { w with tasks := w.tasks.push ⟨.begin c, .until w.now .ready⟩ })
    ⟨h.turns, fun hc t ht => ?_⟩ _
  rcases Array.mem_push.mp ht with ht | rfl
  · exact h.calm hc t ht
  · exact calm hc

/-! ### Turns of the controller -/

/-- A turn of the controller continues its run. -/
theorem turn (h : w.Follows c₀ isCalm) {t : Traffic.Closing.Turn}
    (within : isCalm = true → t.isWithin = true) : (w.turn t).Follows c₀ isCalm := by
  obtain ⟨⟨ts, closing, calm⟩, tasks⟩ := h
  refine ⟨⟨ts ++ [t], ?_, fun hc u hu => ?_⟩, tasks⟩
  · show w.closing.step t = c₀.run (ts ++ [t])
    rw [closing, Traffic.Closing.run_append]
    rfl
  · rcases List.mem_append.mp hu with hu | hu
    · exact calm hc u hu
    · rw [List.mem_singleton.mp hu]
      exact within hc

/-- Any turn may be taken in a world that is not calm. -/
theorem turn_of_noisy (h : w.Follows c₀ isCalm) (noisy : isCalm = false)
    (t : Traffic.Closing.Turn) : (w.turn t).Follows c₀ isCalm :=
  h.turn fun calm => absurd (noisy.symm.trans calm) (by decide)

/-- A move of the traffic may be taken in every one. -/
theorem move (h : w.Follows c₀ isCalm) (m : Traffic.Move) :
    (w.turn (.within m)).Follows c₀ isCalm :=
  h.turn fun _ => rfl

theorem interrupt (h : w.Follows c₀ isCalm) : w.interrupt.Follows c₀ isCalm :=
  of_eq (h.wakeAll w.tokens.reverse) rfl rfl

/-- A cancellation is a move. -/
theorem cancel (h : w.Follows c₀ isCalm) : w.cancel.Follows c₀ isCalm := h.interrupt.move .cancel

theorem release (h : w.Follows c₀ isCalm) : w.release.Follows c₀ isCalm := by
  unfold World.release
  split
  · exact h.cancel
  · exact h

theorem finish (h : w.Follows c₀ isCalm) (n : Nat) (r : Result) :
    (w.finish n r).Follows c₀ isCalm := by
  have ended : (w.put n (.finished r) .never).Follows c₀ isCalm := h.put (fun _ => rfl) _
  exact (ended.rest.wakeAll _).release

theorem spawnTimer (h : w.Follows c₀ isCalm) (k : Nat) : (w.spawnTimer k).Follows c₀ isCalm := by
  unfold World.spawnTimer
  split
  · exact (h.link _).spawn fun _ => rfl
  · exact h

/-- What follows a move of the traffic continues the run. -/
theorem take (h : w.Follows c₀ isCalm) (m : Traffic.Move) : (w.take m).Follows c₀ isCalm := by
  unfold World.take
  dsimp only
  have moved := h.move m
  generalize List.range' w.nextCall ((w.traffic.step m).calls.length - w.nextCall) = ks
  have done := moved.performAll
    (((w.traffic.step m).trace.drop w.traffic.trace.length).filterMap (·.deed.effect?))
  revert done
  generalize World.performAll _ _ = u
  intro done
  induction ks generalizing u with
  | nil => exact done
  | cons k ks ih => exact ih _ (done.spawnTimer k)

/-! ### Stages -/

section Jobs

variable (h : w.Follows c₀ isCalm) (calm : isCalm = true → job.isServing = false)
include h calm

theorem lookUp (k : ServiceKey) : (w.lookUp n job k).Follows c₀ isCalm := by
  unfold World.lookUp
  split
  · exact h.put calm _
  · exact put (w := w.call _) (h.of_eq rfl rfl) calm _

theorem bindServer : (w.bindServer n job).Follows c₀ isCalm := by
  unfold World.bindServer
  split
  · exact h.put calm _
  · refine put ?_ calm _
    split
    · exact spawn (w := { w with server := some w.nextTask }) (h.of_eq rfl rfl) fun _ => rfl
    · exact h

theorem awaitListener : (w.awaitListener n job).Follows c₀ isCalm := by
  unfold World.awaitListener
  split
  · exact (h.put calm .listener).of_eq rfl rfl
  · exact h.bindServer calm

theorem waitAtGate (i : Instance) (g : GateStage) :
    (w.waitAtGate n job i g).Follows c₀ isCalm := by
  unfold World.waitAtGate
  split
  · exact h.put calm _
  · exact h.put calm _
  · dsimp only
    split
    · exact h.put calm _
    · exact (h.put calm (.arrival _)).of_eq rfl rfl
  · exact h

theorem arrive (q : HealthRequest) : (w.arrive n job q).Follows c₀ isCalm :=
  put (w := World.call { w with script := _ } _) (h.of_eq rfl rfl) calm _

theorem waitForDelivery (d : DeliveryStage) : (w.waitForDelivery n job d).Follows c₀ isCalm := by
  unfold World.waitForDelivery
  split
  · exact put (w := World.call { w with script := _ } _) (h.of_eq rfl rfl) calm _
  · exact put (w := World.call { w with script := _ } _) (h.of_eq rfl rfl) calm _
  · exact h.put calm _
  · exact h

theorem leaveServer : (w.leaveServer n job).Follows c₀ isCalm := by
  unfold World.leaveServer
  split
  · exact (wake (w := { w with server := none }) (h.of_eq rfl rfl) _).put calm _
  · exact h.put calm _

end Jobs

theorem enterRegister (h : w.Follows c₀ isCalm) (n k : Nat) :
    (w.enterRegister n k).Follows c₀ isCalm := by
  unfold World.enterRegister
  split
  · split
    · exact h.lookUp (fun _ => rfl) _
    · exact h.awaitListener fun _ => rfl
    · exact h.waitAtGate (fun _ => rfl) ..
    · exact put (w := w.call _) (h.of_eq rfl rfl) (fun _ => rfl) _
    · exact h.finish ..
  · exact h.finish ..

theorem enterDeregister (h : w.Follows c₀ isCalm) (n k : Nat) :
    (w.enterDeregister n k).Follows c₀ isCalm := by
  unfold World.enterDeregister
  split
  · exact put (w := w.call _) (h.of_eq rfl rfl) (fun _ => rfl) _
  · exact h.finish ..
  · exact h.finish ..

theorem enterWarmup (h : w.Follows c₀ isCalm) (n k : Nat) :
    (w.enterWarmup n k).Follows c₀ isCalm := by
  unfold World.enterWarmup
  split
  · exact h.put (fun _ => rfl) _
  · exact h.finish ..

theorem enterGate (h : w.Follows c₀ isCalm) (n : Nat) (i : Instance) (g : GateStage) :
    (w.enterGate n i g).Follows c₀ isCalm := by
  unfold World.enterGate
  split
  · exact h.finish ..
  · exact h.waitAtGate (fun _ => rfl) ..

theorem enterTick (h : w.Follows c₀ isCalm) (n : Nat) (t : Tick) (stage : TickStage) :
    (w.enterTick n t stage).Follows c₀ isCalm := by
  unfold World.enterTick
  split
  · exact h.put (fun _ => rfl) _
  · exact h.lookUp (fun _ => rfl) _
  · exact h.finish ..

theorem applyTick (h : w.Follows c₀ isCalm) (n : Nat) (t : Tick)
    (s : Adjuster × TickStage × List Effect) :
    (w.applyTick n t s).Follows c₀ isCalm := by
  have changed : ({ w with adjuster := s.1 } : World).Follows c₀ isCalm := h.of_eq rfl rfl
  exact ((changed.performAll s.2.2).wakeAll _).enterTick ..

theorem enterConsumer (h : w.Follows c₀ isCalm) (n j : Nat) :
    (w.enterConsumer n j).Follows c₀ isCalm := by
  unfold World.enterConsumer
  split
  · split
    · exact h.waitForDelivery (fun _ => rfl) _
    · split
      · exact h.finish ..
      · exact h.put (fun _ => rfl) _
  · exact h.finish ..

section Closing

variable {shutdown : Option Nat} (calm : isCalm = true → shutdown.isSome = false)
include calm

theorem finishClosing (h : w.Follows c₀ isCalm) (n : Nat) :
    (w.finishClosing n shutdown).Follows c₀ isCalm := by
  unfold World.finishClosing
  refine finish ?_ ..
  split
  · next k =>
    have noisy : isCalm = false := by simpa using calm
    exact (h.turn_of_noisy noisy (.goOn k)).of_eq rfl rfl
  · exact h

theorem enterClosing (h : w.Follows c₀ isCalm) (n j : Nat) :
    (w.enterClosing n j shutdown).Follows c₀ isCalm := by
  have next (k : Nat) : isCalm = true → (Job.closeReporters k shutdown).isServing = false := calm
  have waits : isCalm = true → (Job.awaitConsumer j shutdown).isServing = false := calm
  unfold World.enterClosing
  dsimp only
  split
  · exact h.finishClosing calm _
  · exact put (w := w.call _) (h.of_eq rfl rfl) (next _) _
  · have closed (r : Reporter) (consumer : Nat) :
        (World.wake { w with sinks := w.sinks.setIfInBounds j (.batching r consumer true) }
          consumer).Follows c₀ isCalm := (h.withSinks _).wake _
    split
    · exact (closed ..).put (next _) _
    · exact (closed ..).put waits _

theorem leaveConsumer (h : w.Follows c₀ isCalm) (n j : Nat) :
    (w.leaveConsumer n j shutdown).Follows c₀ isCalm := by
  unfold World.leaveConsumer
  refine enterClosing calm ?_ ..
  split
  · exact h.performAll _
  · exact h

end Closing

/-! ### Turns -/

/-- A task begins. -/
theorem start (h : w.Follows c₀ isCalm) {c : Command}
    (calm : isCalm = true → c.isServing = false) (n : Nat) : (w.start n c).Follows c₀ isCalm := by
  cases c with
  | register i => exact (h.take _).enterRegister ..
  | deregister i => exact (h.take _).enterDeregister ..
  | offline i => exact (h.take _).enterDeregister ..
  | resolvePolicy i => exact h.lookUp (fun _ => rfl) _
  | endWarmup k => exact h.enterWarmup ..
  | passGate i p => exact ((h.link n).performAll _).enterGate ..
  | pause d => exact (h.link n).put (fun _ => rfl) _
  | sleep ms => exact h.put (fun _ => rfl) _
  | cancelAfter ms => exact h.put (fun _ => rfl) _
  | adjust t => exact h.applyTick ..
  | consume j => exact h.enterConsumer ..
  | serve a => exact h.put (fun _ => rfl) _
  | closeReporters => exact h.enterClosing (fun _ => rfl) ..
  | join m => exact h.put (fun _ => rfl) _
  | runServer =>
    have runs : isCalm = true → Job.runServer.isServing = false := calm
    unfold World.start
    dsimp only
    split
    · exact h.put runs _
    · exact h.awaitListener runs
  | stopServer =>
    have noisy : isCalm = false := by simpa [Command.isServing] using calm
    exact (h.turn_of_noisy noisy _).leaveServer fun _ => rfl
  | shutdown =>
    have noisy : isCalm = false := by simpa [Command.isServing] using calm
    exact (h.interrupt.turn_of_noisy noisy .shutdown).put (by simp [noisy]) _

theorem relink (h : w.Follows c₀ isCalm) (n k : Nat) (wasGating : Bool) :
    (w.relink n k wasGating).Follows c₀ isCalm := by
  unfold World.relink
  split
  · exact h.link n
  · split
    · exact h.of_eq rfl rfl
    · exact h

theorem resumeRegister (h : w.Follows c₀ isCalm) (n k : Nat) (a : RegisterAnswer) :
    (w.resumeRegister n k a).Follows c₀ isCalm :=
  ((h.take _).relink ..).enterRegister ..

theorem resumeConsumer (h : w.Follows c₀ isCalm) (n j : Nat)
    (step : Reporter → Reporter × List Effect) : (w.resumeConsumer n j step).Follows c₀ isCalm := by
  unfold World.resumeConsumer
  split
  · exact ((h.withSinks _).performAll _).enterConsumer ..
  · exact h.finish ..

theorem resumeServer (h : w.Follows c₀ isCalm) (noisy : isCalm = false) (n : Nat)
    (binding : Except String String) : (w.resumeServer n binding).Follows c₀ isCalm := by
  unfold World.resumeServer
  dsimp only
  refine finish ?_ ..
  have served : (w.serving (w.controller.server.run binding).1).Follows c₀ isCalm :=
    h.turn_of_noisy noisy _
  split
  · split
    · exact served
    · exact served.of_eq rfl rfl
  · exact served

/-- A task goes on after an answer. -/
theorem resume (h : w.Follows c₀ isCalm) (calm : isCalm = true → job.isServing = false)
    (n : Nat) (a : Answer) : (w.resume n job a).Follows c₀ isCalm := by
  unfold World.resume
  split
  · exact h.start calm n
  · split
    · exact h.resumeRegister ..
    · exact h.rest
  · exact (h.take _).enterDeregister ..
  · exact (h.performAll _).finish ..
  · exact (take (w := w.unlink n) (h.of_eq rfl rfl) _).finish ..
  · split
    · exact (h.performAll _).enterGate ..
    · exact h.rest
  · exact h.finish ..
  · exact h.cancel.finish ..
  · exact h.applyTick ..
  · exact h.applyTick ..
  · exact h.resumeConsumer ..
  · exact h.resumeConsumer ..
  · exact finish (w := w.log _) (h.of_eq rfl rfl) ..
  · have noisy : isCalm = false := by simpa [Job.isServing] using calm
    exact h.resumeServer noisy ..
  · have noisy : isCalm = false := by simpa [Job.isServing] using calm
    exact (h.turn_of_noisy noisy _).leaveServer (by simp [noisy])
  · exact h.enterClosing calm ..
  · exact h.leaveConsumer calm ..
  · exact h.rest
  · exact h.finish ..

/-- The running task goes on for one stage, or has to wait. -/
theorem poll (h : w.Follows c₀ isCalm) (n : Nat) : (w.poll n).Follows c₀ isCalm := by
  unfold World.poll
  split
  · exact h.rest
  · next t ht =>
    have calm := fun hc => h.calm hc t (Array.mem_of_getElem? ht)
    split
    · exact h.resume calm ..
    · exact h.arrive calm _
    · exact h.bindServer calm
    · exact h.rest

/-- Every turn of a task continues the run of the controller. -/
theorem turn? (h : w.Follows c₀ isCalm) (hu : w.turn? = some u) : u.Follows c₀ isCalm := by
  unfold World.turn? at hu
  split at hu
  · obtain rfl := Option.some.inj hu
    exact h.poll _
  · split at hu
    · obtain rfl := Option.some.inj hu
      exact h.of_eq rfl rfl
    · have woken : w.undefer.Follows c₀ isCalm :=
        wakeAll (w := { w with deferred := [] }) (h.of_eq rfl rfl) _
      dsimp only at hu
      split at hu
      · obtain rfl := Option.some.inj hu
        exact woken.of_eq rfl rfl
      · split at hu
        · obtain rfl := Option.some.inj hu
          exact woken.of_eq rfl rfl
        · cases hu

end Follows

end World

end InstanceLifecycle.Rehearsal
