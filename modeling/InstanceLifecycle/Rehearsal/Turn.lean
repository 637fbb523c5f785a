import InstanceLifecycle.Rehearsal.World

/-!
# Turns

In its turn a task goes from stage to stage until it has to wait for something that is not there. A
call to a collaborator is written down when it arrives; an answer without delay is there at once.
Only a health check lets all other tasks go first before it arrives, and so does a listener with a
name in its address before it is bound.
-/

namespace InstanceLifecycle.Rehearsal

namespace World

/-! ## Calls to collaborators -/

/-- Looks the rule of a service up; without a control plane there is none. -/
def lookUp (w : World) (n : Nat) (job : Job) (k : ServiceKey) : World :=
  match w.script.rules with
  | none => w.put n job (.until w.now (.rule (.ok none)))
  | some rules =>
    let a := rules.answer k
    (w.call (.rules k)).put n job (.until (w.now + a.delay) (.rule a.value))

/-- Binds the listener of the probe server unless it is bound, and begins to serve it. -/
def bindServer (w : World) (n : Nat) (job : Job) : World :=
  match w.controller.server.address with
  | some a => w.put n job (.until w.now (.bound (.ok a)))
  | none =>
    let r := w.bind w.controller.server.listen
    let w :=
      match r with
      | .ok a => { w with server := some w.nextTask }.spawn (.serve a)
      | .error _ => w
    w.put n job (.until w.now (.bound r))

/-- Comes to the listener of the probe server. -/
def awaitListener (w : World) (n : Nat) (job : Job) : World :=
  if w.isNamed then
    let w := w.put n job .listener
    { w with deferred := w.deferred ++ [n] }.rest
  else w.bindServer n job

/-- Waits for what the gate waits for. -/
def waitAtGate (w : World) (n : Nat) (job : Job) (i : Instance) : GateStage → World
  | .delaying d => w.put n job (.sleep w.now d)
  | .pausing check .. => w.put n job (.sleep w.now check.interval)
  | .checking check .. =>
    let w := w.put n job (.arrival (Gate.request i check))
    if w.isCancelled then w else { w with deferred := w.deferred ++ [n] }.rest
  | .closed _ => w

/-- A health check reaches the instance. -/
def arrive (w : World) (n : Nat) (job : Job) (q : HealthRequest) : World :=
  let (a, rest) := next (.ok ⟨503⟩) w.script.probes
  ({ w with script := { w.script with probes := rest } }.call (.probe q)).put n job
    (.probe (w.now + a.delay) a.value)

/-- Waits for what the delivery of a reporter waits for. -/
def waitForDelivery (w : World) (n : Nat) (job : Job) : DeliveryStage → World
  | .locating _ k .. =>
    let (a, rest) := next (.ok none) w.script.locator
    ({ w with script := { w.script with locator := rest } }.call (.locate k)).put n job
      (.until (w.now + a.delay) (.delivery (.located a.value)))
  | .posting _ url body =>
    let (a, rest) := next (.ok ⟨200⟩) w.script.transport
    ({ w with script := { w.script with transport := rest } }.call (.post url body)).put n job
      (.until (w.now + a.delay) (.delivery (.posted a.value)))
  | .waiting _ d _ =>
    w.put n job (.until (w.now + w.timer.millis w.now d) (.delivery .elapsed))
  | .finished _ => w

/-! ## Entering a stage -/

/-- A call to register an instance asks whom it has to ask at its stage. -/
def enterRegister (w : World) (n call : Nat) : World :=
  let job := Job.register call
  match w.traffic.calls[call]? with
  | some ⟨i, .register stage, _⟩ =>
    match stage with
    | .lookup => w.lookUp n job i.serviceKey
    | .binding _ => w.awaitListener n job
    | .gating _ g => w.waitAtGate n job i g
    | .registering _ =>
      let a := w.script.registrar.register i
      (w.call (.register i)).put n job (.until (w.now + a.delay) (.registered a.value))
    | .done r => w.finish n (.registration r)
  | _ => w.finish n .nothing

/-- A call to deregister an instance asks whom it has to ask at its stage. -/
def enterDeregister (w : World) (n call : Nat) : World :=
  match w.traffic.calls[call]? with
  | some ⟨i, .deregister isProbe .retracting, _⟩ =>
    let a := w.script.registrar.deregister
    (w.call (.deregister i.retraction)).put n (.deregister call isProbe)
      (.until (w.now + a.delay) (.retracted a.value))
  | some ⟨_, .deregister isProbe (.done r), _⟩ =>
    w.finish n (if isProbe then .reply (offlineReply r) else .deregistration r)
  | _ => w.finish n .nothing

/-- A timer sleeps until the warm-up of its instance is over. -/
def enterWarmup (w : World) (n call : Nat) : World :=
  match w.traffic.calls[call]? with
  | some ⟨_, .warmup d, since⟩ => w.put n (.endWarmup call) (.sleep since d)
  | _ => w.finish n .nothing

/-- A passage of the gate enters a stage. -/
def enterGate (w : World) (n : Nat) (i : Instance) (stage : GateStage) : World :=
  match stage with
  | .closed r => w.finish n (.gate r)
  | g => w.waitAtGate n (.passGate i g) i g

/-- A tick enters a stage. -/
def enterTick (w : World) (n : Nat) (t : Tick) (stage : TickStage) : World :=
  match stage with
  | .queued => w.put n (.adjust t stage) (.turn t.service n)
  | .looking => w.lookUp n (.adjust t stage) t.service
  | .done ws => w.finish n (.weights ws)

/-- The consumer of a reporter goes on with what its reporter does. -/
def enterConsumer (w : World) (n j : Nat) : World :=
  match w.sinks[j]? with
  | some (.batching r ..) =>
    match r.stage with
    | .delivering _ d _ => w.waitForDelivery n (.consume j) d
    | stage =>
      if stage.isEnded then w.finish n .nothing else w.put n (.consume j) (.events j)
  | _ => w.finish n .nothing

/-- Ends the closing of the reporters, and the shutdown that it is part of. -/
def finishClosing (w : World) (n : Nat) (shutdown : Option Nat) : World :=
  let w :=
    match shutdown with
    | some k =>
      (w.turn (.goOn k)).log ⟨.info, "lossless::lifecycle::orchestrator",
        some "lossless orchestrator stopped", [], []⟩
    | none => w
  w.finish n .nothing

/-- Closes the reporter at a position and goes on to the next one when its consumer has ended. Only
the first to close a reporter waits for that. -/
def enterClosing (w : World) (n j : Nat) (shutdown : Option Nat) : World :=
  let job := Job.closeReporters (j + 1) shutdown
  match w.sinks[j]? with
  | none => w.finishClosing n shutdown
  | some (.recorder name _) => (w.call (.reporterShutdown name)).put n job (.until w.now .ready)
  | some (.batching r consumer isAwaited) =>
    let (r, stage) := r.shutdown isAwaited
    let w := { w with sinks := w.sinks.setIfInBounds j (.batching r consumer true) }.wake consumer
    match stage with
    | .done => w.put n job (.until w.now .ready)
    | .awaiting => w.put n (.awaitConsumer j shutdown) (.task consumer)

/-- Goes on after the consumer of the reporter at a position has ended. -/
def leaveConsumer (w : World) (n j : Nat) (shutdown : Option Nat) : World :=
  let w :=
    match w.sinks[j]? with
    | some (.batching r ..) => w.performAll r.endEffects
    | _ => w
  w.enterClosing n (j + 1) shutdown

/-- Goes on after the probe server was told to stop; only the first to stop it waits for its
end. -/
def leaveServer (w : World) (n : Nat) (job : Job) : World :=
  match w.server with
  | some m => ({ w with server := none }.wake m).put n job (.task m)
  | none => w.put n job (.until w.now .ready)

/-! ## Beginning a task -/

/-- Tells the tick that is next in line. -/
def wakeLine (w : World) (k : ServiceKey) : World := w.wakeAll ((w.adjuster.line k).take 1)

/-- The adjuster has changed, a tick is in a new stage, and effects are carried out. -/
def applyTick (w : World) (n : Nat) (t : Tick) (s : Adjuster × TickStage × List Effect) : World :=
  let w := ({ w with adjuster := s.1 }.performAll s.2.2).wakeLine t.service
  w.enterTick n t s.2.1

/-- Begins what a task was made for. -/
def start (w : World) (n : Nat) : Command → World
  | .register i => (w.take (.register i)).enterRegister n w.nextCall
  | .deregister i => (w.take (.deregister i false)).enterDeregister n w.nextCall
  | .offline i => (w.take (.deregister i true)).enterDeregister n w.nextCall
  | .resolvePolicy i => w.lookUp n (.resolvePolicy i) i.serviceKey
  | .endWarmup call => w.enterWarmup n call
  | .passGate i p =>
    let (g, fx) := Gate.arrive i p w.now
    ((w.link n).performAll fx).enterGate n i g
  | .pause d => (w.link n).put n .pause (.sleep w.now d)
  | .sleep ms => w.put n .sleep (.until (w.now + ms) .ready)
  | .cancelAfter ms => w.put n .cancel (.until (w.now + ms) .ready)
  | .adjust t => w.applyTick n t (w.adjuster.arrive n t)
  | .consume j => w.enterConsumer n j
  | .serve a => w.put n (.serve a) .stop
  | .runServer =>
    match w.controller.server.address with
    | some a => w.put n .runServer (.until w.now (.bound (.ok a)))
    | none => w.awaitListener n .runServer
  | .stopServer => (w.serving w.controller.server.stop).leaveServer n .join
  | .closeReporters => w.enterClosing n 0 none
  | .shutdown =>
    let k := w.closing.shutdowns.length
    (w.interrupt.turn .shutdown).put n (.stopServer k) (.timers k)
  | .join m => w.put n .join (.task m)

/-! ## Going on after an answer -/

/-- Whether a call waits at the gate. -/
def isGating (w : World) (call : Nat) : Bool :=
  match w.traffic.calls[call]? with
  | some ⟨_, .register (.gating ..), _⟩ => true
  | _ => false

/-- Links a call that has come to the gate, and unlinks one that has left the gate. -/
def relink (w : World) (n call : Nat) (wasGating : Bool) : World :=
  if w.isGating call && !wasGating then w.link n
  else if wasGating && !w.isGating call then w.unlink n
  else w

/-- A call to register an instance goes on. -/
def resumeRegister (w : World) (n call : Nat) (a : RegisterAnswer) : World :=
  ((w.take (.answer call (.register a))).relink n call (w.isGating call)).enterRegister n call

/-- The probe server was run. -/
def resumeServer (w : World) (n : Nat) (binding : Except String String) : World :=
  let wasBound := w.controller.server.address.isSome
  let (server, r) := w.controller.server.run binding
  let w := w.serving server
  let w :=
    match r with
    | .ok a => if wasBound then w else w.log (ProbeServer.startEntry a)
    | .error _ => w
  w.finish n (.address r)

/-- The consumer of a reporter goes on. -/
def resumeConsumer (w : World) (n j : Nat) (step : Reporter → Reporter × List Effect) : World :=
  match w.sinks[j]? with
  | some (.batching r consumer isAwaited) =>
    let (r, fx) := step r
    let w := { w with sinks := w.sinks.setIfInBounds j (.batching r consumer isAwaited) }
    (w.performAll fx).enterConsumer n j
  | _ => w.finish n .nothing

/-- A task goes on after an answer. -/
def resume (w : World) (n : Nat) (job : Job) (a : Answer) : World :=
  match job, a with
  | .begin c, _ => w.start n c
  | .register call, a =>
    match a.toRegister? with
    | some a => w.resumeRegister n call a
    | none => w.rest
  | .deregister call _, .retracted r =>
    (w.take (.answer call (.retracted r))).enterDeregister n call
  | .resolvePolicy i, .rule r =>
    (w.performAll (w.controller.policyEffects i r)).finish n
      (.policy (w.controller.policyFor r))
  | .endWarmup call, .slept isInterrupted =>
    ((w.unlink n).take (.answer call (.timer isInterrupted))).finish n .nothing
  | .passGate i g, a =>
    match a.toGate? with
    | some a =>
      let (g, fx) := Gate.resume i g a w.now
      (w.performAll fx).enterGate n i g
    | none => w.rest
  | .pause, .slept isInterrupted => w.finish n (.pause isInterrupted)
  | .cancel, _ => w.cancel.finish n .nothing
  | .adjust t .queued, .ready => w.applyTick n t (w.adjuster.takeTurn t)
  | .adjust t .looking, .rule r => w.applyTick n t (w.adjuster.looked t r)
  | .consume j, .ready => w.resumeConsumer n j fun r => (r.turn? w.now).getD (r, [])
  | .consume j, .delivery a => w.resumeConsumer n j fun r => r.resume a
  | .serve a, _ => (w.log (ProbeServer.stopEntry a)).finish n .nothing
  | .runServer, .bound r => w.resumeServer n r
  | .stopServer k, _ => (w.turn (.goOn k)).leaveServer n (.closeReporters 0 (some k))
  | .closeReporters j shutdown, _ => w.enterClosing n j shutdown
  | .awaitConsumer j shutdown, _ => w.leaveConsumer n j shutdown
  | .finished _, _ => w.rest
  | _, _ => w.finish n .nothing

/-! ## Turns -/

/-- What a waiting task is told, if it is there. -/
def answer? (w : World) : Wait → Option Answer
  | .until due a => if due ≤ w.now then some a else none
  | .sleep since d => (w.timer.poll since d w.isCancelled w.now).map .slept
  | .arrival _ => if w.isCancelled then some (.gate .interrupted) else none
  | .probe due r =>
    if w.isCancelled then some (.gate .interrupted)
    else if due ≤ w.now then some (.gate (.answered r))
    else none
  | .events j =>
    match w.sinks[j]? with
    | some (.batching r ..) => (r.turn? w.now).map fun _ => .ready
    | _ => none
  | .turn k ticket => if w.adjuster.isFirst k ticket then some .ready else none
  | .task m => if w.isFinished m then some .ready else none
  | .timers k => if w.isReleased k then some .ready else none
  | .stop => if w.controller.server.stopped then some .ready else none
  | .listener => none
  | .never => none

/-- The running task goes on for one stage, or has to wait. -/
def poll (w : World) (n : Nat) : World :=
  match w.tasks[n]? with
  | none => w.rest
  | some t =>
    match w.answer? t.wait, t.wait with
    | some a, _ => w.resume n t.job a
    | none, .arrival q => w.arrive n t.job q
    | none, .listener => w.bindServer n t.job
    | none, _ => w.rest

/-- Lets the deferred tasks have a turn. -/
def undefer (w : World) : World := { w with deferred := [] }.wakeAll w.deferred

/-- What happens next without moving the clock. When no task waits for its turn the deferred ones
get one, and the foreground goes before them. -/
def turn? (w : World) : Option World :=
  match w.running with
  | some n => some (w.poll n)
  | none =>
    match w.ready with
    | n :: rest => some { w with ready := rest, running := some n }
    | [] =>
      let w := w.undefer
      if w.foregroundWoken then some { w with foregroundWoken := false, running := some 0 }
      else
        match w.ready with
        | n :: rest => some { w with ready := rest, running := some n }
        | [] => none

end World

end InstanceLifecycle.Rehearsal
