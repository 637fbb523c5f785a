import InstanceLifecycle.Event.Reporter
import InstanceLifecycle.Lifecycle.Shutdown
import InstanceLifecycle.Rehearsal.Script
import InstanceLifecycle.Weight.Adjuster

/-!
# Tasks

A rehearsal runs tasks one at a time. A task is begun with a command, goes through the stages of its
job and waits in between; when it has finished, its result is kept. A task that stands for a call of
the controller has the number of this call; where the call stands is known to the traffic.
-/

namespace InstanceLifecycle.Rehearsal

/-- What a task is begun for. -/
inductive Command
  | register (inst : Instance)
  | deregister (inst : Instance)
  /-- A request to the offline probe of an instance. -/
  | offline (inst : Instance)
  | resolvePolicy (inst : Instance)
  /-- The timer that is the call with this number. -/
  | endWarmup (call : Nat)
  | passGate (inst : Instance) (policy : DelayPolicy)
  /-- Waits for so long unless everything is cancelled. -/
  | pause (interval : Duration)
  | sleep (millis : Nat)
  | cancelAfter (millis : Nat)
  | adjust (tick : Tick)
  /-- Consumes the events of the reporter at this position. -/
  | consume (sink : Nat)
  /-- Serves the probe server at this address. -/
  | serve (address : String)
  | runServer
  | stopServer
  | closeReporters
  | shutdown
  | join (task : Nat)
  deriving Repr

/-- What a finished task leaves. -/
inductive Result
  | nothing
  | registration (r : Except LifecycleError Registration)
  | deregistration (r : Except LifecycleError DeregisterOutcome)
  | reply (r : Reply)
  | policy (p : Policy)
  | gate (r : Except GateError GatePass)
  | pause (isInterrupted : Bool)
  | weights (ws : List Weight.DynamicWeight)
  | address (r : Except ProbeError String)
  deriving Repr

/-- What a task is doing. -/
inductive Job
  | begin (command : Command)
  | register (call : Nat)
  | deregister (call : Nat) (isProbe : Bool)
  | resolvePolicy (inst : Instance)
  | endWarmup (call : Nat)
  | passGate (inst : Instance) (stage : GateStage)
  | pause
  | sleep
  | cancel
  | adjust (tick : Tick) (stage : TickStage)
  | consume (sink : Nat)
  | serve (address : String)
  | runServer
  /-- Stops the probe server in the shutdown with this number; the reporters follow. -/
  | stopServer (shutdown : Nat)
  /-- Closes the reporters from this position on, perhaps in a shutdown. -/
  | closeReporters (sink : Nat) (shutdown : Option Nat)
  /-- Waits for the consumer of the reporter at this position and closes those after it. -/
  | awaitConsumer (sink : Nat) (shutdown : Option Nat)
  | join
  | finished (result : Result)
  deriving Repr

/-- What a waiting task is told. -/
inductive Answer
  | ready
  | rule (r : RuleAnswer)
  | bound (r : Except String String)
  | gate (a : GateAnswer)
  /-- A sleep is over: whether it was cut short. -/
  | slept (isInterrupted : Bool)
  | registered (r : Except Failure Registration)
  | retracted (r : Except Failure Unit)
  | delivery (a : DeliveryAnswer)

namespace Answer

/-- What the gate makes of an answer. -/
def toGate? : Answer → Option GateAnswer
  | gate a => some a
  | slept isInterrupted => some (if isInterrupted then .interrupted else .elapsed)
  | _ => none

/-- What a call to register an instance makes of an answer. -/
def toRegister? : Answer → Option RegisterAnswer
  | rule r => some (.rule r)
  | bound r => some (.bound r)
  | registered r => some (.registered r)
  | a => a.toGate?.map .gate

end Answer

/-- What a task waits for. -/
inductive Wait
  /-- An answer that is there at some time. -/
  | until (due : Nat) (answer : Answer)
  /-- The end of a sleep that began at some time, or a cancellation. -/
  | sleep (since : Nat) (interval : Duration)
  /-- The turn in which a health check reaches the instance, or a cancellation. -/
  | arrival (request : HealthRequest)
  /-- The answer to a health check, or a cancellation. -/
  | probe (due : Nat) (reply : Except String Http.Status)
  /-- Something to do for the consumer of a reporter. -/
  | events (sink : Nat)
  /-- The turn of a tick among those for its service. -/
  | turn (service : ServiceKey) (ticket : Nat)
  /-- The turn in which the name in the address of the listener is known. -/
  | listener
  /-- The end of a task. -/
  | task (number : Nat)
  /-- The end of all timers, as it is told to the shutdown with this number. -/
  | timers (shutdown : Nat)
  /-- The stop of the probe server. -/
  | stop
  | never

/-- A task. -/
structure Task where
  job : Job
  wait : Wait

/-- Whether a task has finished. -/
def Task.isFinished (t : Task) : Bool :=
  match t.job with
  | .finished _ => true
  | _ => false

/-- Whether a task is a call that has not finished and holds on to the controller. -/
def Task.isCall (t : Task) : Bool :=
  match t.job with
  | .begin (.register _) => true
  | .begin (.deregister _) => true
  | .register _ => true
  | .deregister _ isProbe => !isProbe
  | _ => false

end InstanceLifecycle.Rehearsal
