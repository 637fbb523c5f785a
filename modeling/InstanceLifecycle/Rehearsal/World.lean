import InstanceLifecycle.Counters
import InstanceLifecycle.Rehearsal.Task

/-!
# The world of a rehearsal

The world holds the traffic of the controller with its clock and its shutdowns, the tasks and the
order in which they get their turns, the rest of the shared state of the program, the scripts of its
collaborators and what was observed: calls, log entries and counters. The first task is the
foreground; the others run in the background.
-/

namespace InstanceLifecycle.Rehearsal

/-! ## Reporters -/

/-- How a recorder refuses events. -/
inductive Refusal
  | full
  | closed
  deriving DecidableEq, Repr

/-- Something that events are reported to. -/
inductive Sink
  /-- Writes each event down, and then perhaps refuses it. -/
  | recorder (name : String) (refusal : Option Refusal)
  /-- A reporter, the task of its consumer, and whether somebody waits or has waited for its end. -/
  | batching (reporter : Reporter) (consumer : Nat) (isAwaited : Bool)

/-- The capacity that a full recorder claims to have. -/
def recorderCapacity : Nat := 3

/-- What a recorder answers. -/
def Refusal.error (name : String) (k : EventKind) : Refusal → ReportError
  | full => .queueFull name recorderCapacity k
  | closed => .closed name k

/-! ## Worlds -/

/-- What a rehearsal runs in. -/
structure World where
  closing : Traffic.Closing
  /-- The task whose turn it is. -/
  running : Option Nat := none
  /-- The tasks that wait for their turn, in order. -/
  ready : List Nat := []
  /-- The tasks that let all others go first once. -/
  deferred : List Nat := []
  /-- Whether the foreground waits for its turn; it comes when no other task does. -/
  foregroundWoken : Bool := false
  tasks : Array Task := #[⟨.finished .nothing, .never⟩]
  /-- The tasks that a cancellation tells. -/
  tokens : List Nat := []
  /-- Whether the controller is given up as soon as no call holds on to it. -/
  isDropped : Bool := false
  script : Script := {}
  /-- What binding a listener to an address results in. -/
  bind : String → Except String String
  /-- Whether the listener has a name in its address, which has to be looked up before. -/
  isNamed : Bool := false
  /-- Whether the probe server can be reached once it is bound. -/
  isReachable : Bool := false
  /-- The task that serves the probe server, until somebody waits for its end. -/
  server : Option Nat := none
  adjuster : Adjuster
  sinks : Array Sink := #[]
  /-- The text that stands for the time of an event. -/
  stamp : String
  counters : Counters := .zero
  /-- The log, the last entry first. -/
  entries : List Log.Entry := []
  /-- The calls, the last one first. -/
  calls : List Traced := []
  /-- The tasks in the background that can be asked for by name. -/
  names : List (String × Nat) := []

namespace World

/-- The traffic of the controller. -/
def traffic (w : World) : Traffic := w.closing.traffic

/-- The time in milliseconds. -/
def now (w : World) : Nat := w.traffic.now

def timer (w : World) : Timer := w.traffic.timer

def controller (w : World) : Controller := w.traffic.controller

def isCancelled (w : World) : Bool := w.traffic.isCancelled

/-- The controller takes a turn. -/
def turn (w : World) (t : Traffic.Closing.Turn) : World :=
  { w with closing := w.closing.step t }

/-- The probe server changes, but not by a call. -/
def serving (w : World) (server : ProbeServer) : World := w.turn (.serve server)

/-- Whether the shutdown with this number need not wait for timers. -/
def isReleased (w : World) (shutdown : Nat) : Bool :=
  w.closing.shutdowns[shutdown]?.all Traffic.Shutdown.isReleased

/-! ## Tasks -/

/-- Lets a task have a turn. -/
def wake (w : World) (n : Nat) : World :=
  if n = 0 then { w with foregroundWoken := true }
  else if w.ready.contains n then w
  else { w with ready := w.ready ++ [n] }

/-- Lets some tasks have a turn, in this order. -/
def wakeAll (w : World) (ns : List Nat) : World := ns.foldl wake w

/-- The number that the next task gets. -/
def nextTask (w : World) : Nat := w.tasks.size

/-- The number that the next call of the traffic gets. -/
def nextCall (w : World) : Nat := w.traffic.calls.length

/-- Begins a task in the background. -/
def spawn (w : World) (c : Command) : World :=
  { w with tasks := w.tasks.push ⟨.begin c, .until w.now .ready⟩ }.wake w.nextTask

/-- Puts a task into a stage of its job. -/
def put (w : World) (n : Nat) (job : Job) (wait : Wait) : World :=
  { w with tasks := w.tasks.setIfInBounds n ⟨job, wait⟩ }

/-- Ends the turn of the running task. -/
def rest (w : World) : World := { w with running := none }

/-- Whether a task has finished. -/
def isFinished (w : World) (n : Nat) : Bool := w.tasks[n]?.all Task.isFinished

/-- The numbers of the tasks that wait for something. -/
def waiting (w : World) (p : Wait → Bool) : List Nat :=
  (List.range w.tasks.size).filter fun n => w.tasks[n]?.any fun t => p t.wait

/-! ## Cancellation -/

/-- Notes that a task is to be told of a cancellation. -/
def link (w : World) (n : Nat) : World :=
  if w.isCancelled then w else { w with tokens := w.tokens ++ [n] }

/-- Forgets a token; the last one takes its place. -/
def withoutToken (n : Nat) (tokens : List Nat) : List Nat :=
  match tokens.getLast? with
  | none => []
  | some last =>
    if tokens.contains n then (tokens.map fun t => if t = n then last else t).dropLast else tokens

/-- Notes that a task need not be told of a cancellation any more. -/
def unlink (w : World) (n : Nat) : World := { w with tokens := withoutToken n w.tokens }

/-- Tells everything that can be cancelled; the last one to be linked is told first. -/
def interrupt (w : World) : World := { w.wakeAll w.tokens.reverse with tokens := [] }

/-- Cancels everything that can be cancelled. -/
def cancel (w : World) : World := w.interrupt.turn (.within .cancel)

/-- Gives the controller up if nothing holds on to it. -/
def release (w : World) : World :=
  if w.isDropped && !w.tasks.any Task.isCall then w.cancel else w

/-- Ends a task with a result and tells those that wait for its end. -/
def finish (w : World) (n : Nat) (r : Result) : World :=
  let w := (w.put n (.finished r) .never).rest
  let w := w.wakeAll <| w.waiting fun
    | .task m => m = n
    | .timers shutdown => w.isReleased shutdown
    | _ => false
  w.release

/-! ## Observations -/

/-- Writes a call down. -/
def call (w : World) (c : Call) : World := { w with calls := ⟨w.now, c⟩ :: w.calls }

/-- Writes a log entry down. -/
def log (w : World) (e : Log.Entry) : World := { w with entries := e :: w.entries }

/-- Raises a counter. -/
def count (w : World) (c : Counter) (n : Nat) : World :=
  { w with counters := w.counters.add c n }

/-! ## Reporting -/

/-- Offers an event to one reporter. -/
def offer (w : World) (e : Event) (j : Nat) : World × Except ReportError Unit :=
  match w.sinks[j]? with
  | none => (w, .ok ())
  | some (.recorder name refusal) =>
    (w.call (.event name e.toJson.render),
      match refusal with
      | none => .ok ()
      | some r => .error (r.error name e.kind))
  | some (.batching r consumer isAwaited) =>
    let (r, outcome) := r.offer e
    let w := { w with sinks := w.sinks.setIfInBounds j (.batching r consumer isAwaited) }
    let w := w.count (Reporter.offerCounter outcome) 1
    (if outcome.isOk then w.wake consumer else w, outcome)

/-- The name of a reporter. -/
def sinkName (w : World) (j : Nat) : String :=
  match w.sinks[j]? with
  | some (.recorder name _) => name
  | some (.batching r ..) => r.name
  | none => ""

/-- Offers an event to all reporters; a refusal is logged (`EventChain.report`). -/
def report (w : World) (e : Event) : World :=
  (List.range w.sinks.size).foldl
    (fun w j =>
      match w.offer e j with
      | (w, .ok _) => w
      | (w, .error x) => w.log (x.entry (w.sinkName j) e.kind))
    w

/-! ## Effects -/

/-- Carries an effect out; the timers that effects start are calls of the traffic. -/
def perform (w : World) : Effect → World
  | .log e => w.log e
  | .count c n => w.count c n
  | .moved k a b => w.log (stateEntry k a b)
  | .installed path isReplaced => w.log (ProbeServer.registerEntry path isReplaced)
  | .event kind i info => w.report (.ofInstance kind w.stamp i info)
  | .warmup .. => w

/-- Carries effects out. -/
def performAll (w : World) (fx : List Effect) : World := fx.foldl perform w

/-! ## Moves -/

/-- Whether a call is a timer that runs. -/
def isTimer (w : World) (call : Nat) : Bool :=
  match w.traffic.calls[call]? with
  | some ⟨_, .warmup _, _⟩ => true
  | _ => false

/-- Begins a task for a call that is a timer. -/
def spawnTimer (w : World) (call : Nat) : World :=
  if w.isTimer call then (w.link w.nextTask).spawn (.endWarmup call) else w

/-- The traffic takes a move: the effects that follow are carried out, and the timers that it has
started become tasks. -/
def take (w : World) (m : Traffic.Move) : World :=
  let t := w.traffic.step m
  let fx := (t.trace.drop w.traffic.trace.length).filterMap (·.deed.effect?)
  (List.range' w.nextCall (t.calls.length - w.nextCall)).foldl spawnTimer
    ((w.turn (.within m)).performAll fx)

end World

end InstanceLifecycle.Rehearsal
