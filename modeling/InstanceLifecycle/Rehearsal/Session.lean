import InstanceLifecycle.Rehearsal.Turn

/-!
# Sessions

A session is a list of actions that are taken one after another in the foreground. After each action
everything runs that can run without moving the clock, so that all that is due has happened before
the next one. The clock moves only while the foreground waits and no task has a turn; then it jumps
to the next time that some task waits for.
-/

namespace InstanceLifecycle.Rehearsal

namespace World

/-! ## Running -/

/-- The number of turns after which a run is given up. -/
def turnBudget : Nat := 1000000000

/-- The time that a waiting task waits for. -/
def due? (w : World) : Wait → Option Nat
  | .until due _ => some due
  | .sleep since d => some (since + w.timer.pause since d)
  | .probe due _ => some due
  | .events j =>
    match w.sinks[j]? with
    | some (.batching r ..) => some r.nextTick
    | _ => none
  | _ => none

/-- The next time that some task waits for. -/
def nextDue? (w : World) : Option Nat := (w.tasks.toList.filterMap fun t => w.due? t.wait).min?

/-- Moves the clock to a time and gives a turn to all tasks that waited for it. -/
def advance (w : World) (time : Nat) : World :=
  (w.turn (.within (.pass (time - w.now)))).wakeAll <|
    w.waiting fun x => (w.due? x).any (· ≤ time)

/-- Runs everything that can run without moving the clock. -/
def settleWithin : Nat → World → World
  | 0, w => w
  | fuel + 1, w =>
    match w.turn? with
    | some w => settleWithin fuel w
    | none => w

/-- Runs until a task has finished; the clock moves when nothing else can run. -/
def awaitWithin (n : Nat) : Nat → World → World
  | 0, w => w
  | fuel + 1, w =>
    if w.isFinished n then w
    else
      match w.turn? with
      | some w => awaitWithin n fuel w
      | none =>
        match w.nextDue? with
        | some time => awaitWithin n fuel (w.advance time)
        | none => w

/-- Runs everything that can run without moving the clock. -/
def settle (w : World) : World := settleWithin turnBudget w

/-- The result of a task that has finished. -/
def result (w : World) (n : Nat) : Result :=
  match w.tasks[n]? with
  | some ⟨.finished r, _⟩ => r
  | _ => .nothing

/-- Carries a command out in the foreground. -/
def run (w : World) (c : Command) : World × Result :=
  let w := awaitWithin 0 turnBudget
    { w.put 0 (.begin c) (.until w.now .ready) with running := some 0 }
  (w, w.result 0)

/-- Begins a task in the background that can be asked for by its name. -/
def launch (w : World) (name : String) (c : Command) : World :=
  { w with names := (name, w.nextTask) :: w.names }.spawn c

/-- Forgets a name. -/
def forget (w : World) (name : String) : World :=
  { w with names := w.names.eraseP fun x => x.1 = name }

end World

/-! ## Actions -/

/-- What can be done next in a session. -/
inductive Action
  /-- Carries a command out, in the background if there is a name for it. -/
  | run (command : Command) (name : Option String)
  /-- Waits for the end of a task in the background. -/
  | join (name : String)
  | isDone (name : String)
  | state (inst : Instance)
  | readiness (inst : Instance) (method : String)
  /-- Sends a request to the probe server. -/
  | request (method target : String)
  | server
  | handle (path : String) (handler : Handler)
  | hasHandler (path : String)
  /-- Has the collaborators answer from another script. -/
  | instruct (script : Script → Script)
  | counters
  /-- Gives the controller up. -/
  | drop
  | parallel (ticks : List Tick)
  | invalidate (service : ServiceKey)
  | cached (service : ServiceKey)
  /-- Offers events to the first reporter. -/
  | offer (inst : Instance) (kinds : List EventKind)
  /-- Reports an event to all reporters. -/
  | report (inst : Instance) (kind : EventKind)
  /-- Asks for the name and the capacity of the first reporter. -/
  | describe

/-- What an action answers. -/
inductive Outcome
  | result (r : Result)
  | started
  | noTask
  | dropped
  | flag (b : Bool)
  | state (s : Option RegistrationState)
  | unbound
  | unreachable
  | server (isRunning isBound : Bool)
  | handled (r : Except ProbeError Unit)
  | counters (cs : Counters)
  | weights (ws : List (List Weight.DynamicWeight))
  | warmup (p : Option WarmupPolicy)
  | offers (rs : List (Except ReportError Unit))
  | reporter (name : String) (capacity : Nat)

/-- Whether a command needs the controller. -/
def Command.needsController : Command → Bool
  | register _ => true
  | deregister _ => true
  | resolvePolicy _ => true
  | shutdown => true
  | _ => false

namespace World

/-- Sends a request to the probe server. -/
def request (w : World) (method target : String) : World × Outcome :=
  let reply (w : World) (r : Reply) : World × Outcome := (w, .result (.reply (r.sent method)))
  if w.controller.server.address.isNone then (w, .unbound)
  else if !(w.isReachable && w.controller.server.isRunning) then (w, .unreachable)
  else
    match w.controller.server.route? target with
    | none => reply w .notFound
    | some (.fixed r) => reply w r
    | some .counters => reply w (countersReply w.counters)
    | some (.readiness k) => reply w (w.controller.readiness k method)
    | some (.offline i) =>
      match w.run (.offline i) with
      | (w, .reply r) => reply w r
      | (w, r) => (w, .result r)

/-- Registers a handler. -/
def handle (w : World) (path : String) (h : Handler) : World × Outcome :=
  let c := w.controller
  match c.server.register path h with
  | .ok server =>
    ((w.serving server).perform (.installed path (c.server.has path)),
      .handled (.ok ()))
  | .error e => (w, .handled (.error e))

/-- Runs ticks beside each other: each goes as far as it can before the next one starts. -/
def runTicks (w : World) (ts : List Tick) : World × Outcome :=
  let (w, ns) := ts.foldl
    (fun (w, ns) t => ((w.spawn (.adjust t)).settle, ns ++ [w.nextTask])) (w, [])
  let w := ns.foldl (fun w n => (w.run (.join n)).1) w
  (w, .weights <| ns.map fun n =>
    match w.result n with
    | .weights ws => ws
    | _ => [])

/-- Offers events to the first reporter. -/
def offerAll (w : World) (i : Instance) (kinds : List EventKind) : World × Outcome :=
  let (w, rs) := kinds.foldl
    (fun (w, rs) k =>
      let (w, r) := w.offer (.ofInstance k w.stamp i none) 0
      (w, rs ++ [r]))
    (w, [])
  (w, .offers rs)

/-- The name and the capacity of the first reporter. -/
def describe (w : World) : Outcome :=
  match w.sinks[(0 : Nat)]? with
  | some (.batching r ..) => .reporter r.name r.capacity
  | _ => .result .nothing

/-- Takes an action. -/
def act (w : World) : Action → World × Outcome
  | .run c name =>
    if w.isDropped && c.needsController then (w, .dropped)
    else
      match name with
      | some name => (w.launch name c, .started)
      | none =>
        let (w, r) := w.run c
        (w, .result r)
  | .join name =>
    match w.names.lookup name with
    | none => (w, .noTask)
    | some n =>
      let (w, _) := (w.forget name).run (.join n)
      (w, .result (w.result n))
  | .isDone name =>
    match w.names.lookup name with
    | none => (w, .result .nothing)
    | some n => (w, .flag (w.isFinished n))
  | .state i => (w, if w.isDropped then .dropped else .state (w.controller.state? i.key))
  | .readiness i method => (w, .result (.reply (w.controller.readiness i.key method)))
  | .request method target => w.request method target
  | .server => (w, .server w.controller.server.isRunning w.controller.server.address.isSome)
  | .handle path h => w.handle path h
  | .hasHandler path => (w, .flag (w.controller.server.has path))
  | .instruct f => ({ w with script := f w.script }, .result .nothing)
  | .counters => (w, .counters w.counters)
  | .drop => ({ w with isDropped := true }.release, .result .nothing)
  | .parallel ts => w.runTicks ts
  | .invalidate k =>
    (({ w with adjuster := w.adjuster.invalidate k }).performAll (w.adjuster.invalidateEffects k),
      .result .nothing)
  | .cached k => (w, .warmup (w.adjuster.cached? k))
  | .offer i kinds => w.offerAll i kinds
  | .report i k => (w.report (.ofInstance k w.stamp i none), .result .nothing)
  | .describe => (w, w.describe)

/-! ## Sessions -/

/-- What is known after an action: the time, the answer, the calls since the action before, and
whether the probe server runs and is bound. -/
structure Report where
  time : Nat
  outcome : Outcome
  calls : List Traced
  isRunning : Bool
  isBound : Bool

/-- Takes an action and settles. -/
def step (w : World) (a : Action) : World × Report :=
  let (w, outcome) := w.act a
  let w := w.settle
  ({ w with calls := [] },
    ⟨w.now, outcome, w.calls.reverse, w.controller.server.isRunning,
      w.controller.server.address.isSome⟩)

/-- Takes all actions of a session. -/
def session (w : World) (as : List Action) : World × List Report :=
  let (w, rs) := as.foldl
    (fun (w, rs) a =>
      let (w, r) := w.step a
      (w, r :: rs))
    (w, [])
  (w, rs.reverse)

end World

end InstanceLifecycle.Rehearsal
