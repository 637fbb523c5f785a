import InstanceLifecycle.Lifecycle.Deregister
import InstanceLifecycle.Lifecycle.Register
import InstanceLifecycle.Lifecycle.Replies
import InstanceLifecycle.Lifecycle.Warmup
import InstanceLifecycle.Timer

/-!
# The traffic of a controller

Any number of calls share one controller: calls that register or retract instances (`register`,
`deregister`), requests to offline probes, and the timers that end a warm-up
(`schedule_warmup_end`). A call runs without a break until it has to wait; then any other call may
go on. Which call goes on next, when, and with what answer is open: a move names all three. Only
sleeps answer for themselves: a sleep is over when the timer of the traffic says so and no shutdown
came first, and nothing is interrupted that was not cancelled.
-/

namespace InstanceLifecycle

/-! ## Answers that a stage waits for -/

/-- Whether a stage of the gate waits for such an answer. -/
def GateStage.awaits : GateStage → GateAnswer → Bool
  | .closed _, _ => false
  | _, .interrupted => true
  | .delaying _, .elapsed => true
  | .pausing .., .elapsed => true
  | .checking .., .answered _ => true
  | _, _ => false

/-- The time that has to pass at a stage of the gate. -/
def GateStage.interval? : GateStage → Option Duration
  | .delaying d => some d
  | .pausing check .. => some check.interval
  | _ => none

/-- Whether a stage of a registration waits for such an answer. -/
def RegisterStage.awaits : RegisterStage → RegisterAnswer → Bool
  | .lookup, .rule _ => true
  | .binding _, .bound _ => true
  | .gating _ g, .gate a => g.awaits a
  | .registering _, .registered _ => true
  | _, _ => false

namespace Traffic

/-! ## Calls -/

/-- Where a call stands. -/
inductive Stage
  | register (s : RegisterStage)
  | deregister (isProbe : Bool) (s : DeregisterStage)
  /-- A timer runs until the warm-up of the instance is over. -/
  | warmup (interval : Duration)
  | warmed
  deriving Repr

/-- What a call is told. -/
inductive Answer
  | register (a : RegisterAnswer)
  | retracted (r : Except Failure Unit)
  | timer (isInterrupted : Bool)

/-- A call for an instance, with the time at which it came to its stage. -/
structure Call where
  inst : Instance
  stage : Stage
  since : Nat
  deriving Repr

namespace Stage

/-- Whether a stage waits for such an answer. -/
def awaits : Stage → Answer → Bool
  | register s, .register a => s.awaits a
  | deregister _ .retracting, .retracted _ => true
  | warmup _, .timer _ => true
  | _, _ => false

/-- The time that has to pass at a stage. -/
def interval? : Stage → Option Duration
  | register (.gating _ g) => g.interval?
  | warmup d => some d
  | _ => none

end Stage

namespace Answer

/-- Whether an answer says that a wait is over. -/
def isElapsed : Answer → Bool
  | register (.gate .elapsed) => true
  | timer isInterrupted => !isInterrupted
  | _ => false

/-- Whether an answer says that a wait was cut short. -/
def isInterrupted : Answer → Bool
  | register (.gate .interrupted) => true
  | timer isInterrupted => isInterrupted
  | _ => false

end Answer

namespace Call

/-- Whether the sleep of a call is over by itself, if it is in one. -/
def isDue (x : Call) (τ : Timer) (isCancelled : Bool) (now : Nat) : Bool :=
  x.stage.interval?.all fun d => τ.poll x.since d isCancelled now = some false

/-- Whether an answer can come: it is waited for, a sleep is over only when it is due, and it is cut
short only by a cancellation. -/
def accepts (x : Call) (τ : Timer) (isCancelled : Bool) (now : Nat) (a : Answer) : Bool :=
  x.stage.awaits a && (!a.isElapsed || x.isDue τ isCancelled now) &&
    (!a.isInterrupted || isCancelled)

end Call

/-- A step of a call that retracts an instance; the offline probe notes a failure. -/
def ofDeregister (i : Instance) (isProbe : Bool) (s : Step DeregisterStage) : Step Stage :=
  ⟨s.controller, .deregister isProbe s.stage,
    s.effects ++
      match isProbe, s.stage with
      | true, .done r => offlineEffects i r
      | _, _ => []⟩

/-- A step of a call that registers an instance. -/
def ofRegister (s : Step RegisterStage) : Step Stage :=
  ⟨s.controller, .register s.stage, s.effects⟩

/-- The step of a call after an answer; an answer that it does not wait for changes nothing. -/
def Call.resume (x : Call) (c : Controller) (a : Answer) (now : Nat) : Step Stage :=
  match x.stage, a with
  | .register s, .register a => ofRegister (Register.resume c x.inst s a now)
  | .deregister isProbe s, .retracted r =>
    ofDeregister x.inst isProbe (Deregister.resume c x.inst s r)
  | .warmup d, .timer isInterrupted =>
    ⟨c, .warmed, Warmup.finish c x.inst d isInterrupted⟩
  | s, _ => ⟨c, s, []⟩

/-! ## What happens -/

/-- What a call does or meets with. -/
inductive Deed
  | told (a : Answer)
  | effect (x : Effect)
  /-- The call comes to a stage and asks whom it has to ask there. -/
  | reached (s : Stage)

/-- A deed of a call, with its time. -/
structure Happening where
  time : Nat
  call : Nat
  inst : Instance
  deed : Deed

/-- The effect that a deed is. -/
def Deed.effect? : Deed → Option Effect
  | effect x => some x
  | _ => none

/-- The deeds of a step. -/
def deedsOf (s : Step Stage) : List Deed := s.effects.map .effect ++ [.reached s.stage]

/-- The timers that some effects start. -/
def timersOf (now : Nat) (fx : List Effect) : List Call :=
  fx.filterMap fun
    | .warmup i d => some ⟨i, .warmup d, now⟩
    | _ => none

end Traffic

/-! ## Moves -/

/-- All calls of a controller, in the order in which they began, and what has happened so far. -/
structure Traffic where
  timer : Timer
  controller : Controller
  calls : List Traffic.Call := []
  now : Nat := 0
  isCancelled : Bool := false
  trace : List Traffic.Happening := []

namespace Traffic

/-- What can happen next. -/
inductive Move
  /-- So many milliseconds pass. -/
  | pass (millis : Nat)
  | register (i : Instance)
  | deregister (i : Instance) (isProbe : Bool)
  /-- The call with this number is answered. -/
  | answer (n : Nat) (a : Answer)
  /-- The controller is shut down or given up: everything that can be interrupted may be. -/
  | cancel

/-- The traffic of a controller that was just created. -/
def start (τ : Timer) (settings : GracefulSettings) (server : ProbeServer) : Traffic :=
  { timer := τ, controller := { settings, server } }

/-- Writes deeds of a call down. -/
def note (t : Traffic) (n : Nat) (i : Instance) (ds : List Deed) : List Happening :=
  t.trace ++ ds.map fun d => ⟨t.now, n, i, d⟩

/-- Begins a call. -/
def launch (t : Traffic) (i : Instance) (s : Step Stage) : Traffic :=
  { t with
    controller := s.controller
    calls := t.calls ++ [⟨i, s.stage, t.now⟩]
    trace := t.note t.calls.length i (deedsOf s) }

/-- A call goes on after an answer; the timers that it starts are calls of their own. -/
def proceed (t : Traffic) (n : Nat) (x : Call) (a : Answer) : Traffic :=
  let s := x.resume t.controller a t.now
  { t with
    controller := s.controller
    calls := t.calls.set n ⟨x.inst, s.stage, t.now⟩ ++ timersOf t.now s.effects
    trace := t.note n x.inst (.told a :: deedsOf s) }

/-- Takes a move; an answer that cannot come changes nothing. -/
def step (t : Traffic) : Move → Traffic
  | .pass millis => { t with now := t.now + millis }
  | .register i => t.launch i ⟨t.controller, .register .lookup, []⟩
  | .deregister i isProbe =>
    t.launch i (ofDeregister i isProbe (Deregister.start t.controller i))
  | .answer n a =>
    match t.calls[n]? with
    | some x => if x.accepts t.timer t.isCancelled t.now a then t.proceed n x a else t
    | none => t
  | .cancel => { t with isCancelled := true }

/-- Takes some moves. -/
def run (t : Traffic) (ms : List Move) : Traffic := ms.foldl step t

end Traffic

end InstanceLifecycle
