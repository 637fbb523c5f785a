import InstanceLifecycle.Probe.Listen
import InstanceLifecycle.Rehearsal.World

/-!
# Setting a rehearsal up

A world is set up from settings: with a controller and its probe server, an adjuster, recorders and
perhaps a reporter that delivers to the collector of the settings.
-/

namespace InstanceLifecycle.Rehearsal

/-! ## Surroundings -/

/-- The address that the probe server is to listen on. -/
inductive Listening
  /-- A port that is free. -/
  | free
  /-- A port that is in use. -/
  | occupied
  /-- The address of the settings, which is free. -/
  | configured
  | literal (address : String)
  deriving DecidableEq, Repr

namespace Listening

/-- The text of the address. The port of an occupied address is written as the mark. -/
def address (s : Settings) (mark : String) : Listening → String
  | free => "127.0.0.1:0"
  | occupied => mark
  | configured => s.admin.listenAddress
  | literal a => a

/-- What binding results in: the mark stands for the address that is bound. -/
def bind (mark : String) : Listening → String → Except String String
  | occupied, _ => .error "Address already in use (os error 98)"
  | literal _, a =>
    match Listen.fault? a with
    | some reason => .error reason
    | none => .ok mark
  | _, _ => .ok mark

/-- Whether the address has a name in it. -/
def isNamed (s : Settings) : Listening → Bool
  | configured => !Listen.isNumeric s.admin.listenAddress
  | literal a => !Listen.isNumeric a
  | _ => false

end Listening

/-- What surrounds a rehearsal: the timer, where the probe server listens, the script of the
collaborators, and the texts that stand for bound addresses and for the times of events. -/
structure Surroundings where
  timer : Timer
  listening : Listening := .free
  script : Script := {}
  addressMark : String
  timeMark : String

/-! ## Worlds -/

namespace World

/-- A world with a controller for these settings and without reporters. -/
def create (s : Settings) (x : Surroundings) : Except ProbeError World :=
  match Controller.create s { listen := x.listening.address s x.addressMark } with
  | .error e => .error e
  | .ok (controller, fx) =>
    let w : World :=
      { closing := { traffic := { timer := x.timer, controller } }, adjuster := .create s,
        script := x.script, bind := x.listening.bind x.addressMark,
        isNamed := x.listening.isNamed s, stamp := x.timeMark }
    .ok (w.performAll fx)

/-- Replaces the adjuster by one with these settings. -/
def withAdjuster (w : World) (s : Settings) : World := { w with adjuster := .create s }

/-- Adds a recorder after the other reporters. -/
def withRecorder (w : World) (name : String) (refusal : Option Refusal) : World :=
  { w with sinks := w.sinks.push (.recorder name refusal) }

/-- Adds a reporter to the collector that the settings name, if they name one. Its queue may be too
large to be made. -/
def withReporter (w : World) (name : String) (s : Settings) (canLocate : Bool) : Option World :=
  match s.reporter.target? canLocate with
  | none => some w
  | some target =>
    (Reporter.start? name s.reporter s.client target).map fun r =>
      { w with sinks := w.sinks.push (.batching r w.nextTask false) }.spawn
        (.consume w.sinks.size)

/-- Cancels everything after some milliseconds, or from the start. -/
def withCancellation (w : World) : Option Nat → World
  | none => w
  | some 0 => w.cancel
  | some ms => w.spawn (.cancelAfter ms)

end World

end InstanceLifecycle.Rehearsal
