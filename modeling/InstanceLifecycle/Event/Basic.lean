import InstanceLifecycle.Json.Writer
import InstanceLifecycle.Policy.Summary
import InstanceLifecycle.Settings.Basic

/-!
# Events

What happens to an instance is reported to a collector. An event says what happened, when and to
which instance; the identity of the client is left empty until the event is sent. Collectors get a
batch of events as one JSON object.

Results:

* `EventKind.ofName?_name`: a kind is found by its name.
-/

namespace InstanceLifecycle

/-! ## Kinds -/

/-- What happened to an instance. -/
inductive EventKind
  | onlineStart
  | onlineEnd
  | warmupStart
  | warmupEnd
  | offlineStart
  | threadEnd
  deriving DecidableEq, Repr

namespace EventKind

/-- The name of a kind (`as_str`). -/
def name : EventKind → String
  | onlineStart => "LosslessOnlineStart"
  | onlineEnd => "LosslessOnlineEnd"
  | warmupStart => "LosslessWarmupStart"
  | warmupEnd => "LosslessWarmupEnd"
  | offlineStart => "LosslessOfflineStart"
  | threadEnd => "InstanceThreadEnd"

/-- A kind as JSON. -/
def toJson (k : EventKind) : Json.Value := .string k.name

/-- All kinds. -/
def all : List EventKind :=
  [onlineStart, onlineEnd, warmupStart, warmupEnd, offlineStart, threadEnd]

/-- The kind with this name. -/
def ofName? (s : String) : Option EventKind := all.find? fun k => k.name = s

end EventKind

/-! ## Events -/

/-- Something that happened to an instance. -/
structure Event where
  kind : EventKind
  time : String
  client : ClientIdentity := {}
  namespaceName : String
  service : String
  host : String
  port : Nat
  /-- The policy that the instance was registered under, if one was stored. -/
  info : Option PolicySummary := none
  deriving DecidableEq, Repr

namespace Event

/-- The event of an instance, without the identity of the client (`LifecycleEvent.new`). -/
def ofInstance (kind : EventKind) (time : String) (i : Instance) (info : Option PolicySummary) :
    Event :=
  { kind, time, namespaceName := i.namespaceName, service := i.service, host := i.host
    port := i.port, info }

/-- The event with the identity of the client that sends it (`stamp_client`). -/
def stamp (client : ClientIdentity) (e : Event) : Event := { e with client }

/-- An event as JSON; the policy is left out if there is none. -/
def toJson (e : Event) : Json.Value :=
  .object <|
    [("eventType", .string "Lossless"), ("eventName", e.kind.toJson),
      ("eventTime", .string e.time), ("clientId", .string e.client.id),
      ("clientIp", .string e.client.ip), ("namespace", .string e.namespaceName),
      ("service", .string e.service), ("host", .string e.host), ("port", .nat e.port)] ++
      (e.info.map fun s => ("losslessInfo", s.toJson)).toList

/-- What a collector gets for some events. -/
def batchBody (es : List Event) : Json.Value := .object [("Batch", .ofList toJson es)]

end Event

end InstanceLifecycle
