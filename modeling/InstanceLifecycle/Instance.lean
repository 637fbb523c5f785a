import InstanceLifecycle.Duration.Basic
import InstanceLifecycle.Json.Value

/-!
# Services and instances

A service has a namespace and a name. An instance is one endpoint of a service; its key is what
registration states are kept by, and its descriptor is what it is registered with. The request to
retract an instance carries the same data as its descriptor.

Results:

* `InstanceKey.compare_eq_iff`: two keys compare equal exactly when they are the same.
-/

namespace InstanceLifecycle

/-! ## Keys -/

/-- A service within its namespace. -/
structure ServiceKey where
  namespaceName : String
  service : String
  deriving DecidableEq, Repr

namespace ServiceKey

/-- The text of a service. -/
def text (k : ServiceKey) : String := s!"{k.namespaceName}/{k.service}"

/-- A service as JSON. -/
def toJson (k : ServiceKey) : Json.Value :=
  .object [("namespace", .string k.namespaceName), ("service", .string k.service)]

/-- Services are ordered by namespace, then by name. -/
def compare (a b : ServiceKey) : Ordering :=
  (Ord.compare a.namespaceName b.namespaceName).then (Ord.compare a.service b.service)

/-- The different services among some, in order. -/
def distinct (ks : List ServiceKey) : List ServiceKey :=
  (ks.mergeSort fun a b => (a.compare b).isLE).eraseDups

end ServiceKey

/-- An endpoint of a service. -/
structure InstanceKey where
  namespaceName : String
  service : String
  host : String
  port : Nat
  deriving DecidableEq, Repr

namespace InstanceKey

/-- The text of an instance. -/
def text (k : InstanceKey) : String := s!"{k.namespaceName}/{k.service}/{k.host}:{k.port}"

/-- Instances are ordered by namespace, service, host and port. -/
def compare (a b : InstanceKey) : Ordering :=
  (Ord.compare a.namespaceName b.namespaceName).then <|
    (Ord.compare a.service b.service).then <|
      (Ord.compare a.host b.host).then (Ord.compare a.port b.port)

/-- Instances in order. -/
def sorted (ks : List InstanceKey) : List InstanceKey :=
  ks.mergeSort fun a b => (a.compare b).isLE

/-- Two keys compare equal exactly when they are the same. -/
theorem compare_eq_iff (a b : InstanceKey) : a.compare b = .eq ↔ a = b := by
  cases a; cases b
  simp [compare, Ordering.then_eq_eq, Std.LawfulEqCmp.compare_eq_iff_eq]

end InstanceKey

/-! ## Descriptors -/

/-- What an instance is registered with. -/
structure Instance where
  namespaceName : String
  service : String
  host : String
  port : Nat
  id : Option String := none
  token : Option String := none
  timeout : Option Duration := none
  retryCount : Option Nat := none
  deriving DecidableEq, Repr

namespace Instance

/-- The key that the state of an instance is kept by (`key`). -/
def key (i : Instance) : InstanceKey := ⟨i.namespaceName, i.service, i.host, i.port⟩

/-- The service of an instance (`service_key`). -/
def serviceKey (i : Instance) : ServiceKey := ⟨i.namespaceName, i.service⟩

end Instance

/-- The request to retract an instance. -/
structure Retraction where
  namespaceName : String
  service : String
  host : String
  port : Nat
  id : Option String
  token : Option String
  timeout : Option Duration
  retryCount : Option Nat
  deriving DecidableEq, Repr

/-- The request that retracts an instance carries all of its
descriptor (`to_deregister_request`). -/
def Instance.retraction (i : Instance) : Retraction :=
  ⟨i.namespaceName, i.service, i.host, i.port, i.id, i.token, i.timeout, i.retryCount⟩

/-- What the registry answers to a registration. -/
structure Registration where
  id : String
  existed : Bool
  deriving DecidableEq, Repr

end InstanceLifecycle
