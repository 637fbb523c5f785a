import InstanceLifecycle.Settings.Raw
import InstanceLifecycle.Text.Digits
import InstanceLifecycle.Width

/-!
# Sections

Settings documents come in several formats with one structure: sections with known keys. A format
says how a section, a truth value, a number and a text are read from one of its values, and when
a value counts as not given. The structure is described once for all formats.
-/

namespace InstanceLifecycle

/-- How settings are read from the values of a format. -/
structure SettingsFormat (α : Type) where
  /-- The values of a section by key; nothing if it is no section or has other keys. -/
  fields? : List String → α → Option (String → Option α)
  /-- Whether a value counts as not given; nothing if it is malformed. -/
  missing? : α → Option Bool
  /-- A truth value. -/
  bool? : α → Option Bool
  /-- A number from zero up. -/
  natural? : α → Option Nat
  /-- A text. -/
  text? : α → Option String

namespace SettingsFormat

variable {α β : Type} (f : SettingsFormat α)

/-- A value that may be missing, read by `read`. -/
def optional (read : α → Option β) (get : String → Option α) (key : String) :
    Option (Option β) :=
  match get key with
  | none => some none
  | some v => do if ← f.missing? v then some none else (read v).map some

/-- A truth value that may be missing. -/
def flag := f.optional f.bool?

/-- A text that may be missing. -/
def text := f.optional f.text?

/-- A number below a bound that may be missing. -/
def number (bound : Nat) := f.optional fun v => (f.natural? v).filter (· < bound)

/-- A section that may be missing; then it is empty. -/
def subsection [Inhabited β] (read : α → Option β) (get : String → Option α) (key : String) :
    Option β :=
  (f.optional read get key).map fun v => v.getD default

instance : Inhabited RawDelay := ⟨{}⟩
instance : Inhabited RawHealthCheck := ⟨{}⟩
instance : Inhabited RawEndpoint := ⟨{}⟩
instance : Inhabited RawOverload := ⟨{}⟩
instance : Inhabited RawWarmup := ⟨{}⟩
instance : Inhabited RawGraceful := ⟨{}⟩
instance : Inhabited RawAdmin := ⟨{}⟩
instance : Inhabited RawReporter := ⟨{}⟩
instance : Inhabited RawClient := ⟨{}⟩

/-! ## The sections -/

/-- Reads the section on delayed registration. -/
def delay? (v : α) : Option RawDelay := do
  let get ← f.fields? ["enable", "strategy", "interval"] v
  some ⟨← f.flag get "enable", ← f.text get "strategy", ← f.text get "interval"⟩

/-- Reads the section on health checks. -/
def healthCheck? (v : α) : Option RawHealthCheck := do
  let get ← f.fields? ["interval", "protocol", "method", "path", "max_retry"] v
  some
    ⟨← f.text get "interval", ← f.text get "protocol", ← f.text get "method", ← f.text get "path",
      ← f.number (Width.bound 32) get "max_retry"⟩

/-- Reads a section on a probe. -/
def endpoint? (v : α) : Option RawEndpoint := do
  let get ← f.fields? ["enable", "path"] v
  some ⟨← f.flag get "enable", ← f.text get "path"⟩

/-- Reads the section on overload protection. -/
def overload? (v : α) : Option RawOverload := do
  let get ← f.fields? ["enable", "threshold"] v
  some ⟨← f.flag get "enable", ← f.number (Width.bound 32) get "threshold"⟩

/-- Reads the section on warm-up. -/
def warmup? (v : α) : Option RawWarmup := do
  let get ← f.fields? ["enable", "interval", "curvature", "overload_protection"] v
  some
    ⟨← f.flag get "enable", ← f.text get "interval", ← f.number (Width.bound 32) get "curvature",
      ← f.subsection f.overload? get "overload_protection"⟩

/-- Reads the section on graceful starts and stops. -/
def graceful? (v : α) : Option RawGraceful := do
  let get ← f.fields?
    ["enable", "delay_register", "health_check", "readiness", "offline", "warmup"] v
  some
    ⟨← f.flag get "enable", ← f.subsection f.delay? get "delay_register",
      ← f.subsection f.healthCheck? get "health_check",
      ← f.subsection f.endpoint? get "readiness", ← f.subsection f.endpoint? get "offline",
      ← f.subsection f.warmup? get "warmup"⟩

/-- Reads the section on the probe server. -/
def admin? (v : α) : Option RawAdmin := do
  let get ← f.fields? ["host", "port", "metrics_path"] v
  some ⟨← f.text get "host", ← f.number (Width.bound 16) get "port", ← f.text get "metrics_path"⟩

/-- Reads the section on discovery; the service has to be there. -/
def discovery? (v : α) : Option RawDiscovery := do
  let get ← f.fields? ["namespace", "service"] v
  some ⟨← f.text get "namespace", ← f.text? (← get "service")⟩

/-- Reads the section on the reporter. -/
def reporter? (v : α) : Option RawReporter := do
  let get ← f.fields? ["queue_size", "address", "report_path", "discovery", "retry_backoff"] v
  some
    ⟨← f.number (Width.bound 64) get "queue_size", ← f.text get "address",
      ← f.text get "report_path", ← f.optional f.discovery? get "discovery",
      ← f.text get "retry_backoff"⟩

/-- Reads the section on weights. -/
def weights? (v : α) : Option (Option Bool) := do
  let get ← f.fields? ["enable"] v
  f.flag get "enable"

/-- Reads the section on the client. -/
def client? (v : α) : Option RawClient := do
  let get ← f.fields? ["id", "ip"] v
  some ⟨← f.text get "id", ← f.text get "ip"⟩

/-- Reads a whole document. -/
def settings? (v : α) : Option RawSettings := do
  let get ← f.fields? ["lossless", "admin", "event_reporter", "weight_adjust", "client"] v
  some
    ⟨← f.subsection f.graceful? get "lossless", ← f.subsection f.admin? get "admin",
      ← f.subsection f.reporter? get "event_reporter",
      ← f.subsection f.weights? get "weight_adjust", ← f.subsection f.client? get "client"⟩

end SettingsFormat

end InstanceLifecycle
