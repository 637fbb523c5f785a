import InstanceLifecycle.Http
import InstanceLifecycle.Instance
import InstanceLifecycle.Log.Entry
import InstanceLifecycle.Table

/-!
# The probe server

The probe server answers requests about instances. Its routes may change while it runs; a route is
found by the path of a request, character for character, without its query. It binds its listener
when it is first run and keeps the address; a listener that cannot be bound leaves it unstarted.

Results:

* `Reply.status_sent_text`: every method is answered with the same status;
* `get?_register`: a registered path is served by the last handler registered for it;
* `run_of_bound`: running a bound server again gives the same address and changes nothing;
* `routes_run`, `address_run`: running a server leaves its routes, and the address that it has;
* `run_error`: a failed run leaves the server as it was.
-/

namespace InstanceLifecycle

/-! ## Errors -/

/-- Why the probe server does not do what it is asked. -/
inductive ProbeError
  | invalidPath (path : String)
  | bind (address reason : String)
  deriving DecidableEq, Repr

/-- The text of an error. -/
def ProbeError.message : ProbeError → String
  | invalidPath p => s!"probe path `{p}` must start with `/`"
  | bind a reason => s!"failed to bind probe listener on {a}: {reason}"

/-! ## Replies -/

/-- What a handler answers. -/
structure Reply where
  status : Http.Status
  contentType : Option String
  body : String
  deriving DecidableEq, Repr

namespace Reply

/-- A reply in plain text (`ProbeResponse.text`). -/
def text (code : Nat) (body : String) : Reply := ⟨⟨code⟩, some "text/plain; charset=utf-8", body⟩

/-- The reply where no handler is found. -/
def notFound : Reply := text 404 "NOT FOUND"

/-- Whether a text may stand in a header. -/
def isHeaderText (s : String) : Bool :=
  s.toList.all fun c => c = '\t' || (' ' ≤ c && c ≠ '\x7f')

/-- The reply as `dispatch` sends it: one whose content type may not stand in a header is replaced,
and a request for the head gets no body. -/
def sent (method : String) (r : Reply) : Reply :=
  let r := if r.contentType.all isHeaderText then r else ⟨⟨500⟩, none, ""⟩
  if method = "HEAD" then { r with body := "" } else r

/-- Every method is answered with the same status. -/
theorem status_sent_text (code : Nat) (body method : String) :
    ((text code body).sent method).status = ⟨code⟩ := by
  have plain : isHeaderText "text/plain; charset=utf-8" = true := by decide +kernel
  simp only [sent, text, Option.all_some, plain, if_true]
  split <;> rfl

end Reply

/-! ## Handlers -/

/-- What answers the requests for a path. -/
inductive Handler
  | fixed (reply : Reply)
  /-- The page of counters. -/
  | counters
  /-- Whether an instance is registered. -/
  | readiness (key : InstanceKey)
  /-- Retracts an instance. -/
  | offline (inst : Instance)
  deriving DecidableEq, Repr

/-! ## The server -/

/-- The probe server. -/
structure ProbeServer where
  /-- The address it is to listen on. -/
  listen : String
  routes : Table String Handler := .empty
  /-- The address it is bound to. -/
  address : Option String := none
  stopped : Bool := false
  deriving Repr

namespace ProbeServer

/-- An entry of the probe server. -/
def entry (level : Log.Level) (message : String) (field : String × String) : Log.Entry :=
  ⟨level, "lossless::probe::server", some message, [field], []⟩

/-- Whether a path has a handler (`has_handler`). -/
def has (s : ProbeServer) (path : String) : Bool := s.routes.contains path

/-- Whether it is bound and not stopped (`is_running`). -/
def isRunning (s : ProbeServer) : Bool := s.address.isSome && !s.stopped

/-- The server with a handler for a path in place of the one it had (`register_handler`). -/
def register (s : ProbeServer) (path : String) (h : Handler) : Except ProbeError ProbeServer :=
  if Http.isAbsolute path then .ok { s with routes := s.routes.insert path h }
  else .error (.invalidPath path)

/-- What is logged when a handler is registered. -/
def registerEntry (path : String) (isReplaced : Bool) : Log.Entry :=
  if isReplaced then entry .warn "probe handler replaced by a later registration" ("path", path)
  else entry .debug "probe handler registered" ("path", path)

/-- Runs the server (`run`): the result of binding counts only if it is not bound yet. The results
are the server and the address that it is bound to. -/
def run (s : ProbeServer) (binding : Except String String) :
    ProbeServer × Except ProbeError String :=
  match s.address, binding with
  | some a, _ => (s, .ok a)
  | none, .ok a => ({ s with address := some a }, .ok a)
  | none, .error reason => (s, .error (.bind s.listen reason))

/-- What `start` logs when the server listens. -/
def startEntry (address : String) : Log.Entry :=
  entry .info "probe server listening" ("addr", address)

/-- What is logged when the server has stopped to listen. -/
def stopEntry (address : String) : Log.Entry :=
  entry .info "probe server stopped" ("addr", address)

/-- The server after it was told to stop (`shutdown`). -/
def stop (s : ProbeServer) : ProbeServer := { s with stopped := true }

/-- The path of a request, without its query. -/
def pathOf (target : String) : String := String.ofList (target.toList.takeWhile (· ≠ '?'))

/-- What answers a request, as `dispatch` finds it. -/
def route? (s : ProbeServer) (target : String) : Option Handler := s.routes.get? (pathOf target)

/-! ## Lemmas -/

/-- A registered path is served by the last handler registered for it. -/
theorem get?_register {s t : ProbeServer} {path : String} {h : Handler}
    (ht : s.register path h = .ok t) (other : String) :
    t.routes.get? other = if other = path then some h else s.routes.get? other := by
  unfold register at ht
  split at ht
  · cases ht
    exact Table.get?_insert ..
  · cases ht

/-- Running a bound server again gives the same address and changes nothing. -/
theorem run_of_bound {s : ProbeServer} {a : String} (h : s.address = some a)
    (binding : Except String String) : s.run binding = (s, .ok a) := by
  simp [run, h]

/-- Running a server changes its listener only. -/
theorem routes_run (s : ProbeServer) (binding : Except String String) :
    (s.run binding).1.routes = s.routes := by
  unfold run
  split <;> rfl

/-- A server that was run keeps its address, or has that of the listener. -/
theorem address_run (s : ProbeServer) (binding : Except String String) :
    (s.run binding).1.address = s.address.or binding.toOption := by
  unfold run
  rcases hs : s.address with _ | a <;> rcases binding with e | b <;> simp [hs, Except.toOption]

/-- A failed run leaves the server as it was. -/
theorem run_error {s t : ProbeServer} {binding : Except String String} {e : ProbeError}
    (h : s.run binding = (t, .error e)) : t = s ∧ s.address = none := by
  unfold run at h
  split at h <;> simp_all

end ProbeServer

end InstanceLifecycle
