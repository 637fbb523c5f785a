import InstanceLifecycle.Rehearsal.Session

/-!
# What a probe server is asked for

A probe server meets its demands one after another: to serve a path by a handler, to run, to answer
a request, to stop. Three things that can be read off the demands so far say all about it: the
address of the first listener that could be bound, the last handler of each path that was not
refused, and whether it was told to stop.

Results:

* `Reflects.after`: a demand keeps the server in step with the demands so far;
* `reflects_afterAll`: so do all demands of a server that was just made;
* `exists_bindings`: all listeners fail but the one that is bound;
* `World.request_eq_dispatch`: a rehearsed request is answered as the demand is;
* `serves_course`: what the server does after any demands.
-/

namespace InstanceLifecycle

namespace ProbeServer

/-! ## Demands -/

/-- What a probe server can be asked for. Running it comes with what binding a listener
would give. -/
inductive Demand
  | register (path : String) (handler : Handler)
  | run (binding : Except String String)
  | request (method target : String)
  | stop

/-- What a demand is answered; a request to a server that does not run is not answered. -/
inductive Answer
  | registered (r : Except ProbeError Unit)
  | ran (r : Except ProbeError String)
  | replied (r : Option Reply)
  | stopped

namespace Demand

/-- What binding a listener would give, if the demand is to run the server. -/
def binding? : Demand → Option (Except String String)
  | run binding => some binding
  | _ => none

/-- The handler that the demand gives to a path; a path that does not start at the root
gets none. -/
def handler? (path : String) : Demand → Option Handler
  | register p h => if p = path ∧ Http.isAbsolute p = true then some h else none
  | _ => none

/-- Whether a request is for a path, with a query or without one. -/
def IsFor (target path : String) : Prop :=
  '?' ∉ path.toList ∧ (target = path ∨ ∃ query, target = path ++ "?" ++ query)

end Demand

/-- The reply to a request, sent by the handler of its path if there is one. -/
def dispatch (s : ProbeServer) (serve : Handler → String → Reply) (method target : String) :
    Reply :=
  match s.route? target with
  | none => Reply.notFound.sent method
  | some h => (serve h method).sent method

/-- The server after a demand; a handler that is refused leaves it as it was. -/
def after (s : ProbeServer) : Demand → ProbeServer
  | .register path h =>
    match s.register path h with
    | .ok t => t
    | .error _ => s
  | .run binding => (s.run binding).1
  | .request .. => s
  | .stop => s.stop

/-- What a demand is answered. -/
def answer (s : ProbeServer) (serve : Handler → String → Reply) : Demand → Answer
  | .register path h => .registered ((s.register path h).map fun _ => ())
  | .run binding => .ran (s.run binding).2
  | .request method target =>
    .replied (if s.isRunning then some (s.dispatch serve method target) else none)
  | .stop => .stopped

theorem after_register (s : ProbeServer) (path : String) (h : Handler) :
    s.after (.register path h) =
      if Http.isAbsolute path then { s with routes := s.routes.insert path h } else s := by
  rw [after, register]
  cases Http.isAbsolute path <;> rfl

theorem after_run (s : ProbeServer) (binding : Except String String) :
    s.after (.run binding) = { s with address := s.address.or binding.toOption } := by
  obtain ⟨listen, routes, address, stopped⟩ := s
  cases address <;> cases binding <;> rfl

/-- A server keeps its address, or gets that of the listener. -/
theorem address_after (s : ProbeServer) (d : Demand) :
    (s.after d).address = s.address.or (d.binding?.bind Except.toOption) := by
  cases d with
  | register path h =>
    have kept : (s.after (.register path h)).address = s.address := by
      rw [after_register]
      split <;> rfl
    exact kept.trans Option.or_none.symm
  | run binding => rw [after_run]; rfl
  | request method target => exact Option.or_none.symm
  | stop => exact Option.or_none.symm

/-- The server after demands, one after another. -/
def afterAll (s : ProbeServer) (ds : List Demand) : ProbeServer := ds.foldl after s

/-- What binding a listener gives each time one is bound while the demands are met: a server that
has an address binds none. -/
def bindings (s : ProbeServer) : List Demand → List (Except String String)
  | [] => []
  | d :: ds => (if s.address.isNone then d.binding?.toList else []) ++ (s.after d).bindings ds

theorem bindings_append (s : ProbeServer) (ds es : List Demand) :
    s.bindings (ds ++ es) = s.bindings ds ++ (s.afterAll ds).bindings es := by
  induction ds generalizing s with
  | nil => rfl
  | cons d ds ih =>
    rw [List.cons_append, bindings, ih, bindings, List.append_assoc]
    rfl

/-! ## What demands say about a server -/

/-- The address of the first listener that could be bound. -/
def address? (ds : List Demand) : Option String :=
  ds.findSome? fun d => d.binding?.bind Except.toOption

/-- The last handler that a path was given. -/
def handler? (ds : List Demand) (path : String) : Option Handler :=
  ds.reverse.findSome? (Demand.handler? path)

theorem address?_append (ds es : List Demand) : address? (ds ++ es) = (address? ds).or (address? es) :=
  List.findSome?_append

theorem handler?_concat (ds : List Demand) (d : Demand) (path : String) :
    handler? (ds ++ [d]) path = (d.handler? path).or (handler? ds path) := by
  rw [handler?, List.reverse_concat, List.findSome?_cons, handler?]
  cases d.handler? path <;> rfl

/-- Whether a server is as the demands so far say. -/
structure Reflects (listen : String) (ds : List Demand) (s : ProbeServer) : Prop where
  listen : s.listen = listen
  address : s.address = address? ds
  handlers : ∀ path, s.routes.get? path = handler? ds path
  stopped : s.stopped = true ↔ .stop ∈ ds

/-- A server that was just made is as no demand says. -/
theorem reflects_nil (listen : String) : Reflects listen [] { listen } :=
  ⟨rfl, rfl, fun _ => rfl, by simp⟩

/-- A demand keeps a server in step with the demands so far. -/
theorem Reflects.after {listen : String} {ds : List Demand} {s : ProbeServer}
    (h : Reflects listen ds s) (d : Demand) : Reflects listen (ds ++ [d]) (s.after d) := by
  have address : (s.after d).address = address? (ds ++ [d]) := by
    rw [address_after, address?_append, h.address]
    simp only [address?, List.findSome?_singleton]
  cases d with
  | register path handler =>
    rw [after_register] at address ⊢
    refine ⟨?_, address, fun other => ?_, ?_⟩
    · split <;> exact h.listen
    · rw [handler?_concat, ← h.handlers]
      by_cases absolute : Http.isAbsolute path = true
      · simp only [if_pos absolute, Table.get?_insert, Demand.handler?]
        by_cases same : other = path
        · simp [same, absolute]
        · simp [same, Ne.symm same]
      · simp [Demand.handler?, absolute]
    · have kept : (if Http.isAbsolute path then
          { s with routes := s.routes.insert path handler } else s).stopped = s.stopped := by
        split <;> rfl
      simp [kept, h.stopped]
  | run binding =>
    rw [after_run] at address ⊢
    exact ⟨h.listen, address, fun path => by rw [handler?_concat]; exact h.handlers path,
      by simp [h.stopped]⟩
  | request method target =>
    exact ⟨h.listen, address, fun path => by rw [handler?_concat]; exact h.handlers path,
      by simp [ProbeServer.after, h.stopped]⟩
  | stop =>
    exact ⟨h.listen, address, fun path => by rw [handler?_concat]; exact h.handlers path,
      by simp [ProbeServer.after, stop]⟩

/-- A server is as the demands say that it has met since it was made. -/
theorem reflects_afterAll (listen : String) (ds : List Demand) :
    Reflects listen ds (afterAll { listen } ds) := by
  suffices all : ∀ {es s}, Reflects listen es s → Reflects listen (es ++ ds) (s.afterAll ds) from
    all (reflects_nil listen)
  induction ds with
  | nil => exact fun h => by rwa [List.append_nil]
  | cons d ds ih =>
    intro es s h
    have next := ih (h.after d)
    rwa [List.append_assoc] at next

/-! ## Listeners -/

/-- A server with an address binds no listener. -/
theorem bindings_of_address {s : ProbeServer} {a : String} (h : s.address = some a)
    (ds : List Demand) : s.bindings ds = [] := by
  induction ds generalizing s with
  | nil => rfl
  | cons d ds ih =>
    have kept : (s.after d).address = some a := by rw [address_after, h]; rfl
    simp [bindings, h, ih kept]

/-- All listeners of a server fail but the one that is bound, if one is. -/
theorem exists_bindings {s : ProbeServer} (h : s.address = none) (ds : List Demand) :
    ∃ failures : List String,
      s.bindings ds = failures.map .error ++ (address? ds).toList.map .ok := by
  induction ds generalizing s with
  | nil => exact ⟨[], rfl⟩
  | cons d ds ih =>
    have next : (s.after d).address = d.binding?.bind Except.toOption := by
      rw [address_after, h]
      rfl
    cases hb : d.binding? with
    | none =>
      obtain ⟨failures, later⟩ := ih (s := s.after d) (by rw [next, hb]; rfl)
      exact ⟨failures, by simp [bindings, h, hb, later, address?]⟩
    | some binding =>
      cases binding with
      | error reason =>
        obtain ⟨failures, later⟩ := ih (s := s.after d) (by rw [next, hb]; rfl)
        exact ⟨reason :: failures, by simp [bindings, h, hb, later, address?, Except.toOption]⟩
      | ok a =>
        have bound : (s.after d).address = some a := by rw [next, hb]; rfl
        exact ⟨[], by
          simp [bindings, h, hb, bindings_of_address bound, address?, Except.toOption]⟩

/-! ## Requests -/

/-- A request for a path is for what stands before its query. -/
theorem pathOf_of_isFor {target path : String} (h : Demand.IsFor target path) :
    pathOf target = path := by
  obtain ⟨plain, shape⟩ := h
  have cut (rest : List Char) (stops : rest.takeWhile (· ≠ '?') = []) :
      (path.toList ++ rest).takeWhile (· ≠ '?') = path.toList := by
    rw [List.takeWhile_append_of_pos fun c hc => decide_eq_true (ne_of_mem_of_not_mem hc plain),
      stops, List.append_nil]
  rcases shape with rfl | ⟨query, rfl⟩
  · have whole := cut [] rfl
    rw [List.append_nil] at whole
    rw [pathOf, whole, String.ofList_toList]
  · have front := cut ('?' :: query.toList) rfl
    have written : (path ++ "?" ++ query).toList = path.toList ++ '?' :: query.toList := by
      simp
    rw [pathOf, written, front, String.ofList_toList]

end ProbeServer

namespace Rehearsal.World

/-- What the handlers of a rehearsal answer that retract no instance. -/
def serve (w : World) : Handler → String → Reply
  | .fixed r, _ => r
  | .counters, _ => countersReply w.counters
  | .readiness k, method => w.controller.readiness k method
  | .offline _, _ => .notFound

/-- A rehearsed request is answered as the demand is, unless it retracts an instance. -/
theorem request_eq_dispatch {w : World} (reachable : w.isReachable = true)
    (running : w.controller.server.isRunning = true) {target : String}
    (plain : ∀ i, w.controller.server.route? target ≠ some (.offline i)) (method : String) :
    w.request method target =
      (w, .result (.reply (w.controller.server.dispatch w.serve method target))) := by
  have bound : w.controller.server.address.isNone = false := by
    simp only [ProbeServer.isRunning, Bool.and_eq_true] at running
    cases h : w.controller.server.address <;> simp_all
  simp only [request, bound, reachable, running, ProbeServer.dispatch]
  cases hr : w.controller.server.route? target with
  | none => rfl
  | some h =>
    cases h with
    | offline i => exact absurd hr (plain i)
    | _ => rfl

end Rehearsal.World

namespace ProbeServer

/-! ## The course of a server -/

/-- What a server does that was made to listen at `listen` and has met the demands `ds` since. The
handlers answer as `serve` says. -/
structure Course (serve : Handler → String → Reply) (listen : String) (ds : List Demand) : Prop where
  /-- All listeners failed but the one that was bound, if one was. -/
  once : ∃ failures : List String,
    bindings { listen } ds = failures.map .error ++ (address? ds).toList.map .ok
  /-- Before that, each run binds a listener and gives what comes of it; one that fails leaves the
  server as it was. -/
  first : address? ds = none → ∀ binding,
    bindings { listen } (ds ++ [.run binding]) = bindings { listen } ds ++ [binding] ∧
      (afterAll { listen } ds).answer serve (.run binding) =
        .ran (binding.mapError (.bind listen)) ∧
      (binding.toOption = none → (afterAll { listen } ds).after (.run binding) =
        afterAll { listen } ds)
  /-- After that, whatever else is asked for, no listener is bound again and each run gives the
  address. -/
  again : ∀ a, address? ds = some a → ∀ more binding,
    bindings { listen } (ds ++ more) = bindings { listen } ds ∧
      (afterAll { listen } (ds ++ more)).answer serve (.run binding) = .ran (.ok a)
  /-- It runs exactly if a listener was bound and it was not told to stop. -/
  running : (afterAll { listen } ds).isRunning = true ↔ (address? ds).isSome = true ∧ .stop ∉ ds
  /-- While it runs, a request for a path is answered by the last handler of this path that was not
  refused, and with 404 if there is none. -/
  served : (afterAll { listen } ds).isRunning = true → ∀ method target path,
    Demand.IsFor target path →
      ∃ r, (afterAll { listen } ds).answer serve (.request method target) = .replied (some r) ∧
        match handler? ds path with
        | some h => r = (serve h method).sent method
        | none => r = Reply.notFound.sent method ∧ r.status = ⟨404⟩
  /-- Otherwise no request is answered. -/
  silent : (afterAll { listen } ds).isRunning = false → ∀ method target,
    (afterAll { listen } ds).answer serve (.request method target) = .replied none
  /-- A handler is accepted for a path that starts at the root. -/
  accepted : ∀ path h, Http.isAbsolute path = true →
    (afterAll { listen } ds).answer serve (.register path h) = .registered (.ok ())
  /-- Another path is refused, and the server stays as it was. -/
  refused : ∀ path h, Http.isAbsolute path = false →
    (afterAll { listen } ds).answer serve (.register path h) =
        .registered (.error (.invalidPath path)) ∧
      (afterAll { listen } ds).after (.register path h) = afterAll { listen } ds

/-- A probe server binds one listener at most and keeps its address, serves each path by the last
handler that it was given, before the start or after it, and runs from its first bound listener
until it is told to stop. -/
theorem serves_course (serve : Handler → String → Reply) (listen : String) (ds : List Demand) :
    Course serve listen ds := by
  have now := reflects_afterAll listen ds
  refine
    { once := exists_bindings rfl ds
      first := fun unbound binding => ?_
      again := fun a bound more binding => ?_
      running := ?_
      served := fun runs method target path asked => ?_
      silent := fun idle method target => ?_
      accepted := fun path h absolute => ?_
      refused := fun path h relative => ?_ }
  · have fresh : (afterAll { listen } ds).address = none := now.address.trans unbound
    refine ⟨?_, ?_, fun failed => ?_⟩
    · rw [bindings_append]
      simp [bindings, fresh, Demand.binding?]
    · cases binding <;> simp [answer, run, fresh, now.listen] <;> rfl
    · have same : (afterAll { listen } ds).address.or binding.toOption =
          (afterAll { listen } ds).address := by rw [fresh, failed]; rfl
      rw [after_run, same]
  · have kept : (afterAll { listen } ds).address = some a := now.address.trans bound
    have later : (afterAll { listen } (ds ++ more)).address = some a := by
      rw [(reflects_afterAll listen (ds ++ more)).address, address?_append, bound]
      rfl
    refine ⟨?_, ?_⟩
    · rw [bindings_append, bindings_of_address kept, List.append_nil]
    · rw [answer, run_of_bound later]
  · rw [isRunning, now.address, Bool.and_eq_true, Bool.not_eq_true', ← Bool.not_eq_true, now.stopped]
  · refine ⟨_, by rw [answer, if_pos runs], ?_⟩
    rw [dispatch, route?, pathOf_of_isFor asked, now.handlers]
    cases handler? ds path with
    | none => exact ⟨rfl, Reply.status_sent_text ..⟩
    | some h => rfl
  · rw [answer, if_neg (by simp [idle])]
  · rw [answer, register, if_pos absolute]
    rfl
  · refine ⟨?_, ?_⟩
    · rw [answer, register, if_neg (by simp [relative])]
      rfl
    · rw [after_register, if_neg (by simp [relative])]

end ProbeServer

end InstanceLifecycle
