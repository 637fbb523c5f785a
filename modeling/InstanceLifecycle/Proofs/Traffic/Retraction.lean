import InstanceLifecycle.Proofs.Traffic.Abandonment

/-!
# Retracting an instance

A call to retract an instance asks the registrar exactly if the instance is registered. If the
registrar refuses, the instance stays registered; in all other cases nothing moves. This holds
wherever earlier calls have left the instance, also those that were given up.

Results:

* `Known.step`: the states are those of the instances for which an attempt has begun;
* `Deregister.start_other`: a call for an instance that is not registered returns at once;
* `retracts_or_leaves`: a call retracts its instance as a whole or leaves all states as they were,
  and the offline probe says which.
-/

namespace InstanceLifecycle

namespace Traffic

/-! ## Attempts that have begun -/

/-- Whether an attempt to register an instance has begun: a registration has come to a stage to
which it has moved the instance. -/
def Begun (t : Traffic) (k : InstanceKey) : Prop :=
  ∃ h ∈ t.trace, h.inst.key = k ∧ ∃ s, h.deed = .reached (.register s) ∧ s.place?.isSome = true

/-- Whether the states are those of the instances for which an attempt has begun. -/
def Known (t : Traffic) : Prop := ∀ k, (t.controller.state? k).isSome = true ↔ t.Begun k

section Goes

variable {t u : Traffic} {n : Nat} {i : Instance} {told : List Answer} {s : Step Stage}

/-- An attempt has begun before a call goes on, or the call begins one. -/
theorem Goes.begun_iff (g : Goes t n i told s u) (k : InstanceKey) :
    u.Begun k ↔ t.Begun k ∨ i.key = k ∧ ∃ r, s.stage = .register r ∧ r.place?.isSome = true := by
  unfold Begun
  rw [g.trace]
  simp only [note, deedsOf, List.mem_append, List.mem_map, List.mem_singleton]
  constructor
  · rintro ⟨h, old | ⟨d, new, rfl⟩, hk, r, hd, hr⟩
    · exact .inl ⟨h, old, hk, r, hd, hr⟩
    · rcases new with ⟨a, -, rfl⟩ | ⟨x, -, rfl⟩ | rfl
      · cases hd
      · cases hd
      · exact .inr ⟨hk, r, Deed.reached.inj hd, hr⟩
  · rintro (⟨h, old, rest⟩ | ⟨hk, r, hs, hr⟩)
    · exact ⟨h, .inl old, rest⟩
    · exact ⟨_, .inr ⟨_, .inr (.inr rfl), rfl⟩, hk, r, congrArg Deed.reached hs, hr⟩

/-- The states stay those of the instances for which an attempt has begun if only a registration
begins one. -/
theorem Known.goes (h : t.Known) (g : Goes t n i told s u) {held : Option RegistrationState}
    {act : Option RegistrarAct} (turn : Turn i.key held t.controller act s)
    (known : (∃ r, s.stage = .register r) ∨ s.stage.place? = none ∨
      (t.controller.state? i.key).isSome = true) : u.Known := by
  intro k
  rw [g.begun_iff k, g.controller]
  by_cases hk : i.key = k
  · subst hk
    cases turn with
    | refused _ states place =>
      have same : s.controller.state? i.key = t.controller.state? i.key :=
        congrArg (·.get? i.key) states
      rw [same, h i.key]
      refine (or_iff_left ?_).symm
      rintro ⟨-, r, hr, begun⟩
      have free : r.place? = none := by simpa [hr] using place
      rw [free] at begun
      cases begun
    | moved b _ place states =>
      refine iff_of_true (by rw [states, if_pos rfl]; rfl) ?_
      rcases known with ⟨r, hr⟩ | free | old
      · refine .inr ⟨rfl, r, hr, ?_⟩
        have there : r.place? = some b := by simpa [hr] using place
        rw [there]
        rfl
      · exact absurd (place.symm.trans free) (by simp)
      · exact .inl ((h i.key).mp old)
  · rw [turn.state?_of_ne (Ne.symm hk), h k]
    exact (or_iff_left fun new => hk new.1).symm

end Goes

theorem Known.step {t : Traffic} (h : t.Known) (sound : t.Sound) (m : Move) : (t.step m).Known := by
  have move := t.stepped m
  generalize t.step m = u at move
  cases move with
  | idle => exact h
  | register i =>
    exact h.goes (goes_launch (Step.serves_of_quiet rfl rfl)) (turn_lookup i.key t.controller)
      (.inl ⟨_, rfl⟩)
  | deregister i isProbe =>
    refine h.goes (goes_launch (serves_start ..)) (turn_start t.controller i isProbe) (.inr ?_)
    by_cases hc : t.controller.state? i.key = some .registered
    · exact .inr (by rw [hc]; rfl)
    · exact .inl (Deregister.start_idle hc).2
  | @answer n x a call awaits =>
    have turn := Call.turn_resume awaits (sound.owns call) t.now
    refine h.goes (goes_proceed call a) turn ?_
    cases Call.advance awaits (sound.owns call) with
    | admitted => exact .inl ⟨_, rfl⟩
    | late => exact .inl ⟨_, rfl⟩
    | overtaken => exact .inl ⟨_, rfl⟩
    | retracted isProbe r retracts => exact .inr (.inr (by rw [retracts]; rfl))
    | timer => exact .inr (.inl rfl)

/-! ## Requests to the registrar -/

/-- A request to the registrar. -/
inductive RegistrarRequest
  | register (i : Instance)
  | deregister (r : Retraction)
  deriving DecidableEq, Repr

/-- The request that a call makes when it comes to a stage. -/
def Stage.request? (i : Instance) : Stage → Option RegistrarRequest
  | register (.registering _) => some (.register i)
  | deregister _ .retracting => some (.deregister i.retraction)
  | _ => none

/-- The request to the registrar that is made when something happens. -/
def Happening.request? (h : Happening) : Option RegistrarRequest :=
  match h.deed with
  | .reached s => s.request? h.inst
  | _ => none

/-- The kind of an event that is reported when something happens. -/
def Happening.kind? (h : Happening) : Option EventKind :=
  match h.deed with
  | .effect x => x.kind?
  | _ => none

/-- The requests to the registrar that a call has made. -/
def requestsOf (t : Traffic) (n : Nat) : List RegistrarRequest :=
  (t.logOf n).filterMap Happening.request?

/-- The kinds of events that a call has reported. -/
def kindsOf (t : Traffic) (n : Nat) : List EventKind := (t.logOf n).filterMap Happening.kind?

section Goes

variable {t u : Traffic} {n : Nat} {i : Instance} {told : List Answer} {s : Step Stage}
  (g : Goes t n i told s u)
include g

/-- What is picked from the log of a call when it goes on, if nothing is picked for an answer. -/
theorem Goes.filterMap_logOf {f : Happening → Option α}
    (untold : ∀ a, f ⟨t.now, n, i, .told a⟩ = none) :
    (u.logOf n).filterMap f = (t.logOf n).filterMap f ++
      (s.effects.filterMap (fun x => f ⟨t.now, n, i, .effect x⟩) ++
        (f ⟨t.now, n, i, .reached s.stage⟩).toList) := by
  have tolds : told.filterMap (fun a => f ⟨t.now, n, i, .told a⟩) = [] :=
    List.filterMap_eq_nil_iff.mpr fun a _ => untold a
  rw [g.logOf n, if_pos rfl, List.filterMap_append]
  simp only [deedsOf, List.filterMap_append, List.filterMap_map, Function.comp_def, tolds,
    List.nil_append, List.filterMap_cons, List.filterMap_nil, List.map_append, List.map_cons,
    List.map_nil, List.map_map]
  cases f ⟨t.now, n, i, .reached s.stage⟩ <;> rfl

/-- A call makes its requests when it comes to a stage. -/
theorem Goes.requestsOf :
    u.requestsOf n = t.requestsOf n ++ (s.stage.request? i).toList := by
  have effects : s.effects.filterMap
      (fun x => Happening.request? ⟨t.now, n, i, .effect x⟩) = [] :=
    List.filterMap_eq_nil_iff.mpr fun _ _ => rfl
  refine (g.filterMap_logOf fun _ => rfl).trans ?_
  rw [effects]
  rfl

/-- A call reports what its steps report. -/
theorem Goes.kindsOf : u.kindsOf n = t.kindsOf n ++ s.effects.filterMap Effect.kind? :=
  (g.filterMap_logOf fun _ => rfl).trans (congrArg _ (List.append_nil _))

end Goes

/-! ## Moves that are no calls -/

/-- Whether a move neither begins a call nor goes on with one: time passes, a timer ends or the
controller is shut down. -/
def Move.isCalm : Move → Bool
  | pass _ => true
  | answer _ (.timer _) => true
  | cancel => true
  | _ => false

/-- A calm move leaves the controller and the calls that are no timers as they are. -/
theorem step_calm {m : Move} (calm : m.isCalm = true) (t : Traffic) :
    (t.step m).controller = t.controller ∧ ∀ n x, t.calls[n]? = some x →
      (∀ d, x.stage ≠ .warmup d) →
        (t.step m).calls[n]? = some x ∧ (t.step m).logOf n = t.logOf n := by
  have move := t.stepped m
  generalize t.step m = u at move
  cases move with
  | idle => exact ⟨rfl, fun n x call _ => ⟨call, rfl⟩⟩
  | register i => cases calm
  | deregister i isProbe => cases calm
  | @answer l y a call awaits =>
    cases a with
    | register a => cases calm
    | retracted r => cases calm
    | timer isInterrupted =>
      obtain ⟨i, stage, since⟩ := y
      rcases Stage.cases_of_awaits awaits with
        ⟨_, _, _, hb, _⟩ | ⟨_, _, _, hb⟩ | ⟨d, b, hs, -⟩
      · cases hb
      · cases hb
      · obtain rfl : stage = .warmup d := hs
        have g := goes_proceed call (.timer isInterrupted)
        refine ⟨g.controller, fun n x hx still => ?_⟩
        have other : n ≠ l := by
          rintro rfl
          obtain rfl := Option.some.inj (call.symm.trans hx)
          exact still d rfl
        exact ⟨g.kept n other x hx, by rw [g.logOf n, if_neg other, List.append_nil]⟩

end Traffic

/-! ## What a call returns -/

/-- The offline probe answers by the result of its call alone. -/
theorem status_offlineReply (result : Except LifecycleError DeregisterOutcome) (method : String) :
    ((offlineReply result).sent method).status = ⟨if result.isOk then 200 else 500⟩ := by
  cases result <;> exact Reply.status_sent_text ..

namespace Deregister

variable {c : Controller} {i : Instance}

/-- What a call to retract an instance returns, from where the instance stood and what the registrar
says if it is asked. -/
def result (i : Instance) (r : Except Failure Unit) :
    Option RegistrationState → Except LifecycleError DeregisterOutcome
  | none => .error (.unknownInstance i.key.text)
  | some .deregistered => .ok .alreadyDeregistered
  | some .registered =>
    match r with
    | .ok _ => .ok .deregistered
    | .error f => .error (.deregistration i.key.text f)
  | some s => .error (.transition (.invalidTransition i.key.text s .deregistering))

section Result

variable (i : Instance) (r : Except Failure Unit) (x : Option RegistrationState)

/-- Only a registered instance is retracted, and only if the registrar accepts that. -/
theorem result_eq_deregistered_iff :
    result i r x = .ok .deregistered ↔ x = some .registered ∧ r.isOk = true := by
  cases x with
  | none => simp [result]
  | some s => cases s <;> cases r <;> simp [result, Except.isOk, Except.toBool]

theorem result_eq_already_iff :
    result i r x = .ok .alreadyDeregistered ↔ x = some .deregistered := by
  cases x with
  | none => simp [result]
  | some s => cases s <;> cases r <;> simp [result]

theorem result_eq_unknown_iff (text : String) :
    result i r x = .error (.unknownInstance text) ↔ x = none ∧ text = i.key.text := by
  cases x with
  | none => simp [result, eq_comm]
  | some s => cases s <;> cases r <;> simp [result]

end Result

/-- A call for an instance that is not registered returns at once. -/
theorem start_other (hc : c.state? i.key ≠ some .registered) (r : Except Failure Unit) :
    (start c i).stage = .done (result i r (c.state? i.key)) := by
  unfold start
  cases hs : c.state? i.key with
  | none => rfl
  | some s =>
    have refused : (c.moving i.key .registered .deregistering refuseMove fun c =>
        ⟨c, .retracting, [c.event .offlineStart i]⟩).stage =
          refuseMove (.invalidTransition i.key.text s .deregistering) := by
      rw [Controller.moving_eq _ _ rfl, if_neg hc, hs]
    cases s with
    | registered => exact absurd hs hc
    | deregistered => rfl
    | _ => exact refused

end Deregister

namespace Attended

/-- What every move of the traffic preserves holds after every run in which calls are given up. -/
theorem traffic_induction {P : Traffic → Prop} {u : Attended} (start : P u.traffic)
    (step : ∀ t m, P t → P (t.step m)) (ms : List Move) : P (u.run ms).traffic := by
  refine run_induction (P := fun v => P v.traffic) start (fun v m h => ?_) ms
  have move := v.stepped m
  generalize v.step m = w at move
  cases move with
  | vain => exact h
  | take m => exact step _ m h
  | giveUp => exact h

/-- What holds after every run: calls that were given up have begun, the states are those of the
instances for which an attempt has begun, and what was written down belongs to a call. -/
structure Orderly (u : Attended) : Prop where
  fair : u.Fair
  known : u.traffic.Known
  numbered : u.traffic.Numbered

theorem run_orderly (τ : Timer) (settings : GracefulSettings) (server : ProbeServer)
    (ms : List Move) :
    ((start τ settings server).run ms).Orderly where
  fair := run_fair τ settings server ms
  known := by
    have first : (start τ settings server).traffic.Known := fun k => by
      refine iff_of_false (by simp [start, Traffic.start, Controller.state?]) ?_
      rintro ⟨h, old, -⟩
      exact absurd old List.not_mem_nil
    exact (traffic_induction (P := fun t => t.Sound ∧ t.Known)
      ⟨Traffic.sound_start τ settings server, first⟩
      (fun t m h => ⟨h.1.step m, h.2.step h.1 m⟩) ms).2
  numbered := traffic_induction (Traffic.numbered_start τ settings server) (fun _ m h => h.step m) ms

/-! ## A call without others -/

/-- The state and the call with this number are as they were. -/
structure Still (u v : Attended) (n : Nat) : Prop where
  controller : v.traffic.controller = u.traffic.controller
  call : v.traffic.calls[n]? = u.traffic.calls[n]?
  log : v.traffic.logOf n = u.traffic.logOf n
  gone : v.gone = u.gone

/-- Calm moves leave a call that is no timer where it is. -/
theorem still_run {u : Attended} {n : Nat} {x : Traffic.Call} (hx : u.traffic.calls[n]? = some x)
    (no_timer : ∀ d, x.stage ≠ .warmup d) (ms : List Traffic.Move)
    (calm : ∀ m ∈ ms, m.isCalm = true) : Still u (u.run (ms.map .take)) n := by
  induction ms generalizing u with
  | nil => exact ⟨rfl, rfl, rfl, rfl⟩
  | cons m ms ih =>
    have next : Still u (u.step (.take m)) n := by
      cases hv : u.isVain m with
      | true =>
        have same : u.step (.take m) = u := by simp [step, hv]
        rw [same]
        exact ⟨rfl, rfl, rfl, rfl⟩
      | false =>
        obtain ⟨controller, others⟩ := Traffic.step_calm (calm m List.mem_cons_self) u.traffic
        obtain ⟨call, log⟩ := others n x hx no_timer
        rw [step_take hv]
        exact ⟨controller, call.trans hx.symm, log, rfl⟩
    have rest := ih (next.call.trans hx) fun m' hm => calm m' (List.mem_cons_of_mem _ hm)
    exact ⟨rest.controller.trans next.controller, rest.call.trans next.call,
      rest.log.trans next.log, rest.gone.trans next.gone⟩

/-- A call is not told what it does not wait for. -/
theorem step_deaf {u : Attended} {n : Nat} {x : Traffic.Call} {a : Traffic.Answer}
    (call : u.traffic.calls[n]? = some x) (deaf : x.stage.awaits a = false) :
    u.step (.take (.answer n a)) = u := by
  have idle : u.traffic.step (.answer n a) = u.traffic := by
    simp [Traffic.step, call, Traffic.Call.accepts, deaf]
  cases hv : u.isVain (.answer n a) with
  | true => simp [step, hv]
  | false => rw [step_take hv, idle]

/-- What a call to retract an instance has done, if it began at one state of the controller and is
over at another, where it has returned this result. -/
structure Retracts (u v : Attended) (i : Instance) (isProbe : Bool) (r : Except Failure Unit)
    (result : Except LifecycleError DeregisterOutcome) : Prop where
  returned : v.traffic.stage? u.traffic.calls.length = some (.deregister isProbe (.done result))
  /-- The registrar is asked exactly if the instance was registered. -/
  requests : v.traffic.requestsOf u.traffic.calls.length =
    if u.state? i.key = some .registered then [.deregister i.retraction] else []
  deregistered : result = .ok .deregistered ↔
    u.state? i.key = some .registered ∧ r.isOk = true
  already : result = .ok .alreadyDeregistered ↔ u.state? i.key = some .deregistered
  unknown : ∀ text, result = .error (.unknownInstance text) ↔
    ¬u.traffic.Begun i.key ∧ text = i.key.text
  /-- Nothing is reported unless the registrar is asked. -/
  quiet : u.state? i.key ≠ some .registered → v.traffic.kindsOf u.traffic.calls.length = []
  /-- The instance is deregistered after a retraction; all else is where it was. -/
  states : ∀ k, v.state? k =
    if k = i.key ∧ result = .ok .deregistered then some .deregistered else u.state? k
  /-- The offline probe confirms that the instance is deregistered. -/
  reply : ∀ method, ((offlineReply result).sent method).status =
    ⟨if v.state? i.key = some .deregistered then 200 else 500⟩

section Call

variable {u : Attended} (i : Instance) (isProbe : Bool) (ms : List Traffic.Move)
  (r : Except Failure Unit)

/-- The controller while a call to retract an instance waits, if it waits. -/
def during (u : Attended) : Attended := u.run (.take (.deregister i isProbe) :: ms.map .take)

/-- The controller when the registrar has answered. -/
def after (u : Attended) : Attended :=
  (u.during i isProbe ms).step (.take (.answer u.traffic.calls.length (.retracted r)))

/-- Nothing happens to a call to retract an instance while it waits. -/
theorem goes_during (calm : ∀ m ∈ ms, m.isCalm = true) : ∃ t,
    Traffic.Goes u.traffic u.traffic.calls.length i []
      (Traffic.ofDeregister i isProbe (Deregister.start u.traffic.controller i)) t ∧
    Still { u with traffic := t } (u.during i isProbe ms) u.traffic.calls.length := by
  have g := Traffic.goes_launch (Traffic.serves_start u.traffic.controller i isProbe)
  have begins : u.step (.take (.deregister i isProbe)) =
      { u with traffic := u.traffic.step (.deregister i isProbe) } := step_take rfl
  have still := still_run (u := u.step (.take (.deregister i isProbe))) g.call
    (fun d hd => by cases hd) ms calm
  rw [begins] at still
  refine ⟨_, g, ?_⟩
  show Still _ ((u.step (.take (.deregister i isProbe))).run (ms.map .take)) _
  rw [begins]
  exact still

/-- What a call has done, if it returns what it should and leaves the states accordingly. -/
theorem retracts_of_result {v : Attended} (known : u.traffic.Known)
    (returned : v.traffic.stage? u.traffic.calls.length =
      some (.deregister isProbe (.done (Deregister.result i r (u.state? i.key)))))
    (requests : v.traffic.requestsOf u.traffic.calls.length =
      if u.state? i.key = some .registered then [.deregister i.retraction] else [])
    (quiet : u.state? i.key ≠ some .registered → v.traffic.kindsOf u.traffic.calls.length = [])
    (states : ∀ k, v.state? k =
      if k = i.key ∧ u.state? i.key = some .registered ∧ r.isOk = true then some .deregistered
      else u.state? k) :
    Retracts u v i isProbe r (Deregister.result i r (u.state? i.key)) where
  returned := returned
  requests := requests
  deregistered := Deregister.result_eq_deregistered_iff ..
  already := Deregister.result_eq_already_iff ..
  unknown text := by
    rw [Deregister.result_eq_unknown_iff]
    refine and_congr_left fun _ => ?_
    rw [← known i.key]
    exact Option.not_isSome_iff_eq_none.symm
  quiet := quiet
  states k := by
    rw [states k]
    simp only [Deregister.result_eq_deregistered_iff]
  reply method := by
    rw [status_offlineReply, states i.key]
    cases hs : u.state? i.key with
    | none => simp [Deregister.result, Except.isOk, Except.toBool]
    | some s => cases s <;> cases r <;> simp [Deregister.result, Except.isOk, Except.toBool]

/-- A call for an instance that is not registered leaves all as it is. -/
theorem Orderly.retracts_other (h : u.Orderly) (calm : ∀ m ∈ ms, m.isCalm = true)
    (hc : u.state? i.key ≠ some .registered) :
    Retracts u (u.after i isProbe ms r) i isProbe r (Deregister.result i r (u.state? i.key)) ∧
      ∀ k, (u.during i isProbe ms).state? k = u.state? k := by
  obtain ⟨t, g, still⟩ := u.goes_during i isProbe ms calm
  have stage : (Traffic.ofDeregister i isProbe (Deregister.start u.traffic.controller i)).stage =
      .deregister isProbe (.done (Deregister.result i r (u.state? i.key))) :=
    congrArg (Traffic.Stage.deregister isProbe) (Deregister.start_other hc r)
  have call := still.call.trans g.call
  rw [stage] at call
  have deaf : u.after i isProbe ms r = u.during i isProbe ms := step_deaf call rfl
  have controller : (u.during i isProbe ms).traffic.controller = u.traffic.controller :=
    still.controller.trans (g.controller.trans (Deregister.start_idle hc).1)
  have unmoved (k : InstanceKey) : (u.during i isProbe ms).state? k = u.state? k :=
    congrArg (·.state? k) controller
  have fresh := h.numbered.logOf_eq_nil (Nat.le_refl u.traffic.calls.length)
  refine ⟨retracts_of_result i isProbe r h.known ?_ ?_ (fun _ => ?_) fun k => ?_, unmoved⟩
  · rw [deaf, Traffic.stage?, call]
    rfl
  · rw [deaf, if_neg hc, Traffic.requestsOf, still.log]
    refine g.requestsOf.trans ?_
    rw [Traffic.requestsOf, fresh, stage]
    rfl
  · rw [deaf, Traffic.kindsOf, still.log]
    refine g.kindsOf.trans ?_
    rw [Traffic.kindsOf, fresh, Traffic.kinds_ofDeregister,
      Effect.kinds_of_quiet (Deregister.start_quiet hc)]
    rfl
  · rw [deaf, unmoved k, if_neg fun h => hc h.2.1]

/-- While the registrar is asked to retract an instance, the instance is being deregistered and all
others are where they were. -/
structure Asking (u v : Attended) (i : Instance) (isProbe : Bool) : Prop where
  call : v.traffic.calls[u.traffic.calls.length]? =
    some ⟨i, .deregister isProbe .retracting, u.traffic.now⟩
  requests : v.traffic.requestsOf u.traffic.calls.length = [.deregister i.retraction]
  states : ∀ k, v.state? k = if k = i.key then some .deregistering else u.state? k
  gone : v.gone = u.gone

theorem Orderly.asking (h : u.Orderly) (calm : ∀ m ∈ ms, m.isCalm = true)
    (hc : u.state? i.key = some .registered) : Asking u (u.during i isProbe ms) i isProbe := by
  obtain ⟨t, g, still⟩ := u.goes_during i isProbe ms calm
  have stage : (Traffic.ofDeregister i isProbe (Deregister.start u.traffic.controller i)).stage =
      .deregister isProbe .retracting :=
    congrArg (Traffic.Stage.deregister isProbe) (Deregister.start_registered hc)
  have call := still.call.trans g.call
  rw [stage] at call
  obtain ⟨b, hb, -, moved⟩ := Deregister.start_settles hc
  obtain rfl := List.mem_singleton.mp hb
  refine ⟨call, ?_, fun k => ?_, still.gone⟩
  · rw [Traffic.requestsOf, still.log]
    refine g.requestsOf.trans ?_
    rw [Traffic.requestsOf, h.numbered.logOf_eq_nil (Nat.le_refl _), stage]
    rfl
  · exact (congrArg (·.state? k) (still.controller.trans g.controller)).trans (moved k)

section Asked

variable {i isProbe} {v : Attended} (h : Asking u v i isProbe)
include h

theorem Asking.waits : v.traffic.controller.state? i.key = some .deregistering :=
  (h.states i.key).trans (if_pos rfl)

/-- The registrar is heard. -/
theorem Asking.step_answer (orderly : u.Orderly) :
    v.step (.take (.answer u.traffic.calls.length (.retracted r))) = { v with
      traffic := v.traffic.proceed u.traffic.calls.length
        ⟨i, .deregister isProbe .retracting, u.traffic.now⟩ (.retracted r) } := by
  have heard : v.isVain (.answer u.traffic.calls.length (.retracted r)) = false := by
    have here : u.traffic.calls.length ∉ u.gone := fun hn =>
      Nat.lt_irrefl _ (orderly.fair.gone _ hn)
    rw [isVain, h.gone]
    simpa using here
  rw [step_take heard, Traffic.step_answer h.call rfl]

/-- Where the instances are when the registrar has answered. -/
theorem Asking.state?_resume (hc : u.state? i.key = some .registered) (k : InstanceKey) :
    (Deregister.resume v.traffic.controller i .retracting r).controller.state? k =
      if k = i.key ∧ r.isOk = true then some .deregistered else u.state? k := by
  have outside : v.traffic.controller.state? k =
      if k = i.key then some .deregistering else u.state? k := h.states k
  cases r with
  | ok x =>
    obtain ⟨b, hb, -, ends⟩ := Deregister.resume_ok h.waits x
    obtain rfl := List.mem_singleton.mp hb
    rw [ends k, outside]
    by_cases hk : k = i.key <;> simp [hk, Except.isOk, Except.toBool]
  | error f =>
    obtain ⟨b, hb, -, ends⟩ := Deregister.resume_error h.waits f
    obtain rfl := List.mem_singleton.mp hb
    rw [ends k, outside]
    by_cases hk : k = i.key <;> simp [hk, hc, Except.isOk, Except.toBool]

end Asked

/-- A call for a registered instance asks the registrar and does what it says. -/
theorem Orderly.retracts_registered (h : u.Orderly) (calm : ∀ m ∈ ms, m.isCalm = true)
    (hc : u.state? i.key = some .registered) :
    Retracts u (u.after i isProbe ms r) i isProbe r (Deregister.result i r (u.state? i.key)) ∧
      ∀ k, k ≠ i.key → (u.during i isProbe ms).state? k = u.state? k := by
  have asking := h.asking i isProbe ms calm hc
  have told := asking.step_answer r h
  have g := Traffic.goes_proceed asking.call (.retracted r)
  have verdict : (Traffic.Call.resume ⟨i, .deregister isProbe .retracting, u.traffic.now⟩
      (u.during i isProbe ms).traffic.controller (.retracted r)
        (u.during i isProbe ms).traffic.now).stage =
          .deregister isProbe (.done (Deregister.result i r (u.state? i.key))) := by
    refine congrArg (Traffic.Stage.deregister isProbe) ?_
    rw [Deregister.stage_retracted asking.waits, hc]
    cases r <;> rfl
  refine ⟨retracts_of_result i isProbe r h.known ?_ ?_ (fun other => absurd hc other) fun k => ?_,
    fun k hk => (asking.states k).trans (if_neg hk)⟩
  · rw [after, told, Traffic.stage?, g.call, ← verdict]
    rfl
  · rw [after, told, g.requestsOf, asking.requests, if_pos hc, verdict]
    rfl
  · rw [after, told]
    refine (asking.state?_resume r hc k).trans ?_
    simp [hc]

end Call

/-- After every run, also where calls were given up, a call to retract an instance that is the only
one to go on retracts the instance as a whole or leaves all states as they were; no other instance
moves meanwhile. -/
theorem retracts_or_leaves (τ : Timer) (settings : GracefulSettings) (server : ProbeServer)
    (before : List Move) (i : Instance) (isProbe : Bool) (ms : List Traffic.Move)
    (calm : ∀ m ∈ ms, m.isCalm = true) (r : Except Failure Unit) :
    let u := (start τ settings server).run before
    (∃ result, Retracts u (u.after i isProbe ms r) i isProbe r result) ∧
      ∀ k, k ≠ i.key → (u.during i isProbe ms).state? k = u.state? k := by
  intro u
  have orderly : u.Orderly := run_orderly τ settings server before
  by_cases hc : u.state? i.key = some .registered
  · obtain ⟨retracts, others⟩ := orderly.retracts_registered i isProbe ms r calm hc
    exact ⟨⟨_, retracts⟩, others⟩
  · obtain ⟨retracts, others⟩ := orderly.retracts_other i isProbe ms r calm hc
    exact ⟨⟨_, retracts⟩, fun k _ => others k⟩

/-- If the registrar refuses, the instance stays registered and the offline probe says so. -/
theorem retracts_or_leaves_refused :
    let i : Instance :=
      ⟨"default", "echo", "127.0.0.1", 8080, some "ins-1", some "secret", none, some 2⟩
    let before : List Move :=
      [.take (.register i), .take (.answer 0 (.register (.rule (.ok none)))),
        .take (.answer 0 (.register (.registered (.ok ⟨"ins-1", false⟩))))]
    let u := (start .thirtyYears {} { listen := "127.0.0.1:0" }).run before
    let v := u.after i true [.pass 250] (.error (.message "unavailable"))
    u.state? i.key = some .registered ∧ v.state? i.key = some .registered ∧
      v.traffic.requestsOf 1 = [.deregister
        ⟨"default", "echo", "127.0.0.1", 8080, some "ins-1", some "secret", none, some 2⟩] ∧
      ∃ result, v.traffic.stage? 1 = some (.deregister true (.done result)) ∧
        result.isOk = false ∧ ((offlineReply result).sent "PUT").status = ⟨500⟩ := by
  intro i before u v
  have registered : u.state? i.key = some .registered := by decide +kernel
  have first : u.traffic.calls.length = 1 := by decide +kernel
  obtain ⟨⟨result, retracts⟩, -⟩ :=
    retracts_or_leaves .thirtyYears {} { listen := "127.0.0.1:0" } before i true
    [.pass 250] (by decide) (.error (.message "unavailable"))
  have kept : result ≠ .ok .deregistered := fun h => by cases (retracts.deregistered.mp h).2
  have fresh : result ≠ .ok .alreadyDeregistered := fun h => by
    cases registered.symm.trans (retracts.already.mp h)
  have stays : v.state? i.key = some .registered := by
    refine (retracts.states i.key).trans ?_
    rw [if_neg fun h => kept h.2]
    exact registered
  have requests := retracts.requests
  have returned := retracts.returned
  have reply := retracts.reply "PUT"
  rw [first] at requests returned
  rw [if_pos registered] at requests
  rw [stays] at reply
  refine ⟨registered, stays, requests, result, returned, ?_, reply⟩
  cases result with
  | error e => rfl
  | ok o =>
    cases o with
    | deregistered => exact absurd rfl kept
    | alreadyDeregistered => exact absurd rfl fresh

end Attended

end InstanceLifecycle
