import Mathlib.Data.List.Induction
import InstanceLifecycle.Proofs.Rehearsal.Sessions
import InstanceLifecycle.Proofs.Traffic.Reports

/-!
# What the readiness probe confirms

The readiness probe looks at the state of its instance only. That state says what the registrar and
the reporters have been through: the probe confirms an instance that the registrar has accepted,
whose `onlineEnd` was reported before it became registered, and that is neither retracted nor being
retracted.

Results:

* `Attested.lists_iff`: the registry lists exactly the instances that were confirmed and have not
  been retracted since, and this is kept by every move;
* `readiness_confirms`: the readiness probe confirms exactly those of them that are not being
  retracted, and does so again after a refusal to retract one; asking it changes nothing.
-/

namespace InstanceLifecycle

namespace Traffic

/-! ## Confirmations -/

/-- A history in which the registrar has accepted an instance: then its `onlineEnd` was reported, if
events are reported at all, and then the instance became registered; and since it was accepted no
call to retract it has succeeded. -/
inductive Confirmed (reporting : Bool) (k : InstanceKey) : List Happening → Prop
  | intro (before between after : List Happening) {time n : Nat} {i : Instance} (r : Registration)
    (key : i.key = k)
    (online : reporting = true →
      ∃ info, ⟨time, n, i, .effect (.event .onlineEnd i info)⟩ ∈ between)
    (since : ∀ h ∈ between ++ after, h.success? k ≠ some .deregister) :
    Confirmed reporting k
      (before ++ ⟨time, n, i, .told (.register (.registered (.ok r)))⟩ ::
        (between ++ ⟨time, n, i, .effect (.moved k .registering .registered)⟩ :: after))

namespace Confirmed

variable {reporting : Bool} {k : InstanceKey} {hs : List Happening}

/-- What happens later takes nothing away unless a call to retract the instance succeeds. -/
theorem append (h : Confirmed reporting k hs) {ks : List Happening}
    (hk : ∀ e ∈ ks, e.success? k ≠ some .deregister) : Confirmed reporting k (hs ++ ks) := by
  obtain ⟨before, between, after, r, key, online, since⟩ := h
  have more : ∀ e ∈ between ++ (after ++ ks), e.success? k ≠ some .deregister := by
    intro e he
    rw [← List.append_assoc] at he
    rcases List.mem_append.mp he with he | he
    · exact since e he
    · exact hk e he
  have key := Confirmed.intro before between (after ++ ks) r key online more
  simpa only [List.append_assoc, List.cons_append] using key

/-- The last successful call to the registrar for a confirmed instance was a registration. -/
theorem getLast?_successes (h : Confirmed reporting k hs) :
    (hs.filterMap (Happening.success? k)).getLast? = some .register := by
  cases h with
  | @intro before between after time n i r key online since =>
    -- After the acceptance every successful call is a registration.
    have rest : ∀ a ∈ (between ++ after).filterMap (Happening.success? k), a = .register := by
      intro a ha
      obtain ⟨e, he, hea⟩ := List.mem_filterMap.mp ha
      cases a with
      | register => rfl
      | deregister => exact absurd hea (since e he)
    have told : Happening.success? k ⟨time, n, i, .told (.register (.registered (.ok r)))⟩ =
        some .register := if_pos key
    have moved : Happening.success? k ⟨time, n, i, .effect (.moved k .registering .registered)⟩ =
        none := if_pos key
    rw [List.filterMap_append, List.filterMap_cons_some told, List.filterMap_append,
      List.filterMap_cons_none moved, ← List.filterMap_append, List.getLast?_append,
      List.getLast?_cons]
    cases hl : ((between ++ after).filterMap (Happening.success? k)).getLast? with
    | none => rfl
    | some a =>
      rw [rest a (List.mem_of_getLast? hl)]
      rfl

end Confirmed

/-! ## Steps -/

/-- The last step of a registration that the registrar has accepted: the end of the announcement
comes before the change of state. -/
theorem Register.succeed_effects {c : Controller} {i : Instance} {p : Policy}
    (hc : c.state? i.key = some .registering) (r : Registration) :
    ∃ fx gx, (Register.succeed c i p r).effects =
        fx ++ .moved i.key .registering .registered :: gx ∧
      (p.enabled = true → c.event .onlineEnd i ∈ fx) := by
  unfold Register.succeed
  rw [Controller.moving_eq _ _ rfl, if_pos hc]
  refine ⟨if p.enabled then [c.event .onlineEnd i] else [], _, rfl, fun on => ?_⟩
  rw [if_pos on]
  exact List.mem_singleton.mpr rfl

/-- Only what a call is told can be a success. -/
theorem success?_of_deedsOf {k : InstanceKey} {s : Step Stage} {time n : Nat} {i : Instance}
    {d : Deed} (hd : d ∈ deedsOf s) : Happening.success? k ⟨time, n, i, d⟩ = none := by
  have none : d.success? = none := by
    simp only [deedsOf, List.mem_append, List.mem_map, List.mem_singleton] at hd
    rcases hd with ⟨x, -, rfl⟩ | rfl <;> rfl
  unfold Happening.success?
  split
  · exact none
  · rfl

/-- Whether every instance that the registry lists is confirmed. -/
def Vouched (reporting : Bool) (t : Traffic) : Prop :=
  ∀ k, t.controller.lists k = true → Confirmed reporting k t.trace

namespace Vouched

variable {reporting : Bool} {t u : Traffic} {n : Nat} {i : Instance}

/-- A call goes on without a success to retract the instance: what was listed before stays
confirmed. -/
theorem keep (h : Vouched reporting t) {told : List Answer} {s : Step Stage}
    (g : Goes t n i told s u) {k : InstanceKey}
    (silent : i.key = k → ∀ a ∈ told, a.success? ≠ some .deregister)
    (listed : t.controller.lists k = true) : Confirmed reporting k u.trace := by
  rw [g.trace, note]
  refine (h k listed).append fun e he => ?_
  obtain ⟨d, hd, rfl⟩ := List.mem_map.mp he
  rcases List.mem_append.mp hd with hd | hd
  · obtain ⟨a, ha, rfl⟩ := List.mem_map.mp hd
    unfold Happening.success?
    split
    · next hi => exact silent hi a ha
    · simp
  · rw [success?_of_deedsOf hd]
    simp

/-- When the registrar accepts an instance, it is confirmed. -/
theorem accept {p : Policy} (r : Registration) (hc : t.controller.state? i.key = some .registering)
    (hp : p.enabled = reporting)
    (g : Goes t n i [.register (.registered (.ok r))] (ofRegister
      (Register.resume t.controller i (.registering p) (.registered (.ok r)) t.now)) u) :
    Confirmed reporting i.key u.trace := by
  obtain ⟨fx, gx, he, online⟩ := Register.succeed_effects (p := p) hc r
  let s := ofRegister (Register.resume t.controller i (.registering p) (.registered (.ok r)) t.now)
  let write (d : Deed) : Happening := ⟨t.now, n, i, d⟩
  let between : List Deed := fx.map .effect
  let after : List Deed := gx.map .effect ++ [.reached s.stage]
  have effects : s.effects = fx ++ .moved i.key .registering .registered :: gx := he
  have deeds : deedsOf s =
      between ++ .effect (.moved i.key .registering .registered) :: after := by
    unfold deedsOf
    rw [effects, List.map_append, List.map_cons, List.append_assoc, List.cons_append]
  have trace : u.trace = t.trace ++ write (.told (.register (.registered (.ok r)))) ::
      (between.map write ++ write (.effect (.moved i.key .registering .registered)) ::
        after.map write) := by
    rw [g.trace, note]
    show _ ++ (.told (.register (.registered (.ok r))) :: deedsOf s).map write = _
    rw [deeds, List.map_cons, List.map_append, List.map_cons]
  rw [trace]
  refine .intro _ _ _ r rfl (fun on => ?_) fun e hmem => ?_
  · have event := online (hp.trans on)
    exact ⟨_, List.mem_map.mpr ⟨_, List.mem_map.mpr ⟨_, event, rfl⟩, rfl⟩⟩
  · rw [← List.map_append] at hmem
    obtain ⟨d, hd, rfl⟩ := List.mem_map.mp hmem
    have hd : d ∈ deedsOf s := by
      rw [deeds]
      rcases List.mem_append.mp hd with hd | hd
      · exact List.mem_append_left _ hd
      · exact List.mem_append_right _ (List.mem_cons_of_mem _ hd)
    rw [success?_of_deedsOf hd]
    simp

end Vouched

/-- After a step without a success the same instances are listed; after a success to retract the
instance, it is not. -/
theorem Turn.lists_eq {k : InstanceKey} {held : Option RegistrationState} {c : Controller}
    {act : Option RegistrarAct} {s : Step Stage} (h : Turn k held c act s) :
    (act = none → s.controller.lists k = c.lists k) ∧
      (act = some .deregister → s.controller.lists k = false) := by
  cases h with
  | refused _ hs _ quiet =>
    refine ⟨fun _ => ?_, fun ha => by rw [quiet] at ha; cases ha⟩
    unfold Controller.lists Controller.state?
    rw [hs]
  | moved b _ _ hs relists =>
    have hb : s.controller.lists k = b.isListed := by simp [Controller.lists, hs k]
    refine ⟨fun ha => ?_, fun ha => ?_⟩
    · subst ha
      exact hb.trans relists
    · subst ha
      exact hb.trans relists.2

theorem Turn.lists_of_ne {k j : InstanceKey} {held : Option RegistrationState} {c : Controller}
    {act : Option RegistrarAct} {s : Step Stage} (h : Turn k held c act s) (hj : j ≠ k) :
    s.controller.lists j = c.lists j := by
  unfold Controller.lists
  rw [h.state?_of_ne hj]

/-- Only a registration that waits for the registrar is told of such a success. -/
theorem Call.registering_of_success {x : Call} {a : Answer} (awaits : x.stage.awaits a = true)
    (ha : a.success? = some .register) :
    ∃ p r, x.stage = .register (.registering p) ∧ a = .register (.registered (.ok r)) := by
  obtain ⟨r, rfl⟩ : ∃ r, a = .register (.registered (.ok r)) := by
    unfold Answer.success? at ha
    split at ha
    · exact ⟨_, rfl⟩
    · cases ha
    · cases ha
  rcases Stage.cases_of_awaits awaits with
    ⟨s, b, hs, hb, ha⟩ | ⟨isProbe, b, -, hb⟩ | ⟨d, isInterrupted, -, hb⟩
  · obtain rfl := Answer.register.inj hb
    obtain ⟨p, rfl⟩ := RegisterStage.eq_registering_of_awaits ha
    exact ⟨p, r, hs, rfl⟩
  · cases hb
  · cases hb

/-- An answer keeps the instances confirmed that the registry lists. -/
theorem Vouched.answered {reporting : Bool} {t u : Traffic} (h : Vouched reporting t)
    (sound : t.Sound)
    (enabled : ∀ x ∈ t.calls, ∀ p, x.stage.policy? = some p → p.enabled = reporting) {n : Nat}
    {x : Call} {a : Answer} (call : t.calls[n]? = some x) (awaits : x.stage.awaits a = true)
    (g : Goes t n x.inst [a] (x.resume t.controller a t.now) u) : Vouched reporting u := by
  intro k hk
  have turn := Call.turn_resume awaits (sound.owns call) t.now
  rw [g.controller] at hk
  by_cases hi : k = x.inst.key
  · subst hi
    cases ha : a.success? with
    | none =>
      rw [turn.lists_eq.1 ha] at hk
      refine h.keep g (fun _ b hb => ?_) hk
      rw [List.mem_singleton.mp hb, ha]
      simp
    | some act =>
      cases act with
      | register =>
        obtain ⟨i, stage, since⟩ := x
        obtain ⟨p, r, hs, rfl⟩ := Call.registering_of_success awaits ha
        obtain rfl : stage = .register (.registering p) := hs
        have hc : t.controller.state? i.key = some .registering := sound.owns call .registering rfl
        exact Vouched.accept r hc (enabled _ (List.mem_of_getElem? call) p rfl) g
      | deregister =>
        rw [turn.lists_eq.2 ha] at hk
        cases hk
  · rw [turn.lists_of_ne hi] at hk
    exact h.keep g (fun hik => absurd hik.symm hi) hk

/-- Every move keeps the instances confirmed that the registry lists. -/
theorem Vouched.step {reporting : Bool} {t : Traffic} (h : Vouched reporting t) (sound : t.Sound)
    (enabled : ∀ x ∈ t.calls, ∀ p, x.stage.policy? = some p → p.enabled = reporting) (m : Move) :
    Vouched reporting (t.step m) := by
  have move := t.stepped m
  generalize t.step m = u at move ⊢
  cases move with
  | idle => exact h
  | register i =>
    have g := goes_launch (t := t) (i := i) (s := ⟨t.controller, .register .lookup, []⟩)
      (Step.serves_of_quiet rfl rfl)
    exact fun k hk => h.keep g (fun _ _ ha => absurd ha List.not_mem_nil) hk
  | deregister i isProbe =>
    intro k hk
    have g := goes_launch (t := t) (serves_start t.controller i isProbe)
    have turn := turn_start t.controller i isProbe
    refine h.keep g (fun _ _ ha => absurd ha List.not_mem_nil) ?_
    rw [g.controller] at hk
    by_cases hi : k = i.key
    · subst hi
      rwa [turn.lists_eq.1 rfl] at hk
    · rwa [turn.lists_of_ne hi] at hk
  | answer call awaits => exact h.answered sound enabled call awaits (goes_proceed call _)

/-- What the answers of the readiness probe rest on in a controller that was created as this
one. -/
structure Attested (c₀ : Controller) (t : Traffic) : Prop where
  sound : t.Sound
  settings : t.controller.settings = c₀.settings
  resolved : t.Resolved c₀
  vouched : t.Vouched c₀.settings.enabled

namespace Attested

variable {c₀ : Controller} {t : Traffic}

theorem start (τ : Timer) (settings : GracefulSettings) (server : ProbeServer) :
    (start τ settings server).Attested (Traffic.start τ settings server).controller :=
  ⟨run_sound τ settings server [], rfl, resolved_start τ settings server, fun _ hk => by cases hk⟩

theorem step (h : t.Attested c₀) (m : Move) : (t.step m).Attested c₀ := by
  have enabled : ∀ x ∈ t.calls, ∀ p, x.stage.policy? = some p →
      p.enabled = c₀.settings.enabled := by
    intro x hx p hp
    obtain ⟨r, rfl⟩ := h.resolved x hx p hp
    exact Controller.enabled_policyFor _ r
  exact ⟨h.sound.step m, (t.settings_step m).trans h.settings, h.resolved.step h.settings m,
    h.vouched.step h.sound enabled m⟩

/-- The answers do not depend on the probe server. -/
theorem serving (h : t.Attested c₀) (server : ProbeServer) : (t.serving server).Attested c₀ :=
  ⟨h.sound.serving server, h.settings, h.resolved, h.vouched⟩

/-- The registry lists exactly the instances that were confirmed and have not been retracted
since. -/
theorem lists_iff (h : t.Attested c₀) (k : InstanceKey) :
    t.controller.lists k = true ↔ Confirmed c₀.settings.enabled k t.trace := by
  refine ⟨h.vouched k, fun confirmed => ?_⟩
  obtain ⟨n, hn, hl⟩ := h.sound.listed k
  have last : (alternation n).getLast? = some .register := by
    rw [← hn]
    exact confirmed.getLast?_successes
  rw [hl, decide_eq_true_iff]
  exact (getLast?_alternation n).mp last

/-- An instance is registered exactly if it is confirmed and not being retracted. -/
theorem registered_iff (h : t.Attested c₀) (k : InstanceKey) :
    t.controller.state? k = some .registered ↔
      Confirmed c₀.settings.enabled k t.trace ∧ .deregister ∉ t.inFlight k := by
  rw [← h.lists_iff, h.sound.inFlight k]
  unfold Controller.lists
  cases t.controller.state? k with
  | none => simp
  | some s => cases s <;> simp [RegistrationState.isListed, act?]

end Attested

theorem attested_run (τ : Timer) (settings : GracefulSettings) (server : ProbeServer)
    (ms : List Move) :
    ((start τ settings server).run ms).Attested (start τ settings server).controller :=
  run_induction (.start τ settings server) (fun _ m _ h => h.step m) ms fun _ _ => trivial

/-! ## The probe -/

/-- When the registrar refuses to retract an instance, it is registered again. -/
theorem Sound.registered_of_refused {t : Traffic} (h : t.Sound) {n : Nat} {i : Instance}
    {isProbe : Bool} {since : Nat}
    (hx : t.calls[n]? = some ⟨i, .deregister isProbe .retracting, since⟩) (f : Failure) :
    (t.step (.answer n (.retracted (.error f)))).controller.state? i.key = some .registered := by
  have hc : t.controller.state? i.key = some .deregistering := h.owns hx .deregistering rfl
  obtain ⟨b, hb, -, hs⟩ := Deregister.resume_error hc f
  obtain rfl := List.mem_singleton.mp hb
  rw [step_answer hx rfl, (goes_proceed hx _).controller]
  exact (hs i.key).trans (if_pos rfl)

open Rehearsal in
/-- A request that the readiness probe answers changes nothing. -/
theorem request_readiness {w : World} {k : InstanceKey} {target : String}
    (hr : w.controller.server.route? target = some (.readiness k)) (method : String) :
    (w.request method target).1 = w ∧
      ((w.request method target).2 = .unbound ∨ (w.request method target).2 = .unreachable ∨
        (w.request method target).2 =
          .result (.reply ((w.controller.readiness k method).sent method))) := by
  unfold World.request
  rw [hr]
  split
  · exact ⟨rfl, .inl rfl⟩
  · split
    · exact ⟨rfl, .inr (.inl rfl)⟩
    · exact ⟨rfl, .inr (.inr rfl)⟩

theorem status_sent_readiness (c : Controller) (k : InstanceKey) (method : String) :
    ((c.readiness k method).sent method).status = (c.readiness k method).status := by
  unfold Controller.readiness
  split
  · split <;> exact Reply.status_sent_text ..
  · exact Reply.status_sent_text ..

/-- Whether a readiness request with this method is to be confirmed: the instance is confirmed and
not being retracted. -/
def IsReady (reporting : Bool) (t : Traffic) (k : InstanceKey) (method : String) : Prop :=
  (method = "GET" ∨ method = "HEAD") ∧ Confirmed reporting k t.trace ∧ .deregister ∉ t.inFlight k

/-- The readiness probe confirms exactly the instances that are to be confirmed. -/
theorem Attested.readiness_iff {c₀ : Controller} {t : Traffic} (h : t.Attested c₀) (k : InstanceKey)
    (method : String) :
    (t.controller.readiness k method).status = ⟨200⟩ ↔ IsReady c₀.settings.enabled t k method := by
  rw [Controller.readiness_status_iff, h.registered_iff]
  rfl

/-- The readiness probe confirms exactly the instances that the registrar has accepted, whose
`onlineEnd` was reported then, and that are neither retracted since nor being retracted; it confirms
an instance again after a refusal to retract it; and asking the probe changes nothing. So it does at
every point of a session, whether it is asked by itself or through the probe server. -/
theorem readiness_confirms (τ : Timer) (settings : GracefulSettings) (server : ProbeServer)
    (ms : List Move) (k : InstanceKey) :
    let t := (start τ settings server).run ms
    (∀ method, (t.controller.readiness k method).status = ⟨200⟩ ↔
      (method = "GET" ∨ method = "HEAD") ∧ Confirmed settings.enabled k t.trace ∧
        .deregister ∉ t.inFlight k) ∧
    (∀ n i isProbe since f method, i.key = k → (method = "GET" ∨ method = "HEAD") →
      t.calls[n]? = some ⟨i, .deregister isProbe .retracting, since⟩ →
        (t.controller.readiness k method).status ≠ ⟨200⟩ ∧
        ((t.step (.answer n (.retracted (.error f)))).controller.readiness k method).status =
          ⟨200⟩) ∧
    (∀ (w : Rehearsal.World) (i : Instance) (method : String), w.act (.readiness i method) =
      (w, .result (.reply (w.controller.readiness i.key method)))) ∧
    (∀ (w : Rehearsal.World) (method target : String),
      w.controller.server.route? target = some (.readiness k) →
        (w.act (.request method target)).1 = w) ∧
    ∀ (w : Rehearsal.World) (as : List Rehearsal.Action),
      w.Follows (.start τ settings server) false →
      let v := (w.session as).1
      (∀ i method, ∃ r, v.act (.readiness i method) = (v, .result (.reply r)) ∧
        (r.status = ⟨200⟩ ↔ IsReady settings.enabled v.traffic i.key method)) ∧
      ∀ method target r, v.controller.server.route? target = some (.readiness k) →
        (v.act (.request method target)).2 = .result (.reply r) →
          (r.status = ⟨200⟩ ↔ IsReady settings.enabled v.traffic k method) := by
  intro t
  have attested := attested_run τ settings server ms
  have sound : t.Sound := attested.sound
  refine ⟨fun method => attested.readiness_iff k method,
    fun n i isProbe since f method hk hm hx => ?_, fun _ _ _ => rfl,
    fun w method target hr => (request_readiness hr method).1, fun w as follows => ?_⟩
  · subst hk
    have hc : t.controller.state? i.key = some .deregistering := sound.owns hx .deregistering rfl
    have again := sound.registered_of_refused hx f
    refine ⟨fun ready => ?_, (Controller.readiness_status_iff ..).mpr ⟨hm, again⟩⟩
    have registered := ((Controller.readiness_status_iff ..).mp ready).2
    rw [hc] at registered
    cases registered
  · intro v
    have after : v.Follows (.start τ settings server) false := follows.session nofun
    obtain ⟨us, closing, -⟩ := after.turns
    have attested : v.traffic.Attested (start τ settings server).controller := by
      rw [Rehearsal.World.traffic, closing]
      exact Closing.run_induction (fun _ m h => h.step m) (fun _ server h => h.serving server)
        (.start τ settings server) us
    have ready (j : InstanceKey) (method : String) :
        (v.controller.readiness j method).status = ⟨200⟩ ↔
          IsReady settings.enabled v.traffic j method :=
      attested.readiness_iff j method
    refine ⟨fun i method => ⟨_, rfl, ready i.key method⟩, fun method target r hr answer => ?_⟩
    have answers := (request_readiness hr method).2
    rcases answers with unbound | unreachable | replied
    · cases unbound.symm.trans answer
    · cases unreachable.symm.trans answer
    · cases replied.symm.trans answer
      rw [status_sent_readiness]
      exact ready k method

end Traffic

end InstanceLifecycle
