import InstanceLifecycle.Proofs.Traffic.Standing

/-!
# One registrar call at a time

However calls interleave, an instance in a transient state is held by exactly one call, and one in
any other state by none. So the states of the controller say which calls to the registrar are in
flight, and the successful ones for an instance take turns.

Results:

* `run_sound`: after every run each transient state is held by one call, and the instances that the
  registry lists are those whose last successful call to the registrar was a registration;
* `registrar_exclusive`: for each instance at most one call to the registrar is in flight, the
  successful ones alternate, and its state agrees with both.
-/

namespace InstanceLifecycle

namespace Traffic

/-! ## Calls to the registrar -/

/-- The call to the registrar that is in flight at a stage. -/
def Stage.pending? : Stage → Option RegistrarAct
  | register (.registering _) => some .register
  | deregister _ .retracting => some .deregister
  | _ => none

/-- The calls to the registrar for an instance that are in flight. -/
def inFlight (t : Traffic) (k : InstanceKey) : List RegistrarAct :=
  t.calls.filterMap fun x => if x.inst.key = k then x.stage.pending? else none

/-- The success of a call to the registrar that a call is told of. -/
def Deed.success? : Deed → Option RegistrarAct
  | told a => a.success?
  | _ => none

/-- The successful call to the registrar for an instance that something tells of. -/
def Happening.success? (k : InstanceKey) (h : Happening) : Option RegistrarAct :=
  if h.inst.key = k then h.deed.success? else none

/-- The successful calls to the registrar for an instance, in order. -/
def successes (t : Traffic) (k : InstanceKey) : List RegistrarAct :=
  t.trace.filterMap (Happening.success? k)

/-- Registrations and retractions in turn, a registration first. -/
def alternation (n : Nat) : List RegistrarAct :=
  (List.range n).map fun m => if m % 2 = 0 then .register else .deregister

theorem alternation_succ (n : Nat) :
    alternation (n + 1) = alternation n ++ [if n % 2 = 0 then .register else .deregister] := by
  simp [alternation, List.range_succ]

/-! ## What calls hold -/

/-- The state that a call holds for an instance. -/
def Call.heldFor (k : InstanceKey) (x : Call) : Option RegistrationState :=
  if x.inst.key = k then x.stage.held else none

/-- The states that calls hold for an instance. -/
def held (t : Traffic) (k : InstanceKey) : List RegistrationState :=
  t.calls.filterMap (Call.heldFor k)

/-- The call to the registrar that is in flight while an instance is in a state. -/
def act? : RegistrationState → Option RegistrarAct
  | .registering => some .register
  | .deregistering => some .deregister
  | _ => none

theorem pending?_eq (s : Stage) : s.pending? = s.held.bind act? := by
  cases s with
  | register s =>
    cases s with
    | done r =>
      cases r with
      | ok x => rfl
      | error e => cases e <;> rfl
    | _ => rfl
  | deregister isProbe s =>
    cases s with
    | retracting => rfl
    | done r =>
      cases r with
      | ok x => cases x <;> rfl
      | error e => cases e <;> rfl
  | _ => rfl

theorem inFlight_eq (t : Traffic) (k : InstanceKey) : t.inFlight k = (t.held k).filterMap act? := by
  rw [inFlight, held, List.filterMap_filterMap]
  congr 1
  funext x
  unfold Call.heldFor
  split
  · exact pending?_eq _
  · rfl

/-- Each transient state is held by one call, no other state is, and the registry lists the
instances whose last successful call to the registrar was a registration. -/
structure Sound (t : Traffic) : Prop where
  held : ∀ k, t.held k = ((t.controller.state? k).filter (·.isTransient)).toList
  listed : ∀ k, ∃ n, t.successes k = alternation n ∧ t.controller.lists k = decide (n % 2 = 1)

/-! ## Steps -/

theorem Turn.state?_of_ne {k j : InstanceKey} {held : Option RegistrationState} {c : Controller}
    {act : Option RegistrarAct} {s : Step Stage} (h : Turn k held c act s) (hj : j ≠ k) :
    s.controller.state? j = c.state? j := by
  cases h with
  | refused _ hs => unfold Controller.state?; rw [hs]
  | moved b _ _ hs => rw [hs j, if_neg hj]

/-- A step hands over what its call held: if that was all that was held for the instance, then what
the call holds afterwards is. -/
theorem Turn.held_eq {k : InstanceKey} {held : Option RegistrationState} {c : Controller}
    {act : Option RegistrarAct} {s : Step Stage} (h : Turn k held c act s)
    (before behind : List RegistrationState)
    (hh : before ++ (held.toList ++ behind) = ((c.state? k).filter (·.isTransient)).toList) :
    before ++ (s.stage.held.toList ++ behind) =
      ((s.controller.state? k).filter (·.isTransient)).toList := by
  cases h with
  | refused free hs hp _ =>
    have hs' : s.controller.state? k = c.state? k := by unfold Controller.state?; rw [hs]
    rw [hs', ← hh, free, Stage.held, hp]
    rfl
  | moved b own hp hs _ =>
    -- The call held all that was held, so nothing is held before or behind it.
    have hlen := congrArg List.length hh
    rw [own] at hlen
    simp only [List.length_append] at hlen
    obtain rfl : before = [] := List.eq_nil_of_length_eq_zero (by omega)
    obtain rfl : behind = [] := List.eq_nil_of_length_eq_zero (by omega)
    rw [hs k, if_pos rfl, Stage.held, hp]
    simp

/-- A successful call that changes the listing of an instance is the one whose turn it is. -/
theorem Relists.turn {before after : Bool} {act : RegistrarAct} {n : Nat}
    (h : Relists before (some act) after) (hn : before = decide (n % 2 = 1)) :
    (if n % 2 = 0 then RegistrarAct.register else .deregister) = act := by
  cases act with
  | register =>
    have hodd : ¬n % 2 = 1 := by simpa using hn.symm.trans h.1
    rw [if_pos (by omega)]
  | deregister =>
    have hodd : n % 2 = 1 := by simpa using hn.symm.trans h.1
    rw [if_neg (by omega)]

/-- A successful call turns the listing of an instance over. -/
theorem Relists.listed_succ {before after : Bool} {act : RegistrarAct} {n : Nat}
    (h : Relists before (some act) after) (hn : before = decide (n % 2 = 1)) :
    after = decide ((n + 1) % 2 = 1) := by
  cases act with
  | register =>
    have hodd : ¬n % 2 = 1 := by simpa using hn.symm.trans h.1
    rw [h.2, eq_comm, decide_eq_true_iff]
    omega
  | deregister =>
    have hodd : n % 2 = 1 := by simpa using hn.symm.trans h.1
    rw [h.2, eq_comm, decide_eq_false_iff_not]
    omega

theorem Turn.listed {k : InstanceKey} {held : Option RegistrationState} {c : Controller}
    {act : Option RegistrarAct} {s : Step Stage} (h : Turn k held c act s) {n : Nat}
    (hn : c.lists k = decide (n % 2 = 1)) :
    ∃ m, alternation n ++ act.toList = alternation m ∧
      s.controller.lists k = decide (m % 2 = 1) := by
  cases h with
  | refused _ hs _ quiet =>
    refine ⟨n, by simp [quiet], ?_⟩
    rw [← hn]
    unfold Controller.lists Controller.state?
    rw [hs]
  | moved b _ _ hs relists =>
    have hb : s.controller.lists k = b.isListed := by simp [Controller.lists, hs k]
    rw [hb]
    cases act with
    | none => exact ⟨n, by simp, relists.trans hn⟩
    | some act =>
      refine ⟨n + 1, ?_, ?_⟩
      · rw [alternation_succ, relists.turn hn]
        rfl
      · exact relists.listed_succ hn

/-- What is held by the calls is spread over those before a call, the call and those behind it. -/
theorem held_set {t : Traffic} {n : Nat} {x : Call} (hx : t.calls[n]? = some x) (k : InstanceKey) :
    ∃ before behind, t.held k = before ++ ((x.heldFor k).toList ++ behind) ∧
      ∀ y, (t.calls.set n y).filterMap (Call.heldFor k) =
        before ++ ((y.heldFor k).toList ++ behind) := by
  obtain ⟨hn, rfl⟩ := List.getElem?_eq_some_iff.mp hx
  refine ⟨(t.calls.take n).filterMap (Call.heldFor k),
    (t.calls.drop (n + 1)).filterMap (Call.heldFor k), ?_, fun y => ?_⟩
  · rw [held]
    conv => lhs; rw [← List.take_append_drop n t.calls, List.drop_eq_getElem_cons hn]
    rw [List.filterMap_append, List.filterMap_cons]
    cases Call.heldFor k t.calls[n] <;> rfl
  · rw [List.set_eq_take_append_cons_drop, if_pos hn, List.filterMap_append, List.filterMap_cons]
    cases Call.heldFor k y <;> rfl

theorem heldFor_timersOf (now : Nat) (fx : List Effect) (k : InstanceKey) :
    (timersOf now fx).filterMap (Call.heldFor k) = [] := by
  rw [timersOf, List.filterMap_filterMap, List.filterMap_eq_nil_iff]
  intro x _
  cases x <;> simp [Call.heldFor, Stage.held]

theorem success?_deedsOf (s : Step Stage) : (deedsOf s).filterMap Deed.success? = [] := by
  simp [deedsOf, Deed.success?, Function.comp_def]

theorem successes_note (t : Traffic) (n : Nat) (i : Instance) (ds : List Deed) (k : InstanceKey) :
    (t.note n i ds).filterMap (Happening.success? k) =
      t.successes k ++ if i.key = k then ds.filterMap Deed.success? else [] := by
  rw [note, List.filterMap_append, successes, List.filterMap_map]
  congr 1
  split
  · next h => simp [Happening.success?, h, Function.comp_def]
  · next h => simp [Happening.success?, h, Function.comp_def]

/-! ## Moves -/

theorem Sound.launch {t : Traffic} (h : t.Sound) {i : Instance} {s : Step Stage}
    (hs : Turn i.key none t.controller none s) : (t.launch i s).Sound where
  held k := by
    have hk := h.held k
    unfold Traffic.held at hk ⊢
    rw [Traffic.launch, List.filterMap_append, hk]
    by_cases hi : i.key = k
    · subst hi
      have key := hs.held_eq (t.held i.key) [] (by simpa using h.held i.key)
      rw [h.held] at key
      rw [← key, List.append_nil, List.filterMap_cons]
      simp only [Call.heldFor, if_true]
      cases s.stage.held <;> rfl
    · simp [Call.heldFor, hi, hs.state?_of_ne (Ne.symm hi)]
  listed k := by
    obtain ⟨n, hn, hl⟩ := h.listed k
    have trace : (t.launch i s).successes k = t.successes k := by
      rw [Traffic.launch, successes, successes_note, success?_deedsOf]
      simp
    rw [trace, hn]
    by_cases hi : i.key = k
    · subst hi
      obtain ⟨m, hm, hl'⟩ := hs.listed hl
      exact ⟨m, by simpa using hm, hl'⟩
    · refine ⟨n, rfl, ?_⟩
      rw [← hl]
      unfold Controller.lists
      rw [← hs.state?_of_ne (Ne.symm hi)]
      rfl

/-- A call of sound traffic owns what it holds. -/
theorem Sound.owns {t : Traffic} (h : t.Sound) {n : Nat} {x : Call} (hx : t.calls[n]? = some x) :
    x.Owns t.controller := by
  intro s hs
  have mem : s ∈ t.held x.inst.key := by
    refine List.mem_filterMap.mpr ⟨x, List.mem_of_getElem? hx, ?_⟩
    simpa [Call.heldFor] using hs
  rw [h.held] at mem
  simp only [Option.mem_toList, Option.filter_eq_some_iff] at mem
  exact mem.1

theorem Sound.proceed {t : Traffic} (h : t.Sound) {n : Nat} {x : Call} {a : Answer}
    (hx : t.calls[n]? = some x) (ha : x.stage.awaits a = true) : (t.proceed n x a).Sound := by
  have turn := Call.turn_resume ha (h.owns hx) t.now
  refine ⟨fun k => ?_, fun k => ?_⟩
  · obtain ⟨before, behind, hb, hset⟩ := held_set hx k
    unfold Traffic.held Traffic.proceed
    rw [List.filterMap_append, heldFor_timersOf, List.append_nil, hset]
    by_cases hi : x.inst.key = k
    · subst hi
      have hk := h.held x.inst.key
      rw [hb] at hk
      simpa [Call.heldFor] using turn.held_eq before behind (by simpa [Call.heldFor] using hk)
    · have hk := h.held k
      rw [hb] at hk
      simp only [Call.heldFor, hi, if_false] at hk ⊢
      rw [hk, turn.state?_of_ne (Ne.symm hi)]
  · obtain ⟨m, hm, hl⟩ := h.listed k
    unfold Traffic.proceed successes
    simp only [successes_note, List.filterMap_cons, success?_deedsOf, hm]
    by_cases hi : x.inst.key = k
    · subst hi
      obtain ⟨m', hm', hl'⟩ := turn.listed hl
      refine ⟨m', ?_, hl'⟩
      rw [← hm', if_pos rfl]
      cases hs : a.success? <;> simp [Deed.success?, hs]
    · refine ⟨m, by simp [hi], ?_⟩
      rw [← hl]
      unfold Controller.lists
      rw [turn.state?_of_ne (Ne.symm hi)]

/-- Every move preserves soundness. -/
theorem Sound.step {t : Traffic} (h : t.Sound) (m : Move) : (t.step m).Sound := by
  cases m with
  | pass millis => exact ⟨h.held, h.listed⟩
  | register i => exact h.launch (turn_lookup ..)
  | deregister i isProbe => exact h.launch (turn_start ..)
  | answer n a =>
    cases hx : t.calls[n]? with
    | none => simpa [Traffic.step, hx] using h
    | some x =>
      by_cases ha : x.accepts t.timer t.isCancelled t.now a = true
      · rw [step_answer hx ha]
        simp only [Call.accepts, Bool.and_eq_true] at ha
        exact h.proceed hx ha.1.1
      · simpa [Traffic.step, hx, ha] using h
  | cancel => exact ⟨h.held, h.listed⟩

theorem sound_start (τ : Timer) (settings : GracefulSettings) (server : ProbeServer) :
    (start τ settings server).Sound := ⟨fun _ => rfl, fun _ => ⟨0, rfl, rfl⟩⟩

/-- After every run each transient state is held by one call, and the instances that the registry
lists are those whose last successful call to the registrar was a registration. -/
theorem run_sound (τ : Timer) (settings : GracefulSettings) (server : ProbeServer)
    (ms : List Move) :
    ((start τ settings server).run ms).Sound :=
  run_induction (sound_start τ settings server) (fun _ m _ h => h.step m) ms fun _ _ => trivial

/-! ## The registrar -/

/-- The calls to the registrar in flight are what the state of the instance says. -/
theorem Sound.inFlight {t : Traffic} (h : t.Sound) (k : InstanceKey) :
    t.inFlight k = ((t.controller.state? k).bind act?).toList := by
  rw [inFlight_eq, h.held]
  cases t.controller.state? k with
  | none => rfl
  | some s => cases s <;> rfl

theorem getLast?_alternation (n : Nat) :
    (alternation n).getLast? = some .register ↔ n % 2 = 1 := by
  cases n with
  | zero => simp [alternation]
  | succ n =>
    rw [alternation_succ, List.getLast?_concat]
    split <;> simp <;> omega

/-- For each instance at most one call to the registrar is in flight, the successful ones alternate
and begin with a registration, and the state of the instance agrees with both. -/
theorem registrar_exclusive (τ : Timer) (settings : GracefulSettings) (server : ProbeServer)
    (ms : List Move) (k : InstanceKey) :
    let t := (start τ settings server).run ms
    (t.inFlight k).length ≤ 1 ∧
      t.successes k = alternation (t.successes k).length ∧
      (t.controller.state? k = some .registering ↔ t.inFlight k = [.register]) ∧
      (t.controller.state? k = some .deregistering ↔ t.inFlight k = [.deregister]) ∧
      (t.controller.state? k = some .registered ↔
        t.inFlight k = [] ∧ (t.successes k).getLast? = some .register) := by
  intro t
  have h : t.Sound := run_sound τ settings server ms
  obtain ⟨n, hn, hl⟩ := h.listed k
  rw [h.inFlight, hn, getLast?_alternation]
  have length : (alternation n).length = n := by simp [alternation]
  unfold Controller.lists at hl
  cases hs : t.controller.state? k with
  | none => simp_all
  | some s => cases s <;> simp_all [act?, RegistrationState.isListed]

end Traffic

end InstanceLifecycle
