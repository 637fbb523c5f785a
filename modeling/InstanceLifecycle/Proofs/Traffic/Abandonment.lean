import InstanceLifecycle.Proofs.Traffic.Overtaking

/-!
# Calls that are given up

A caller may give its call up while it waits: a request to the offline probe ends when its client
has gone, and a registration when nobody waits for it any more. The call never goes on, whatever it
would have been told. What it holds for its instance it does not give back, so the instance stays
where it is: nothing else moves an instance that a call holds.

Results:

* `Attended.Fair.stranded_iff`: an instance is left in a transient state that no call holds any more
  exactly if the call that holds it was given up;
* `stranded_iff_given_up`: every later call for such an instance is refused, and any other instance
  is either held by a call that goes on, or it can be registered or retracted;
* `stranded_for_good`: a request to retract an instance is given up, and after that the instance can
  neither be retracted nor registered.
-/

namespace InstanceLifecycle

/-! ## Giving up -/

/-- Traffic and the numbers of the calls that were given up. -/
structure Attended where
  traffic : Traffic
  gone : List Nat := []

namespace Attended

/-- What can happen next. -/
inductive Move
  | take (m : Traffic.Move)
  /-- The caller of the call with this number does not wait for it any more. -/
  | giveUp (n : Nat)

/-- Whether a move answers a call that was given up. -/
def isVain (u : Attended) : Traffic.Move → Bool
  | .answer n _ => u.gone.contains n
  | _ => false

/-- Takes a move. A call that was given up does not go on, and only a call that waits can be given
up; timers have no callers. -/
def step (u : Attended) : Move → Attended
  | .take m => if u.isVain m then u else { u with traffic := u.traffic.step m }
  | .giveUp n =>
    if (u.traffic.stage? n).any (·.isOpen) then { u with gone := n :: u.gone } else u

/-- Takes some moves. -/
def run (u : Attended) (ms : List Move) : Attended := ms.foldl step u

/-- The traffic of a controller that was just created. -/
def start (τ : Timer) (settings : GracefulSettings) (server : ProbeServer) : Attended :=
  { traffic := .start τ settings server }

/-- What the start satisfies and every move preserves holds after every run. -/
theorem run_induction {P : Attended → Prop} {u : Attended} (start : P u)
    (step : ∀ v m, P v → P (v.step m)) (ms : List Move) : P (u.run ms) := by
  induction ms generalizing u with
  | nil => exact start
  | cons m ms ih => exact ih (step u m start)

/-- The state of an instance. -/
def state? (u : Attended) (k : InstanceKey) : Option RegistrationState :=
  u.traffic.controller.state? k

/-- Whether an instance is in a transient state that no call holds any more but those that were
given up. -/
def Stranded (u : Attended) (k : InstanceKey) : Prop :=
  ∃ s, u.state? k = some s ∧ s.isTransient = true ∧
    ∀ n x, u.traffic.calls[n]? = some x → x.inst.key = k → x.stage.held = some s → n ∈ u.gone

/-- Whether the call with this number holds a state for an instance: it waits at the gate or for the
registrar. -/
def Holds (u : Attended) (k : InstanceKey) (n : Nat) : Prop :=
  ∃ x, u.traffic.calls[n]? = some x ∧ x.inst.key = k ∧ x.stage.held.isSome = true

instance (u : Attended) (k : InstanceKey) (n : Nat) : Decidable (u.Holds k n) :=
  decidable_of_iff
    ((u.traffic.calls[n]?).any fun x => decide (x.inst.key = k) && x.stage.held.isSome)
    (by simp [Holds, Option.any_eq_true])

/-- A call for each number that was given up has begun. -/
structure Fair (u : Attended) : Prop where
  sound : u.traffic.Sound
  gone : ∀ n ∈ u.gone, n < u.traffic.calls.length

/-- A move is taken, or it is in vain, or it gives a call up. -/
inductive Stepped (u : Attended) : Move → Attended → Prop
  | vain (m : Move) : Stepped u m u
  | take (m : Traffic.Move) (heard : u.isVain m = false) :
    Stepped u (.take m) { u with traffic := u.traffic.step m }
  | giveUp {n : Nat} (begun : n < u.traffic.calls.length) :
    Stepped u (.giveUp n) { u with gone := n :: u.gone }

/-- A move that does not answer a call that was given up is taken. -/
theorem step_take {u : Attended} {m : Traffic.Move} (heard : u.isVain m = false) :
    u.step (.take m) = { u with traffic := u.traffic.step m } := by
  simp [step, heard]

theorem stepped (u : Attended) (m : Move) : u.Stepped m (u.step m) := by
  cases m with
  | take m =>
    cases hv : u.isVain m with
    | true =>
      have same : u.step (.take m) = u := by simp [step, hv]
      rw [same]
      exact .vain _
    | false =>
      rw [step_take hv]
      exact .take m hv
  | giveUp n =>
    cases hx : u.traffic.calls[n]? with
    | none =>
      have same : u.step (.giveUp n) = u := by simp [step, Traffic.stage?, hx]
      rw [same]
      exact .vain _
    | some x =>
      have hn : n < u.traffic.calls.length := (List.getElem?_eq_some_iff.mp hx).1
      cases ho : x.stage.isOpen with
      | true =>
        have gone : u.step (.giveUp n) = { u with gone := n :: u.gone } := by
          simp [step, Traffic.stage?, hx, ho]
        rw [gone]
        exact .giveUp hn
      | false =>
        have same : u.step (.giveUp n) = u := by simp [step, Traffic.stage?, hx, ho]
        rw [same]
        exact .vain _

end Attended

namespace Traffic

/-- No call is lost. -/
theorem length_step (t : Traffic) (m : Move) : t.calls.length ≤ (t.step m).calls.length := by
  have move := t.stepped m
  generalize t.step m = u at move
  cases move with
  | idle => exact Nat.le_refl _
  | register i => exact (goes_launch (Step.serves_of_quiet rfl rfl)).length
  | deregister i isProbe => exact (goes_launch (serves_start ..)).length
  | answer call => exact (goes_proceed call _).length

/-- An instance in a transient state has one holder. -/
theorem Sound.holder_unique {t : Traffic} (h : t.Sound) {k : InstanceKey} {m n : Nat} {x y : Call}
    (hx : t.calls[m]? = some x) (hy : t.calls[n]? = some y) (xk : x.inst.key = k)
    (yk : y.inst.key = k) (xs : x.stage.held.isSome = true) (ys : y.stage.held.isSome = true) :
    m = n := by
  obtain ⟨s, hs⟩ := Option.isSome_iff_exists.mp xs
  obtain ⟨s', hs'⟩ := Option.isSome_iff_exists.mp ys
  have xheld : x.heldFor k = some s := by rw [Call.heldFor, if_pos xk, hs]
  have yheld : y.heldFor k = some s' := by rw [Call.heldFor, if_pos yk, hs']
  obtain ⟨before, behind, hb, hset⟩ := held_set hx k
  -- What is held is one state, and the first call holds it.
  have one : (t.held k).length ≤ 1 := by
    rw [h.held k]
    cases (t.controller.state? k).filter (·.isTransient) <;> simp
  rw [hb, xheld] at one
  simp only [Option.toList_some, List.length_append, List.length_singleton] at one
  obtain rfl : before = [] := List.eq_nil_of_length_eq_zero (by omega)
  obtain rfl : behind = [] := List.eq_nil_of_length_eq_zero (by omega)
  by_contra hmn
  have rest := hset ⟨x.inst, .warmed, 0⟩
  have mem : s' ∈ (t.calls.set m ⟨x.inst, .warmed, 0⟩).filterMap (Call.heldFor k) := by
    refine List.mem_filterMap.mpr ⟨y, ?_, yheld⟩
    refine List.mem_of_getElem? (i := n) ?_
    rw [List.getElem?_set_ne hmn]
    exact hy
  have none : Call.heldFor k ⟨x.inst, .warmed, 0⟩ = none := by
    unfold Call.heldFor
    split <;> rfl
  rw [rest, none] at mem
  cases mem

/-- What a call holds is the state of its instance, and it is transient. -/
theorem Sound.held_state {t : Traffic} (h : t.Sound) {n : Nat} {x : Call}
    (hx : t.calls[n]? = some x) {s : RegistrationState} (hs : x.stage.held = some s) :
    t.controller.state? x.inst.key = some s ∧ s.isTransient = true := by
  refine ⟨h.owns hx s hs, ?_⟩
  unfold Stage.held at hs
  exact (Option.filter_eq_some_iff.mp hs).2

/-- An instance in a transient state has a holder. -/
theorem Sound.exists_holder {t : Traffic} (h : t.Sound) {k : InstanceKey} {s : RegistrationState}
    (hs : t.controller.state? k = some s) (transient : s.isTransient = true) :
    ∃ (n : Nat) (x : Call), t.calls[n]? = some x ∧ x.inst.key = k ∧ x.stage.held = some s := by
  have mem : s ∈ t.held k := by
    rw [h.held k, hs, Option.filter, if_pos transient]
    exact List.mem_singleton.mpr rfl
  obtain ⟨x, hx, hh⟩ := List.mem_filterMap.mp mem
  obtain ⟨n, hn⟩ := List.getElem?_of_mem hx
  unfold Call.heldFor at hh
  split at hh
  · next hk => exact ⟨n, x, hn, hk, hh⟩
  · cases hh

end Traffic

namespace Attended

theorem Fair.step {u : Attended} (h : u.Fair) (m : Move) : (u.step m).Fair := by
  have move := u.stepped m
  generalize u.step m = v at move
  cases move with
  | vain => exact h
  | take m =>
    refine ⟨h.sound.step m, fun n hn => ?_⟩
    exact Nat.lt_of_lt_of_le (h.gone n hn) (u.traffic.length_step m)
  | giveUp begun =>
    refine ⟨h.sound, fun n hn => ?_⟩
    rcases List.mem_cons.mp hn with rfl | hn
    · exact begun
    · exact h.gone n hn

theorem run_fair (τ : Timer) (settings : GracefulSettings) (server : ProbeServer) (ms : List Move) :
    ((start τ settings server).run ms).Fair :=
  run_induction ⟨Traffic.sound_start τ settings server, fun _ h => absurd h List.not_mem_nil⟩
    (fun _ m h => h.step m) ms

/-- An instance is left in a transient state that no call holds any more exactly if the call that
holds it was given up. -/
theorem Fair.stranded_iff {u : Attended} (h : u.Fair) (k : InstanceKey) :
    u.Stranded k ↔ ∃ n ∈ u.gone, u.Holds k n := by
  constructor
  · rintro ⟨s, hs, transient, gone⟩
    obtain ⟨n, x, hx, hk, held⟩ := h.sound.exists_holder hs transient
    exact ⟨n, gone n x hx hk held, x, hx, hk, by rw [held]; rfl⟩
  · rintro ⟨n, hn, x, hx, hk, held⟩
    obtain ⟨s, hs⟩ := Option.isSome_iff_exists.mp held
    obtain ⟨state, transient⟩ := h.sound.held_state hx hs
    refine ⟨s, hk ▸ state, transient, fun m y hy hky held' => ?_⟩
    have same := h.sound.holder_unique hy hx hky hk (by rw [held']; rfl) held
    exact same ▸ hn

/-! ## Stranded instances -/

/-- Nothing becomes of an instance any more: it stays in a transient state that only calls hold that
were given up, and the calls for it with numbers from some number on wait for their lookup or were
refused. -/
structure Barred (k : InstanceKey) (s : RegistrationState) (first : Nat) (u : Attended) : Prop where
  fair : u.Fair
  state : u.state? k = some s
  transient : s.isTransient = true
  gone : ∀ n, u.Holds k n → n ∈ u.gone
  later : ∀ n x, first ≤ n → u.traffic.calls[n]? = some x → x.inst.key = k →
    x.stage = .register .lookup ∨ x.stage.refusal?.isSome = true

/-- A stranded instance is barred for all calls to come. -/
theorem Fair.barred {u : Attended} (h : u.Fair) {k : InstanceKey} (hk : u.Stranded k) :
    ∃ s, Barred k s u.traffic.calls.length u := by
  obtain ⟨s, hs, transient, gone⟩ := hk
  refine ⟨s, h, hs, transient, fun n hn => ?_, fun n x hle hx _ => ?_⟩
  · obtain ⟨x, hx, hxk, held⟩ := hn
    obtain ⟨s', hs'⟩ := Option.isSome_iff_exists.mp held
    have state : u.state? k = some s' := hxk ▸ (h.sound.held_state hx hs').1
    obtain rfl := Option.some.inj (hs.symm.trans state)
    exact gone n x hx hxk hs'
  · have hlt := (List.getElem?_eq_some_iff.mp hx).1
    omega

namespace Barred

variable {k : InstanceKey} {s : RegistrationState} {first : Nat} {u : Attended}

/-- A call that moves no instance and starts no timer for this one leaves it barred. -/
theorem goes (h : Barred k s first u) {t : Traffic} (sound : t.Sound) {n : Nat} {i : Instance}
    {told : List Traffic.Answer} {st : Step Traffic.Stage}
    (g : Traffic.Goes u.traffic n i told st t) (state : st.controller.state? k = u.state? k)
    (own : i.key = k → st.stage.held = none ∧ (∀ j d, .warmup j d ∉ st.effects) ∧
      (first ≤ n → st.stage = .register .lookup ∨ st.stage.refusal?.isSome = true)) :
    Barred k s first { u with traffic := t } := by
  refine ⟨⟨sound, fun n hn => ?_⟩, ?_, h.transient, fun l hl => ?_, fun l y hle hy hk => ?_⟩
  · exact Nat.lt_of_lt_of_le (h.fair.gone n hn) g.length
  · show t.controller.state? k = some s
    rw [g.controller, state]
    exact h.state
  · obtain ⟨y, hy, hk, held⟩ := hl
    rcases g.cases_call hy with ⟨-, rfl⟩ | ⟨-, hy⟩ | ⟨-, d, hd⟩
    · rw [(own hk).1] at held
      cases held
    · exact h.gone l ⟨y, hy, hk, held⟩
    · rw [hd] at held
      cases held
  · by_cases hl : l = n
    · subst hl
      obtain rfl := Option.some.inj (hy.symm.trans g.call)
      exact (own hk).2.2 hle
    · rcases g.others l hl y hy with hy | ⟨-, -, d, hd, -⟩
      · exact h.later l y hle hy hk
      · have inst : y.inst = i := g.serves.isFor _ hd
        exact absurd hd ((own (inst ▸ hk)).2.1 _ d)

/-- A call that waits for the instance and was not given up holds nothing. -/
theorem held_eq_none (h : Barred k s first u) {n : Nat} {x : Traffic.Call}
    (hx : u.traffic.calls[n]? = some x) (hk : x.inst.key = k) (hn : n ∉ u.gone) :
    x.stage.held = none := by
  cases hh : x.stage.held with
  | none => rfl
  | some s => exact absurd (h.gone n ⟨x, hx, hk, by rw [hh]; rfl⟩) hn

theorem not_registered (h : Barred k s first u) : u.state? k ≠ some .registered := by
  intro hs
  obtain rfl := Option.some.inj (h.state.symm.trans hs)
  cases h.transient

/-- A call to retract a barred instance is refused at once. -/
theorem refusal_start (h : Barred k s first u) {i : Instance} (hi : i.key = k) :
    ∃ e, Deregister.start u.traffic.controller i =
      ⟨u.traffic.controller, Deregister.refuseMove e, []⟩ := by
  have hs : u.traffic.controller.state? i.key = some s := hi ▸ h.state
  have hr : u.traffic.controller.state? i.key ≠ some .registered := hi ▸ h.not_registered
  have refused : ∃ e, u.traffic.controller.moving i.key .registered .deregistering
      Deregister.refuseMove (fun c => ⟨c, .retracting, [c.event .offlineStart i]⟩) =
        ⟨u.traffic.controller, Deregister.refuseMove e, []⟩ := by
    rw [Controller.moving_eq _ _ rfl, if_neg hr]
    exact ⟨_, rfl⟩
  have transient := h.transient
  unfold Deregister.start
  rw [hs]
  cases s with
  | deregistered => cases transient
  | _ => exact refused

/-- A call that comes too late with its claim leaves a barred instance barred. -/
theorem step_overtaken (h : Barred k s first u) {t : Traffic} (sound : t.Sound) {n : Nat}
    {i : Instance} {p : Policy} {since : Nat} {b : Except String String}
    (hc : u.traffic.controller.state? i.key ≠ some .unregistered)
    (g : Traffic.Goes u.traffic n i [.register (.bound b)]
      (Traffic.Call.resume ⟨i, .register (.binding p), since⟩ u.traffic.controller
        (.register (.bound b)) u.traffic.now) t) :
    Barred k s first { u with traffic := t } := by
  obtain ⟨-, fx, hq, he⟩ := Register.resume_overtaken (p := p) hc b u.traffic.now
  obtain ⟨same, e, hs⟩ :=
    Register.resume_refused (a := .bound b) rfl (.inr ⟨p, rfl⟩) hc u.traffic.now
  have refused : (Traffic.Call.resume ⟨i, .register (.binding p), since⟩ u.traffic.controller
      (.register (.bound b)) u.traffic.now).stage = .register (Register.refuseMove e) :=
    congrArg Traffic.Stage.register hs
  have stays : (Register.resume u.traffic.controller i (.binding p) (.bound b)
      u.traffic.now).controller.state? k = u.state? k := by
    unfold Controller.state?
    rw [same]
    rfl
  refine h.goes sound g stays fun _ => ⟨by rw [refused]; rfl, fun j d hd => ?_, fun _ => ?_⟩
  · have hd : Effect.warmup j d ∈ fx ++ [u.traffic.controller.event .onlineStart i] := he ▸ hd
    rcases List.mem_append.mp hd with hd | hd
    · cases List.all_eq_true.mp hq _ hd
    · cases List.mem_singleton.mp hd
  · rw [refused]
    exact .inr rfl

/-- An answer leaves a barred instance barred: no call that goes on holds it, and one that wants to
claim it is refused. -/
theorem step_answer (h : Barred k s first u) {t : Traffic} (sound : t.Sound) {n : Nat}
    {x : Traffic.Call} {a : Traffic.Answer} (call : u.traffic.calls[n]? = some x)
    (awaits : x.stage.awaits a = true) (hn : n ∉ u.gone)
    (g : Traffic.Goes u.traffic n x.inst [a] (x.resume u.traffic.controller a u.traffic.now) t) :
    Barred k s first { u with traffic := t } := by
  by_cases hk : x.inst.key = k
  · have free := h.held_eq_none call hk hn
    have state : u.traffic.controller.state? x.inst.key = some s := hk ▸ h.state
    cases Traffic.Call.advance awaits (h.fair.sound.owns call) with
    | @admitted i stage since a awaits hc =>
      -- Only who holds a transient state is admitted to it.
      rw [state] at hc
      have transient := h.transient
      cases stage with
      | lookup => rcases hc with hc | hc | hc <;> cases hc <;> cases transient
      | binding p => cases hc; cases transient
      | gating p g => cases free
      | registering p => cases free
      | done r => exact hc.elim
    | @late i since r hc =>
      obtain ⟨y, hy⟩ := Traffic.Call.resume_turnedAway hc since r u.traffic.now
      rw [hy] at g
      refine h.goes sound g rfl fun _ => ⟨rfl, fun j d hd => ?_, fun _ => .inr rfl⟩
      cases List.all_eq_true.mp (Register.policyEffects_quiet r) _ hd
    | @overtaken i since p b hc =>
      exact h.step_overtaken sound hc g
    | retracted isProbe r hc => cases free
    | timer d isInterrupted =>
      refine h.goes sound g rfl fun _ => ⟨rfl, fun j d hd => ?_, fun hle => ?_⟩
      · cases isInterrupted <;>
          simp [Traffic.Call.resume, Warmup.finish, Controller.event, Controller.entry] at hd
      · rcases h.later n _ hle call hk with hs | hs <;> cases hs
  · have turn := Traffic.Call.turn_resume awaits (h.fair.sound.owns call) u.traffic.now
    exact h.goes sound g (turn.state?_of_ne (Ne.symm hk)) fun hi => absurd hi hk

/-- A new call to retract an instance leaves a barred instance barred. -/
theorem step_deregister (h : Barred k s first u) {t : Traffic} (sound : t.Sound) {i : Instance}
    {isProbe : Bool}
    (g : Traffic.Goes u.traffic u.traffic.calls.length i []
      (Traffic.ofDeregister i isProbe (Deregister.start u.traffic.controller i)) t) :
    Barred k s first { u with traffic := t } := by
  by_cases hk : i.key = k
  · obtain ⟨e, he⟩ := h.refusal_start hk
    obtain ⟨fx, hq, hs⟩ :=
      Traffic.ofDeregister_eq i isProbe (Deregister.start u.traffic.controller i)
    rw [hs, he] at g
    refine h.goes sound g rfl fun _ => ⟨rfl, fun j d hd => ?_, fun _ => .inr rfl⟩
    cases List.all_eq_true.mp hq _ hd
  · have turn := Traffic.turn_start u.traffic.controller i isProbe
    exact h.goes sound g (turn.state?_of_ne (Ne.symm hk)) fun hi => absurd hi hk

/-- Every move leaves a barred instance barred. -/
theorem step (h : Barred k s first u) (m : Move) : Barred k s first (u.step m) := by
  have move := u.stepped m
  generalize u.step m = v at move
  cases move with
  | vain => exact h
  | giveUp begun =>
    refine ⟨⟨h.fair.sound, fun n hn => ?_⟩, h.state, h.transient, fun n hn => ?_, h.later⟩
    · rcases List.mem_cons.mp hn with rfl | hn
      · exact begun
      · exact h.fair.gone n hn
    · exact List.mem_cons_of_mem _ (h.gone n hn)
  | take m heard =>
    have sound := h.fair.sound.step m
    have taken := u.traffic.stepped m
    generalize u.traffic.step m = t at sound taken
    cases taken with
    | idle => exact ⟨⟨sound, h.fair.gone⟩, h.state, h.transient, h.gone, h.later⟩
    | register i =>
      have g := Traffic.goes_launch (t := u.traffic) (i := i)
        (s := ⟨u.traffic.controller, .register .lookup, []⟩) (Step.serves_of_quiet rfl rfl)
      exact h.goes sound g rfl fun _ => ⟨rfl, fun _ _ => List.not_mem_nil, fun _ => .inl rfl⟩
    | deregister i isProbe =>
      exact h.step_deregister sound (Traffic.goes_launch (Traffic.serves_start ..))
    | @answer n x a call awaits =>
      have hn : n ∉ u.gone := by simpa [isVain] using heard
      exact h.step_answer sound call awaits hn (Traffic.goes_proceed call a)

/-- A barred instance is stranded. -/
theorem stranded (h : Barred k s first u) : u.Stranded k := by
  refine ⟨s, h.state, h.transient, fun n x hx hk held => h.gone n ⟨x, hx, hk, ?_⟩⟩
  rw [held]
  rfl

end Barred

/-! ## Other instances -/

/-- Whether a new call can register an instance: when its lookup is answered it goes on, and the
instance stands where the call says. -/
def Registrable (u : Attended) (k : InstanceKey) : Prop :=
  ∀ i : Instance, i.key = k → ∀ r,
    let n := u.traffic.calls.length
    let v := u.run [.take (.register i), .take (.answer n (.register (.rule r)))]
    ∃ s b, v.traffic.stage? n = some (.register s) ∧ s.place? = some b ∧ v.state? k = some b

/-- Whether a new call can retract an instance: it calls the registrar. -/
def Retractable (u : Attended) (k : InstanceKey) : Prop :=
  ∀ i : Instance, i.key = k → ∀ isProbe,
    let v := u.step (.take (.deregister i isProbe))
    v.traffic.stage? u.traffic.calls.length = some (.deregister isProbe .retracting)

theorem Fair.registrable {u : Attended} (h : u.Fair) {k : InstanceKey}
    (hc : RegisterStage.lookup.admits (u.state? k)) : u.Registrable k := by
  rintro i rfl r n v
  let a : Traffic.Answer := .register (.rule r)
  let t := u.traffic.step (.register i)
  have call : t.calls[n]? = some ⟨i, .register .lookup, u.traffic.now⟩ :=
    (Traffic.goes_launch (Step.serves_of_quiet rfl rfl)).call
  have fresh : n ∉ u.gone := fun hn => Nat.lt_irrefl _ (h.gone n hn)
  have heard : ({ u with traffic := t } : Attended).isVain (.answer n a) = false := by
    simpa [isVain] using fresh
  have answered :
      v = { u with traffic := t.proceed n ⟨i, .register .lookup, u.traffic.now⟩ a } := by
    show Attended.step { u with traffic := t } (.take (.answer n a)) = _
    rw [step_take heard, Traffic.step_answer call rfl]
  have g := Traffic.goes_proceed call a
  obtain ⟨b, place, state⟩ := Register.resume_place (a := .rule r) rfl hc u.traffic.now
  refine ⟨_, b, ?_, place, ?_⟩
  · rw [answered, Traffic.stage?, g.call]
    rfl
  · rw [answered]
    exact state

theorem retractable {u : Attended} {k : InstanceKey} (hc : u.state? k = some .registered) :
    u.Retractable k := by
  rintro i rfl isProbe v
  have retracts : (Deregister.start u.traffic.controller i).stage = .retracting :=
    Deregister.start_registered hc
  have call : v.traffic.calls[u.traffic.calls.length]? = some
      ⟨i, .deregister isProbe (Deregister.start u.traffic.controller i).stage, u.traffic.now⟩ :=
    (Traffic.goes_launch (Traffic.serves_start u.traffic.controller i isProbe)).call
  rw [Traffic.stage?, call, retracts]
  rfl

/-- A call that goes on holds an instance that is not stranded, or the instance can be registered or
retracted. -/
theorem Fair.available {u : Attended} (h : u.Fair) {k : InstanceKey} (hk : ¬u.Stranded k) :
    (∃ n, n ∉ u.gone ∧ u.Holds k n) ∨ u.Registrable k ∨ u.Retractable k := by
  have held {s : RegistrationState} (hs : u.state? k = some s) (transient : s.isTransient = true) :
      ∃ n, n ∉ u.gone ∧ u.Holds k n := by
    obtain ⟨n, x, hx, hxk, hh⟩ := h.sound.exists_holder hs transient
    have holds : u.Holds k n := ⟨x, hx, hxk, by rw [hh]; rfl⟩
    exact ⟨n, fun hn => hk ((h.stranded_iff k).mpr ⟨n, hn, holds⟩), holds⟩
  cases hs : u.state? k with
  | none => exact .inr (.inl (h.registrable (.inl hs)))
  | some s =>
    cases s with
    | unregistered => exact .inr (.inl (h.registrable (.inr (.inl hs))))
    | gating => exact .inl (held hs rfl)
    | registering => exact .inl (held hs rfl)
    | registered => exact .inr (.inr (retractable hs))
    | deregistering => exact .inl (held hs rfl)
    | deregistered => exact .inr (.inl (h.registrable (.inr (.inr hs))))

/-- An instance is left in a transient state that no call holds any more exactly if the call that
holds it was given up. Then it stays there whatever happens, and every later call for it waits for
its lookup or was refused. Any other instance is held by a call that goes on, or a new call can
register or retract it. -/
theorem stranded_iff_given_up (τ : Timer) (settings : GracefulSettings) (server : ProbeServer)
    (ms : List Move) (k : InstanceKey) :
    let u := (start τ settings server).run ms
    (u.Stranded k ↔ ∃ n ∈ u.gone, u.Holds k n) ∧
    (u.Stranded k → ∀ ms', let v := u.run ms'
      v.Stranded k ∧ v.state? k = u.state? k ∧
      ∀ n x, u.traffic.calls.length ≤ n → v.traffic.calls[n]? = some x → x.inst.key = k →
        x.stage = .register .lookup ∨ x.stage.refusal?.isSome = true) ∧
    (¬u.Stranded k → (∃ n, n ∉ u.gone ∧ u.Holds k n) ∨ u.Registrable k ∨ u.Retractable k) := by
  intro u
  have fair : u.Fair := run_fair τ settings server ms
  refine ⟨fair.stranded_iff k, fun hk ms' => ?_, fair.available⟩
  obtain ⟨s, barred⟩ := fair.barred hk
  have still : Barred k s u.traffic.calls.length (u.run ms') :=
    run_induction barred (fun _ m h => h.step m) ms'
  exact ⟨still.stranded, still.state.trans barred.state.symm, still.later⟩

/-- A client asks for an instance to be retracted and is gone before the registrar has answered.
After that the instance can neither be retracted nor registered. -/
theorem stranded_for_good :
    let i : Instance := ⟨"default", "echo", "127.0.0.1", 8080, none, none, none, none⟩
    let settings : GracefulSettings :=
      { enabled := true, offline := ⟨true, defaultOfflinePath⟩ }
    let u := (start .thirtyYears settings { listen := "127.0.0.1:0" }).run
      [.take (.register i), .take (.answer 0 (.register (.rule (.ok none)))),
        .take (.answer 0 (.register (.bound (.ok "127.0.0.1:40000")))),
        .take (.answer 0 (.register (.registered (.ok ⟨"ins-1", false⟩)))),
        .take (.deregister i true), .giveUp 1]
    let v := u.run
      [.take (.answer 1 (.retracted (.ok ()))), .take (.deregister i true), .take (.register i),
        .take (.answer 3 (.register (.rule (.ok none))))]
    u.Stranded i.key ∧ v.Stranded i.key ∧ v.state? i.key = some .deregistering ∧
      (v.traffic.stage? 2).bind (·.refusal?) =
        some (.invalidTransition i.key.text .deregistering .deregistering) ∧
      (v.traffic.stage? 3).bind (·.refusal?) =
        some (.invalidTransition i.key.text .deregistering .unregistered) := by
  intro i settings u v
  have fair : u.Fair := run_fair _ _ _ _
  have held : u.Holds i.key 1 := by decide +kernel
  have gone : 1 ∈ u.gone := by decide +kernel
  have stranded := (fair.stranded_iff i.key).mpr ⟨1, gone, held⟩
  obtain ⟨s, barred⟩ := fair.barred stranded
  have still : Barred i.key s u.traffic.calls.length v :=
    run_induction barred (fun _ m h => h.step m) _
  refine ⟨stranded, still.stranded, ?_, ?_, ?_⟩ <;> decide +kernel

end Attended

end InstanceLifecycle
