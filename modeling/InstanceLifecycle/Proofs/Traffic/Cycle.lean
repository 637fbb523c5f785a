import Mathlib.Data.List.Induction
import InstanceLifecycle.Proofs.Event.Words
import InstanceLifecycle.Proofs.Traffic.Reports
import InstanceLifecycle.Proofs.Traffic.Sequence

/-!
# The events of an instance

If the calls for an instance come one after another, then each of them goes on from where the one
before it has left the instance. The events that they report follow each other, and together they
are a word of cycles in which the instance comes and goes. Other instances may have their calls at
any time.

Results:

* `words_resume`, `words_start`: what a step reports leads from the words of the state before it to
  those of the state after it;
* `InTurn.step`: every move keeps the word of an instance within what its state allows, and says for
  each call what it has reported;
* `reports_cycle`: between the calls for an instance its events are a word of cycles, the instance
  is registered exactly if the word ends online, and the word is put together from what each call
  reports.
-/

namespace InstanceLifecycle

/-! ## Reports of calls -/

/-- What a registration has reported in the end, under its policy. -/
def attemptReports (p : Policy) : Except LifecycleError Registration → List EventKind
  | .ok _ => .onlineStart :: .onlineEnd :: if p.warmup.isActive then [.warmupStart] else []
  | .error (.gate ..) => [.onlineStart]
  | .error (.registration ..) => [.onlineStart]
  | .error _ => []

theorem Register.reportedAt_done {p : Policy} (on : p.enabled = true)
    (r : Except LifecycleError Registration) : reportedAt p (.done r) = attemptReports p r := by
  cases r with
  | ok x => simp [reportedAt, attemptReports, closing, on]
  | error e => cases e <;> simp [reportedAt, attemptReports, on]

/-- What a call to retract an instance has reported when it stands at a stage. -/
def DeregisterStage.reported : DeregisterStage → List EventKind
  | retracting => [.offlineStart]
  | done (.ok .deregistered) => [.offlineStart, .threadEnd]
  | done (.error (.deregistration ..)) => [.offlineStart]
  | done _ => []

/-- A call that has not moved its instance has reported nothing. -/
theorem DeregisterStage.reported_of_place? {s : DeregisterStage} (h : s.place? = none) :
    s.reported = [] := by
  cases s with
  | retracting => cases h
  | done r =>
    cases r with
    | ok x => cases x <;> first | rfl | cases h
    | error e => cases e <;> first | rfl | cases h

theorem DeregisterStage.reported_ofVerdict (i : Instance) (r : Except Failure Unit) :
    (ofVerdict i r).reported = .offlineStart :: Deregister.closing r := by
  cases r <;> rfl

/-- Leaves the end of warm-up out: a timer reports it at any time. -/
def withoutTimers (kinds : List EventKind) : List EventKind := kinds.filter (· ≠ .warmupEnd)

theorem withoutTimers_append (xs ys : List EventKind) :
    withoutTimers (xs ++ ys) = withoutTimers xs ++ withoutTimers ys := List.filter_append ..

theorem withoutTimers_attemptReports (p : Policy) (r : Except LifecycleError Registration) :
    withoutTimers (attemptReports p r) = attemptReports p r := by
  cases r with
  | ok x => cases hw : p.warmup.isActive <;> simp [withoutTimers, attemptReports, hw]
  | error e => cases e <;> rfl

theorem withoutTimers_closing (r : Except Failure Unit) :
    withoutTimers (Deregister.closing r) = Deregister.closing r := by cases r <;> rfl

/-- What a step reports, but for the end of warm-up. -/
def Step.told {σ : Type} (s : Step σ) : List EventKind :=
  withoutTimers (s.effects.filterMap Effect.kind?)

/-! ## Words -/

section Words

variable {c : Controller} {i : Instance} {p : Policy} {w : List EventKind}

theorem words_of_admits (h : RegisterStage.lookup.admits (c.state? i.key)) :
    words (c.state? i.key) = offline := by
  rcases h with h | h | h <;> rw [h] <;> rfl

/-- Before the registrar has answered, an announced instance may be in each of the early states. -/
theorem words_of_early {b : RegistrationState} (hb : b ∈ Register.early)
    (h : w ∈ announced.matches') : w ∈ (words (some b)).matches' := by
  have cases : b = .unregistered ∨ b = .gating ∨ b = .registering := by
    simpa [Register.early] using hb
  rcases cases with rfl | rfl | rfl
  · exact offline_of_announced h
  · exact h
  · exact h

/-- An opening leads from an instance that is offline to what follows it. -/
theorem words_opening {now : Nat} {stage : RegisterStage} {kinds : List EventKind}
    (ho : Register.Opening i p now stage kinds) {b : RegistrationState} (hb : b ∈ Register.early)
    (hp : stage.place? = some b) (h : w ∈ offline.matches') :
    w ++ withoutTimers kinds ∈ (words (some b)).matches' := by
  cases ho with
  | refused e =>
    obtain rfl : RegistrationState.unregistered = b := Option.some.inj hp
    exact (List.append_nil w).symm ▸ h
  | binding =>
    obtain rfl : RegistrationState.unregistered = b := Option.some.inj hp
    exact (List.append_nil w).symm ▸ h
  | announced => exact words_of_early hb (words_announce h)

end Words

namespace Register

variable {c : Controller} {i : Instance} {w : List EventKind}

/-- What a registration reports when its lookup is answered. -/
theorem words_rule (hc : RegisterStage.lookup.admits (c.state? i.key))
    (on : c.settings.enabled = true) (r : Except Failure (Option RemoteRule)) (now : Nat)
    (h : w ∈ offline.matches') :
    w ++ (resume c i .lookup (.rule r) now).told ∈
      (words ((resume c i .lookup (.rule r) now).controller.state? i.key)).matches' := by
  obtain ⟨b, hb, place, state⟩ := resume_settles (a := .rule r) rfl hc (by simp) now
  have enabled := (c.enabled_policyFor r).trans on
  have told : (resume c i .lookup (.rule r) now).told = (begin c i (c.policyFor r) now).told := by
    unfold Step.told
    rw [resume, Step.effects_after, List.filterMap_append,
      Effect.kinds_of_quiet (policyEffects_quiet r), List.nil_append]
  rw [told, state i.key, if_pos rfl]
  rcases begin_outline (p := c.policyFor r) hc now with ⟨off, -⟩ | ⟨-, kinds, ho, hl⟩
  · rw [enabled] at off
    cases off
  · unfold Step.told
    rw [hl.kinds]
    exact words_opening ho hb place h

/-- What a registration reports when the registrar has answered. -/
theorem words_registered {p : Policy} (hc : c.state? i.key = some .registering)
    (on : p.enabled = true) (v : Except Failure Registration) (now : Nat)
    (h : w ∈ announced.matches') :
    let s := resume c i (.registering p) (.registered v) now
    w ++ s.told ∈ (words (s.controller.state? i.key)).matches' := by
  intro s
  cases v with
  | ok r =>
    obtain ⟨b, hb, -, state⟩ := resume_registered_ok (p := p) hc r now
    obtain rfl := List.mem_singleton.mp hb
    obtain ⟨-, -, kinds⟩ := succeed_outline (p := p) hc r
    have told : s.told = withoutTimers (closing p) := congrArg withoutTimers kinds
    rw [told, state i.key, if_pos rfl]
    unfold closing
    rw [if_pos on]
    split
    · exact words_online h ((Language.mem_add ..).mpr (.inr rfl))
    · exact words_online h ((Language.mem_add ..).mpr (.inl rfl))
  | error f =>
    obtain ⟨b, hb, -, state⟩ := resume_registered_error (p := p) hc f now
    obtain rfl := List.mem_singleton.mp hb
    obtain ⟨-, -, kinds⟩ := fail_outline hc f
    have told : s.told = [] := congrArg withoutTimers kinds
    rw [told, state i.key, if_pos rfl, List.append_nil]
    exact offline_of_announced h

/-- What a registration reports that is admitted leads from the words of the state before it to
those of the state after it. -/
theorem words_resume {stage : RegisterStage} {a : RegisterAnswer} (ha : stage.awaits a = true)
    (hc : stage.admits (c.state? i.key)) (on : c.settings.enabled = true)
    (hp : ∀ p, stage.policy? = some p → p.enabled = true) (now : Nat)
    (h : w ∈ (words (c.state? i.key)).matches') :
    w ++ (resume c i stage a now).told ∈
      (words ((resume c i stage a now).controller.state? i.key)).matches' := by
  cases stage with
  | lookup =>
    obtain ⟨r, rfl⟩ := RegisterStage.eq_rule_of_awaits ha
    rw [words_of_admits hc] at h
    exact words_rule hc on r now h
  | binding p =>
    obtain ⟨r, rfl⟩ := RegisterStage.eq_bound_of_awaits ha
    obtain ⟨b, hb, -, state⟩ := resume_settles ha hc (by simp) now
    obtain ⟨-, hl⟩ := followBinding_outline (p := p) hc now r
    have unregistered : c.state? i.key = some .unregistered := hc
    rw [unregistered] at h
    rw [state i.key, if_pos rfl, resume, Step.told, hl.kinds]
    exact words_of_early hb (words_announce h)
  | gating p g =>
    obtain ⟨b, rfl⟩ := RegisterStage.eq_gate_of_awaits ha
    obtain ⟨b', hb, -, state⟩ := resume_settles ha hc (by simp) now
    have kinds := ((followGate_outline (p := p) hc (Gate.resume i g b now).1).2.quiet
      (Gate.quiet_resume i g b now)).kinds
    have gating : c.state? i.key = some .gating := hc
    rw [gating] at h
    rw [state i.key, if_pos rfl, resume, Step.told, kinds]
    exact (List.append_nil w).symm ▸ words_of_early hb h
  | registering p =>
    obtain ⟨v, rfl⟩ := RegisterStage.eq_registered_of_awaits ha
    have registering : c.state? i.key = some .registering := hc
    rw [registering] at h
    exact words_registered registering (hp p rfl) v now h
  | done r => exact hc.elim

end Register

namespace Deregister

variable {c : Controller} {i : Instance} {w : List EventKind}

/-- What a retraction reports that was answered. -/
theorem words_resume (hc : c.state? i.key = some .deregistering) (r : Except Failure Unit)
    (h : w ∈ (words (c.state? i.key)).matches') :
    w ++ closing r ∈ (words ((resume c i .retracting r).controller.state? i.key)).matches' := by
  rw [hc] at h
  cases r with
  | ok u =>
    obtain ⟨b, hb, -, state⟩ := resume_ok hc u
    obtain rfl := List.mem_singleton.mp hb
    rw [state i.key, if_pos rfl]
    exact words_gone h
  | error f =>
    obtain ⟨b, hb, -, state⟩ := resume_error hc f
    obtain rfl := List.mem_singleton.mp hb
    rw [state i.key, if_pos rfl]
    exact (List.append_nil w).symm ▸ online_of_leaving h

/-- What a call that begins to retract reports is what its stage says. -/
theorem told_start (c : Controller) (i : Instance) :
    (start c i).told = (start c i).stage.reported := by
  by_cases hc : c.state? i.key = some .registered
  · obtain ⟨b, hb, place, -⟩ := start_settles hc
    obtain rfl := List.mem_singleton.mp hb
    have retracting : (start c i).stage = .retracting := by
      unfold start
      rw [hc]
      show (c.moving i.key .registered .deregistering refuseMove _).stage = _
      rw [Controller.moving_eq _ _ rfl, if_pos hc]
      rfl
    rw [Step.told, kinds_start hc, retracting]
    rfl
  · rw [Step.told, Effect.kinds_of_quiet (start_quiet hc),
      DeregisterStage.reported_of_place? (start_idle hc).2]
    rfl

/-- What a call that begins to retract reports. -/
theorem words_start (h : w ∈ (words (c.state? i.key)).matches') :
    w ++ (start c i).told ∈ (words ((start c i).controller.state? i.key)).matches' := by
  by_cases hc : c.state? i.key = some .registered
  · obtain ⟨b, hb, -, state⟩ := start_settles hc
    obtain rfl := List.mem_singleton.mp hb
    rw [hc] at h
    rw [state i.key, if_pos rfl, Step.told, kinds_start hc]
    exact words_retract h
  · rw [(start_idle hc).1, Step.told, Effect.kinds_of_quiet (start_quiet hc)]
    exact (List.append_nil w).symm ▸ h

end Deregister

namespace Traffic

/-! ## Calls in turn -/

/-- Whether no call for an instance is open. -/
def Quiet (t : Traffic) (k : InstanceKey) : Prop :=
  ∀ x ∈ t.calls, x.inst.key = k → x.stage.isOpen = false

instance (t : Traffic) (k : InstanceKey) : Decidable (t.Quiet k) :=
  inferInstanceAs (Decidable (∀ x ∈ t.calls, x.inst.key = k → x.stage.isOpen = false))

/-- Whether a move begins a call for an instance. -/
def Move.begins (k : InstanceKey) : Move → Bool
  | register i => i.key = k
  | deregister i _ => i.key = k
  | _ => false

/-- Whether the calls for an instance come one after another during some moves: each begins when no
other one is open. -/
def Alone (k : InstanceKey) : Traffic → List Move → Prop :=
  Along fun t m => m.begins k = true → t.Quiet k

instance (k : InstanceKey) (t : Traffic) (ms : List Move) : Decidable (Alone k t ms) :=
  inferInstanceAs (Decidable (Along (fun t m => m.begins k = true → t.Quiet k) t ms))

/-! ## What calls have reported -/

/-- The events of an instance in order, but for the ends of warm-up. -/
def word (t : Traffic) (k : InstanceKey) : List EventKind := withoutTimers (t.reports k)

/-- What a call has reported about an instance, but for the ends of warm-up. -/
def share (t : Traffic) (k : InstanceKey) (n : Nat) : List EventKind :=
  withoutTimers ((t.logOf n).filterMap (·.deed.reported? k))

/-- What an account reports is what its deeds report. -/
theorem reports_accountOf (hs : List Happening) (i : Instance) (h : ∀ e ∈ hs, e.deed.IsFor i) :
    (accountOf hs).reports.map (·.2) = hs.filterMap (·.deed.reported? i.key) := by
  induction hs with
  | nil => rfl
  | cons e hs ih =>
    have rest := ih fun e' he => h e' (List.mem_cons_of_mem _ he)
    have first := h e List.mem_cons_self
    rw [show accountOf (e :: hs) = (e.deed.account e.time).append (accountOf hs) from rfl]
    simp only [Account.append, List.map_append, rest]
    obtain ⟨time, n, j, deed⟩ := e
    cases deed with
    | told a => cases a with
      | register a => cases a <;> rfl
      | _ => rfl
    | effect x =>
      have key := reported?_of_isFor first i.key
      rw [if_pos rfl] at key
      rw [List.filterMap_cons, key]
      cases x <;> rfl
    | reached s => cases s with
      | register s => cases s <;> rfl
      | _ => rfl

section Goes

variable {t u : Traffic} {n : Nat} {i : Instance} {told : List Answer} {s : Step Stage}
  (g : Goes t n i told s u) (k : InstanceKey)
include g

theorem Goes.word : u.word k = t.word k ++ if i.key = k then s.told else [] := by
  unfold Traffic.word
  rw [g.reports k, withoutTimers_append]
  split <;> rfl

theorem Goes.share_ne {m : Nat} (hm : m ≠ n) : u.share k m = t.share k m := by
  unfold share
  rw [g.logOf m, if_neg hm, List.append_nil]

theorem Goes.share : u.share k n = t.share k n ++ if i.key = k then s.told else [] := by
  have silent : (told.map Deed.told).filterMap (Deed.reported? k) = [] := by
    simp [Deed.reported?, Function.comp_def]
  unfold Traffic.share
  rw [g.logOf n, if_pos rfl, List.filterMap_append, List.filterMap_map, withoutTimers_append]
  show _ ++ withoutTimers ((told.map Deed.told ++ deedsOf s).filterMap (Deed.reported? k)) = _
  rw [List.filterMap_append, silent, reported?_deedsOf g.serves.isFor, List.nil_append]
  split <;> rfl

end Goes

/-- A call that has not begun has reported nothing. -/
theorem Numbered.share_eq_nil {t : Traffic} (h : t.Numbered) (k : InstanceKey) {n : Nat}
    (hn : t.calls.length ≤ n) : t.share k n = [] := by
  unfold share
  rw [h.logOf_eq_nil hn]
  rfl

/-- The reports of the account of a call are what it has reported about its instance. -/
theorem Numbered.share_eq {t : Traffic} (h : t.Numbered) {n : Nat} {x : Call}
    (hx : t.calls[n]? = some x) :
    t.share x.inst.key n = withoutTimers ((accountOf (t.logOf n)).reports.map (·.2)) := by
  rw [reports_accountOf (t.logOf n) x.inst fun e he => ?_]
  · rfl
  · obtain ⟨he, hcall⟩ := List.mem_filter.mp he
    obtain ⟨y, hy, -, hf⟩ := h.entry e he
    rw [of_decide_eq_true hcall, hx] at hy
    exact Option.some.inj hy ▸ hf

/-! ## Parts -/

/-- Parts behind which there is nothing may be left out. -/
theorem flatMap_range_le {α : Type} {f : Nat → List α} {a b : Nat} (hab : a ≤ b)
    (h : ∀ m, a ≤ m → f m = []) : (List.range b).flatMap f = (List.range a).flatMap f := by
  induction b, hab using Nat.le_induction with
  | base => rfl
  | succ b hab ih =>
    rw [List.range_succ, List.flatMap_append, ih]
    simp [h b hab]

/-- When the last part grows, the whole grows by the same. -/
theorem flatMap_range_update {α : Type} {f g : Nat → List α} {a b n : Nat} {more : List α}
    (hab : a ≤ b) (hn : n < b) (new : ∀ m, a ≤ m → f m = []) (last : ∀ m, n < m → f m = [])
    (same : ∀ m, m ≠ n → g m = f m) (here : g n = f n ++ more) :
    (List.range b).flatMap g = (List.range a).flatMap f ++ more := by
  have before : (List.range n).flatMap g = (List.range n).flatMap f := by
    refine List.flatMap_congr fun m hm => same m ?_
    have := List.mem_range.mp hm
    omega
  have whole : (List.range (n + 1)).flatMap f = (List.range b).flatMap f :=
    (flatMap_range_le hn fun m hm => last m hm).symm
  have rest : ∀ m, n + 1 ≤ m → g m = [] := fun m hm => by
    rw [same m (by omega)]
    exact last m hm
  calc (List.range b).flatMap g
      = (List.range (n + 1)).flatMap g := flatMap_range_le hn rest
    _ = (List.range n).flatMap f ++ (f n ++ more) := by
      rw [List.range_succ, List.flatMap_append, before]
      simp [here]
    _ = (List.range (n + 1)).flatMap f ++ more := by
      rw [List.range_succ, List.flatMap_append, ← List.append_assoc]
      simp
    _ = (List.range a).flatMap f ++ more := by rw [whole, flatMap_range_le hab new]

/-! ## Records -/

/-- The account of a registration that stands at a stage: it came too late with its lookup, or the
account is a story of how it came to where it stands. -/
inductive Recorded (τ : Timer) (c₀ : Controller) (i : Instance) (A : Account) :
    RegisterStage → Nat → Prop
  | late (r : Except Failure (Option RemoteRule)) (e : TransitionError)
    (account : A = { lookups := [r] }) (since : Nat) : Recorded τ c₀ i A (Register.refuseMove e) since
  | story {stage : RegisterStage} {since : Nat} (story : Story τ c₀ i A stage since) :
    Recorded τ c₀ i A stage since

namespace Recorded

variable {τ : Timer} {c₀ : Controller} {i : Instance} {A : Account} {stage : RegisterStage}
  {since : Nat}

/-- Only a story can go on. -/
theorem story_of_awaits (h : Recorded τ c₀ i A stage since) {a : RegisterAnswer}
    (ha : stage.awaits a = true) : Story τ c₀ i A stage since := by
  cases h with
  | late r e account since => cases ha
  | story story => exact story

/-- What a registration has reported when it has returned. -/
theorem reports {r : Except LifecycleError Registration} (h : Recorded τ c₀ i A (.done r) since)
    (on : ∀ a, (c₀.policyFor a).enabled = true) :
    ∃ a, A.lookups = [a] ∧ A.reports.map (·.2) = attemptReports (c₀.policyFor a) r := by
  have of_story (s : Story τ c₀ i A (.done r) since) {a : Except Failure (Option RemoteRule)}
      (ha : A.lookups = [a]) :
      ∃ a, A.lookups = [a] ∧ A.reports.map (·.2) = attemptReports (c₀.policyFor a) r := by
    refine ⟨a, ha, ?_⟩
    rw [s.kinds_eq (ha ▸ List.mem_singleton.mpr rfl), Register.reportedAt_done (on a)]
  generalize hs : RegisterStage.done r = stage at h
  cases h with
  | late a e account since =>
    obtain rfl : r = _ := RegisterStage.done.inj hs
    rw [account]
    exact ⟨a, rfl, rfl⟩
  | story story =>
    subst hs
    cases r with
    | ok x =>
      have key := story
      cases key with
      | registered a => exact of_story story rfl
    | error e =>
      obtain ⟨a, ha, -⟩ := story.of_failed
      exact of_story story ha

end Recorded

/-- An answer continues a story at any controller with the same policies. -/
theorem Story.resume_of_policies {τ : Timer} {c₀ c : Controller} {i : Instance} {A : Account}
    {stage : RegisterStage} {since now : Nat} (h : Story τ c₀ i A stage since)
    (hc : stage.admits (c.state? i.key))
    {a : RegisterAnswer} (ha : stage.awaits a = true) (same : ∀ r, c.policyFor r = c₀.policyFor r)
    (due : a = .gate .elapsed → ∀ d, (Stage.register stage).interval? = some d →
      since + τ.pause since d ≤ now) :
    Story τ c₀ i (A.append (.ofStep now a (Register.resume c i stage a now)))
      (Register.resume c i stage a now).stage now := by
  by_cases hl : stage = .lookup
  · subst hl
    obtain ⟨r, rfl⟩ := RegisterStage.eq_rule_of_awaits ha
    cases h with
    | lookup =>
      rw [Account.empty_append]
      exact Story.resume_rule hc r (same r) now
  · exact h.resume hc ha (fun he => absurd he hl) due

/-- Only an open registration is admitted to a state. -/
theorem Stage.isOpen_of_admits {s : RegisterStage} {x : Option RegistrationState}
    (h : s.admits x) : (Stage.register s).isOpen = true := by
  cases s with
  | done r => exact h.elim
  | _ => rfl

/-- What holds of a call for an instance: the account of a registration says how it came to where it
stands, and a call to retract the instance has reported what its stage says. -/
def Accounts (c₀ : Controller) (k : InstanceKey) (t : Traffic) (n : Nat) (x : Call) : Prop :=
  match x.stage with
  | .register s => Recorded t.timer c₀ x.inst (accountOf (t.logOf n)) s x.since
  | .deregister _ s => t.share k n = s.reported
  | _ => True

/-- What holds of a call that does not go on still holds when another one goes on. -/
theorem Accounts.kept {c₀ : Controller} {k : InstanceKey} {t u : Traffic} {m n : Nat} {i : Instance}
    {told : List Answer} {s : Step Stage} {y : Call} (h : Accounts c₀ k t m y)
    (g : Goes t n i told s u) (hm : m ≠ n) : Accounts c₀ k u m y := by
  have log : u.logOf m = t.logOf m := by rw [g.logOf m, if_neg hm, List.append_nil]
  unfold Accounts at h ⊢
  rw [log, g.timer, g.share_ne k hm]
  exact h

/-- What holds of an instance whose calls come one after another. -/
structure InTurn (c₀ : Controller) (k : InstanceKey) (t : Traffic) : Prop where
  /-- What was reported is what the state allows. -/
  word : t.word k ∈ (words (t.controller.state? k)).matches'
  /-- What was reported is what the calls have reported, one after another. -/
  parts : t.word k = (List.range t.calls.length).flatMap (t.share k)
  /-- At most one call is open, and none that began later has reported anything. -/
  only : ∀ n x, t.calls[n]? = some x → x.inst.key = k → x.stage.isOpen = true →
    (∀ m y, t.calls[m]? = some y → y.inst.key = k → y.stage.isOpen = true → m = n) ∧
      ∀ m, n < m → t.share k m = []
  /-- An instance stays unregistered while its call waits for the listener. -/
  binding : ∀ (n : Nat) (i : Instance) (p : Policy) (since : Nat),
    t.calls[n]? = some ⟨i, .register (.binding p), since⟩ → i.key = k →
      t.controller.state? k = some .unregistered
  calls : ∀ n x, t.calls[n]? = some x → x.inst.key = k → Accounts c₀ k t n x

namespace InTurn

variable {c₀ : Controller} {k : InstanceKey} {t u : Traffic} {n : Nat} {i : Instance}
  {told : List Answer} {s : Step Stage}

/-- A call for another instance and a timer change nothing for the instance. -/
theorem other (h : InTurn c₀ k t) (num : t.Numbered) (g : Goes t n i told s u)
    (state : u.controller.state? k = t.controller.state? k)
    (timer : i.key = k → s.told = [] ∧ s.stage = .warmed) : InTurn c₀ k u := by
  have silent : (if i.key = k then s.told else []) = [] := by
    split
    · next hi => exact (timer hi).1
    · rfl
  have shares (m : Nat) : u.share k m = t.share k m := by
    by_cases hm : m = n
    · rw [hm, g.share k, silent, List.append_nil]
    · exact g.share_ne k hm
  -- A call for the instance that does not belong to a timer was there before.
  have before {m : Nat} {y : Call} (hy : u.calls[m]? = some y) (hk : y.inst.key = k) :
      (m ≠ n ∧ t.calls[m]? = some y) ∨ y.stage = .warmed ∨ ∃ d, y.stage = .warmup d := by
    rcases g.cases_call hy with ⟨-, rfl⟩ | hy | ⟨-, hy⟩
    · exact .inr (.inl (timer hk).2)
    · exact .inl hy
    · exact .inr (.inr hy)
  refine ⟨?_, ?_, fun m y hy hk ho => ?_, fun m j p since hy hk => ?_, fun m y hy hk => ?_⟩
  · rw [g.word k, silent, List.append_nil, state]
    exact h.word
  · rw [g.word k, silent, List.append_nil, h.parts, funext shares]
    exact (flatMap_range_le g.length fun m hm => num.share_eq_nil k hm).symm
  · rcases before hy hk with ⟨-, hy⟩ | hs | ⟨d, hs⟩
    · obtain ⟨only, last⟩ := h.only m y hy hk ho
      refine ⟨fun m' y' hy' hk' ho' => ?_, fun m' hm' => (shares m').trans (last m' hm')⟩
      rcases before hy' hk' with ⟨-, hy'⟩ | hs | ⟨d, hs⟩
      · exact only m' y' hy' hk' ho'
      · rw [hs] at ho'
        cases ho'
      · rw [hs] at ho'
        cases ho'
    · rw [hs] at ho
      cases ho
    · rw [hs] at ho
      cases ho
  · rw [state]
    rcases before hy hk with ⟨-, hy⟩ | hs | ⟨d, hs⟩
    · exact h.binding m j p since hy hk
    · cases hs
    · cases hs
  · rcases before hy hk with ⟨hm, hy⟩ | hs | ⟨d, hs⟩
    · exact (h.calls m y hy hk).kept g hm
    · unfold Accounts
      rw [hs]
      trivial
    · unfold Accounts
      rw [hs]
      trivial

/-- A call for the instance goes on, and no other one is open. -/
theorem own (h : InTurn c₀ k t) (num : t.Numbered) (g : Goes t n i told s u) (hi : i.key = k)
    (only : ∀ m y, t.calls[m]? = some y → y.inst.key = k → y.stage.isOpen = true → m = n)
    (last : ∀ m, n < m → t.share k m = [])
    (word : t.word k ++ s.told ∈ (words (u.controller.state? k)).matches')
    (binding : ∀ p, s.stage = .register (.binding p) →
      u.controller.state? k = some .unregistered)
    (accounts : Accounts c₀ k u n ⟨i, s.stage, t.now⟩) : InTurn c₀ k u := by
  have whole : u.word k = t.word k ++ s.told := by rw [g.word k, if_pos hi]
  have here : u.share k n = t.share k n ++ s.told := by rw [g.share k, if_pos hi]
  have hn : n < u.calls.length := (List.getElem?_eq_some_iff.mp g.call).1
  refine ⟨whole ▸ word, ?_, fun m y hy hk ho => ?_, fun m j p since hy hk => ?_,
    fun m y hy hk => ?_⟩
  · rw [whole, h.parts]
    exact (flatMap_range_update g.length hn (fun m hm => num.share_eq_nil k hm) last
      (fun m hm => g.share_ne k hm) here).symm
  · have mine {m : Nat} {y : Call} (hy : u.calls[m]? = some y) (hk : y.inst.key = k)
        (ho : y.stage.isOpen = true) : m = n := by
      rcases g.cases_call hy with ⟨hm, -⟩ | ⟨-, hy⟩ | ⟨-, d, hs⟩
      · exact hm
      · exact only m y hy hk ho
      · rw [hs] at ho
        cases ho
    obtain rfl := mine hy hk ho
    refine ⟨fun m' y' hy' hk' ho' => mine hy' hk' ho', fun m' hm' => ?_⟩
    rw [g.share_ne k (by omega)]
    exact last m' hm'
  · rcases g.cases_call hy with ⟨-, hs⟩ | ⟨hm, hy⟩ | ⟨-, d, hs⟩
    · exact binding p (congrArg Call.stage hs).symm
    · exact absurd (only m _ hy hk rfl) hm
    · cases hs
  · rcases g.cases_call hy with ⟨rfl, rfl⟩ | ⟨hm, hy⟩ | ⟨-, d, hs⟩
    · exact accounts
    · exact (h.calls m y hy hk).kept g hm
    · unfold Accounts
      rw [hs]
      trivial

/-- A new call for the instance begins when no other one is open. -/
theorem launch (h : InTurn c₀ k t) (num : t.Numbered) (quiet : t.Quiet k)
    (serves : s.Serves t.controller i) (hi : i.key = k)
    (word : t.word k ++ s.told ∈ (words (s.controller.state? k)).matches')
    (binding : ∀ p, s.stage ≠ .register (.binding p))
    (accounts : Accounts c₀ k (t.launch i s) t.calls.length ⟨i, s.stage, t.now⟩) :
    InTurn c₀ k (t.launch i s) := by
  refine h.own num (goes_launch serves) hi (fun m y hy hk ho => ?_) (fun m hm => ?_) word
    (fun p hp => absurd hp (binding p)) accounts
  · rw [quiet y (List.mem_of_getElem? hy) hk] at ho
    cases ho
  · exact num.share_eq_nil k (Nat.le_of_lt hm)

/-- A registration of the instance begins. -/
theorem register (h : InTurn c₀ k t) (num : t.Numbered) (quiet : t.Quiet k) (hi : i.key = k) :
    InTurn c₀ k (t.launch i ⟨t.controller, .register .lookup, []⟩) := by
  refine h.launch num quiet (Step.serves_of_quiet rfl rfl) hi ?_ (fun p hp => by cases hp)
    (.story ?_)
  · show t.word k ++ [] ∈ _
    rw [List.append_nil]
    exact h.word
  · have log := (goes_launch (t := t) (i := i) (s := ⟨t.controller, .register .lookup, []⟩)
      (Step.serves_of_quiet rfl rfl)).logOf t.calls.length
    rw [if_pos rfl, num.logOf_eq_nil (Nat.le_refl _), List.nil_append] at log
    rw [log]
    exact .lookup t.now

/-- A call to retract the instance begins. -/
theorem deregister (h : InTurn c₀ k t) (num : t.Numbered) (quiet : t.Quiet k) (hi : i.key = k)
    (isProbe : Bool) :
    InTurn c₀ k (t.launch i (ofDeregister i isProbe (Deregister.start t.controller i))) := by
  subst hi
  have serves := serves_start t.controller i isProbe
  have told : (ofDeregister i isProbe (Deregister.start t.controller i)).told =
      (Deregister.start t.controller i).told :=
    congrArg withoutTimers (kinds_ofDeregister i isProbe (Deregister.start t.controller i))
  refine h.launch num quiet serves rfl ?_ (fun p hp => by cases hp) ?_
  · rw [told]
    exact Deregister.words_start h.word
  · show (t.launch i _).share i.key t.calls.length =
      (Deregister.start t.controller i).stage.reported
    rw [(goes_launch serves).share, num.share_eq_nil _ (Nat.le_refl _), if_pos rfl, told,
      Deregister.told_start]
    rfl

/-- A registration of the instance goes on that is admitted. -/
theorem admitted (h : InTurn c₀ k t) (num : t.Numbered)
    (on : t.controller.settings.enabled = true)
    (same : ∀ r, t.controller.policyFor r = c₀.policyFor r) (resolved : t.Resolved c₀)
    {stage : RegisterStage} {since : Nat} {a : RegisterAnswer}
    (call : t.calls[n]? = some ⟨i, .register stage, since⟩) (awaits : stage.awaits a = true)
    (due : a = .gate .elapsed →
      (Call.mk i (.register stage) since).isDue t.timer t.isCancelled t.now = true)
    (hc : stage.admits (t.controller.state? i.key)) (hi : i.key = k) :
    InTurn c₀ k (t.proceed n ⟨i, .register stage, since⟩ (.register a)) := by
  subst hi
  have g := goes_proceed call (.register a)
  have policy := resolved _ (List.mem_of_getElem? call)
  obtain ⟨only, last⟩ := h.only n _ call rfl (Stage.isOpen_of_admits hc)
  obtain ⟨b, place, state⟩ := Register.resume_place awaits hc t.now
  refine h.own num g rfl only last ?_ (fun p hp => ?_) (.story ?_)
  · refine Register.words_resume awaits hc on (fun p hp => ?_) t.now h.word
    obtain ⟨r, rfl⟩ := policy p hp
    rw [← same r]
    exact (t.controller.enabled_policyFor r).trans on
  · have hp : (Register.resume t.controller i stage a t.now).stage = .binding p :=
      Stage.register.inj hp
    rw [hp] at place
    rw [← Option.some.inj place] at state
    exact state
  · have story : Story t.timer c₀ i (accountOf (t.logOf n)) stage since :=
      Recorded.story_of_awaits (h.calls n _ call rfl) awaits
    rw [g.logOf n, if_pos rfl]
    show Story t.timer c₀ i (accountOf (t.logOf n ++ entries t.now n i a
      (Register.resume t.controller i stage a t.now))) _ _
    rw [accountOf_append, accountOf_entries]
    refine story.resume_of_policies hc awaits same fun he d hd => ?_
    have passed := due he
    unfold Call.isDue at passed
    rw [hd] at passed
    exact ((Timer.poll_eq_elapsed_iff _).mp (of_decide_eq_true passed)).2

/-- A registration of the instance comes too late with its lookup. -/
theorem late (h : InTurn c₀ k t) (num : t.Numbered) {since : Nat}
    (call : t.calls[n]? = some ⟨i, .register .lookup, since⟩)
    (hc : ¬RegisterStage.lookup.admits (t.controller.state? i.key)) (hi : i.key = k)
    (r : Except Failure (Option RemoteRule)) :
    InTurn c₀ k (t.proceed n ⟨i, .register .lookup, since⟩ (.register (.rule r))) := by
  subst hi
  have g := goes_proceed call (.register (.rule r))
  obtain ⟨only, last⟩ := h.only n _ call rfl rfl
  obtain ⟨x, hx⟩ := Call.resume_turnedAway hc since r t.now
  let e : TransitionError := .invalidTransition i.key.text x .unregistered
  rw [hx] at g
  have quiet :=
    Effect.kinds_of_quiet (Register.policyEffects_quiet (c := t.controller) (i := i) r)
  have silent : Step.told ⟨t.controller, Stage.register (Register.refuseMove e),
      t.controller.policyEffects i r⟩ = [] := congrArg withoutTimers quiet
  refine h.own num g rfl only last ?_ (fun p hp => by cases hp) (.late r e ?_ _)
  · rw [silent, List.append_nil, g.controller]
    exact h.word
  · have story : Story t.timer c₀ i (accountOf (t.logOf n)) .lookup since :=
      Recorded.story_of_awaits (h.calls n _ call rfl) (a := .rule r) rfl
    have empty : accountOf (t.logOf n) = {} := by
      generalize accountOf (t.logOf n) = A at story
      cases story
      rfl
    rw [g.logOf n, if_pos rfl]
    show accountOf (t.logOf n ++ entries t.now n i (.rule r)
      ⟨t.controller, Register.refuseMove e, t.controller.policyEffects i r⟩) = _
    rw [accountOf_append, accountOf_entries, empty, Account.empty_append, Account.ofStep, quiet]
    rfl

/-- The registrar answers a call to retract the instance. -/
theorem retracted (h : InTurn c₀ k t) (num : t.Numbered) {isProbe : Bool} {since : Nat}
    (call : t.calls[n]? = some ⟨i, .deregister isProbe .retracting, since⟩)
    (hc : t.controller.state? i.key = some .deregistering) (hi : i.key = k)
    (r : Except Failure Unit) :
    InTurn c₀ k (t.proceed n ⟨i, .deregister isProbe .retracting, since⟩ (.retracted r)) := by
  subst hi
  have g := goes_proceed call (.retracted r)
  obtain ⟨only, last⟩ := h.only n _ call rfl rfl
  have told : (ofDeregister i isProbe (Deregister.resume t.controller i .retracting r)).told =
      Deregister.closing r := by
    unfold Step.told
    rw [kinds_ofDeregister, Deregister.kinds_resume hc, withoutTimers_closing]
  refine h.own num g rfl only last ?_ (fun p hp => by cases hp) ?_
  · show t.word i.key ++ (ofDeregister i isProbe _).told ∈ _
    rw [told]
    exact Deregister.words_resume hc r h.word
  · have before : t.share i.key n = [.offlineStart] := h.calls n _ call rfl
    have stage := Deregister.stage_retracted hc r
    show (t.proceed n _ _).share i.key n =
      (Deregister.resume t.controller i .retracting r).stage.reported
    rw [g.share, if_pos rfl, before, stage, DeregisterStage.reported_ofVerdict]
    exact congrArg ([.offlineStart] ++ ·) told

/-- A call of the instance goes on after an answer. -/
theorem proceed (h : InTurn c₀ k t) (num : t.Numbered) (sound : t.Sound)
    (on : t.controller.settings.enabled = true)
    (same : ∀ r, t.controller.policyFor r = c₀.policyFor r) (resolved : t.Resolved c₀)
    {x : Call} {a : Answer} (call : t.calls[n]? = some x) (awaits : x.stage.awaits a = true)
    (due : a.isElapsed = true → x.isDue t.timer t.isCancelled t.now = true) (hk : x.inst.key = k) :
    InTurn c₀ k (t.proceed n x a) := by
  cases Call.advance awaits (sound.owns call) with
  | @admitted i stage since a awaits hc =>
    have elapsed : a = .gate .elapsed →
        (Call.mk i (.register stage) since).isDue t.timer t.isCancelled t.now = true :=
      fun he => due (by rw [he]; rfl)
    exact h.admitted num on same resolved call awaits elapsed hc hk
  | late r hc => exact h.late num call hc hk r
  | @overtaken i since p b hc =>
    -- An instance stays unregistered while its only call waits for the listener.
    have unregistered := h.binding n i p since call hk
    rw [← hk] at unregistered
    exact absurd unregistered hc
  | retracted isProbe r hc => exact h.retracted num call hc hk r
  | timer d isInterrupted =>
    refine h.other num (goes_proceed call _) rfl fun _ => ⟨?_, rfl⟩
    cases isInterrupted <;> rfl

end InTurn

/-- Every move keeps the calls for an instance in turn that begins a call for it only when none is
open. -/
theorem InTurn.step {c₀ : Controller} {k : InstanceKey} {t : Traffic} (h : InTurn c₀ k t)
    (num : t.Numbered) (sound : t.Sound) (on : t.controller.settings.enabled = true)
    (same : ∀ r, t.controller.policyFor r = c₀.policyFor r) (resolved : t.Resolved c₀) (m : Move)
    (hm : m.begins k = true → t.Quiet k) : InTurn c₀ k (t.step m) := by
  have move := t.stepped m
  generalize t.step m = u at move
  cases move with
  | idle => exact ⟨h.word, h.parts, h.only, h.binding, h.calls⟩
  | register i =>
    by_cases hi : i.key = k
    · exact h.register num (hm (decide_eq_true hi)) hi
    · exact h.other num (goes_launch (Step.serves_of_quiet rfl rfl)) rfl fun hk => absurd hk hi
  | deregister i isProbe =>
    by_cases hi : i.key = k
    · exact h.deregister num (hm (decide_eq_true hi)) hi isProbe
    · have turn := turn_start t.controller i isProbe
      exact h.other num (goes_launch (serves_start ..)) (turn.state?_of_ne (Ne.symm hi))
        fun hk => absurd hk hi
  | @answer n x a call awaits due =>
    by_cases hk : x.inst.key = k
    · exact h.proceed num sound on same resolved call awaits due hk
    · have turn := Call.turn_resume awaits (sound.owns call) t.now
      exact h.other num (goes_proceed call a) (turn.state?_of_ne (Ne.symm hk))
        fun hi => absurd hi hk

/-- After a run in which the calls for an instance come one after another they are in turn. -/
theorem run_inTurn (τ : Timer) {settings : GracefulSettings} (on : settings.enabled = true)
    (server : ProbeServer) {k : InstanceKey} {ms : List Move}
    (alone : Alone k (start τ settings server) ms) :
    InTurn (start τ settings server).controller k ((start τ settings server).run ms) := by
  induction ms using List.reverseRecOn with
  | nil =>
    have none (n : Nat) (x : Call) : (start τ settings server).calls[n]? ≠ some x := by simp [start]
    have empty : [] ∈ offline.matches' :=
      comp_append nil_mem_star ((Language.mem_add ..).mpr (.inl rfl))
    exact ⟨empty, rfl, fun n x hx => absurd hx (none n x), fun n i p s hx => absurd hx (none n _),
      fun n x hx => absurd hx (none n x)⟩
  | append_singleton ms m ih =>
    obtain ⟨before, hm⟩ := (along_concat ..).mp alone
    have settled := run_settings τ settings server ms
    rw [run_append]
    exact (ih before).step (run_numbered τ settings server ms) (run_sound τ settings server ms)
      (by rw [settled]; exact on) (fun r => policyFor_congr settled r)
      (run_resolved τ settings server ms) m hm

/-! ## Between calls -/

/-- What holds of the events of an instance between its calls. -/
structure Cyclic (c₀ : Controller) (k : InstanceKey) (t : Traffic) : Prop where
  /-- The events are those of an instance that comes and goes. -/
  word : t.word k ∈ offline.matches' ∨ t.word k ∈ online.matches'
  /-- The instance is registered exactly if they end while it is online. -/
  registered : t.controller.state? k = some .registered ↔ t.word k ∈ online.matches'
  /-- They are what its calls have reported, one after another. -/
  parts : t.word k = (List.range t.calls.length).flatMap (t.share k)
  /-- A registration has reported what its result says under the policy of its only lookup. -/
  attempts : ∀ n i r since, t.calls[n]? = some ⟨i, .register (.done r), since⟩ → i.key = k →
    ∃ a, (accountOf (t.logOf n)).lookups = [a] ∧
      t.share k n = attemptReports (c₀.policyFor a) r
  /-- A call to retract the instance has reported what its result says. -/
  retractions : ∀ n i isProbe r since,
    t.calls[n]? = some ⟨i, .deregister isProbe (.done r), since⟩ → i.key = k →
      t.share k n = (DeregisterStage.done r).reported
  /-- A call that was refused has reported nothing. -/
  refused : ∀ n x, t.calls[n]? = some x → x.inst.key = k → x.stage.refusal?.isSome = true →
    t.share k n = []

/-- A call that has returned holds nothing. -/
theorem Stage.held_of_closed {s : Stage} (h : s.isOpen = false) : s.held = none := by
  cases s with
  | register s =>
    cases s with
    | done r =>
      cases r with
      | ok x => rfl
      | error e => cases e <;> rfl
    | _ => cases h
  | deregister isProbe s =>
    cases s with
    | retracting => cases h
    | done r =>
      cases r with
      | ok x => cases x <;> rfl
      | error e => cases e <;> rfl
  | _ => rfl

/-- Between its calls an instance is in no transient state. -/
theorem Quiet.state? {t : Traffic} {k : InstanceKey} (quiet : t.Quiet k) (sound : t.Sound)
    {s : RegistrationState} (hs : t.controller.state? k = some s) : s.isTransient = false := by
  have none : t.held k = [] := by
    unfold Traffic.held
    rw [List.filterMap_eq_nil_iff]
    intro x hx
    unfold Call.heldFor
    split
    · next hk => exact Stage.held_of_closed (quiet x hx hk)
    · rfl
  have held := sound.held k
  rw [none, hs] at held
  cases ht : s.isTransient with
  | false => rfl
  | true => simp [Option.filter, ht] at held

namespace InTurn

variable {c₀ : Controller} {k : InstanceKey} {t : Traffic}

/-- Between its calls an instance is online if it is registered, and else offline. -/
theorem allowed (h : InTurn c₀ k t) (sound : t.Sound) (quiet : t.Quiet k) :
    (t.controller.state? k = some .registered ∧ t.word k ∈ online.matches') ∨
      (t.controller.state? k ≠ some .registered ∧ t.word k ∈ offline.matches') := by
  have word := h.word
  cases hs : t.controller.state? k with
  | none =>
    rw [hs] at word
    exact .inr ⟨by simp, word⟩
  | some s =>
    have stable := quiet.state? sound hs
    rw [hs] at word
    cases s with
    | registered => exact .inl ⟨rfl, word⟩
    | unregistered => exact .inr ⟨by simp, word⟩
    | deregistered => exact .inr ⟨by simp, word⟩
    | _ => cases stable

/-- A registration that has returned has reported what its result says under the policy of its only
lookup. -/
theorem attempt (h : InTurn c₀ k t) (num : t.Numbered)
    (on : ∀ a, (c₀.policyFor a).enabled = true) {n : Nat} {i : Instance}
    {r : Except LifecycleError Registration} {since : Nat}
    (hx : t.calls[n]? = some ⟨i, .register (.done r), since⟩) (hi : i.key = k) :
    ∃ a, (accountOf (t.logOf n)).lookups = [a] ∧
      t.share k n = attemptReports (c₀.policyFor a) r := by
  have recorded : Recorded t.timer c₀ i (accountOf (t.logOf n)) (.done r) since := h.calls n _ hx hi
  obtain ⟨a, ha, reports⟩ := recorded.reports on
  refine ⟨a, ha, ?_⟩
  have share := num.share_eq hx
  rw [reports, withoutTimers_attemptReports] at share
  exact hi ▸ share

/-- A call that was refused a change of state has reported nothing. -/
theorem refused (h : InTurn c₀ k t) (num : t.Numbered)
    (on : ∀ a, (c₀.policyFor a).enabled = true) {n : Nat} {x : Call}
    (hx : t.calls[n]? = some x) (hi : x.inst.key = k) (hr : x.stage.refusal?.isSome = true) :
    t.share k n = [] := by
  obtain ⟨i, stage, since⟩ := x
  obtain ⟨e, he⟩ := Option.isSome_iff_exists.mp hr
  cases stage with
  | register s =>
    obtain rfl := Stage.register_of_refusal? he
    obtain ⟨a, -, share⟩ := h.attempt num on hx hi
    exact share
  | deregister isProbe s =>
    obtain rfl := Stage.deregister_of_refusal? he
    exact h.calls n _ hx hi
  | _ => cases he

end InTurn

/-- Between the calls for an instance, which come one after another, its events are a word of cycles
in which it comes and goes; it is registered exactly if the word ends while it is online; and the
word is put together from what each of its calls has reported. -/
theorem reports_cycle (τ : Timer) (settings : GracefulSettings) (on : settings.enabled = true)
    (server : ProbeServer) (k : InstanceKey) (ms : List Move)
    (alone : Alone k (start τ settings server) ms)
    (quiet : ((start τ settings server).run ms).Quiet k) :
    Cyclic (start τ settings server).controller k ((start τ settings server).run ms) := by
  have h := run_inTurn τ on server alone
  have sound := run_sound τ settings server ms
  have num := run_numbered τ settings server ms
  generalize (start τ settings server).run ms = t at quiet h sound num
  have enabled (a : Except Failure (Option RemoteRule)) :
      ((start τ settings server).controller.policyFor a).enabled = true := by
    cases a <;> exact (GracefulSettings.enabled_resolve ..).trans on
  have allowed := h.allowed sound quiet
  refine ⟨?_, ?_, h.parts, fun n i r since hx hi => h.attempt num enabled hx hi,
    fun n i isProbe r since hx hi => h.calls n _ hx hi, fun n x => h.refused num enabled⟩
  · rcases allowed with ⟨-, word⟩ | ⟨-, word⟩
    · exact .inr word
    · exact .inl word
  · rcases allowed with ⟨state, word⟩ | ⟨state, word⟩
    · exact ⟨fun _ => word, fun _ => state⟩
    · exact ⟨fun hs => absurd hs state, fun hw => absurd hw (not_online_of_offline word)⟩

/-- An instance is refused by the registrar, comes online and warms up, stays online when the
registrar refuses to retract it, and goes when it is asked again. -/
theorem reports_cycle_once :
    let settings : GracefulSettings :=
      { enabled := true, warmup := { enabled := true, interval := .ofSeconds 60 } }
    let server : ProbeServer := { listen := "127.0.0.1:0" }
    let i : Instance := ⟨"default", "echo", "127.0.0.1", 8080, none, none, none, none⟩
    let j : Instance := ⟨"default", "echo", "127.0.0.1", 8081, none, none, none, none⟩
    let ms : List Move :=
      [.register i, .register j, .answer 0 (.register (.rule (.ok none))),
        .answer 0 (.register (.registered (.error { text := "down" }))), .register i,
        .answer 2 (.register (.rule (.ok none))),
        .answer 2 (.register (.registered (.ok ⟨"ins-1", false⟩))), .pass 60000,
        .answer 3 (.timer false), .deregister i true,
        .answer 4 (.retracted (.error { text := "down" })), .deregister i false,
        .answer 5 (.retracted (.ok ()))]
    let t₀ := start .thirtyYears settings server
    let t := t₀.run ms
    settings.enabled = true ∧ Alone i.key t₀ ms ∧ t.Quiet i.key ∧
      t.word i.key = [.onlineStart, .onlineStart, .onlineEnd, .warmupStart, .offlineStart,
        .offlineStart, .threadEnd] ∧
      Cyclic t₀.controller i.key t := by
  intro settings server i j ms t₀ t
  have alone : Alone i.key t₀ ms := by decide +kernel
  have quiet : t.Quiet i.key := by decide +kernel
  exact ⟨rfl, alone, quiet, by decide +kernel,
    reports_cycle .thirtyYears settings rfl server i.key ms alone quiet⟩

end Traffic

end InstanceLifecycle
