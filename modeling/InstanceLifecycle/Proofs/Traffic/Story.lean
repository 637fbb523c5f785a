import InstanceLifecycle.Proofs.Traffic.Outline

/-!
# The story of a registration

Where a registration stands tells what has happened to it: which lookup was answered, what was
reported and when, what the gate was told, when the registrar was asked and what it answered. A
story is such an account together with a stage that fits it, and each answer continues it.

Results:

* `Story.resume`: an answer continues a story;
* `Story.gated`: a story comes to what the gate says.
-/

namespace InstanceLifecycle

namespace Traffic

/-! ## Accounts -/

/-- An account of a registration: the answers to its lookups, the events that it reported and the
answers of the gate, each with its time, the times at which it asked the registrar, and what the
registrar answered. -/
@[ext]
structure Account where
  lookups : List (Except Failure (Option RemoteRule)) := []
  reports : List (Nat × EventKind) := []
  gateAnswers : List (Nat × GateAnswer) := []
  requests : List Nat := []
  verdicts : List (Except Failure Registration) := []

namespace Account

/-- One account and then another one. -/
def append (x y : Account) : Account :=
  ⟨x.lookups ++ y.lookups, x.reports ++ y.reports, x.gateAnswers ++ y.gateAnswers,
    x.requests ++ y.requests, x.verdicts ++ y.verdicts⟩

/-- The account of an answer. -/
def ofAnswer (now : Nat) : RegisterAnswer → Account
  | .rule r => { lookups := [r] }
  | .bound _ => {}
  | .gate a => { gateAnswers := [(now, a)] }
  | .registered r => { verdicts := [r] }

/-- The account of coming to a stage. -/
def ofStage (now : Nat) : RegisterStage → Account
  | .registering _ => { requests := [now] }
  | _ => {}

/-- The account of reporting events. -/
def ofKinds (now : Nat) (kinds : List EventKind) : Account :=
  { reports := kinds.map fun k => (now, k) }

/-- The account of an answer and of the step after it. -/
def ofStep (now : Nat) (a : RegisterAnswer) (s : Step RegisterStage) : Account :=
  ((ofAnswer now a).append (ofKinds now (s.effects.filterMap Effect.kind?))).append
    (ofStage now s.stage)

/-- Effects that only log or count add nothing to an account. -/
theorem ofStep_after {fx : List Effect} (h : fx.all Effect.isQuiet = true) (now : Nat)
    (a : RegisterAnswer) (s : Step RegisterStage) : ofStep now a (s.after fx) = ofStep now a s := by
  simp [ofStep, Effect.kinds_of_quiet h]

@[simp]
theorem append_empty (x : Account) : x.append {} = x := by
  simp [append]

@[simp]
theorem empty_append (x : Account) : append {} x = x := by
  simp [append]

theorem append_request (x : Account) (now : Nat) (p : Policy) :
    x.append (ofStage now (.registering p)) = { x with requests := x.requests ++ [now] } := by
  simp [append, ofStage]

@[simp]
theorem ofStage_gating (now : Nat) (p : Policy) (g : GateStage) :
    ofStage now (.gating p g) = {} := rfl

@[simp]
theorem ofStage_done (now : Nat) (r : Except LifecycleError Registration) :
    ofStage now (.done r) = {} := rfl

theorem append_assoc (x y z : Account) : (x.append y).append z = x.append (y.append z) := by
  simp [append]

end Account

/-! ## Stories -/

/-- A gate that is told what it waits for does not sleep for its whole delay afterwards. -/
theorem Gate.resume_ne_delaying {i : Instance} {g : GateStage} {a : GateAnswer} {now : Nat}
    (h : g.awaits a = true) (d : Duration) : (Gate.resume i g a now).1 ≠ .delaying d := by
  have failed (check : HealthCheckPolicy) (started n : Nat) :
      (Gate.afterFailure i check started n).1 ≠ .delaying d := by
    unfold Gate.afterFailure
    split <;> simp
  cases g with
  | closed r => cases h
  | delaying d' =>
    cases a with
    | answered r => cases h
    | _ => simp [Gate.resume]
  | pausing check started n =>
    cases a with
    | answered r => cases h
    | _ => simp [Gate.resume, Gate.ask]
  | checking check started n =>
    cases a with
    | elapsed => cases h
    | interrupted => simp [Gate.resume]
    | answered r =>
      show (Gate.judge i check started n now r).1 ≠ _
      unfold Gate.judge
      split
      · split
        · simp
        · exact failed check started n
      · exact failed check started n

/-- Why a registration may ask the registrar at some time, after it reported some events and the
gate was told some answers. -/
inductive Cleared (τ : Timer) (i : Instance) (p : Policy) :
    List (Nat × EventKind) → List (Nat × GateAnswer) → Nat → Prop
  | disabled (off : p.enabled = false) (now : Nat) : Cleared τ i p [] [] now
  | undelayed (on : p.enabled = true) (off : p.delay.enabled = false) (now : Nat) :
    Cleared τ i p [(now, .onlineStart)] [] now
  | passed {start now : Nat} {told : List (Nat × GateAnswer)} {pass : GatePass}
    (on : p.enabled = true) (delayed : p.delay.enabled = true)
    (passed : Gate.passage i p.delay start told = .closed (.ok pass))
    (waited : ∀ d, p.delay.strategy = .byTime d → start + τ.pause start d ≤ now)
    (healthy : ∀ check, p.delay.strategy = .byHealthCheck check →
      ∃ t s, (t, .answered (.ok s)) ∈ told ∧ s.isSuccess = true) :
    Cleared τ i p [(start, .onlineStart)] told now

/-- An account of a registration that began at a controller, the stage at which it stands, and the
time since when. -/
inductive Story (τ : Timer) (c₀ : Controller) (i : Instance) :
    Account → RegisterStage → Nat → Prop
  | lookup (since : Nat) : Story τ c₀ i {} .lookup since
  | probeRefused (r : Except Failure (Option RemoteRule)) (e : ProbeError) (since : Nat) :
    Story τ c₀ i { lookups := [r] } (Register.refuseProbe e) since
  | binding (r : Except Failure (Option RemoteRule)) (on : (c₀.policyFor r).enabled = true)
    (since : Nat) : Story τ c₀ i { lookups := [r] } (.binding (c₀.policyFor r)) since
  | gating (r : Except Failure (Option RemoteRule)) {start since : Nat}
    {told : List (Nat × GateAnswer)} (on : (c₀.policyFor r).enabled = true)
    (delayed : (c₀.policyFor r).delay.enabled = true)
    (waiting : ∀ x, Gate.passage i (c₀.policyFor r).delay start told ≠ .closed x)
    (delaying : ∀ d, Gate.passage i (c₀.policyFor r).delay start told = .delaying d → start = since) :
    Story τ c₀ i { lookups := [r], reports := [(start, .onlineStart)], gateAnswers := told }
      (.gating (c₀.policyFor r) (Gate.passage i (c₀.policyFor r).delay start told)) since
  | gateRefused (r : Except Failure (Option RemoteRule)) {start since : Nat}
    {told : List (Nat × GateAnswer)} {e : GateError} (on : (c₀.policyFor r).enabled = true)
    (delayed : (c₀.policyFor r).delay.enabled = true)
    (refused : Gate.passage i (c₀.policyFor r).delay start told = .closed (.error e)) :
    Story τ c₀ i { lookups := [r], reports := [(start, .onlineStart)], gateAnswers := told }
      (Register.refuse (.gate i.key.text e)) since
  | registering (r : Except Failure (Option RemoteRule)) {reports : List (Nat × EventKind)}
    {told : List (Nat × GateAnswer)} {since : Nat}
    (cleared : Cleared τ i (c₀.policyFor r) reports told since) :
    Story τ c₀ i { lookups := [r], reports, gateAnswers := told, requests := [since] }
      (.registering (c₀.policyFor r)) since
  | rejected (r : Except Failure (Option RemoteRule)) {reports : List (Nat × EventKind)}
    {told : List (Nat × GateAnswer)} {asked : Nat} (f : Failure)
    (cleared : Cleared τ i (c₀.policyFor r) reports told asked) (since : Nat) :
    Story τ c₀ i { lookups := [r], reports, gateAnswers := told, requests := [asked],
                   verdicts := [.error f] }
      (Register.refuse (.registration i.key.text f)) since
  | registered (r : Except Failure (Option RemoteRule)) {reports : List (Nat × EventKind)}
    {told : List (Nat × GateAnswer)} {asked : Nat} (x : Registration)
    (cleared : Cleared τ i (c₀.policyFor r) reports told asked) (since : Nat) :
    Story τ c₀ i { lookups := [r],
                   reports := reports ++
                     (Register.closing (c₀.policyFor r)).map fun k => (since, k),
                   gateAnswers := told, requests := [asked], verdicts := [.ok x] }
      (.done (.ok x)) since

namespace Story

variable {τ : Timer} {c₀ : Controller} {i : Instance}

/-- A story comes to what the gate says. -/
theorem gated (r : Except Failure (Option RemoteRule)) {start now : Nat}
    {told : List (Nat × GateAnswer)} (on : (c₀.policyFor r).enabled = true)
    (delayed : (c₀.policyFor r).delay.enabled = true)
    (delaying : ∀ d, Gate.passage i (c₀.policyFor r).delay start told = .delaying d → start = now)
    (cleared : ∀ pass, Gate.passage i (c₀.policyFor r).delay start told = .closed (.ok pass) →
      Cleared τ i (c₀.policyFor r) [(start, .onlineStart)] told now) {g : GateStage}
    (hg : g = Gate.passage i (c₀.policyFor r).delay start told) :
    Story τ c₀ i
      (Account.append { lookups := [r], reports := [(start, .onlineStart)], gateAnswers := told }
        (.ofStage now (Register.afterGate i (c₀.policyFor r) g)))
      (Register.afterGate i (c₀.policyFor r) g) now := by
  have stay (g : GateStage) (hg : g = Gate.passage i (c₀.policyFor r).delay start told)
      (waiting : ∀ x, g ≠ .closed x) :
      Story τ c₀ i { lookups := [r], reports := [(start, .onlineStart)], gateAnswers := told }
        (.gating (c₀.policyFor r) g) now := by
    subst hg
    exact .gating r on delayed waiting delaying
  cases g with
  | closed x =>
    cases x with
    | ok pass =>
      simp only [Register.afterGate, Account.append_request]
      exact .registering r (cleared pass hg.symm)
    | error e =>
      simp only [Register.afterGate, Register.refuse, Account.ofStage_done, Account.append_empty]
      exact .gateRefused r on delayed hg.symm
  | delaying d => simpa [Register.afterGate] using stay _ hg (by simp)
  | checking check s n => simpa [Register.afterGate] using stay _ hg (by simp)
  | pausing check s n => simpa [Register.afterGate] using stay _ hg (by simp)

/-- A story goes on from the announcement of the instance. -/
theorem started (r : Except Failure (Option RemoteRule)) (now : Nat)
    (on : (c₀.policyFor r).enabled = true) :
    Story τ c₀ i
      (Account.append { lookups := [r], reports := [(now, .onlineStart)] }
        (.ofStage now (Register.afterStart i (c₀.policyFor r) now)))
      (Register.afterStart i (c₀.policyFor r) now) now := by
  unfold Register.afterStart
  split
  · next delayed =>
    refine gated r on delayed (fun _ _ => rfl) (fun pass hpass => ?_) (Gate.passage_nil ..).symm
    rw [Gate.passage_nil] at hpass
    exact absurd hpass (Gate.arrive_not_passed delayed i now pass)
  · next off => exact .registering r (.undelayed on (by simpa using off) now)

/-- A story goes on from the lookup under an enabled policy. -/
theorem opened (r : Except Failure (Option RemoteRule)) {now : Nat}
    (on : (c₀.policyFor r).enabled = true) {stage : RegisterStage} {kinds : List EventKind}
    (h : Register.Opening i (c₀.policyFor r) now stage kinds) :
    Story τ c₀ i
      (((Account.ofAnswer now (.rule r)).append (.ofKinds now kinds)).append (.ofStage now stage))
      stage now := by
  cases h with
  | refused e => exact .probeRefused r e now
  | binding => exact .binding r on now
  | announced => exact started r now on

/-- An answer to the lookup continues a story. -/
theorem resume_rule {c : Controller} (hc : RegisterStage.lookup.admits (c.state? i.key))
    (r : Except Failure (Option RemoteRule)) (hr : c.policyFor r = c₀.policyFor r) (now : Nat) :
    Story τ c₀ i (.ofStep now (.rule r) (Register.resume c i .lookup (.rule r) now))
      (Register.resume c i .lookup (.rule r) now).stage now := by
  simp only [Register.resume, hr, Account.ofStep_after (Register.policyEffects_quiet r),
    Step.stage_after]
  unfold Account.ofStep
  rcases Register.begin_outline (p := c₀.policyFor r) hc now with ⟨off, hs, -, hk⟩ | ⟨on, kinds, ho, hl⟩
  · rw [hs, hk]
    exact .registering r (.disabled off now)
  · rw [hl.kinds]
    exact opened r on ho

/-- The answer of the listener continues a story. -/
theorem resume_bound {c : Controller} (hc : c.state? i.key = some .unregistered)
    (r : Except Failure (Option RemoteRule)) (on : (c₀.policyFor r).enabled = true)
    (b : Except String String) (now : Nat) :
    let s := Register.resume c i (.binding (c₀.policyFor r)) (.bound b) now
    Story τ c₀ i (Account.append { lookups := [r] } (.ofStep now (.bound b) s)) s.stage now := by
  obtain ⟨hs, hl⟩ := Register.followBinding_outline (p := c₀.policyFor r) hc now b
  simp only [Register.resume, Account.ofStep, hs, hl.kinds]
  exact started r now on

/-- An answer that the gate waits for continues a story, if the gate is not told that a sleep is
over before it is. -/
theorem resume_gate {c : Controller} (hc : c.state? i.key = some .gating)
    (r : Except Failure (Option RemoteRule)) {start since now : Nat}
    {told : List (Nat × GateAnswer)} (on : (c₀.policyFor r).enabled = true)
    (delayed : (c₀.policyFor r).delay.enabled = true) {g : GateStage}
    (hg : g = Gate.passage i (c₀.policyFor r).delay start told) (waiting : ∀ x, g ≠ .closed x)
    (delaying : ∀ d, g = .delaying d → start = since) {a : GateAnswer} (awaits : g.awaits a = true)
    (due : a = .elapsed → ∀ d, g.interval? = some d → since + τ.pause since d ≤ now) :
    let s := Register.resume c i (.gating (c₀.policyFor r) g) (.gate a) now
    Story τ c₀ i
      (Account.append { lookups := [r], reports := [(start, .onlineStart)], gateAnswers := told }
        (.ofStep now (.gate a) s)) s.stage now := by
  have next : (Gate.resume i g a now).1 =
      Gate.passage i (c₀.policyFor r).delay start (told ++ [(now, a)]) := by
    rw [Gate.passage_concat, hg]
  have fits : g.Fits (c₀.policyFor r).delay.strategy := hg ▸ Gate.fits_passage ..
  obtain ⟨hs, hl⟩ := Register.followGate_outline (p := c₀.policyFor r) hc (Gate.resume i g a now).1
  simp only [Register.resume, Account.ofStep_after (Gate.quiet_resume i g a now), Step.stage_after]
  simp only [Account.ofStep, hs, hl.kinds]
  rw [← Account.append_assoc]
  show Story τ c₀ i
    (Account.append { lookups := [r], reports := [(start, .onlineStart)],
                      gateAnswers := told ++ [(now, a)] } _) _ now
  refine gated r on delayed (fun d hd => ?_) (fun pass hp => ?_) next
  · exact absurd (next.trans hd) (Gate.resume_ne_delaying awaits d)
  rcases Gate.resume_passed waiting (next.trans hp) with ⟨d, rfl, rfl⟩ | ⟨check, n, m, x, rfl, rfl, hx⟩
  · refine .passed on delayed hp (fun d' hd => ?_) fun check hd => ?_
    · obtain rfl : d' = d := DelayStrategy.byTime.inj (hd.symm.trans fits)
      rw [delaying d' rfl]
      exact due rfl d' rfl
    · exact absurd (hd.symm.trans fits) (by simp)
  · refine .passed on delayed hp (fun d hd => ?_) fun check' hd => ?_
    · exact absurd (hd.symm.trans fits) (by simp)
    · exact ⟨now, x, by simp, hx⟩

/-- The answer of the registrar continues a story. -/
theorem resume_registered {c : Controller} (hc : c.state? i.key = some .registering)
    (r : Except Failure (Option RemoteRule)) {reports : List (Nat × EventKind)}
    {told : List (Nat × GateAnswer)} {asked : Nat}
    (cleared : Cleared τ i (c₀.policyFor r) reports told asked) (v : Except Failure Registration)
    (now : Nat) :
    let s := Register.resume c i (.registering (c₀.policyFor r)) (.registered v) now
    Story τ c₀ i
      (Account.append { lookups := [r], reports, gateAnswers := told, requests := [asked] }
        (.ofStep now (.registered v) s)) s.stage now := by
  cases v with
  | ok x =>
    obtain ⟨hs, -, hk⟩ := Register.succeed_outline (p := c₀.policyFor r) hc x
    simp only [Register.resume, Account.ofStep, hs, hk]
    simpa [Account.append, Account.ofAnswer, Account.ofKinds] using
      Story.registered r x cleared now
  | error f =>
    obtain ⟨hs, -, hk⟩ := Register.fail_outline hc f
    simp only [Register.resume, Account.ofStep, hs, hk]
    simpa [Account.append, Account.ofAnswer, Account.ofKinds, Register.refuse] using
      Story.rejected r f cleared now

/-- A registration that left its instance where its stage says can go on from there. -/
theorem admits {A : Account} {stage : RegisterStage} {since : Nat} (h : Story τ c₀ i A stage since)
    {x : Option RegistrationState} (fresh : stage = .lookup → RegisterStage.lookup.admits x)
    (place : ∀ b, stage.place? = some b → x = some b) {a : RegisterAnswer}
    (ha : stage.awaits a = true) : stage.admits x := by
  cases h with
  | lookup => exact fresh rfl
  | binding => exact place _ rfl
  | gating => exact place _ rfl
  | registering => exact place _ rfl
  | _ => simp [RegisterStage.awaits, Register.refuse, Register.refuseProbe] at ha

/-- An answer continues a story. -/
theorem resume {A : Account} {stage : RegisterStage} {since : Nat} (h : Story τ c₀ i A stage since)
    {c : Controller} (hc : stage.admits (c.state? i.key)) {a : RegisterAnswer}
    (ha : stage.awaits a = true) (fresh : stage = .lookup → c = c₀) {now : Nat}
    (due : a = .gate .elapsed → ∀ d, (Stage.register stage).interval? = some d →
      since + τ.pause since d ≤ now) :
    Story τ c₀ i (A.append (.ofStep now a (Register.resume c i stage a now)))
      (Register.resume c i stage a now).stage now := by
  cases h with
  | lookup =>
    obtain ⟨r, rfl⟩ := RegisterStage.eq_rule_of_awaits ha
    rw [Account.empty_append]
    exact resume_rule hc _ (by rw [fresh rfl]) now
  | binding r on =>
    obtain ⟨b, rfl⟩ := RegisterStage.eq_bound_of_awaits ha
    exact resume_bound hc r on _ now
  | gating r on delayed waiting delaying =>
    obtain ⟨b, rfl⟩ := RegisterStage.eq_gate_of_awaits ha
    refine resume_gate hc r on delayed rfl waiting delaying ha fun he => ?_
    exact due (congrArg _ he)
  | registering r cleared =>
    obtain ⟨v, rfl⟩ := RegisterStage.eq_registered_of_awaits ha
    exact resume_registered hc r cleared _ now
  | _ => simp [Register.refuse, Register.refuseProbe] at hc

/-- Under a disabled policy a story goes on through few phases. -/
theorem resume_disabled {A : Account} {stage : RegisterStage} {since : Nat}
    (h : Story τ c₀ i A stage since) {c : Controller} (hc : stage.admits (c.state? i.key))
    {a : RegisterAnswer} (ha : stage.awaits a = true) (fresh : stage = .lookup → c = c₀) (now : Nat)
    (off : ∀ r ∈ (A.append (.ofStep now a (Register.resume c i stage a now))).lookups,
      (c₀.policyFor r).enabled = false) :
    a.phase :: (Register.resume c i stage a now).phases ⊆ Register.disabledPhases := by
  have enabled {r : Except Failure (Option RemoteRule)} (on : (c₀.policyFor r).enabled = true)
      (hr : r ∈ A.lookups) : False := by
    have := off r (List.mem_append_left _ hr)
    simp [on] at this
  cases h with
  | lookup =>
    obtain ⟨r, rfl⟩ := RegisterStage.eq_rule_of_awaits ha
    obtain rfl := fresh rfl
    refine List.cons_subset.mpr ⟨List.mem_of_getElem? (i := 0) rfl, ?_⟩
    refine Register.resume_rule_disabled hc ?_ now
    exact off _ (by simp [Account.append, Account.ofStep, Account.ofAnswer])
  | binding r on => exact (enabled on (by simp)).elim
  | gating r on => exact (enabled on (by simp)).elim
  | registering r cleared =>
    obtain ⟨v, rfl⟩ := RegisterStage.eq_registered_of_awaits ha
    refine List.cons_subset.mpr ⟨List.mem_of_getElem? (i := 1) rfl, ?_⟩
    exact Register.resume_registered_disabled hc (off r (by simp [Account.append])) _ now
  | _ => simp [Register.refuse, Register.refuseProbe] at hc

end Story

end Traffic

end InstanceLifecycle
