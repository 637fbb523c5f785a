import InstanceLifecycle.Proofs.Traffic.Story

/-!
# The order of a registration

A registration that no other call interrupts goes through its phases in order, asks the registrar at
most once, and only if nothing holds it back or the gate let it through. When the gate or the
registrar refuses, nothing more is reported and the instance is unregistered.

Results:

* `run_following`: the log of an uninterrupted registration is a story of where it stands;
* `register_orderly`: what holds for it whatever the settings are and whatever it is told.
-/

namespace InstanceLifecycle

namespace Traffic

/-! ## Logs -/

/-- The phase of a registration that a deed belongs to. -/
def Deed.phase? : Deed → Option Phase
  | told (.register a) => some a.phase
  | effect x => x.phase?
  | reached (.register s) => s.phase?
  | _ => none

/-- The account of a deed. -/
def Deed.account (now : Nat) : Deed → Account
  | told (.register a) => .ofAnswer now a
  | effect x => .ofKinds now x.kind?.toList
  | reached (.register s) => .ofStage now s
  | _ => {}

/-- The phases that a log goes through. -/
def phasesOf (hs : List Happening) : List Phase := hs.filterMap (·.deed.phase?)

/-- The account that a log gives. -/
def accountOf (hs : List Happening) : Account :=
  hs.foldr (fun h x => (h.deed.account h.time).append x) {}

theorem phasesOf_append (hs ks : List Happening) :
    phasesOf (hs ++ ks) = phasesOf hs ++ phasesOf ks := List.filterMap_append

theorem accountOf_append (hs ks : List Happening) :
    accountOf (hs ++ ks) = (accountOf hs).append (accountOf ks) := by
  induction hs with
  | nil => exact (Account.empty_append _).symm
  | cons h hs ih =>
    simp only [accountOf, List.cons_append, List.foldr_cons, Account.append_assoc] at ih ⊢
    rw [ih]

/-- What is written down when a registration goes on after an answer. -/
def entries (now n : Nat) (i : Instance) (a : RegisterAnswer) (s : Step RegisterStage) :
    List Happening :=
  (.told (.register a) :: deedsOf (ofRegister s)).map fun d => ⟨now, n, i, d⟩

theorem phasesOf_entries (now n : Nat) (i : Instance) (a : RegisterAnswer)
    (s : Step RegisterStage) : phasesOf (entries now n i a s) = a.phase :: s.phases := by
  have reached : ([.reached (.register s.stage)] : List Deed).filterMap Deed.phase? =
      s.stage.phase?.toList := by
    simp only [List.filterMap_cons, Deed.phase?, List.filterMap_nil]
    cases s.stage.phase? <;> rfl
  have told : (Deed.told (.register a)).phase? = some a.phase := rfl
  simp only [phasesOf, entries, List.filterMap_map, deedsOf, ofRegister, Step.phases]
  show ((Deed.told (.register a) :: _) : List Deed).filterMap Deed.phase? = _
  rw [List.filterMap_cons_some told, List.filterMap_append, reached, List.filterMap_map]
  rfl

theorem accountOf_effects (now n : Nat) (i : Instance) (fx : List Effect) :
    accountOf (fx.map fun x => ⟨now, n, i, .effect x⟩) =
      .ofKinds now (fx.filterMap Effect.kind?) := by
  induction fx with
  | nil => rfl
  | cons x fx ih =>
    simp only [accountOf, List.map_cons, List.foldr_cons] at ih ⊢
    rw [ih]
    cases x <;> rfl

theorem accountOf_entries (now n : Nat) (i : Instance) (a : RegisterAnswer)
    (s : Step RegisterStage) : accountOf (entries now n i a s) = .ofStep now a s := by
  have key := accountOf_append (s.effects.map fun x => ⟨now, n, i, .effect x⟩)
    [⟨now, n, i, .reached (.register s.stage)⟩]
  rw [accountOf_effects] at key
  simp only [entries, deedsOf, ofRegister, List.map_cons, List.map_append, List.map_map,
    List.map_nil, Function.comp_def, Account.ofStep, Account.append_assoc]
  show (Account.ofAnswer now a).append (accountOf _) = _
  rw [key]
  show (Account.ofAnswer now a).append ((Account.ofKinds now _).append
    ((Account.ofStage now s.stage).append {})) = _
  rw [Account.append_empty]

/-! ## Uninterrupted registrations -/

/-- Whether a move leaves all calls alone but the one with this number. -/
def Move.IsFor (n : Nat) : Move → Prop
  | pass _ => True
  | answer m _ => m = n
  | cancel => True
  | _ => False

/-- What a registration has come to that began when some traffic was there and that no other call
has interrupted: its log is a story of where it stands. -/
structure Following (t : Traffic) (i : Instance) (u : Traffic) (hs : List Happening)
    (stage : RegisterStage) (since : Nat) : Prop where
  call : u.calls[t.calls.length]? = some ⟨i, .register stage, since⟩
  trace : u.trace = t.trace ++ hs
  timer : u.timer = t.timer
  story : Story t.timer t.controller i (accountOf hs) stage since
  sorted : Phase.Sorted (phasesOf hs)
  last : ∃ fs, phasesOf hs = fs ++ stage.phase?.toList
  disabled : (∀ r ∈ (accountOf hs).lookups, (t.controller.policyFor r).enabled = false) →
    phasesOf hs ⊆ Register.disabledPhases
  place : ∀ b, stage.place? = some b → u.controller.state? i.key = some b
  fresh : stage = .lookup → u.controller = t.controller

namespace Following

variable {t u : Traffic} {i : Instance} {hs : List Happening} {stage : RegisterStage} {since : Nat}

theorem launch (t : Traffic) (i : Instance) :
    Following t i (t.step (.register i)) [⟨t.now, t.calls.length, i, .reached (.register .lookup)⟩]
      .lookup t.now where
  call := by simp [step, Traffic.launch]
  trace := rfl
  timer := rfl
  story := .lookup _
  sorted := List.pairwise_singleton ..
  last := ⟨[], rfl⟩
  disabled _ := by simp [phasesOf, Deed.phase?, Register.disabledPhases]
  place _ hb := by cases hb
  fresh _ := rfl

/-- What else happens meanwhile does not touch the registration. -/
theorem idle (h : Following t i u hs stage since) {v : Traffic} (hcalls : v.calls = u.calls)
    (htrace : v.trace = u.trace) (htimer : v.timer = u.timer)
    (hcontroller : v.controller = u.controller) : Following t i v hs stage since where
  call := hcalls ▸ h.call
  trace := htrace ▸ h.trace
  timer := htimer.trans h.timer
  story := h.story
  sorted := h.sorted
  last := h.last
  disabled := h.disabled
  place := hcontroller ▸ h.place
  fresh := hcontroller ▸ h.fresh

/-- The registration goes on after an answer. -/
theorem proceed (h : Following t i u hs stage since)
    (ht : RegisterStage.lookup.admits (t.controller.state? i.key)) {a : RegisterAnswer}
    (ha : Call.accepts ⟨i, .register stage, since⟩ u.timer u.isCancelled u.now (.register a) = true) :
    let s := Register.resume u.controller i stage a u.now
    Following t i (u.proceed t.calls.length ⟨i, .register stage, since⟩ (.register a))
      (hs ++ entries u.now t.calls.length i a s) s.stage u.now := by
  intro s
  simp only [Call.accepts, Bool.and_eq_true] at ha
  obtain ⟨⟨awaits, due⟩, -⟩ := ha
  have awaits : stage.awaits a = true := awaits
  have admits : stage.admits (u.controller.state? i.key) :=
    h.story.admits (fun hl => h.fresh hl ▸ ht) h.place awaits
  obtain ⟨b, hb, hstate⟩ := Register.resume_place awaits admits u.now
  have story : Story t.timer t.controller i
      (accountOf (hs ++ entries u.now t.calls.length i a s)) s.stage u.now := by
    rw [accountOf_append, accountOf_entries]
    refine h.story.resume admits awaits h.fresh fun he d hd => ?_
    subst he
    have due : u.timer.poll since d u.isCancelled u.now = some false := by
      simpa [Call.isDue, Answer.isElapsed, hd] using due
    exact h.timer ▸ (Timer.poll_eq_elapsed_iff _).mp due |>.2
  obtain ⟨fs, hfs⟩ := h.last
  rw [RegisterStage.phase?_of_awaits awaits] at hfs
  have ordered := Register.resume_sorted awaits admits u.now
  refine ⟨?_, ?_, h.timer, story, ?_, ?_, fun off => ?_, fun b' hb' => ?_, fun hl => ?_⟩
  · have hn : t.calls.length < u.calls.length := (List.getElem?_eq_some_iff.mp h.call).1
    simp only [Traffic.proceed]
    rw [List.getElem?_append_left (by simpa using hn), List.getElem?_set_self hn]
    rfl
  · simp only [Traffic.proceed, note, h.trace, List.append_assoc]
    rfl
  · rw [phasesOf_append, phasesOf_entries, hfs, List.append_assoc]
    exact Phase.Sorted.append (hfs ▸ h.sorted) ordered.cons_self.cons_self
  · refine ⟨phasesOf hs ++ a.phase :: s.effects.filterMap Effect.phase?, ?_⟩
    rw [phasesOf_append, phasesOf_entries]
    simp [Step.phases]
  · rw [accountOf_append, accountOf_entries] at off
    rw [phasesOf_append, phasesOf_entries]
    refine List.append_subset.mpr ⟨h.disabled fun r hr => off r (List.mem_append_left _ hr), ?_⟩
    exact h.story.resume_disabled admits awaits h.fresh u.now off
  · rw [Option.some.inj (hb'.symm.trans hb)]
    exact hstate
  · exact absurd (hl ▸ hb) (by simp)

/-- Every move that leaves other calls alone continues the registration. -/
theorem step (h : Following t i u hs stage since)
    (ht : RegisterStage.lookup.admits (t.controller.state? i.key)) {m : Move}
    (hm : m.IsFor t.calls.length) :
    ∃ hs' stage' since', Following t i (u.step m) hs' stage' since' := by
  cases m with
  | pass millis => exact ⟨_, _, _, h.idle rfl rfl rfl rfl⟩
  | cancel => exact ⟨_, _, _, h.idle rfl rfl rfl rfl⟩
  | register i => exact hm.elim
  | deregister i isProbe => exact hm.elim
  | answer n a =>
    obtain rfl : n = t.calls.length := hm
    by_cases ha : Call.accepts ⟨i, .register stage, since⟩ u.timer u.isCancelled u.now a = true
    · rw [step_answer h.call ha]
      cases a with
      | register a => exact ⟨_, _, _, h.proceed ht ha⟩
      | _ => simp [Call.accepts, Stage.awaits] at ha
    · refine ⟨hs, stage, since, ?_⟩
      simpa [Traffic.step, h.call, ha] using h

end Following

/-- The log of an uninterrupted registration is a story of where it stands. -/
theorem run_following (t : Traffic) {i : Instance}
    (ht : RegisterStage.lookup.admits (t.controller.state? i.key)) (ms : List Move)
    (hms : ∀ m ∈ ms, m.IsFor t.calls.length) :
    ∃ hs stage since, Following t i (t.run (.register i :: ms)) hs stage since := by
  rw [run_cons]
  refine run_induction (P := fun u => ∃ hs stage since, Following t i u hs stage since)
    ⟨_, _, _, Following.launch t i⟩ (fun u m hm h => ?_) ms hms
  obtain ⟨hs, stage, since, h⟩ := h
  exact h.step ht hm

/-! ## The order -/

/-- Why the registrar may be asked at some time under a policy: nothing holds the registration back,
or the gate let it through. A delay is then over by the timer since the announcement, and so it has
passed as long as the clock can represent its end. A health check was answered with success. -/
def MayAsk (τ : Timer) (i : Instance) (p : Policy) (x : Account) (now : Nat) : Prop :=
  p.enabled = false ∨ p.delay.enabled = false ∨
    ∃ start pass, (start, .onlineStart) ∈ x.reports ∧
      Gate.passage i p.delay start x.gateAnswers = .closed (.ok pass) ∧
      (∀ d, p.delay.strategy = .byTime d → start + τ.pause start d ≤ now ∧
        (τ.NeverEarly → τ.Reaches start d → d.nanos ≤ (now - start) * 1000000)) ∧
      ∀ check, p.delay.strategy = .byHealthCheck check →
        ∃ time s, (time, .answered (.ok s)) ∈ x.gateAnswers ∧ s.isSuccess = true

/-- What holds of a registration that began at a controller and that no other call interrupts, for
its log so far, the controller and the stage at which it stands. -/
structure Orderly (τ : Timer) (c₀ : Controller) (i : Instance) (hs : List Happening) (c : Controller)
    (stage : RegisterStage) : Prop where
  /-- The phases come in order. -/
  sorted : Phase.Sorted (phasesOf hs)
  /-- A disabled policy installs, announces and holds back nothing. -/
  disabled : ∀ r ∈ (accountOf hs).lookups, (c₀.policyFor r).enabled = false →
    phasesOf hs ⊆ Register.disabledPhases
  /-- The registrar is asked at most once. -/
  once : (accountOf hs).requests.length ≤ 1
  /-- While the registrar is asked, the instance is registering. -/
  asking : ∀ p, stage = .registering p → c.state? i.key = some .registering
  /-- The registrar is asked only when nothing holds the registration back any more. -/
  cleared : ∀ now ∈ (accountOf hs).requests, ∃ r, (accountOf hs).lookups = [r] ∧
    MayAsk τ i (c₀.policyFor r) (accountOf hs) now
  /-- What was reported is what the stage says. -/
  reported : ∀ r ∈ (accountOf hs).lookups,
    (accountOf hs).reports.map (·.2) = Register.reportedAt (c₀.policyFor r) stage
  /-- When the gate refuses, nothing but the announcement is ever reported. -/
  gateRefused : ∀ r ∈ (accountOf hs).lookups, ∀ start e,
    (start, .onlineStart) ∈ (accountOf hs).reports → (c₀.policyFor r).delay.enabled = true →
    Gate.passage i (c₀.policyFor r).delay start (accountOf hs).gateAnswers = .closed (.error e) →
      stage = .done (.error (.gate i.key.text e)) ∧ c.state? i.key = some .unregistered ∧
        (accountOf hs).reports = [(start, .onlineStart)] ∧ (accountOf hs).requests = []
  /-- When the registrar refuses, nothing but the announcement is ever reported. -/
  rejected : ∀ f, .error f ∈ (accountOf hs).verdicts →
    stage = .done (.error (.registration i.key.text f)) ∧ c.state? i.key = some .unregistered ∧
      ∀ x ∈ (accountOf hs).reports, x.2 = .onlineStart
  /-- When the registrar accepts, the instance is registered. -/
  registered : ∀ x, .ok x ∈ (accountOf hs).verdicts →
    stage = .done (.ok x) ∧ c.state? i.key = some .registered
  /-- An error says that a probe has no proper path, that the gate refused or that the registrar
  refused. -/
  failed : ∀ e, stage = .done (.error e) → ∃ r, (accountOf hs).lookups = [r] ∧
    ((∃ x, e = .probe x) ∨
      (∃ start x, e = .gate i.key.text x ∧ Gate.passage i (c₀.policyFor r).delay start
        (accountOf hs).gateAnswers = .closed (.error x)) ∨
      ∃ f, e = .registration i.key.text f ∧ (accountOf hs).verdicts = [.error f])

section Cleared

variable {τ : Timer} {i : Instance} {p : Policy} {reports : List (Nat × EventKind)}
  {told : List (Nat × GateAnswer)} {now : Nat}

theorem Cleared.reports_eq (h : Cleared τ i p reports told now) {x : Nat × EventKind}
    (hx : x ∈ reports) : x.2 = .onlineStart := by
  cases h with
  | disabled => cases hx
  | undelayed => rw [List.mem_singleton.mp hx]
  | passed => rw [List.mem_singleton.mp hx]

theorem Cleared.kinds_eq (h : Cleared τ i p reports told now) :
    reports.map (·.2) = if p.enabled then [.onlineStart] else [] := by
  cases h with
  | disabled off => rw [off]; rfl
  | undelayed on => rw [on]; rfl
  | passed on => rw [on]; rfl

theorem Cleared.mayAsk (h : Cleared τ i p reports told now) {x : Account}
    (hr : reports ⊆ x.reports) (ha : x.gateAnswers = told) : MayAsk τ i p x now := by
  cases h with
  | disabled off => exact .inl off
  | undelayed _ off => exact .inr (.inl off)
  | @passed start _ _ pass _ _ passed waited healthy =>
    subst ha
    refine .inr (.inr ⟨start, pass, hr (by simp), passed, fun d hd => ?_, healthy⟩)
    have due := waited d hd
    refine ⟨due, fun early reach => Nat.le_trans (early.nanos_le_pause reach) ?_⟩
    exact Nat.mul_le_mul_right _ (by omega)

/-- A registration that may ask the registrar was not refused by the gate. -/
theorem Cleared.not_refused (h : Cleared τ i p reports told now) (delayed : p.delay.enabled = true)
    {start : Nat} (hs : (start, .onlineStart) ∈ reports) (e : GateError) :
    Gate.passage i p.delay start told ≠ .closed (.error e) := by
  cases h with
  | disabled => cases hs
  | undelayed _ off => exact absurd (delayed.symm.trans off) (by simp)
  | passed _ _ passed =>
    obtain rfl := (Prod.mk.inj (List.mem_singleton.mp hs)).1
    rw [passed]
    simp

theorem onlineStart_notMem_closing {now start : Nat} :
    (start, EventKind.onlineStart) ∉ (Register.closing p).map fun k => (now, k) := by
  unfold Register.closing
  cases p.enabled <;> cases p.warmup.isActive <;> simp

end Cleared

namespace Story

variable {τ : Timer} {c₀ : Controller} {i : Instance} {A : Account} {stage : RegisterStage}
  {since : Nat}

/-- At most one lookup is answered. -/
theorem lookup_unique (h : Story τ c₀ i A stage since) {r r' : Except Failure (Option RemoteRule)}
    (hr : r ∈ A.lookups) (hr' : r' ∈ A.lookups) : r = r' := by
  cases h with
  | lookup => cases hr
  | _ => exact (List.mem_singleton.mp hr).trans (List.mem_singleton.mp hr').symm

theorem requests_length_le (h : Story τ c₀ i A stage since) : A.requests.length ≤ 1 := by
  cases h <;> simp

/-- What asks the registrar may do so. -/
theorem mayAsk (h : Story τ c₀ i A stage since) {now : Nat} (hnow : now ∈ A.requests) :
    ∃ r, A.lookups = [r] ∧ MayAsk τ i (c₀.policyFor r) A now := by
  cases h with
  | registering r cleared =>
    obtain rfl := List.mem_singleton.mp hnow
    exact ⟨r, rfl, cleared.mayAsk (List.Subset.refl _) rfl⟩
  | rejected r f cleared =>
    obtain rfl := List.mem_singleton.mp hnow
    exact ⟨r, rfl, cleared.mayAsk (List.Subset.refl _) rfl⟩
  | registered r x cleared =>
    obtain rfl := List.mem_singleton.mp hnow
    exact ⟨r, rfl, cleared.mayAsk (List.subset_append_left ..) rfl⟩
  | _ => cases hnow

/-- The stage says what was reported. -/
theorem kinds_eq (h : Story τ c₀ i A stage since) {r : Except Failure (Option RemoteRule)}
    (hr : r ∈ A.lookups) : A.reports.map (·.2) = Register.reportedAt (c₀.policyFor r) stage := by
  cases h with
  | lookup => cases hr
  | probeRefused => rfl
  | binding => rfl
  | gating => rfl
  | gateRefused => rfl
  | registering r' cleared =>
    obtain rfl := List.mem_singleton.mp hr
    exact cleared.kinds_eq
  | rejected r' f cleared =>
    obtain rfl := List.mem_singleton.mp hr
    exact cleared.kinds_eq
  | registered r' x cleared =>
    obtain rfl := List.mem_singleton.mp hr
    simp [Register.reportedAt, cleared.kinds_eq, Function.comp_def]

/-- A refusal by the gate is the end. -/
theorem of_gateRefused (h : Story τ c₀ i A stage since) {r : Except Failure (Option RemoteRule)}
    (hr : r ∈ A.lookups) {start : Nat} {e : GateError} (hstart : (start, .onlineStart) ∈ A.reports)
    (delayed : (c₀.policyFor r).delay.enabled = true)
    (refused : Gate.passage i (c₀.policyFor r).delay start A.gateAnswers = .closed (.error e)) :
    stage = .done (.error (.gate i.key.text e)) ∧ A.reports = [(start, .onlineStart)] ∧
      A.requests = [] := by
  cases h with
  | gating r' _ _ waiting =>
    obtain rfl := List.mem_singleton.mp hr
    obtain rfl := (Prod.mk.inj (List.mem_singleton.mp hstart)).1
    exact absurd refused (waiting _)
  | gateRefused r' _ _ refused' =>
    obtain rfl := List.mem_singleton.mp hr
    obtain rfl := (Prod.mk.inj (List.mem_singleton.mp hstart)).1
    obtain rfl := Except.error.inj (GateStage.closed.inj (refused'.symm.trans refused))
    exact ⟨rfl, rfl, rfl⟩
  | registering r' cleared =>
    obtain rfl := List.mem_singleton.mp hr
    exact absurd refused (cleared.not_refused delayed hstart e)
  | rejected r' f cleared =>
    obtain rfl := List.mem_singleton.mp hr
    exact absurd refused (cleared.not_refused delayed hstart e)
  | registered r' x cleared =>
    obtain rfl := List.mem_singleton.mp hr
    have hstart := (List.mem_append.mp hstart).resolve_right onlineStart_notMem_closing
    exact absurd refused (cleared.not_refused delayed hstart e)
  | _ => cases hstart

/-- A refusal by the registrar is the end. -/
theorem of_rejected (h : Story τ c₀ i A stage since) {f : Failure} (hf : .error f ∈ A.verdicts) :
    stage = .done (.error (.registration i.key.text f)) ∧
      ∀ x ∈ A.reports, x.2 = .onlineStart := by
  cases h with
  | rejected r f' cleared =>
    obtain rfl := Except.error.inj (List.mem_singleton.mp hf)
    exact ⟨rfl, fun x hx => cleared.reports_eq hx⟩
  | registered => simp at hf
  | _ => cases hf

theorem of_accepted (h : Story τ c₀ i A stage since) {x : Registration} (hx : .ok x ∈ A.verdicts) :
    stage = .done (.ok x) := by
  cases h with
  | registered r x' cleared =>
    obtain rfl := Except.ok.inj (List.mem_singleton.mp hx)
    rfl
  | rejected => simp at hx
  | _ => cases hx

/-- A registration fails at a probe, at the gate or at the registrar. -/
theorem of_failed {e : LifecycleError} (h : Story τ c₀ i A (.done (.error e)) since) :
    ∃ r, A.lookups = [r] ∧
      ((∃ x, e = .probe x) ∨
        (∃ start x, e = .gate i.key.text x ∧
          Gate.passage i (c₀.policyFor r).delay start A.gateAnswers = .closed (.error x)) ∨
        ∃ f, e = .registration i.key.text f ∧ A.verdicts = [.error f]) := by
  generalize hs : RegisterStage.done (.error e) = stage at h
  cases h with
  | probeRefused r x =>
    obtain rfl := Except.error.inj (RegisterStage.done.inj hs)
    exact ⟨r, rfl, .inl ⟨x, rfl⟩⟩
  | gateRefused r _ _ refused =>
    obtain rfl := Except.error.inj (RegisterStage.done.inj hs)
    exact ⟨r, rfl, .inr (.inl ⟨_, _, rfl, refused⟩)⟩
  | rejected r f =>
    obtain rfl := Except.error.inj (RegisterStage.done.inj hs)
    exact ⟨r, rfl, .inr (.inr ⟨f, rfl, rfl⟩)⟩
  | registered => simp at hs
  | _ => cases hs

end Story

/-- A registration that nothing interrupts is orderly. -/
theorem Following.orderly {t u : Traffic} {i : Instance} {hs : List Happening}
    {stage : RegisterStage} {since : Nat} (h : Following t i u hs stage since) :
    Orderly t.timer t.controller i hs u.controller stage where
  sorted := h.sorted
  disabled r hr off := by
    refine h.disabled fun r' hr' => ?_
    rw [h.story.lookup_unique hr' hr]
    exact off
  once := h.story.requests_length_le
  asking p hp := by
    subst hp
    exact h.place _ rfl
  cleared now hnow := h.story.mayAsk hnow
  reported r hr := h.story.kinds_eq hr
  gateRefused r hr start e hstart delayed refused := by
    obtain ⟨rfl, hreports, hrequests⟩ := h.story.of_gateRefused hr hstart delayed refused
    exact ⟨rfl, h.place _ rfl, hreports, hrequests⟩
  rejected f hf := by
    obtain ⟨rfl, hreports⟩ := h.story.of_rejected hf
    exact ⟨rfl, h.place _ rfl, hreports⟩
  registered x hx := by
    obtain rfl := h.story.of_accepted hx
    exact ⟨rfl, h.place _ rfl⟩
  failed e he := by
    subst he
    exact h.story.of_failed

/-- A registration of an instance that is new, unregistered or deregistered goes on in order as long
as no other call interrupts it, whatever the settings are and whatever it is told. -/
theorem register_orderly (t : Traffic) (i : Instance)
    (ht : RegisterStage.lookup.admits (t.controller.state? i.key)) (ms : List Move)
    (hms : ∀ m ∈ ms, m.IsFor t.calls.length) :
    let u := t.run (.register i :: ms)
    ∃ hs stage since, u.trace = t.trace ++ hs ∧
      u.calls[t.calls.length]? = some ⟨i, .register stage, since⟩ ∧
      Orderly t.timer t.controller i hs u.controller stage := by
  obtain ⟨hs, stage, since, h⟩ := run_following t ht ms hms
  exact ⟨hs, stage, since, h.trace, h.call, h.orderly⟩

/-- A registration is held back for five seconds, the answer that these are over comes too early
once, and then the registrar accepts the instance. -/
theorem register_orderly_delayed :
    let d : Duration := .ofSeconds 5
    let τ : Timer := .thirtyYears
    let settings : GracefulSettings :=
      { enabled := true, delay := { enabled := true, kind := .byTime, interval := d } }
    let t := start τ settings { listen := "127.0.0.1:0" }
    let i : Instance := ⟨"default", "echo", "127.0.0.1", 8080, none, none, none, none⟩
    let ms : List Move :=
      [.answer 0 (.register (.rule (.ok none))), .pass 4999, .answer 0 (.register (.gate .elapsed)),
        .pass 1, .answer 0 (.register (.gate .elapsed)),
        .answer 0 (.register (.registered (.ok ⟨"ins-1", false⟩)))]
    let u := t.run (.register i :: ms)
    τ.NeverEarly ∧ τ.Reaches 0 d ∧ RegisterStage.lookup.admits (t.controller.state? i.key) ∧
      (∀ m ∈ ms, m.IsFor t.calls.length) ∧
      (accountOf u.trace).requests = [5000] ∧
      (accountOf u.trace).reports = [(0, .onlineStart), (5000, .onlineEnd)] ∧
      ∃ hs stage since, u.trace = t.trace ++ hs ∧
        u.calls[t.calls.length]? = some ⟨i, .register stage, since⟩ ∧
        Orderly t.timer t.controller i hs u.controller stage := by
  intro d τ settings t i ms u
  have fresh : RegisterStage.lookup.admits (t.controller.state? i.key) := .inl rfl
  have own : ∀ m ∈ ms, m.IsFor t.calls.length := by
    simp [ms, t, start, Move.IsFor]
  have reach : τ.Reaches 0 d := by
    show 0 * 1000000 + d.nanos ≤ Width.bound 63 * nanosPerSecond - 1
    decide +kernel
  exact ⟨Timer.neverEarly_bounded .., reach, fresh, own, by decide +kernel, by decide +kernel,
    register_orderly t i fresh ms own⟩

/-- The clock cannot represent the end of every delay: after one of 2^63 seconds the registrar is
asked when thirty years have passed. -/
theorem delay_cut_short :
    let d : Duration := .ofSeconds (Width.bound 63)
    let settings : GracefulSettings :=
      { enabled := true, delay := { enabled := true, kind := .byTime, interval := d } }
    let t := start .thirtyYears settings { listen := "127.0.0.1:0" }
    let i : Instance := ⟨"default", "echo", "127.0.0.1", 8080, none, none, none, none⟩
    let ms : List Move :=
      [.answer 0 (.register (.rule (.ok none))), .pass 946080000000,
        .answer 0 (.register (.gate .elapsed))]
    let x := accountOf (t.run (.register i :: ms)).trace
    RegisterStage.lookup.admits (t.controller.state? i.key) ∧
      (∀ m ∈ ms, m.IsFor t.calls.length) ∧
      (∀ r ∈ x.lookups, (t.controller.policyFor r).delay = ⟨true, .byTime d⟩) ∧
      x.reports = [(0, .onlineStart)] ∧ x.requests = [946080000000] ∧
      946080000000 * 1000000 < d.nanos := by
  intro d settings t i ms x
  have own : ∀ m ∈ ms, m.IsFor t.calls.length := by
    simp [ms, t, start, Move.IsFor]
  exact ⟨.inl rfl, own, by decide +kernel, by decide +kernel, by decide +kernel, by decide +kernel⟩

end Traffic

end InstanceLifecycle
