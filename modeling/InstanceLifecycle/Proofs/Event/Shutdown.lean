import InstanceLifecycle.Proofs.Event.Pipeline

/-!
# Shutting a reporter down

A reporter may be shut down by many calls, at once or one after another, while events are offered
and its consumer works. Each of them tells the consumer to stop. The first one waits until the
consumer has ended; every other one returns at once.

A call is to return when the consumer has ended and every event that was accepted before the call
was handed to delivery.

Results:

* `Called.step`: at most the first call waits;
* `Doomed.step`: without room for a batch nothing is ever handed over;
* `shutdown_kept_iff`: a call that returns keeps its promise exactly if it is the first one or began
  after the end of the consumer, and there is room for a batch or no event was accepted before;
* `second_returns_early`: the second of two calls returns before its event is handed over.
-/

namespace InstanceLifecycle

/-! ## Pipelines -/

namespace Pipeline

/-- No move takes an accepted event back. -/
theorem length_accepted_step (x : Pipeline) (m : Move) :
    x.accepted.length ≤ (x.step m).accepted.length := by
  cases m with
  | offer e => simp [step]
  | turn now =>
    cases ht : x.reporter.turn? now with
    | none => simp [step, ht]
    | some o => simp [step, ht]
  | answer a => exact Nat.le_refl _
  | stop => exact Nat.le_refl _
  | abandon => exact Nat.le_refl _

/-- A consumer that has no room for a batch: it has not begun, or it has failed. -/
structure Doomed (x : Pipeline) : Prop where
  beyond : Reporter.batchLimit < x.reporter.capacity
  stage : x.reporter.stage = .starting ∨ x.reporter.stage = .failed
  batches : x.batches = []

/-- Without room for a batch nothing is ever handed over. -/
protected theorem Doomed.step {x : Pipeline} (h : x.Doomed) (m : Move) : (x.step m).Doomed := by
  cases m with
  | offer e =>
    have same : (x.reporter.offer e).1.capacity = x.reporter.capacity ∧
        (x.reporter.offer e).1.stage = x.reporter.stage := by
      unfold Reporter.offer
      split <;> exact ⟨rfl, rfl⟩
    exact ⟨same.1 ▸ h.beyond, same.2 ▸ h.stage, h.batches⟩
  | turn now =>
    rcases h.stage with hs | hs
    · rw [step_turn_fails hs h.beyond]
      exact ⟨h.beyond, .inr rfl, h.batches⟩
    · have none : x.reporter.turn? now = none := by simp [Reporter.turn?, hs]
      simpa only [step, none] using h
  | answer a =>
    have same : x.reporter.resume a = (x.reporter, []) := by
      rcases h.stage with hs | hs <;> simp [Reporter.resume, hs]
    simp only [step, same]
    exact ⟨h.beyond, h.stage, h.batches⟩
  | stop => exact ⟨h.beyond, h.stage, h.batches⟩
  | abandon => exact ⟨h.beyond, h.stage, h.batches⟩

/-- A consumer with room for a batch has handed everything over when it has ended. -/
theorem Tracked.accepted_of_ended {x : Pipeline} (h : x.Tracked)
    (ended : x.reporter.stage.isEnded = true) : x.accepted = x.batches.flatMap (·.events) := by
  have holds := h.fits.holds
  have conserved := h.conserved
  cases hs : x.reporter.stage with
  | stopped =>
    rw [hs] at holds
    rw [holds.1, holds.2] at conserved
    simpa using conserved
  | failed =>
    rw [hs] at holds
    exact holds.elim
  | _ => simp [hs, ConsumerStage.isEnded] at ended

end Pipeline

/-! ## Calls -/

/-- A call that shuts a reporter down. -/
structure ShutdownCall where
  /-- How many events had been accepted when it began. -/
  before : Nat
  /-- Whether the consumer had ended when it began. -/
  isLate : Bool
  stage : ShutdownStage
  deriving DecidableEq, Repr

/-- A pipeline and the calls that shut its reporter down, the first one first. -/
structure Shutdown where
  pipeline : Pipeline
  /-- Whether a call waits or has waited for the end of the consumer. -/
  isAwaited : Bool := false
  calls : List ShutdownCall := []
  deriving Repr

namespace Shutdown

/-- What can happen next. -/
inductive Move
  | flow (m : Pipeline.Move)
  /-- A call begins. -/
  | begin
  /-- The call with this number has a turn. -/
  | resume (n : Nat)
  deriving Repr

/-- A waiting call with this number returns. -/
def leave (x : Shutdown) (n : Nat) (c : ShutdownCall) : Shutdown :=
  { x with
    pipeline :=
      { x.pipeline with effects := x.pipeline.effects ++ x.pipeline.reporter.endEffects }
    calls := x.calls.set n { c with stage := .done } }

/-- Takes a move. A waiting call returns in its turn if the consumer has ended. -/
def step (x : Shutdown) : Move → Shutdown
  | .flow m => { x with pipeline := x.pipeline.step m }
  | .begin =>
    let r := x.pipeline.reporter
    let o := r.shutdown x.isAwaited
    { pipeline := { x.pipeline with reporter := o.1 }
      isAwaited := true
      calls := x.calls ++ [⟨x.pipeline.accepted.length, r.stage.isEnded, o.2⟩] }
  | .resume n =>
    match x.calls[n]? with
    | none => x
    | some c =>
      if c.stage = .awaiting ∧ x.pipeline.reporter.stage.isEnded = true then x.leave n c else x

/-- Takes some moves. -/
def run (x : Shutdown) (ms : List Move) : Shutdown := ms.foldl step x

/-- A reporter as it starts, before anything was offered and before any call. -/
def start (name : String) (settings : ReporterSettings) (client : ClientIdentity)
    (target : CollectorTarget) : Shutdown :=
  { pipeline := .start name settings client target }

/-- What the start satisfies and every move preserves holds after every run. -/
theorem run_induction {P : Shutdown → Prop} {x : Shutdown} (start : P x)
    (step : ∀ y m, P y → P (y.step m)) (ms : List Move) : P (x.run ms) := by
  induction ms generalizing x with
  | nil => exact start
  | cons m ms ih => exact ih (step x m start)

/-- The call with this number has not returned yet, and it returns with a move. -/
def Returns (x : Shutdown) (m : Move) (n : Nat) (c : ShutdownCall) : Prop :=
  (x.calls[n]?).all (·.stage = .awaiting) = true ∧ (x.step m).calls[n]? = some c ∧ c.stage = .done

instance (x : Shutdown) (m : Move) (n : Nat) (c : ShutdownCall) : Decidable (x.Returns m n c) :=
  inferInstanceAs (Decidable (_ ∧ _ ∧ _))

/-- What a call promises before which so many events were accepted. -/
structure Kept (x : Shutdown) (before : Nat) : Prop where
  ended : x.pipeline.reporter.stage.isEnded = true
  /-- These events were handed to delivery, in their order. -/
  handed : x.pipeline.accepted.take before <+: x.pipeline.batches.flatMap (·.events)

instance (x : Shutdown) (before : Nat) : Decidable (x.Kept before) :=
  decidable_of_iff
    (x.pipeline.reporter.stage.isEnded = true ∧
      x.pipeline.accepted.take before <+: x.pipeline.batches.flatMap (·.events))
    ⟨fun h => ⟨h.1, h.2⟩, fun h => ⟨h.ended, h.handed⟩⟩

/-! ## Turns of a call -/

variable {x : Shutdown}

/-- A turn of a call does nothing, or the call waits, the consumer has ended and the
call returns. -/
theorem step_resume (x : Shutdown) (n : Nat) :
    x.step (.resume n) = x ∨
      ∃ c, x.calls[n]? = some c ∧ c.stage = .awaiting ∧
        x.pipeline.reporter.stage.isEnded = true ∧ x.step (.resume n) = x.leave n c := by
  cases hc : x.calls[n]? with
  | none => exact .inl (by simp [step, hc])
  | some c =>
    by_cases h : c.stage = .awaiting ∧ x.pipeline.reporter.stage.isEnded = true
    · exact .inr ⟨c, rfl, h.1, h.2, by simp [step, hc, h]⟩
    · exact .inl (by simp only [step, hc, if_neg h])

theorem silent_endEffects (r : Reporter) : Pipeline.Silent r.endEffects := by
  unfold Reporter.endEffects
  split <;> exact ⟨rfl, rfl⟩

/-- What moves preserve, and what does not depend on the log. -/
structure Stable (P : Pipeline → Prop) : Prop where
  moves : ∀ y m, P y → P (y.step m)
  notes : ∀ (y : Pipeline) fx, Pipeline.Silent fx → P y → P { y with effects := y.effects ++ fx }

/-- Calls only tell the consumer to stop and log how it has ended. -/
protected theorem Stable.step {P : Pipeline → Prop} (stable : Stable P) (h : P x.pipeline)
    (m : Move) : P (x.step m).pipeline := by
  cases m with
  | flow m => exact stable.moves _ m h
  | begin => exact stable.moves _ .stop h
  | resume n =>
    rcases x.step_resume n with same | ⟨c, -, -, -, left⟩
    · rwa [same]
    · rw [left]
      exact stable.notes _ _ (silent_endEffects _) h

protected theorem Stable.run {P : Pipeline → Prop} (stable : Stable P) (h : P x.pipeline)
    (ms : List Move) : P (x.run ms).pipeline :=
  run_induction (P := fun y => P y.pipeline) h (fun _ m h => stable.step h m) ms

theorem stable_tracked : Stable Pipeline.Tracked := ⟨fun _ m h => h.step m, fun _ _ hs h => h.note hs⟩

theorem stable_doomed : Stable Pipeline.Doomed :=
  ⟨fun _ m h => h.step m, fun _ _ _ h => ⟨h.beyond, h.stage, h.batches⟩⟩

theorem stable_accepted (n : Nat) : Stable fun y => n ≤ y.accepted.length :=
  ⟨fun y m h => Nat.le_trans h (y.length_accepted_step m), fun _ _ _ h => h⟩

/-! ## Who waits -/

/-- At most the first call waits, and a call knows how many events were accepted before it. -/
structure Called (x : Shutdown) : Prop where
  awaited : x.isAwaited = true ↔ x.calls.length ≠ 0
  waiting : ∀ n c, x.calls[n]? = some c → c.stage = .awaiting → n = 0
  before : ∀ c ∈ x.calls, c.before ≤ x.pipeline.accepted.length

/-- A call that is not the last one began before. -/
theorem calls_begin {n : Nat} {c : ShutdownCall} (h : (x.step .begin).calls[n]? = some c) :
    x.calls[n]? = some c ∨
      n = x.calls.length ∧
        c = ⟨x.pipeline.accepted.length, x.pipeline.reporter.stage.isEnded,
          if x.isAwaited then .done else .awaiting⟩ := by
  rcases Nat.lt_trichotomy n x.calls.length with old | rfl | beyond
  · exact .inl (by simpa [step, List.getElem?_append_left old] using h)
  · exact .inr ⟨rfl, by simpa [step, Reporter.shutdown] using h.symm⟩
  · rw [step, List.getElem?_eq_none (by simpa using Nat.succ_le_of_lt beyond)] at h
    cases h

protected theorem Called.step (h : x.Called) (m : Move) : (x.step m).Called := by
  have more := (stable_accepted _).step (Nat.le_refl x.pipeline.accepted.length) m
  cases m with
  | flow m => exact ⟨h.awaited, h.waiting, fun c hc => Nat.le_trans (h.before c hc) more⟩
  | begin =>
    refine ⟨by simp [step], fun n c hn hw => ?_, fun c hc => ?_⟩
    · rcases calls_begin hn with old | ⟨rfl, rfl⟩
      · exact h.waiting n c old hw
      · have first : ¬x.isAwaited = true := by
          intro later
          simp [later] at hw
        exact Classical.not_not.mp fun other => first (h.awaited.mpr other)
    · obtain ⟨n, hn⟩ := List.getElem?_of_mem hc
      rcases calls_begin hn with old | ⟨-, rfl⟩
      · exact Nat.le_trans (h.before c (List.mem_of_getElem? old)) more
      · exact more
  | resume n =>
    rcases x.step_resume n with same | ⟨c, hc, -, -, left⟩
    · rwa [same]
    · rw [left]
      refine ⟨?_, fun k d hk hw => ?_, fun d hd => ?_⟩
      · simpa [leave] using h.awaited
      · by_cases hkn : n = k
        · subst hkn
          have hlt : n < x.calls.length := (List.getElem?_eq_some_iff.mp hc).1
          obtain rfl : { c with stage := .done } = d := by
            simpa [leave, List.getElem?_set_self hlt] using hk
          cases hw
        · exact h.waiting k d (by simpa [leave, List.getElem?_set_ne hkn] using hk) hw
      · rcases List.mem_or_eq_of_mem_set hd with old | rfl
        · exact h.before d old
        · exact h.before c (List.mem_of_getElem? hc)

/-- When a call returns, the consumer has ended exactly if the call is the first one or began after
the end. -/
theorem Called.ended_iff (h : x.Called) {m : Move} {n : Nat} {c : ShutdownCall}
    (returns : x.Returns m n c) :
    (x.step m).pipeline.reporter.stage.isEnded = true ↔ n = 0 ∨ c.isLate = true := by
  obtain ⟨open', hn, done⟩ := returns
  -- A call that has returned before does not return again.
  have returned (old : x.calls[n]? = some c) : False := by
    rw [old] at open'
    simp [done] at open'
  cases m with
  | flow m => exact (returned hn).elim
  | begin =>
    rcases calls_begin hn with old | ⟨rfl, rfl⟩
    · exact (returned old).elim
    · have later : x.isAwaited = true := by simpa using done
      have other : x.calls.length ≠ 0 := h.awaited.mp later
      have same : (x.step .begin).pipeline.reporter.stage = x.pipeline.reporter.stage := rfl
      simp [same, other]
  | resume k =>
    rcases x.step_resume k with same | ⟨d, hd, waits, ended, left⟩
    · rw [same] at hn
      exact (returned hn).elim
    · rw [left] at hn ⊢
      by_cases hkn : k = n
      · subst hkn
        exact iff_of_true ended (.inl (h.waiting k d hd waits))
      · exact (returned (by simpa [leave, List.getElem?_set_ne hkn] using hn)).elim

/-! ## What was handed over -/

variable {before : Nat}

theorem kept_iff_of_tracked (h : x.pipeline.Tracked) :
    x.Kept before ↔ x.pipeline.reporter.stage.isEnded = true := by
  refine ⟨Kept.ended, fun ended => ⟨ended, ?_⟩⟩
  rw [← h.accepted_of_ended ended]
  exact List.take_prefix ..

theorem kept_iff_of_doomed (h : x.pipeline.Doomed) (le : before ≤ x.pipeline.accepted.length) :
    x.Kept before ↔ x.pipeline.reporter.stage.isEnded = true ∧ before = 0 := by
  constructor
  · intro kept
    have none : x.pipeline.accepted.take before = [] := by
      simpa [h.batches] using kept.handed
    have length : min before x.pipeline.accepted.length = 0 := by
      rw [← List.length_take, none, List.length_nil]
    exact ⟨kept.ended, by omega⟩
  · rintro ⟨ended, rfl⟩
    exact ⟨ended, List.nil_prefix⟩

/-! ## Returning calls -/

theorem called_start (name : String) (settings : ReporterSettings) (client : ClientIdentity)
    (target : CollectorTarget) : (start name settings client target).Called :=
  ⟨by simp [start], fun _ _ hn => by simp [start] at hn, fun _ hc => by cases hc⟩

/-- A call that returns keeps its promise exactly if it is the first one or began after the end of
the consumer, and there is room for a batch or no event was accepted before. -/
theorem shutdown_kept_iff (name : String) (settings : ReporterSettings) (client : ClientIdentity)
    (target : CollectorTarget) (ms : List Move) (m : Move) (n : Nat) (c : ShutdownCall)
    (returns : ((start name settings client target).run ms).Returns m n c) :
    (((start name settings client target).run ms).step m).Kept c.before ↔
      (n = 0 ∨ c.isLate = true) ∧
        (max settings.queueSize 1 ≤ Reporter.batchLimit ∨ c.before = 0) := by
  have called := run_induction (called_start name settings client target) (fun _ m h => h.step m) ms
  -- What remains of the promise is that the events were handed over when the consumer has ended.
  rw [← called.ended_iff returns]
  rcases Nat.lt_or_ge Reporter.batchLimit (max settings.queueSize 1) with beyond | room
  · have doomed : (start name settings client target).pipeline.Doomed := ⟨beyond, .inl rfl, rfl⟩
    have le := (called.step m).before c (List.mem_of_getElem? returns.2.1)
    rw [kept_iff_of_doomed (stable_doomed.step (stable_doomed.run doomed ms) m) le]
    simp [Nat.not_le_of_lt beyond]
  · have tracked : (start name settings client target).pipeline.Tracked :=
      Pipeline.tracked_start room
    rw [kept_iff_of_tracked (stable_tracked.step (stable_tracked.run tracked ms) m)]
    simp [room]

/-- The first call returns after its event was delivered, and keeps its promise. -/
theorem shutdown_kept_first :
    let target : CollectorTarget := .fixed "http://collector:9091/lossless/events"
    let e : Event := .ofInstance .onlineStart "" ⟨"default", "echo", "127.0.0.1", 8080, none, none,
      none, none⟩ none
    let ms : List Move := .flow (.offer e) :: .begin :: List.replicate 5 (.flow (.turn 0)) ++
      [.flow (.answer (.posted (.ok ⟨200⟩)))]
    let x := (start "pushgateway" {} {} target).run ms
    x.Returns (.resume 0) 0 ⟨1, false, .done⟩ ∧ (x.step (.resume 0)).Kept 1 := by
  intro target e ms x
  have returns : x.Returns (.resume 0) 0 ⟨1, false, .done⟩ := by decide +kernel
  have room : max ({} : ReporterSettings).queueSize 1 ≤ Reporter.batchLimit := by decide +kernel
  exact ⟨returns, (shutdown_kept_iff _ _ _ _ ms _ _ _ returns).mpr ⟨.inl rfl, .inl room⟩⟩

/-- The second of two calls returns while the event that was accepted before is in the queue. -/
theorem second_returns_early :
    let target : CollectorTarget := .fixed "http://collector:9091/lossless/events"
    let e : Event := .ofInstance .onlineStart "" ⟨"default", "echo", "127.0.0.1", 8080, none, none,
      none, none⟩ none
    let x := (start "pushgateway" {} {} target).run [.flow (.offer e), .flow (.turn 0), .begin]
    let y := x.step .begin
    x.Returns .begin 1 ⟨1, false, .done⟩ ∧ ¬y.Kept 1 ∧
      y.pipeline.accepted = [e] ∧ y.pipeline.batches = [] ∧ y.pipeline.reporter.queue = [e] := by
  decide +kernel

end Shutdown

end InstanceLifecycle
