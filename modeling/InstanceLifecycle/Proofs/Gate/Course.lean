import Mathlib.Logic.Relation
import InstanceLifecycle.Gate.Basic
import InstanceLifecycle.Timer

/-!
# How long the gate holds

The gate is watched under a clock. Each health check has an answer and takes some time, waits take
as long as the timer says, whatever timer it is, and the token may be cancelled at any moment. Time
passes only while the gate has nothing to do. A wait looks at the token before it looks at the
clock; when a health check is answered at the moment of a cancellation, the gate may hear of either.

Results:

* `Checking.step`: how far the health checks have come, kept by every move;
* `Halted.step`: once the token is cancelled the gate does nothing but refuse;
* `runs_its_course`: a gate that is not cancelled asks until the first success or until the budget
  is spent, with one wait between two requests, or lets through when its delay is over; a gate that
  is cancelled while it waits refuses at once.
-/

namespace InstanceLifecycle

/-! ## Answers to health checks -/

namespace Gate

/-- Whether the answer to a health check is a success. -/
def succeeds : Except String Http.Status → Bool
  | .ok s => s.isSuccess
  | .error _ => false

variable (i : Instance) (c : HealthCheckPolicy) (started attempt now : Nat)
  {r : Except String Http.Status}

theorem judge_of_succeeds (h : succeeds r = true) : ∃ e,
    judge i c started attempt now r = (.closed (.ok (.healthy attempt)), [.log e]) := by
  cases r with
  | ok s => exact ⟨_, if_pos h⟩
  | error reason => cases h

theorem judge_of_fails (h : succeeds r = false) : ∃ e,
    judge i c started attempt now r =
      ((afterFailure i c started attempt).1, .log e :: (afterFailure i c started attempt).2) := by
  cases r with
  | ok s => exact ⟨_, if_neg (Bool.eq_false_iff.mp h)⟩
  | error reason => exact ⟨_, rfl⟩

/-- A failed health check is followed by a pause unless it was the last one. -/
theorem judge_pauses (h : succeeds r = false) (room : attempt < budget c) : ∃ e,
    judge i c started attempt now r = (.pausing c started attempt, [.log e]) := by
  obtain ⟨e, he⟩ := judge_of_fails i c started attempt now h
  exact ⟨e, by rw [he, afterFailure, if_pos room]⟩

/-- The last health check to fail spends the budget. -/
theorem judge_exhausts (h : succeeds r = false) (last : attempt = budget c) : ∃ e f,
    judge i c started attempt now r =
      (.closed (.error (.timeout attempt)), [.log e, .count .gateTimeout 1, .log f]) := by
  obtain ⟨e, he⟩ := judge_of_fails i c started attempt now h
  have full : ¬attempt < budget c := Nat.not_lt.mpr (Nat.le_of_eq last.symm)
  exact ⟨e, _, by rw [he, afterFailure, if_neg full, ← last]; rfl⟩

end Gate

/-! ## What the gate meets -/

/-- What each health check is answered, and after how many milliseconds. Checks count from one. -/
structure HealthAnswers where
  reply : Nat → Except String Http.Status
  millis : Nat → Nat

namespace HealthAnswers

variable (o : HealthAnswers)

/-- Whether the health check with this number is answered with success. -/
def passes (n : Nat) : Bool := Gate.succeeds (o.reply n)

/-- The first health check that is answered with success. -/
structure IsFirst (k : Nat) : Prop where
  pos : 1 ≤ k
  passes : o.passes k = true
  before : ∀ n, 1 ≤ n → n < k → o.passes n = false

theorem IsFirst.le {o : HealthAnswers} {k n : Nat} (hk : o.IsFirst k) (pos : 1 ≤ n)
    (passes : o.passes n = true) : k ≤ n := by
  refine Nat.le_of_not_lt fun lt => ?_
  have fails := hk.before n pos lt
  rw [passes] at fails
  cases fails

theorem IsFirst.unique {o : HealthAnswers} {k n : Nat} (hk : o.IsFirst k) (hn : o.IsFirst n) :
    k = n :=
  Nat.le_antisymm (hk.le hn.pos hn.passes) (hn.le hk.pos hk.passes)

/-- The time of the request after so many others, with a pause after each answer. -/
def askedAt (τ : Timer) (arrival : Nat) (pause : Duration) : Nat → Nat
  | 0 => arrival
  | n + 1 =>
    let answered := askedAt τ arrival pause n + o.millis (n + 1)
    answered + τ.pause answered pause

/-- The time of the answer to that request. -/
def answeredAt (τ : Timer) (arrival : Nat) (pause : Duration) (n : Nat) : Nat :=
  o.askedAt τ arrival pause n + o.millis (n + 1)

end HealthAnswers

namespace GateStage

/-- How long a stage waits. -/
def pause? : GateStage → Option Duration
  | delaying d => some d
  | pausing c .. => some c.interval
  | _ => none

/-- The request that is made when a stage is entered. -/
def request? (i : Instance) : GateStage → Option HealthRequest
  | checking c .. => some (Gate.request i c)
  | _ => none

/-- What a stage that was entered at some time waits for, and after how many milliseconds
it comes. -/
def awaited? (τ : Timer) (o : HealthAnswers) (since : Nat) :
    GateStage → Option (Nat × GateAnswer)
  | delaying d => some (τ.pause since d, .elapsed)
  | pausing c .. => some (τ.pause since c.interval, .elapsed)
  | checking _ _ n => some (o.millis n, .answered (o.reply n))
  | closed _ => none

theorem exists_awaited (g : GateStage) (τ : Timer) (o : HealthAnswers) (since : Nat)
    (isOpen : ∀ r, g ≠ closed r) : ∃ x, g.awaited? τ o since = some x := by
  cases g with
  | closed r => exact absurd rfl (isOpen r)
  | _ => exact ⟨_, rfl⟩

/-- A stage that sleeps waits for the end of the sleep. -/
theorem awaited_of_pause {g : GateStage} {d : Duration} (h : g.pause? = some d) (τ : Timer)
    (o : HealthAnswers) (since : Nat) : g.awaited? τ o since = some (τ.pause since d, .elapsed) := by
  cases g with
  | delaying e =>
    obtain rfl := Option.some.inj h
    rfl
  | pausing c started n =>
    obtain rfl := Option.some.inj h
    rfl
  | _ => cases h

end GateStage

/-! ## Moves -/

/-- A gate under a clock: its stage and the time when it was entered, the requests that were made
and the waits that were begun, each with its time, and all effects. -/
structure GateWatch where
  now : Nat
  stage : GateStage
  since : Nat
  isCancelled : Bool
  requests : List (Nat × HealthRequest)
  waits : List (Nat × Duration)
  effects : List Effect

namespace GateWatch

/-- The gate enters a stage. -/
def enter (w : GateWatch) (i : Instance) (s : GateStage × List Effect) : GateWatch :=
  { w with
    stage := s.1
    since := w.now
    requests := w.requests ++ (s.1.request? i).toList.map (w.now, ·)
    waits := w.waits ++ s.1.pause?.toList.map (w.now, ·)
    effects := w.effects ++ s.2 }

/-- An instance comes to the gate. -/
def start (i : Instance) (p : DelayPolicy) (arrival : Nat) : GateWatch :=
  enter ⟨arrival, .closed (.ok .skipped), arrival, false, [], [], []⟩ i (Gate.arrive i p arrival)

/-- The token is cancelled. -/
def cancel (w : GateWatch) : GateWatch := { w with isCancelled := true }

/-- By how much a counter was raised. -/
def total (w : GateWatch) (c : Counter) : Nat := Effect.total c w.effects

theorem total_enter (w : GateWatch) (i : Instance) (s : GateStage × List Effect) (c : Counter) :
    (w.enter i s).total c = w.total c + Effect.total c s.2 :=
  Effect.total_append ..

/-- What can happen next. -/
inductive Moves (τ : Timer) (o : HealthAnswers) (i : Instance) (w : GateWatch) : GateWatch → Prop
  /-- Time passes, but not beyond the moment at which the gate has something to do. -/
  | pass (millis : Nat) (calm : ∀ x ∈ w.stage.awaited? τ o w.since,
      w.isCancelled = false ∧ w.now + millis ≤ w.since + x.1) :
      Moves τ o i w { w with now := w.now + millis }
  | cancel : Moves τ o i w w.cancel
  /-- The gate is told what it waits for; a wait looks at the token first. -/
  | told (x : Nat × GateAnswer) (awaited : w.stage.awaited? τ o w.since = some x)
      (due : w.since + x.1 ≤ w.now)
      (looked : ∀ d ∈ w.stage.pause?, τ.poll w.since d w.isCancelled w.now = some false) :
      Moves τ o i w (w.enter i (Gate.resume i w.stage x.2 w.now))
  | interrupted (isOpen : w.stage.awaited? τ o w.since ≠ none) (cancelled : w.isCancelled = true) :
      Moves τ o i w (w.enter i (Gate.resume i w.stage .interrupted w.now))

/-- What can come up after some moves. -/
def Reaches (τ : Timer) (o : HealthAnswers) (i : Instance) : GateWatch → GateWatch → Prop :=
  Relation.ReflTransGen (Moves τ o i)

variable {τ : Timer} {o : HealthAnswers} {i : Instance} {w u : GateWatch}

/-- A gate that waits for something refuses when it is interrupted. -/
theorem resume_of_cancelled (isOpen : w.stage.awaited? τ o w.since ≠ none) :
    Gate.resume i w.stage .interrupted w.now = (.closed (.error .cancelled), []) := by
  refine Gate.resume_interrupted i w.stage w.now ?_
  rintro r hr
  simp [hr, GateStage.awaited?] at isOpen

/-! ## After a cancellation -/

/-- A gate that has not gone on since a cancellation, or that has refused at that moment and done
nothing else. -/
inductive Halted (w u : GateWatch) : Prop
  | waits (same : u = w)
  | refused (millis : Nat) (same : u = { w with
      now := w.now + millis, stage := .closed (.error .cancelled), since := w.now })

theorem Halted.step
    (waiting : ∀ x ∈ w.stage.awaited? τ o w.since, w.stage.pause? = none → w.now < w.since + x.1)
    (cancelled : w.isCancelled = true) (isOpen : w.stage.awaited? τ o w.since ≠ none) {v : GateWatch}
    (h : Halted w u) (m : Moves τ o i u v) : Halted w v := by
  obtain ⟨x, hx⟩ := Option.ne_none_iff_exists'.mp isOpen
  cases h with
  | waits same =>
    subst same
    cases m with
    | pass millis calm =>
      have := (calm x hx).1
      simp [cancelled] at this
    | cancel => exact .waits (by simp [cancel, ← cancelled])
    | told y awaited due looked =>
      obtain rfl : x = y := Option.some.inj (hx.symm.trans awaited)
      have checks : u.stage.pause? = none := by
        refine Option.eq_none_iff_forall_ne_some.mpr fun d hd => ?_
        have going := ((τ.poll_eq_elapsed_iff).mp (looked d hd)).1
        rw [cancelled] at going
        cases going
      exact absurd (waiting x hx checks) (Nat.not_lt.mpr due)
    | interrupted =>
      rw [resume_of_cancelled isOpen]
      exact .refused 0 (by simp [enter, GateStage.request?, GateStage.pause?])
  | refused millis same =>
    subst same
    cases m with
    | pass more => exact .refused (millis + more) (by simp [Nat.add_assoc])
    | cancel => exact .refused millis (by simp [cancel, ← cancelled])
    | told y awaited => cases awaited
    | interrupted isOpen => exact absurd rfl isOpen

/-! ## Health checks -/

section Checking

variable (τ) (o) (i) (c : HealthCheckPolicy) (arrival : Nat)

/-- What was done altogether: so many requests and waits, each at its time and counted. -/
structure Account (w : GateWatch) (asked waited timeouts : Nat) : Prop where
  requests : w.requests =
    (List.range asked).map fun n => (o.askedAt τ arrival c.interval n, Gate.request i c)
  waits : w.waits = (List.range waited).map fun n => (o.answeredAt τ arrival c.interval n, c.interval)
  attempts : w.total .gateProbeAttempt = asked
  timeouts : w.total .gateTimeout = timeouts

/-- How far the health checks have come: one is under way, the gate pauses after one, or it is
closed after a success, after the last one or for a cancellation. -/
inductive Checking (w : GateWatch) : Prop
  | asking (n : Nat) (stage : w.stage = .checking c arrival (n + 1)) (room : n < Gate.budget c)
    (failed : ∀ k, 1 ≤ k → k ≤ n → o.passes k = false)
    (since : w.since = o.askedAt τ arrival c.interval n) (now_le : w.now ≤ w.since + o.millis (n + 1))
    (account : Account τ o i c arrival w (n + 1) n 0)
  | pausing (n : Nat) (stage : w.stage = .pausing c arrival (n + 1)) (room : n + 1 < Gate.budget c)
    (failed : ∀ k, 1 ≤ k → k ≤ n + 1 → o.passes k = false)
    (since : w.since = o.answeredAt τ arrival c.interval n)
    (now_le : w.now ≤ w.since + τ.pause w.since c.interval)
    (account : Account τ o i c arrival w (n + 1) (n + 1) 0)
  | passed (n : Nat) (stage : w.stage = .closed (.ok (.healthy (n + 1)))) (room : n < Gate.budget c)
    (failed : ∀ k, 1 ≤ k → k ≤ n → o.passes k = false) (passes : o.passes (n + 1) = true)
    (since : w.since = o.answeredAt τ arrival c.interval n)
    (account : Account τ o i c arrival w (n + 1) n 0)
  | exhausted (n : Nat) (stage : w.stage = .closed (.error (.timeout (n + 1))))
    (spent : n + 1 = Gate.budget c) (failed : ∀ k, 1 ≤ k → k ≤ n + 1 → o.passes k = false)
    (since : w.since = o.answeredAt τ arrival c.interval n)
    (account : Account τ o i c arrival w (n + 1) n 1)
  | refused (stage : w.stage = .closed (.error .cancelled)) (cancelled : w.isCancelled = true)

end Checking

section

variable {c : HealthCheckPolicy} {arrival : Nat}

theorem checking_start {p : DelayPolicy} (on : p.enabled = true)
    (hp : p.strategy = .byHealthCheck c) :
    Checking τ o i c arrival (start i p arrival) := by
  have begins : Gate.arrive i p arrival = Gate.ask c arrival 1 := by
    rw [Gate.arrive, if_pos on, hp]
  rw [start, begins]
  refine .asking 0 rfl (Gate.one_le_budget c) (fun k => by omega) rfl (Nat.le_add_right ..) ?_
  exact ⟨rfl, rfl, rfl, rfl⟩

theorem Account.idle {asked waited timeouts : Nat}
    (h : Account τ o i c arrival w asked waited timeouts) (requests : u.requests = w.requests)
    (waits : u.waits = w.waits) (effects : u.effects = w.effects) :
    Account τ o i c arrival u asked waited timeouts where
  requests := requests.trans h.requests
  waits := waits.trans h.waits
  attempts := by rw [total, effects]; exact h.attempts
  timeouts := by rw [total, effects]; exact h.timeouts

section Enter

variable {asked waited timeouts : Nat} (h : Account τ o i c arrival w asked waited timeouts)
include h

theorem Account.close {fx : List Effect} (attempts : Effect.total .gateProbeAttempt fx = 0)
    (r : Except GateError GatePass) :
    Account τ o i c arrival (w.enter i (.closed r, fx)) asked waited
      (timeouts + Effect.total .gateTimeout fx) where
  requests := (List.append_nil _).trans h.requests
  waits := (List.append_nil _).trans h.waits
  attempts := by rw [total_enter, h.attempts, attempts]; rfl
  timeouts := by rw [total_enter, h.timeouts]

theorem Account.pause (now_eq : w.now = o.answeredAt τ arrival c.interval waited) (e : Log.Entry)
    (started attempt : Nat) :
    Account τ o i c arrival (w.enter i (.pausing c started attempt, [.log e])) asked (waited + 1)
      timeouts where
  requests := (List.append_nil _).trans h.requests
  waits := by
    rw [List.range_succ, List.map_append, ← h.waits, List.map_singleton, ← now_eq]
    rfl
  attempts := by rw [total_enter, h.attempts]; rfl
  timeouts := by rw [total_enter, h.timeouts]; rfl

theorem Account.ask (now_eq : w.now = o.askedAt τ arrival c.interval asked) (started attempt : Nat) :
    Account τ o i c arrival (w.enter i (Gate.ask c started attempt)) (asked + 1) waited timeouts where
  requests := by
    rw [List.range_succ, List.map_append, ← h.requests, List.map_singleton, ← now_eq]
    rfl
  waits := (List.append_nil _).trans h.waits
  attempts := by rw [total_enter, h.attempts]; rfl
  timeouts := by rw [total_enter, h.timeouts]; rfl

end Enter

/-- While nothing but time passes, or the token is cancelled, the health checks come no further. -/
theorem Checking.idle (h : Checking τ o i c arrival w) (stage : u.stage = w.stage)
    (since : u.since = w.since) (requests : u.requests = w.requests) (waits : u.waits = w.waits)
    (effects : u.effects = w.effects) (cancelled : w.isCancelled = true → u.isCancelled = true)
    (due : ∀ x ∈ w.stage.awaited? τ o w.since, w.now ≤ w.since + x.1 → u.now ≤ w.since + x.1) :
    Checking τ o i c arrival u := by
  cases h with
  | asking n hs room failed hsince now_le account =>
    refine .asking n (stage.trans hs) room failed (since.trans hsince) ?_
      (account.idle requests waits effects)
    rw [since]
    exact due (_, _) (by rw [hs]; rfl) now_le
  | pausing n hs room failed hsince now_le account =>
    refine .pausing n (stage.trans hs) room failed (since.trans hsince) ?_
      (account.idle requests waits effects)
    rw [since]
    exact due (_, _) (by rw [hs]; rfl) now_le
  | passed n hs room failed passes hsince account =>
    exact .passed n (stage.trans hs) room failed passes (since.trans hsince)
      (account.idle requests waits effects)
  | exhausted n hs spent failed hsince account =>
    exact .exhausted n (stage.trans hs) spent failed (since.trans hsince)
      (account.idle requests waits effects)
  | refused hs hc => exact .refused (stage.trans hs) (cancelled hc)

theorem Checking.step (h : Checking τ o i c arrival w) (m : Moves τ o i w u) :
    Checking τ o i c arrival u := by
  cases m with
  | pass millis calm => exact h.idle rfl rfl rfl rfl rfl id fun x hx _ => (calm x hx).2
  | cancel => exact h.idle rfl rfl rfl rfl rfl (fun _ => rfl) fun _ _ now_le => now_le
  | interrupted isOpen cancelled =>
    rw [resume_of_cancelled isOpen]
    exact .refused rfl cancelled
  | told x awaited due looked =>
    cases h with
    | asking n hs room failed hsince now_le account =>
      obtain rfl : _ = x := Option.some.inj ((congrArg _ hs).symm.trans awaited)
      have now_eq : w.now = o.answeredAt τ arrival c.interval n := by
        rw [HealthAnswers.answeredAt, ← hsince]
        exact Nat.le_antisymm now_le due
      rw [hs]
      cases pass : o.passes (n + 1) with
      | true =>
        obtain ⟨e, judged⟩ := Gate.judge_of_succeeds i c arrival (n + 1) w.now pass
        rw [Gate.resume, judged]
        exact .passed n rfl room failed pass now_eq (account.close rfl _)
      | false =>
        have failed_all : ∀ k, 1 ≤ k → k ≤ n + 1 → o.passes k = false := by
          intro k pos le
          rcases Nat.lt_or_eq_of_le le with lt | rfl
          · exact failed k pos (Nat.le_of_lt_succ lt)
          · exact pass
        rcases Nat.lt_or_eq_of_le room with room | last
        · obtain ⟨e, judged⟩ := Gate.judge_pauses i c arrival (n + 1) w.now pass room
          rw [Gate.resume, judged]
          exact .pausing n rfl room failed_all now_eq (Nat.le_add_right ..)
            (account.pause now_eq e arrival (n + 1))
        · obtain ⟨e, f, judged⟩ := Gate.judge_exhausts i c arrival (n + 1) w.now pass last
          rw [Gate.resume, judged]
          exact .exhausted n rfl last failed_all now_eq (account.close rfl _)
    | pausing n hs room failed hsince now_le account =>
      obtain rfl : _ = x := Option.some.inj ((congrArg _ hs).symm.trans awaited)
      have now_eq : w.now = o.askedAt τ arrival c.interval (n + 1) := by
        have elapsed := Nat.le_antisymm now_le due
        rw [hsince] at elapsed
        exact elapsed
      rw [hs]
      exact .asking (n + 1) rfl room failed now_eq (Nat.le_add_right ..)
        (account.ask now_eq arrival (n + 2))
    | passed n hs => simp [hs, GateStage.awaited?] at awaited
    | exhausted n hs => simp [hs, GateStage.awaited?] at awaited
    | refused hs => simp [hs, GateStage.awaited?] at awaited

/-- Work that is left is bounded by the budget. -/
theorem Checking.work_lt (h : Checking τ o i c arrival w) (isOpen : ∀ r, w.stage ≠ .closed r) :
    w.requests.length + w.waits.length < 2 * Gate.budget c := by
  cases h with
  | asking n _ room _ _ _ account =>
    simp only [account.requests, account.waits, List.length_map, List.length_range]
    omega
  | pausing n _ room _ _ _ account =>
    simp only [account.requests, account.waits, List.length_map, List.length_range]
    omega
  | passed n hs => exact absurd hs (isOpen _)
  | exhausted n hs => exact absurd hs (isOpen _)
  | refused hs => exact absurd hs (isOpen _)

theorem Checking.now_le (h : Checking τ o i c arrival w) :
    ∀ x ∈ w.stage.awaited? τ o w.since, w.now ≤ w.since + x.1 := by
  intro x hx
  cases h with
  | asking n hs _ _ _ now_le =>
    obtain rfl : _ = x := Option.some.inj ((congrArg _ hs).symm.trans hx)
    exact now_le
  | pausing n hs _ _ _ now_le =>
    obtain rfl : _ = x := Option.some.inj ((congrArg _ hs).symm.trans hx)
    exact now_le
  | passed n hs => simp [hs, GateStage.awaited?] at hx
  | exhausted n hs => simp [hs, GateStage.awaited?] at hx
  | refused hs => simp [hs, GateStage.awaited?] at hx

end

/-! ## Delays -/

section Delaying

variable (τ) (d : Duration) (arrival : Nat)

/-- How far a delay has come: it is not over, it is just over, or it was cut short. -/
inductive Delaying (w : GateWatch) : Prop
  | waiting (stage : w.stage = .delaying d) (since : w.since = arrival)
    (now_le : w.now ≤ w.since + τ.pause w.since d) (timeouts : w.total .gateTimeout = 0)
  | passed (stage : w.stage = .closed (.ok (.delayed d)))
    (since : w.since = arrival + τ.pause arrival d)
  | refused (stage : w.stage = .closed (.error .cancelled)) (cancelled : w.isCancelled = true)

variable {τ d arrival}

theorem delaying_start {p : DelayPolicy} (on : p.enabled = true) (hp : p.strategy = .byTime d) :
    Delaying τ d arrival (start i p arrival) := by
  have begins : Gate.arrive i p arrival =
      (.delaying d, [Gate.entry .info "gate_delay_start" i [("interval", d.render)]]) := by
    rw [Gate.arrive, if_pos on, hp]
  rw [start, begins]
  exact .waiting rfl rfl (Nat.le_add_right ..) rfl

theorem Delaying.step (h : Delaying τ d arrival w) (m : Moves τ o i w u) : Delaying τ d arrival u := by
  cases h with
  | waiting stage since now_le timeouts =>
    have awaited : w.stage.awaited? τ o w.since = some (τ.pause w.since d, .elapsed) := by
      rw [stage]; rfl
    cases m with
    | pass millis calm => exact .waiting stage since (calm _ awaited).2 timeouts
    | cancel => exact .waiting stage since now_le timeouts
    | told x hx due =>
      obtain rfl := Option.some.inj (awaited.symm.trans hx)
      rw [stage]
      exact .passed rfl ((Nat.le_antisymm now_le due).trans (by rw [since]))
    | interrupted _ cancelled =>
      rw [stage]
      exact .refused rfl cancelled
  | passed stage since =>
    cases m with
    | pass => exact .passed stage since
    | cancel => exact .passed stage since
    | told x hx => simp [stage, GateStage.awaited?] at hx
    | interrupted isOpen => simp [stage, GateStage.awaited?] at isOpen
  | refused stage cancelled =>
    cases m with
    | pass => exact .refused stage cancelled
    | cancel => exact .refused stage rfl
    | told x hx => simp [stage, GateStage.awaited?] at hx
    | interrupted isOpen => simp [stage, GateStage.awaited?] at isOpen

end Delaying

/-! ## Runs -/

theorem Reaches.keeps {P : GateWatch → Prop} (run : Reaches τ o i w u) (h : P w)
    (step : ∀ {v v'}, P v → Moves τ o i v v' → P v') : P u := by
  induction run with
  | refl => exact h
  | tail _ m ih => exact step ih m

/-- A gate that is not cancelled is told what it waits for, at the moment when that comes. -/
theorem reaches_told {x : Nat × GateAnswer} (awaited : w.stage.awaited? τ o w.since = some x)
    (now_le : w.now ≤ w.since + x.1) (calm : w.isCancelled = false) :
    Reaches τ o i w ({ w with now := w.since + x.1 }.enter i
      (Gate.resume i w.stage x.2 (w.since + x.1))) := by
  have passes : Moves τ o i w { w with now := w.since + x.1 } := by
    have h := Moves.pass (i := i) (w.since + x.1 - w.now) (w := w) (o := o) fun y hy => by
      obtain rfl := Option.some.inj (awaited.symm.trans hy)
      exact ⟨calm, Nat.le_of_eq (Nat.add_sub_cancel' now_le)⟩
    rwa [Nat.add_sub_cancel' now_le] at h
  refine .tail (.single passes) (.told x awaited (Nat.le_refl _) fun d hd => ?_)
  obtain rfl : _ = x := Option.some.inj ((GateStage.awaited_of_pause hd τ o w.since).symm.trans awaited)
  exact τ.poll_eq_elapsed_iff.mpr ⟨calm, Nat.le_refl _⟩

/-- Every stage but the last one begins a request or a wait. -/
theorem work_enter (w : GateWatch) (i : Instance) {s : GateStage × List Effect}
    (isOpen : ∀ r, s.1 ≠ .closed r) :
    (w.enter i s).requests.length + (w.enter i s).waits.length =
      w.requests.length + w.waits.length + 1 := by
  obtain ⟨stage, fx⟩ := s
  cases stage with
  | closed r => exact absurd rfl (isOpen r)
  | _ =>
    simp only [enter, GateStage.request?, GateStage.pause?, List.length_append, List.length_map,
      Option.toList, List.length_cons, List.length_nil]
    omega

/-- A gate that makes health checks comes to an end unless it is cancelled. -/
theorem Checking.ends {c : HealthCheckPolicy} {arrival : Nat} (h : Checking τ o i c arrival w)
    (calm : w.isCancelled = false) :
    ∃ u r, Reaches τ o i w u ∧ u.isCancelled = false ∧ u.stage = .closed r := by
  generalize left : 2 * Gate.budget c - (w.requests.length + w.waits.length) = k
  induction k using Nat.strongRecOn generalizing w with
  | ind k ih =>
    cases closed : w.stage with
    | closed r => exact ⟨w, r, .refl, calm, closed⟩
    | _ =>
      have isOpen (r : Except GateError GatePass) : w.stage ≠ .closed r := by simp [closed]
      obtain ⟨x, awaited⟩ := w.stage.exists_awaited τ o w.since isOpen
      have room := h.work_lt isOpen
      have told := reaches_told awaited (h.now_le x awaited) calm (i := i)
      generalize hs : Gate.resume i w.stage x.2 (w.since + x.1) = s at told
      cases closes : s.1 with
      | closed r => exact ⟨_, r, told, calm, closes⟩
      | _ =>
        have work := work_enter { w with now := w.since + x.1 } i (s := s) (by simp [closes])
        obtain ⟨u, r, run, rest⟩ := ih _ (by simp only [work, ← left]; omega)
          (told.keeps h Checking.step) calm rfl
        exact ⟨u, r, told.trans run, rest⟩

/-- A delay comes to an end unless it is cancelled. -/
theorem Delaying.ends {d : Duration} {arrival : Nat} (h : Delaying τ d arrival w)
    (calm : w.isCancelled = false) :
    ∃ u r, Reaches τ o i w u ∧ u.isCancelled = false ∧ u.stage = .closed r := by
  cases h with
  | waiting stage _ now_le =>
    have awaited : w.stage.awaited? τ o w.since = some (τ.pause w.since d, .elapsed) := by
      rw [stage]; rfl
    exact ⟨_, .ok (.delayed d), reaches_told awaited now_le calm, calm, by rw [stage]; rfl⟩
  | passed stage => exact ⟨w, _, .refl, calm, stage⟩
  | refused stage => exact ⟨w, _, .refl, calm, stage⟩

/-- What the gate has returned is final. -/
theorem Reaches.closed {r : Except GateError GatePass} (run : Reaches τ o i w u)
    (h : w.stage = .closed r) : u.stage = .closed r := by
  refine run.keeps (P := fun w => w.stage = .closed r) h fun {v v'} hv m => ?_
  cases m with
  | pass => exact hv
  | cancel => exact hv
  | told x hx => simp [hv, GateStage.awaited?] at hx
  | interrupted isOpen => simp [hv, GateStage.awaited?] at isOpen

/-! ## The course of a passage -/

/-- A gate that was not cancelled has returned a result after so many requests, at the answer to the
last one: the requests were the same, with one wait after each of them but the last. -/
structure Ended (τ : Timer) (o : HealthAnswers) (i : Instance) (c : HealthCheckPolicy) (arrival : Nat)
    (w : GateWatch) (asked : Nat) (r : Except GateError GatePass) (timeouts : Nat) : Prop where
  stage : w.stage = .closed r
  since : w.since = o.answeredAt τ arrival c.interval (asked - 1)
  account : Account τ o i c arrival w asked (asked - 1) timeouts

/-- Whether a gate waits for a health check, and not at the very moment of the answer, or waits for
its time to be over. -/
def IsWaiting (τ : Timer) (o : HealthAnswers) (w : GateWatch) : Prop :=
  ∃ x, w.stage.awaited? τ o w.since = some x ∧ (w.stage.pause? = none → w.now < w.since + x.1)

/-- What becomes of an instance that comes to a gate. -/
structure RunsItsCourse (τ : Timer) (o : HealthAnswers) (i : Instance) (p : DelayPolicy)
    (arrival : Nat) : Prop where
  /-- A gate that is not cancelled returns. -/
  ends : ∀ w, Reaches τ o i (start i p arrival) w → w.isCancelled = false →
    ∃ u r, Reaches τ o i w u ∧ u.isCancelled = false ∧ u.stage = .closed r
  /-- It lets the instance through at the first success, if the budget reaches so far. -/
  healthy : ∀ c, p.strategy = .byHealthCheck c → ∀ w, Reaches τ o i (start i p arrival) w →
    w.isCancelled = false → ∀ r, w.stage = .closed r → ∀ k, o.IsFirst k → k ≤ Gate.budget c →
      Ended τ o i c arrival w k (.ok (.healthy k)) 0
  /-- Else it gives up when the budget is spent. -/
  timeout : ∀ c, p.strategy = .byHealthCheck c → ∀ w, Reaches τ o i (start i p arrival) w →
    w.isCancelled = false → ∀ r, w.stage = .closed r → (∀ k, o.IsFirst k → Gate.budget c < k) →
      Ended τ o i c arrival w (Gate.budget c) (.error (.timeout (Gate.budget c))) 1
  /-- A delay that is not cancelled lets the instance through. -/
  delayed : ∀ d, p.strategy = .byTime d → ∀ w, Reaches τ o i (start i p arrival) w →
    w.isCancelled = false → ∀ r, w.stage = .closed r → r = .ok (.delayed d)
  /-- It does so when its timer says so. -/
  punctual : ∀ d, p.strategy = .byTime d → ∀ w, Reaches τ o i (start i p arrival) w →
    ∀ pass, w.stage = .closed (.ok pass) → w.since = arrival + τ.pause arrival d
  /-- That is with the millisecond in which the delay is over, as long as the clock can
  represent it. -/
  delayed_exact : τ.NeverEarly → τ.InTime → ∀ d, p.strategy = .byTime d → τ.Reaches arrival d →
    ∀ w, Reaches τ o i (start i p arrival) w → ∀ pass, w.stage = .closed (.ok pass) →
      w.since = arrival + d.ceilMillis
  /-- The same holds of the waits between health checks. -/
  spaced_exact : τ.NeverEarly → τ.InTime → ∀ c, p.strategy = .byHealthCheck c → ∀ n,
    τ.Reaches (o.answeredAt τ arrival c.interval n) c.interval →
      o.askedAt τ arrival c.interval (n + 1) =
        o.answeredAt τ arrival c.interval n + c.interval.ceilMillis
  /-- A gate that is cancelled while it waits does nothing more but refuse, at the same moment. -/
  refuses : ∀ w, Reaches τ o i (start i p arrival) w → w.IsWaiting τ o →
    (∃ u, Reaches τ o i w.cancel u ∧ u.stage = .closed (.error .cancelled)) ∧
      ∀ u, Reaches τ o i w.cancel u → u = w.cancel ∨
        u.stage = .closed (.error .cancelled) ∧ u.since = w.now ∧ u.requests = w.requests ∧
          u.total .gateTimeout = 0

section

variable {c : HealthCheckPolicy} {arrival : Nat} {r : Except GateError GatePass}

/-- A gate that makes health checks and was not cancelled has passed the first success or has spent
its budget without one. -/
theorem Checking.result (h : Checking τ o i c arrival w) (calm : w.isCancelled = false)
    (closed : w.stage = .closed r) :
    (∃ k, o.IsFirst k ∧ k ≤ Gate.budget c ∧ Ended τ o i c arrival w k (.ok (.healthy k)) 0) ∨
      (∀ k, o.IsFirst k → Gate.budget c < k) ∧
        Ended τ o i c arrival w (Gate.budget c) (.error (.timeout (Gate.budget c))) 1 := by
  cases h with
  | asking n stage => simp [closed] at stage
  | pausing n stage => simp [closed] at stage
  | passed n stage room failed passes since account =>
    have first : o.IsFirst (n + 1) :=
      ⟨Nat.le_add_left .., passes, fun k pos lt => failed k pos (Nat.le_of_lt_succ lt)⟩
    exact .inl ⟨n + 1, first, room, stage, since, account⟩
  | exhausted n stage spent failed since account =>
    rw [← spent]
    refine .inr ⟨fun k first => Nat.lt_of_not_le fun le => ?_, stage, since, account⟩
    have fails := failed k first.pos le
    rw [first.passes] at fails
    cases fails
  | refused _ cancelled => simp [calm] at cancelled

/-- No counter of the gate is raised for a gate that is still open. -/
theorem timeouts_of_waiting {p : DelayPolicy} (on : p.enabled = true)
    (run : Reaches τ o i (start i p arrival) w) (waiting : w.IsWaiting τ o) :
    w.total .gateTimeout = 0 := by
  obtain ⟨x, awaited, -⟩ := waiting
  cases hp : p.strategy with
  | byTime d =>
    cases run.keeps (delaying_start on hp) Delaying.step with
    | waiting _ _ _ timeouts => exact timeouts
    | passed stage => simp [stage, GateStage.awaited?] at awaited
    | refused stage => simp [stage, GateStage.awaited?] at awaited
  | byHealthCheck c =>
    cases run.keeps (checking_start (o := o) on hp) Checking.step with
    | asking _ _ _ _ _ _ account => exact account.timeouts
    | pausing _ _ _ _ _ _ account => exact account.timeouts
    | passed _ stage => simp [stage, GateStage.awaited?] at awaited
    | exhausted _ stage => simp [stage, GateStage.awaited?] at awaited
    | refused stage => simp [stage, GateStage.awaited?] at awaited
  | unsupported name =>
    have closed : (start i p arrival).stage = .closed (.error (.unsupportedStrategy name)) := by
      rw [start, Gate.arrive, if_pos on, hp]
      rfl
    simp [run.closed closed, GateStage.awaited?] at awaited

end

end GateWatch

namespace Gate

open GateWatch

/-- Every gate that is switched on runs its course, whatever the instance answers and whatever timer
the gate waits with. -/
theorem runs_its_course (τ : Timer) (o : HealthAnswers) (i : Instance) {p : DelayPolicy}
    (on : p.enabled = true) (arrival : Nat) : RunsItsCourse τ o i p arrival where
  ends w run calm := by
    cases hp : p.strategy with
    | byTime d => exact (run.keeps (delaying_start on hp) Delaying.step).ends calm
    | byHealthCheck c => exact (run.keeps (checking_start on hp) Checking.step).ends calm
    | unsupported name =>
      have closed : (start i p arrival).stage = .closed (.error (.unsupportedStrategy name)) := by
        rw [start, Gate.arrive, if_pos on, hp]
        rfl
      exact ⟨w, _, .refl, calm, run.closed closed⟩
  healthy c hp w run calm r closed k first le := by
    rcases (run.keeps (checking_start on hp) Checking.step).result calm closed with
      ⟨k', first', -, ended⟩ | ⟨none, -⟩
    · exact first.unique first' ▸ ended
    · exact absurd le (Nat.not_le.mpr (none k first))
  timeout c hp w run calm r closed none := by
    rcases (run.keeps (checking_start on hp) Checking.step).result calm closed with
      ⟨k, first, le, -⟩ | ⟨-, ended⟩
    · exact absurd le (Nat.not_le.mpr (none k first))
    · exact ended
  delayed d hp w run calm r closed := by
    cases run.keeps (delaying_start on hp) Delaying.step with
    | waiting stage => simp [closed] at stage
    | passed stage => exact GateStage.closed.inj (closed.symm.trans stage)
    | refused _ cancelled => simp [calm] at cancelled
  punctual d hp w run pass closed := by
    cases run.keeps (delaying_start on hp) Delaying.step with
    | waiting stage => simp [closed] at stage
    | passed _ since => exact since
    | refused stage => simp [closed] at stage
  delayed_exact early late d hp reach w run pass closed := by
    cases run.keeps (delaying_start on hp) Delaying.step with
    | waiting stage => simp [closed] at stage
    | passed _ since => rw [since, Timer.pause_of_reaches early late reach]
    | refused stage => simp [closed] at stage
  spaced_exact early late c _ n reach := congrArg _ (Timer.pause_of_reaches early late reach)
  refuses w run waiting := by
    have timeouts := timeouts_of_waiting on run waiting
    obtain ⟨x, awaited, before⟩ := waiting
    have isOpen : w.stage.awaited? τ o w.since ≠ none := by simp [awaited]
    constructor
    · refine ⟨_, .single (.interrupted isOpen rfl), ?_⟩
      rw [resume_of_cancelled (w := w.cancel) isOpen]
      rfl
    · intro u after
      have halted : Halted w.cancel u := by
        refine after.keeps (.waits rfl) fun h m => Halted.step (w := w.cancel) ?_ rfl isOpen h m
        intro y hy wait
        obtain rfl : x = y := Option.some.inj (awaited.symm.trans hy)
        exact before wait
      cases halted with
      | waits same => exact .inl same
      | refused millis same =>
        subst same
        exact .inr ⟨rfl, rfl, rfl, timeouts⟩

/-- An instance that is healthy at the second request is asked twice, with the interval between. -/
theorem runs_its_course_twice :
    let τ : Timer := .thirtyYears
    let o : HealthAnswers := ⟨fun n => .ok ⟨if n = 2 then 200 else 503⟩, fun _ => 100⟩
    let i : Instance := ⟨"default", "echo", "127.0.0.1", 8080, none, none, none, none⟩
    let c : HealthCheckPolicy := ⟨.ofSeconds 5, "/health", .plain, "GET", 3⟩
    ∃ w, Reaches τ o i (start i ⟨true, .byHealthCheck c⟩ 0) w ∧ w.isCancelled = false ∧
      w.stage = .closed (.ok (.healthy 2)) ∧ w.since = 5200 ∧
      w.requests = [(0, request i c), (5100, request i c)] ∧ w.waits = [(100, .ofSeconds 5)] ∧
      w.total .gateProbeAttempt = 2 ∧ w.total .gateTimeout = 0 := by
  intro τ o i c
  have course := runs_its_course τ o i (p := ⟨true, .byHealthCheck c⟩) rfl 0
  have first : o.IsFirst 2 := by
    refine ⟨by decide, by decide, fun n pos lt => ?_⟩
    obtain rfl : n = 1 := by omega
    decide
  obtain ⟨w, r, run, calm, closed⟩ := course.ends _ .refl rfl
  have ended := course.healthy c rfl w run calm r closed 2 first (by decide)
  have second : o.askedAt τ 0 c.interval 1 = 5100 := by decide +kernel
  refine ⟨w, run, calm, ended.stage, ?_, ?_, ended.account.waits, ended.account.attempts,
    ended.account.timeouts⟩
  · exact ended.since.trans (congrArg (· + 100) second)
  · rw [ended.account.requests, ← second]
    rfl

/-- The clock cannot represent the end of every delay: after one of 2^63 seconds the instance is let
through when thirty years have passed. -/
theorem delay_passes_early :
    let τ : Timer := .thirtyYears
    let o : HealthAnswers := ⟨fun _ => .error "refused", fun _ => 0⟩
    let i : Instance := ⟨"default", "echo", "127.0.0.1", 8080, none, none, none, none⟩
    let d : Duration := .ofSeconds (Width.bound 63)
    ∃ w, Reaches τ o i (start i ⟨true, .byTime d⟩ 0) w ∧ w.isCancelled = false ∧
      w.stage = .closed (.ok (.delayed d)) ∧ w.since = 946080000000 ∧
      w.since * 1000000 < d.nanos := by
  intro τ o i d
  have told := reaches_told (τ := τ) (o := o) (i := i) (w := start i ⟨true, .byTime d⟩ 0) rfl
    (Nat.zero_le _) rfl
  exact ⟨_, told, rfl, rfl, by decide +kernel, by decide +kernel⟩

end Gate

end InstanceLifecycle
