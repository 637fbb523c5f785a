import Mathlib.Logic.Relation
import InstanceLifecycle.Proofs.Event.Consumer
import InstanceLifecycle.Timer

/-!
# Attempts to deliver a batch

The delivery of a batch is watched under a clock. Each lookup and each post has an answer and takes
some time, and waits take as long as the timer says, whatever timer it is. Meanwhile events may be
offered and the reporter may be told to stop or be given up; the delivery takes no notice of that.

Results:

* `CollectorAnswers.mem_accepted_iff`: an attempt is accepted where a post to an address is a
  success;
* `Courier.fail_pauses`, `Courier.fail_last`: only the last attempt to fail is not followed by a
  pause;
* `DeliveryWatch.Moves.idles_or_told`: what a move can do.
-/

namespace InstanceLifecycle

/-! ## What an attempt meets -/

/-- The service that a target is looked up by. -/
def CollectorTarget.service? : CollectorTarget → Option ServiceKey
  | fixed _ => none
  | discovered service _ => some service

/-- How the lookup and the post of each attempt are answered, and after how many milliseconds.
Attempts count from one. -/
structure CollectorAnswers where
  located : Nat → Except String (Option Endpoint)
  locatedMillis : Nat → Nat
  posted : Nat → Except String Http.Status
  postedMillis : Nat → Nat

namespace CollectorAnswers

variable (o : CollectorAnswers) (c : Courier)

/-- Where an attempt posts to, or why it posts nowhere. -/
def address (n : Nat) : Except String String :=
  match c.target with
  | .fixed url => .ok url
  | .discovered service path =>
    match o.located n with
    | .ok (some e) => .ok (e.url path)
    | .ok none => .error s!"no instance of collector service {service.text} found"
    | .error reason => .error reason

/-- Why an attempt fails, if it does. -/
def failure? (n : Nat) : Option String :=
  match o.address c n with
  | .error reason => some reason
  | .ok url =>
    match o.posted n with
    | .ok s => if s.isSuccess then none else some s!"collector {url} answered {s.render}"
    | .error reason => some s!"collector {url} unreachable: {reason}"

/-- The attempts that are accepted. -/
def accepted : Set Nat := {n | 1 ≤ n ∧ o.failure? c n = none}

/-- An attempt is accepted where there is an address and the post to it is a success. -/
theorem mem_accepted_iff (n : Nat) :
    n ∈ o.accepted c ↔ 1 ≤ n ∧ (∃ url, o.address c n = .ok url) ∧
      ∃ s, o.posted n = .ok s ∧ s.isSuccess = true := by
  refine and_congr_right fun _ => ?_
  unfold failure?
  cases o.address c n with
  | error reason => simp
  | ok url =>
    cases o.posted n with
    | error reason => simp
    | ok s => simp

/-! ## Times -/

/-- How long the lookup of an attempt takes. -/
def lookupMillis (n : Nat) : Nat :=
  match c.target with
  | .fixed _ => 0
  | .discovered .. => o.locatedMillis n

/-- How long the post of an attempt takes. -/
def postMillis (n : Nat) : Nat :=
  match o.address c n with
  | .ok _ => o.postedMillis n
  | .error _ => 0

variable (τ : Timer) (arrival : Nat)

/-- When the attempt after so many others begins, with a pause after each of them that grows. -/
def begunAt : Nat → Nat
  | 0 => arrival
  | n + 1 =>
    let ended := begunAt n + o.lookupMillis c (n + 1) + o.postMillis c (n + 1)
    ended + τ.millis ended (c.backoff.base.scale (n + 1))

/-- When its post is sent, if there is an address. -/
def postedAt (n : Nat) : Nat := o.begunAt c τ arrival n + o.lookupMillis c (n + 1)

/-- When it is over. -/
def endedAt (n : Nat) : Nat := o.postedAt c τ arrival n + o.postMillis c (n + 1)

/-! ## Records -/

/-- The lookups of the first attempts: one for each of them unless the address is fixed. -/
def lookups (made : Nat) : List (Nat × ServiceKey) :=
  (List.range made).filterMap fun n => c.target.service?.map (o.begunAt c τ arrival n, ·)

/-- Their posts: one for each of them that has an address, and all of the same events. -/
def posts (es : List Event) (made : Nat) : List (Nat × String × String) :=
  (List.range made).filterMap fun n =>
    (o.address c (n + 1)).toOption.map (o.postedAt c τ arrival n, ·, Reporter.body es)

/-- The waits after them. -/
def waits (made : Nat) : List (Nat × Duration) :=
  (List.range made).map fun n => (o.endedAt c τ arrival n, c.backoff.base.scale (n + 1))

/-- What is logged about those of them that failed. -/
def warnings (made : Nat) : List Effect :=
  (List.range made).filterMap fun n => (o.failure? c (n + 1)).map fun reason =>
    c.entry .warn "event batch delivery failed"
      [("attempts", toString (n + 1)), ("reason", reason)]

theorem lookups_succ (n : Nat) :
    o.lookups c τ arrival (n + 1) = o.lookups c τ arrival n ++
      (c.target.service?.map (o.begunAt c τ arrival n, ·)).toList := by
  simp only [lookups, List.range_succ, List.filterMap_append]
  cases c.target.service? <;> rfl

theorem posts_succ (es : List Event) (n : Nat) :
    o.posts c τ arrival es (n + 1) = o.posts c τ arrival es n ++
      ((o.address c (n + 1)).toOption.map
        (o.postedAt c τ arrival n, ·, Reporter.body es)).toList := by
  simp only [posts, List.range_succ, List.filterMap_append]
  cases h : (o.address c (n + 1)).toOption <;> simp [h]

theorem waits_succ (n : Nat) :
    o.waits c τ arrival (n + 1) = o.waits c τ arrival n ++
      [(o.endedAt c τ arrival n, c.backoff.base.scale (n + 1))] := by
  simp [waits, List.range_succ]

theorem warnings_succ (n : Nat) :
    o.warnings c (n + 1) = o.warnings c n ++ ((o.failure? c (n + 1)).map fun reason =>
      c.entry .warn "event batch delivery failed"
        [("attempts", toString (n + 1)), ("reason", reason)]).toList := by
  simp only [warnings, List.range_succ, List.filterMap_append]
  cases h : o.failure? c (n + 1) <;> simp [h]

/-- Failed attempts are not counted. -/
theorem total_warnings (made : Nat) (k : Counter) : Effect.total k (o.warnings c made) = 0 := by
  induction made with
  | zero => rfl
  | succ n ih =>
    rw [warnings_succ, Effect.total_append, ih]
    cases o.failure? c (n + 1) <;> rfl

theorem length_records_le (es : List Event) (asked posted waited : Nat) :
    (o.lookups c τ arrival asked).length + (o.posts c τ arrival es posted).length +
      (o.waits c τ arrival waited).length ≤ asked + posted + waited := by
  have lookups := List.length_filterMap_le
    (fun n => c.target.service?.map (o.begunAt c τ arrival n, ·)) (List.range asked)
  have posts := List.length_filterMap_le (fun n => (o.address c (n + 1)).toOption.map
    (o.postedAt c τ arrival n, ·, Reporter.body es)) (List.range posted)
  simp only [List.length_range] at lookups posts
  simp only [CollectorAnswers.lookups, CollectorAnswers.posts, waits, List.length_map,
    List.length_range]
  omega

end CollectorAnswers

/-! ## Failed attempts -/

namespace Courier

variable (c : Courier) {n : Nat} (reason body : String)

/-- A failed attempt is followed by a pause unless it was the last one. -/
theorem fail_pauses (room : n + 1 < c.backoff.attempts) :
    (c.fail (n + 1) reason body).1 = .waiting (n + 1) (c.backoff.base.scale (n + 1)) body := by
  have pauses : c.backoff.delayAfter (n + 1) = some (c.backoff.base.scale (n + 1)) := by
    unfold Backoff.attempts at room
    exact if_neg (by omega)
  simp [fail, pauses]

/-- The last attempt to fail spends the budget. -/
theorem fail_last (last : n + 1 = c.backoff.attempts) :
    (c.fail (n + 1) reason body).1 = .finished (.error (.delivery (n + 1) reason)) := by
  have spent : c.backoff.delayAfter (n + 1) = none := by
    unfold Backoff.attempts at last
    exact if_pos (by omega)
  simp [fail, spent, next, ← last]

end Courier

/-! ## Moves -/

namespace DeliveryStage

/-- The service that is looked up at a stage. -/
def lookup? : DeliveryStage → Option ServiceKey
  | locating _ service .. => some service
  | _ => none

/-- The address that is posted to, and the body that is posted there. -/
def post? : DeliveryStage → Option (String × String)
  | posting _ url body => some (url, body)
  | _ => none

/-- How long a stage waits. -/
def pause? : DeliveryStage → Option Duration
  | waiting _ d _ => some d
  | _ => none

/-- What a delivery has come to. -/
def result? : DeliveryStage → Option (Except ReportError Nat)
  | finished r => some r
  | _ => none

/-- What a stage that was entered at some time waits for, and after how many milliseconds
it comes. -/
def awaited? (τ : Timer) (o : CollectorAnswers) (since : Nat) :
    DeliveryStage → Option (Nat × DeliveryAnswer)
  | locating n .. => some (o.locatedMillis n, .located (o.located n))
  | posting n .. => some (o.postedMillis n, .posted (o.posted n))
  | waiting _ d _ => some (τ.millis since d, .elapsed)
  | finished _ => none

end DeliveryStage

/-- The events that a reporter delivers, and how far it is. -/
def Reporter.delivery? (r : Reporter) : Option (List Event × DeliveryStage) :=
  match r.stage with
  | .delivering es d _ => some (es, d)
  | _ => none

/-- The events that a reporter has to deliver. -/
def Reporter.load (r : Reporter) : List Event := r.batch.map (Event.stamp r.client)

/-- A reporter under a clock: the time when its stage was entered, the lookups, posts and waits that
were begun, each with its time, the effects, and what the delivery has returned. -/
structure DeliveryWatch where
  now : Nat
  reporter : Reporter
  since : Nat
  lookups : List (Nat × ServiceKey)
  posts : List (Nat × String × String)
  waits : List (Nat × Duration)
  effects : List Effect
  returned : Option (Except ReportError Nat)

namespace DeliveryWatch

/-- The reporter enters a stage. -/
def enter (w : DeliveryWatch) (s : Reporter × List Effect)
    (returned : Option (Except ReportError Nat)) : DeliveryWatch :=
  let d? := s.1.delivery?
  { w with
    reporter := s.1
    since := w.now
    lookups := w.lookups ++ ((d?.bind (·.2.lookup?)).map (w.now, ·)).toList
    posts := w.posts ++ ((d?.bind (·.2.post?)).map (w.now, ·)).toList
    waits := w.waits ++ ((d?.bind (·.2.pause?)).map (w.now, ·)).toList
    effects := w.effects ++ s.2
    returned := returned }

/-- A reporter begins to deliver its batch. -/
def start (r : Reporter) (isLast : Bool) (arrival : Nat) : DeliveryWatch :=
  enter ⟨arrival, r, arrival, [], [], [], [], none⟩ (r.flush isLast, []) none

/-- The delivery is told something. -/
def tell (w : DeliveryWatch) (d : DeliveryStage) (a : DeliveryAnswer) : DeliveryWatch :=
  w.enter (w.reporter.resume a) (w.reporter.courier.resume d a).1.result?

/-- By how much a counter was raised. -/
def total (w : DeliveryWatch) (c : Counter) : Nat := Effect.total c w.effects

/-- What can happen next. -/
inductive Moves (τ : Timer) (o : CollectorAnswers) (w : DeliveryWatch) : DeliveryWatch → Prop
  /-- Time passes, but not beyond the moment at which the delivery has something to do. -/
  | pass (millis : Nat) (calm : ∀ d ∈ w.reporter.delivery?, ∀ x ∈ d.2.awaited? τ o w.since,
      w.now + millis ≤ w.since + x.1) :
      Moves τ o w { w with now := w.now + millis }
  /-- Somebody offers an event. -/
  | offer (e : Event) : Moves τ o w { w with reporter := (w.reporter.offer e).1 }
  | stop : Moves τ o w { w with reporter := w.reporter.stop }
  | abandon : Moves τ o w { w with reporter := w.reporter.abandon }
  /-- The delivery is told what it waits for. -/
  | told {es : List Event} {d : DeliveryStage} {x : Nat × DeliveryAnswer}
      (underway : w.reporter.delivery? = some (es, d)) (awaited : d.awaited? τ o w.since = some x)
      (due : w.since + x.1 ≤ w.now) : Moves τ o w (w.tell d x.2)

/-- What can come up after some moves. -/
def Reaches (τ : Timer) (o : CollectorAnswers) : DeliveryWatch → DeliveryWatch → Prop :=
  Relation.ReflTransGen (Moves τ o)

variable {τ : Timer} {o : CollectorAnswers} {w u : DeliveryWatch}

theorem Reaches.keeps {P : DeliveryWatch → Prop} (run : Reaches τ o w u) (h : P w)
    (step : ∀ {v v'}, P v → Moves τ o v v' → P v') : P u := by
  induction run with
  | refl => exact h
  | tail _ m ih => exact step ih m

/-! ## What a move can do -/

/-- The delivery goes on waiting: at most time has passed, the queue has grown and the reporter was
told to stop. -/
structure Idles (τ : Timer) (o : CollectorAnswers) (w u : DeliveryWatch) : Prop where
  same : u = { w with now := u.now, reporter := u.reporter }
  courier : u.reporter.courier = w.reporter.courier
  batch : u.reporter.batch = w.reporter.batch
  stage : u.reporter.stage = w.reporter.stage
  calm : ∀ d ∈ w.reporter.delivery?, ∀ x ∈ d.2.awaited? τ o w.since,
    w.now ≤ w.since + x.1 → u.now ≤ w.since + x.1

/-- The delivery is told something or goes on waiting. -/
theorem Moves.idles_or_told (m : Moves τ o w u) :
    Idles τ o w u ∨ ∃ es d x, w.reporter.delivery? = some (es, d) ∧ d.awaited? τ o w.since = some x ∧
      w.since + x.1 ≤ w.now ∧ u = w.tell d x.2 := by
  cases m with
  | pass millis calm => exact .inl ⟨rfl, rfl, rfl, rfl, fun d hd x hx _ => calm d hd x hx⟩
  | offer e =>
    refine .inl ⟨rfl, ?_, ?_, ?_, fun d _ x _ le => le⟩ <;>
      · simp only [Reporter.offer]
        split <;> rfl
  | stop => exact .inl ⟨rfl, rfl, rfl, rfl, fun d _ x _ le => le⟩
  | abandon => exact .inl ⟨rfl, rfl, rfl, rfl, fun d _ x _ le => le⟩
  | told underway awaited due => exact .inr ⟨_, _, _, underway, awaited, due, rfl⟩

end DeliveryWatch

end InstanceLifecycle
