import InstanceLifecycle.Event.Delivery

/-!
# Batching reporters

A reporter has a bounded queue and one consumer. Offering an event puts it into the queue or refuses
it; it never waits. The consumer moves events from the queue into a batch and delivers the batch
when it is full, when a tick finds it non-empty, or when the reporter is shut down. While it
delivers it takes nothing from the queue.

The consumer makes room for a full batch before anything else. It fails where no memory could hold
one, and its queue is lost.

Results:

* `offer_ok_iff`: an event is accepted exactly by an open queue with room;
* `pending_turn?`: a turn of a consumer that does not fail loses no event.
-/

namespace InstanceLifecycle

/-! ## Reporters -/

/-- What the consumer of a reporter does: where it stands in `Consumer.run`. -/
inductive ConsumerStage
  | starting
  | waiting
  /-- It has taken an event from the queue. -/
  | received
  /-- A tick has come. -/
  | ticked
  /-- It takes no more turns and is about to close the queue. -/
  | leaving
  /-- It takes what is left in the closed queue. -/
  | draining
  /-- It delivers these events; after the last delivery it stops. -/
  | delivering (events : List Event) (stage : DeliveryStage) (isLast : Bool)
  | stopped
  /-- It had no room for a batch. -/
  | failed
  deriving Repr

/-- Whether the task of the consumer has ended. -/
def ConsumerStage.isEnded : ConsumerStage → Bool
  | stopped => true
  | failed => true
  | _ => false

/-- How far a call of `shutdown` is. -/
inductive ShutdownStage
  /-- It waits for the end of the consumer. -/
  | awaiting
  | done
  deriving DecidableEq, Repr

/-- A reporter: what was offered to it and what its consumer does. -/
structure Reporter where
  courier : Courier
  capacity : Nat
  client : ClientIdentity
  /-- Accepted events that the consumer has not taken. -/
  queue : List Event := []
  /-- Events that the consumer has taken and not yet delivered. -/
  batch : List Event := []
  /-- Whether the consumer was told to stop. -/
  stopping : Bool := false
  /-- Whether nobody can offer events any more. -/
  deserted : Bool := false
  /-- Whether the queue refuses events. -/
  closed : Bool := false
  stage : ConsumerStage := .starting
  /-- When the consumer looks at its batch the next time; it is set when the consumer starts. -/
  nextTick : Nat := 0
  deriving Repr

namespace Reporter

/-- Milliseconds between two ticks. -/
def tickInterval : Nat := 1000

/-- A tick that is handled later than this many milliseconds moves the next one. -/
def tickTolerance : Nat := 5

/-- How often a delivery is attempted. -/
def deliveryAttempts : Nat := 3

/-- The largest queue that can be made. -/
def queueLimit : Nat := Width.bound 61 - 1

/-- The bytes that an event takes in a batch. -/
def eventBytes : Nat := 288

/-- The largest batch that room can be made for. -/
def batchLimit : Nat := (Width.bound 63 - 1) / eventBytes

/-- A reporter as it starts (`spawn`). -/
def start (name : String) (settings : ReporterSettings) (client : ClientIdentity)
    (target : CollectorTarget) : Reporter where
  courier := ⟨name, target, ⟨deliveryAttempts, settings.retryBackoff⟩⟩
  capacity := max settings.queueSize 1
  client := client

/-- A reporter as it starts, if its queue can be made. -/
def start? (name : String) (settings : ReporterSettings) (client : ClientIdentity)
    (target : CollectorTarget) : Option Reporter :=
  let r := start name settings client target
  if r.capacity ≤ queueLimit then some r else none

/-- The name of a reporter. -/
def name (r : Reporter) : String := r.courier.reporter

/-! ## Offering events -/

/-- Whether an event is accepted, as `report_event` decides it. -/
def admits (r : Reporter) (k : EventKind) : Except ReportError Unit :=
  if r.closed then .error (.closed r.name k)
  else if r.capacity ≤ r.queue.length then .error (.queueFull r.name r.capacity k)
  else .ok ()

/-- The reporter after an event was offered, and whether it was accepted (`report_event`). -/
def offer (r : Reporter) (e : Event) : Reporter × Except ReportError Unit :=
  match r.admits e.kind with
  | .ok _ => ({ r with queue := r.queue ++ [e] }, .ok ())
  | .error x => (r, .error x)

/-- An offer is counted by its outcome. -/
def offerCounter : Except ReportError Unit → Counter
  | .ok _ => .eventEnqueued
  | .error _ => .eventDropped

/-! ## Ends of a reporter -/

/-- Tells the consumer to stop. -/
def stop (r : Reporter) : Reporter := { r with stopping := true }

/-- Gives the queue up: nobody can offer events any more, and `recv` finds no sender. -/
def abandon (r : Reporter) : Reporter := { r with deserted := true }

/-- A call of `shutdown` begins: it tells the consumer to stop. It waits for the end of the consumer
unless another call waits or has waited for it. -/
def shutdown (r : Reporter) (isAwaited : Bool) : Reporter × ShutdownStage :=
  (r.stop, if isAwaited then .done else .awaiting)

/-! ## Delivering -/

/-- What `deliver` posts for a batch. -/
def body (es : List Event) : String := (Event.batchBody es).render

/-- Starts to deliver the batch (`flush`). -/
def flush (r : Reporter) (isLast : Bool) : Reporter :=
  let es := r.batch.map (Event.stamp r.client)
  { r with batch := [], stage := .delivering es (r.courier.attempt 1 (body es)) isLast }

/-- Ends the consumer, at the end of `Consumer.run`. -/
def finish (r : Reporter) : Reporter × List Effect :=
  ({ r with stage := .stopped }, [r.courier.entry .debug "event consumer stopped" []])

/-- What `flush` counts and logs about a finished delivery. -/
def resultEffects (r : Reporter) (events : Nat) : Except ReportError Nat → List Effect
  | .ok n =>
    [.count .batchDelivered 1,
      r.courier.entry .debug "event batch delivered"
        [("events", toString events), ("attempts", toString n)]]
  | .error e =>
    [.count .batchFailed 1,
      r.courier.entry .error "event batch dropped"
        [("events", toString events), ("error", e.message)]]

/-- The reporter after its delivery was answered. -/
def resume (r : Reporter) (a : DeliveryAnswer) : Reporter × List Effect :=
  match r.stage with
  | .delivering es d isLast =>
    match r.courier.resume d a with
    | (.finished result, fx) =>
      let fx := fx ++ r.resultEffects es.length result
      if isLast then
        let (r, fy) := r.finish
        (r, fx ++ fy)
      else ({ r with stage := .waiting }, fx)
    | (d, fx) => ({ r with stage := .delivering es d isLast }, fx)
  | _ => (r, [])

/-! ## Turns of the consumer -/

/-- When the tick after the one that was due is due. -/
def tickAfter (due now : Nat) : Nat :=
  if due + tickTolerance < now then now + tickInterval else due + tickInterval

/-- The consumer fails, and what it held is lost. -/
def fail (r : Reporter) : Reporter :=
  { r with queue := [], batch := [], closed := true, stage := .failed }

/-- The consumer makes room for a batch and sets its first tick, at the start of `Consumer.run`. -/
def prepare (r : Reporter) (now : Nat) : Reporter :=
  if batchLimit < r.capacity then r.fail
  else { r with stage := .waiting, nextTick := now + tickInterval }

/-- What a waiting consumer does next, if there is something: one round of the loop in
`Consumer.run`. Being told to stop comes first, then an event in the queue, then a tick. -/
def await? (r : Reporter) (now : Nat) : Option Reporter :=
  if r.stopping then some { r with stage := .leaving }
  else
    match r.queue with
    | e :: rest => some { r with queue := rest, batch := r.batch ++ [e], stage := .received }
    | [] =>
      if r.deserted then some { r with stage := .leaving }
      else if r.nextTick ≤ now then
        some { r with nextTick := tickAfter r.nextTick now, stage := .ticked }
      else none

/-- Delivers the batch under a condition, and waits else. -/
def flushIf (r : Reporter) (b : Bool) : Reporter :=
  if b then r.flush false else { r with stage := .waiting }

/-- Takes what is left in the queue and delivers all of it in the end, as `Consumer.run` does after
its loop. -/
def drain (r : Reporter) : Reporter × List Effect :=
  match r.queue with
  | e :: rest => ({ r with queue := rest, batch := r.batch ++ [e] }, [])
  | [] =>
    if r.batch.isEmpty then r.finish
    else
      (r.flush true,
        [r.courier.entry .info "flushing queued events before shutdown"
          [("pending", toString r.batch.length)]])

/-- One turn of the consumer, if it has something to do that does not depend on a delivery. -/
def turn? (r : Reporter) (now : Nat) : Option (Reporter × List Effect) :=
  match r.stage with
  | .starting => some (r.prepare now, [])
  | .waiting => (r.await? now).map (·, [])
  | .received => some (r.flushIf (r.capacity ≤ r.batch.length), [])
  | .ticked => some (r.flushIf !r.batch.isEmpty, [])
  | .leaving => some ({ r with closed := true, stage := .draining }, [])
  | .draining => some r.drain
  | _ => none

/-- What `shutdown` logs where the end of a consumer was waited for. -/
def endEffects (r : Reporter) : List Effect :=
  match r.stage with
  | .failed =>
    [r.courier.entry .error "event consumer task failed"
      [("error", "task <id> panicked with message \"capacity overflow\"")]]
  | _ => []

/-! ## Lemmas -/

/-- Events that were accepted and are not yet delivered, the oldest first. -/
def pending (r : Reporter) : List Event :=
  (match r.stage with
    | .delivering es _ _ => es
    | _ => []) ++ (r.batch ++ r.queue).map (Event.stamp r.client)

/-- An event is accepted exactly by an open queue with room. -/
theorem offer_ok_iff (r : Reporter) (e : Event) :
    (r.offer e).2 = .ok () ↔ r.closed = false ∧ r.queue.length < r.capacity := by
  unfold offer admits
  cases r.closed with
  | true => simp
  | false =>
    by_cases h : r.capacity ≤ r.queue.length
    · simp [h]
    · simp [h, Nat.lt_of_not_le h]

theorem pending_await? {r s : Reporter} {now : Nat} (hw : r.stage = .waiting)
    (h : r.await? now = some s) : s.pending = r.pending := by
  unfold await? at h
  split at h
  · obtain rfl := Option.some.inj h
    simp [pending, hw]
  · split at h
    · next e rest hq =>
      obtain rfl := Option.some.inj h
      simp [pending, hw, hq]
    · split at h
      · obtain rfl := Option.some.inj h
        simp [pending, hw]
      · split at h
        · obtain rfl := Option.some.inj h
          simp [pending, hw]
        · cases h

/-- A batch that is delivered or kept is not lost. -/
theorem pending_flushIf {r : Reporter} (hd : ∀ es d isLast, r.stage ≠ .delivering es d isLast)
    (b : Bool) : (r.flushIf b).pending = r.pending := by
  unfold flushIf
  cases b <;> simp [flush, pending]

theorem pending_drain {r : Reporter} (hs : r.stage = .draining) : r.drain.1.pending = r.pending := by
  unfold drain
  split
  · next e rest hq => simp [pending, hs, hq]
  · next hq =>
    split
    · next he => simp_all [finish, pending]
    · simp [flush, pending, hs, hq]

/-- A turn of a consumer that does not fail loses no event. -/
theorem pending_turn? {r s : Reporter} {now : Nat} {fx : List Effect}
    (h : r.turn? now = some (s, fx)) (hf : s.stage ≠ .failed) : s.pending = r.pending := by
  unfold turn? at h
  split at h
  · next hs =>
    obtain ⟨rfl, -⟩ := Prod.mk.inj (Option.some.inj h)
    unfold prepare at hf ⊢
    split
    · next beyond => exact absurd (by simp [beyond, fail]) hf
    · simp [pending, hs]
  · next hs =>
    obtain ⟨s', hs', he⟩ := Option.map_eq_some_iff.mp h
    obtain ⟨rfl, -⟩ := Prod.mk.inj he
    exact pending_await? hs hs'
  · next hs =>
    obtain ⟨rfl, -⟩ := Prod.mk.inj (Option.some.inj h)
    exact pending_flushIf (by simp [hs]) _
  · next hs =>
    obtain ⟨rfl, -⟩ := Prod.mk.inj (Option.some.inj h)
    exact pending_flushIf (by simp [hs]) _
  · next hs =>
    obtain ⟨rfl, -⟩ := Prod.mk.inj (Option.some.inj h)
    simp [pending, hs]
  · next hs =>
    have hd : s = r.drain.1 := congrArg Prod.fst (Option.some.inj h).symm
    rw [hd]
    exact pending_drain hs
  · cases h

end Reporter

end InstanceLifecycle
