import InstanceLifecycle.Event.Reporter

/-!
# The consumer of a reporter

How much a reporter holds depends on what its consumer does: a waiting consumer has less than a full
batch, one that drains a closed queue may have almost twice as much. Offers, turns and answers are
written out here as equations, case by case.

Results:

* `Fits.enqueue`: an open queue with room takes one more event;
* `resume_finished`, `resume_going`: what an answer does to a delivery;
* `Courier.total_resume`: a delivery counts nothing before it has finished.
-/

namespace InstanceLifecycle

/-! ## Stages -/

namespace ConsumerStage

/-- Whether the queue is closed. -/
def closes : ConsumerStage → Bool
  | draining => true
  | delivering _ _ isLast => isLast
  | stopped => true
  | failed => true
  | _ => false

/-- Whether the last batch was handed over, if there is one. -/
def isOver : ConsumerStage → Bool
  | delivering _ _ isLast => isLast
  | stopped => true
  | _ => false

/-- Whether a delivery is going on. -/
def isDelivering : ConsumerStage → Bool
  | delivering .. => true
  | _ => false

/-- Whether the consumer has turns. -/
def isActive : ConsumerStage → Bool
  | delivering .. => false
  | stopped => false
  | failed => false
  | _ => true

theorem idle_of_isActive {s : ConsumerStage} (h : s.isActive = true) :
    s.isDelivering = false ∧ s.isOver = false := by
  cases s <;> simp_all [isActive, isDelivering, isOver]

/-- What a batch and a queue hold at a stage: how much the consumer may take depends on what it
does. -/
def Holds (capacity : Nat) (batch queue : List Event) : ConsumerStage → Prop
  | starting => batch = []
  | received => batch.length ≤ capacity
  | draining => batch.length + queue.length < 2 * capacity
  | delivering _ _ isLast => batch = [] ∧ (isLast = true → queue = [])
  | stopped => batch = [] ∧ queue = []
  | failed => False
  | _ => batch.length < capacity

end ConsumerStage

/-! ## Reporters -/

namespace Reporter

/-- A reporter with room for its batch: it holds no more than it may at its stage. -/
structure Fits (r : Reporter) : Prop where
  room : r.capacity ≤ batchLimit
  pos : 0 < r.capacity
  queue : r.queue.length ≤ r.capacity
  closed : r.closed = r.stage.closes
  holds : r.stage.Holds r.capacity r.batch r.queue

theorem Fits.at_stage {r : Reporter} (h : r.Fits) {s : ConsumerStage} (hs : r.stage = s) :
    r.closed = s.closes ∧ s.Holds r.capacity r.batch r.queue :=
  hs ▸ ⟨h.closed, h.holds⟩

/-- Another stage where the same may be held. -/
theorem Fits.moved {r s : Reporter} (h : r.Fits) (capacity : s.capacity = r.capacity)
    (queue : s.queue.length ≤ r.queue.length) (closed : s.closed = s.stage.closes)
    (holds : s.stage.Holds r.capacity s.batch s.queue) : s.Fits where
  room := capacity ▸ h.room
  pos := capacity ▸ h.pos
  queue := by
    have bound := h.queue
    omega
  closed := closed
  holds := capacity ▸ holds

/-! ## Offers -/

theorem offer_closed {r : Reporter} (h : r.closed = true) (e : Event) :
    r.offer e = (r, .error (.closed r.name e.kind)) := by
  simp [offer, admits, h]

theorem offer_full {r : Reporter} (h : r.closed = false) (full : r.capacity ≤ r.queue.length)
    (e : Event) : r.offer e = (r, .error (.queueFull r.name r.capacity e.kind)) := by
  simp [offer, admits, h, full]

theorem offer_accepted {r : Reporter} (h : r.closed = false) (room : r.queue.length < r.capacity)
    (e : Event) : r.offer e = ({ r with queue := r.queue ++ [e] }, .ok ()) := by
  simp [offer, admits, h, Nat.not_le_of_lt room]

/-- An open queue takes one more event. -/
theorem Fits.enqueue {r : Reporter} (h : r.Fits) (opened : r.closed = false)
    (room : r.queue.length < r.capacity) (e : Event) :
    Fits { r with queue := r.queue ++ [e] } where
  room := h.room
  pos := h.pos
  queue := by simpa using Nat.succ_le_of_lt room
  closed := h.closed
  holds := by
    have hc := h.closed
    have hh := h.holds
    rw [opened] at hc
    revert hc hh
    cases r.stage with
    | delivering es d isLast =>
      rintro rfl hh
      exact ⟨hh.1, fun he => by cases he⟩
    | draining => exact fun hc => by cases hc
    | stopped => exact fun hc => by cases hc
    | _ => exact fun _ hh => hh

/-! ## Draining -/

theorem drain_cons {r : Reporter} {e : Event} {rest : List Event} (h : r.queue = e :: rest) :
    r.drain = ({ r with queue := rest, batch := r.batch ++ [e] }, []) := by
  simp [drain, h]

theorem drain_empty {r : Reporter} (h : r.queue = []) (hb : r.batch.isEmpty = true) :
    r.drain = r.finish := by
  simp [drain, h, hb]

theorem drain_rest {r : Reporter} (h : r.queue = []) (hb : r.batch.isEmpty = false) :
    r.drain = (r.flush true,
      [r.courier.entry .info "flushing queued events before shutdown"
        [("pending", toString r.batch.length)]]) := by
  simp [drain, h, hb]

/-! ## Answers -/

/-- What is logged after an answer to a delivery. -/
def endLog (r : Reporter) (isLast : Bool) : List Effect :=
  if isLast then [r.courier.entry .debug "event consumer stopped" []] else []

theorem resume_finished {r : Reporter} {es : List Event} {d : DeliveryStage} {isLast : Bool}
    {a : DeliveryAnswer} {result : Except ReportError Nat} {fx : List Effect}
    (hs : r.stage = .delivering es d isLast)
    (hr : r.courier.resume d a = (.finished result, fx)) :
    r.resume a =
      ({ r with stage := if isLast then .stopped else .waiting },
        fx ++ r.resultEffects es.length result ++ r.endLog isLast) := by
  cases isLast <;> simp [resume, hs, hr, finish, endLog]

theorem resume_going {r : Reporter} {es : List Event} {d d' : DeliveryStage} {isLast : Bool}
    {a : DeliveryAnswer} {fx : List Effect} (hs : r.stage = .delivering es d isLast)
    (hr : r.courier.resume d a = (d', fx)) (hd : ∀ result, d' ≠ .finished result) :
    r.resume a = ({ r with stage := .delivering es d' isLast }, fx) := by
  cases d' with
  | finished result => exact absurd rfl (hd result)
  | _ => simp [resume, hs, hr]

end Reporter

/-- A delivery logs its failures and counts nothing before it has finished. -/
theorem Courier.total_resume (k : Courier) (d : DeliveryStage) (a : DeliveryAnswer) (c : Counter) :
    Effect.total c (k.resume d a).2 = 0 := by
  have failing (n : Nat) (reason body : String) : Effect.total c (k.fail n reason body).2 = 0 := rfl
  unfold Courier.resume
  split
  · rfl
  · exact failing ..
  · exact failing ..
  · split
    · rfl
    · exact failing ..
  · exact failing ..
  · rfl
  · rfl

end InstanceLifecycle
