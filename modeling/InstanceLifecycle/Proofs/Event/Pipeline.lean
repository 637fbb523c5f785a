import InstanceLifecycle.Proofs.Event.Consumer

/-!
# The way of an event through a reporter

Offers, turns of the consumer, answers to its delivery and the end of the reporter may come in any
order. An accepted event goes through the queue into a batch, and with it to the collector. Along
the way it is neither lost nor doubled nor overtaken, provided that the consumer has room for a
batch.

Results:

* `Tracked.step`: every move keeps track of the accepted events;
* `orderly_iff`: reporters keep accepted events in order exactly if there is room for their batches;
* `event_lost`: a queue that can be made and a batch that cannot.
-/

namespace InstanceLifecycle

/-! ## Pipelines -/

namespace Pipeline

/-- Why a batch is delivered. -/
inductive Occasion
  /-- It is full. -/
  | full
  | tick
  /-- The reporter ends. -/
  | last
  deriving DecidableEq, Repr

/-- A batch that was handed to delivery. -/
structure Batch where
  occasion : Occasion
  /-- As they were accepted. -/
  events : List Event
  /-- As they are sent. -/
  sent : List Event
  deriving DecidableEq, Repr

end Pipeline

/-- A reporter and what has gone through it. -/
structure Pipeline where
  reporter : Reporter
  accepted : List Event := []
  batches : List Pipeline.Batch := []
  effects : List Effect := []
  deriving Repr

namespace Pipeline

/-- What can happen next. -/
inductive Move
  | offer (e : Event)
  /-- The consumer has a turn at some time. -/
  | turn (now : Nat)
  /-- Its delivery is answered. -/
  | answer (a : DeliveryAnswer)
  /-- The consumer is told to stop. -/
  | stop
  /-- Nobody can offer events any more. -/
  | abandon
  deriving Repr

/-- Why a batch is delivered that is handed over at a stage. -/
def occasion : ConsumerStage → Occasion
  | .received => .full
  | .ticked => .tick
  | _ => .last

/-- The batch that a turn hands over, if there is one. -/
def handed (r s : Reporter) : List Batch :=
  match s.stage with
  | .delivering es _ _ => [⟨occasion r.stage, r.batch, es⟩]
  | _ => []

/-- Takes a move. -/
def step (x : Pipeline) : Move → Pipeline
  | .offer e =>
    let o := x.reporter.offer e
    { x with
      reporter := o.1
      accepted := x.accepted ++ if o.2.isOk then [e] else []
      effects := x.effects ++ [.count (Reporter.offerCounter o.2) 1] }
  | .turn now =>
    match x.reporter.turn? now with
    | none => x
    | some (r, fx) =>
      { x with
        reporter := r
        batches := x.batches ++ handed x.reporter r
        effects := x.effects ++ fx }
  | .answer a =>
    let o := x.reporter.resume a
    { x with reporter := o.1, effects := x.effects ++ o.2 }
  | .stop => { x with reporter := x.reporter.stop }
  | .abandon => { x with reporter := x.reporter.abandon }

/-- Takes some moves. -/
def run (x : Pipeline) (ms : List Move) : Pipeline := ms.foldl step x

/-- What the start satisfies and every move preserves holds after every run. -/
theorem run_induction {P : Pipeline → Prop} {x : Pipeline} (start : P x)
    (step : ∀ y m, P y → P (y.step m)) (ms : List Move) : P (x.run ms) := by
  induction ms generalizing x with
  | nil => exact start
  | cons m ms ih => exact ih (step x m start)

/-! ## Keeping track -/

/-- What is counted about batches: those that were delivered and those that were given up. -/
def settled (fx : List Effect) : Nat :=
  Effect.total .batchDelivered fx + Effect.total .batchFailed fx

/-- What counts neither batches nor accepted events. -/
def Silent (fx : List Effect) : Prop := settled fx = 0 ∧ Effect.total .eventEnqueued fx = 0

theorem settled_append (fx fy : List Effect) : settled (fx ++ fy) = settled fx + settled fy := by
  simp only [settled, Effect.total_append]
  omega

theorem settled_resultEffects (r : Reporter) (n : Nat) (result : Except ReportError Nat) :
    settled (r.resultEffects n result) = 1 ∧
      Effect.total .eventEnqueued (r.resultEffects n result) = 0 := by
  cases result <;> exact ⟨rfl, rfl⟩

theorem settled_endLog (r : Reporter) (isLast : Bool) :
    settled (r.endLog isLast) = 0 ∧ Effect.total .eventEnqueued (r.endLog isLast) = 0 := by
  cases isLast <;> exact ⟨rfl, rfl⟩

/-- Whether a batch is as its occasion says. -/
structure Batch.Fits (capacity : Nat) (client : ClientIdentity) (b : Batch) : Prop where
  nonempty : b.events ≠ []
  full : b.occasion = .full → b.events.length = capacity
  tick : b.occasion = .tick → b.events.length < capacity
  last : b.occasion = .last → b.events.length < 2 * capacity
  sent : b.sent = b.events.map (Event.stamp client)

/-- The accepted events are in the batches, in the batch that is being built and in the queue; what
was handed over is as it should be, and only what is being delivered is not settled. -/
structure Tracked (x : Pipeline) : Prop where
  fits : x.reporter.Fits
  conserved : x.accepted =
    x.batches.flatMap (·.events) ++ (x.reporter.batch ++ x.reporter.queue)
  batches : ∀ b ∈ x.batches, b.Fits x.reporter.capacity x.reporter.client
  /-- The last batch is not handed over before the end. -/
  early : x.reporter.stage.isOver = false → ∀ b ∈ x.batches, b.occasion ≠ .last
  single : ∀ b ∈ x.batches.dropLast, b.occasion ≠ .last
  delivering : ∀ es d isLast, x.reporter.stage = .delivering es d isLast →
    ∃ b, x.batches.getLast? = some b ∧ es = b.sent ∧ (isLast = true ↔ b.occasion = .last)
  settled : settled x.effects + x.reporter.stage.isDelivering.toNat = x.batches.length
  enqueued : Effect.total .eventEnqueued x.effects = x.accepted.length

namespace Tracked

variable {x : Pipeline}

/-! ### Offers -/

theorem note (h : x.Tracked) {fx : List Effect} (silent : Silent fx) :
    Tracked { x with effects := x.effects ++ fx } :=
  { h with
    settled := by simpa [settled_append, silent.1] using h.settled
    enqueued := by simpa [Effect.total_append, silent.2] using h.enqueued }

theorem accept (h : x.Tracked) (opened : x.reporter.closed = false)
    (room : x.reporter.queue.length < x.reporter.capacity) (e : Event) :
    Tracked
      { x with
        reporter := { x.reporter with queue := x.reporter.queue ++ [e] }
        accepted := x.accepted ++ [e]
        effects := x.effects ++ [.count .eventEnqueued 1] } where
  fits := h.fits.enqueue opened room e
  conserved := by simp [h.conserved]
  batches := h.batches
  early := h.early
  single := h.single
  delivering := h.delivering
  settled := by
    simpa [settled_append, Pipeline.settled, Effect.total, Effect.amount] using h.settled
  enqueued := by
    have one : Effect.total .eventEnqueued [.count .eventEnqueued 1] = 1 := rfl
    rw [Effect.total_append, h.enqueued, one, List.length_append, List.length_singleton]

/-- A refused offer changes nothing and is counted. -/
theorem step_offer_of_error {x : Pipeline} {e : Event} {y : ReportError}
    (h : (x.reporter.offer e).2 = .error y) :
    x.step (.offer e) = { x with effects := x.effects ++ [.count .eventDropped 1] } := by
  have same : (x.reporter.offer e).1 = x.reporter := by
    unfold Reporter.offer at h ⊢
    split
    · next ok => simp [ok] at h
    · rfl
  simp [step, h, same, Reporter.offerCounter, Except.isOk, Except.toBool]

theorem offer (h : x.Tracked) (e : Event) : (x.step (.offer e)).Tracked := by
  have refused {y : ReportError} (hy : (x.reporter.offer e).2 = .error y) :
      (x.step (.offer e)).Tracked := by
    rw [step_offer_of_error hy]
    exact h.note ⟨rfl, rfl⟩
  cases hc : x.reporter.closed with
  | true => exact refused (congrArg Prod.snd (Reporter.offer_closed hc e))
  | false =>
    rcases Nat.lt_or_ge x.reporter.queue.length x.reporter.capacity with room | full
    · simp only [step, Reporter.offer_accepted hc room]
      exact h.accept hc room e
    · exact refused (congrArg Prod.snd (Reporter.offer_full hc full e))

/-! ### Turns -/

theorem step_turn {now : Nat} {r : Reporter} {fx : List Effect}
    (ht : x.reporter.turn? now = some (r, fx)) :
    x.step (.turn now) =
      { x with
        reporter := r
        batches := x.batches ++ handed x.reporter r
        effects := x.effects ++ fx } := by
  simp [step, ht]

/-- A turn hands no batch over and drops nothing. -/
theorem quiet (h : x.Tracked) (active : x.reporter.stage.isActive = true) {now : Nat} {r : Reporter}
    {fx : List Effect} (ht : x.reporter.turn? now = some (r, fx)) (fits : r.Fits)
    (same : r.batch ++ r.queue = x.reporter.batch ++ x.reporter.queue)
    (capacity : r.capacity = x.reporter.capacity) (client : r.client = x.reporter.client)
    (free : r.stage.isDelivering = false) (silent : Silent fx) : (x.step (.turn now)).Tracked := by
  obtain ⟨idle, early⟩ := ConsumerStage.idle_of_isActive active
  have none : handed x.reporter r = [] := by
    unfold handed
    split
    · next hr => simp [hr, ConsumerStage.isDelivering] at free
    · rfl
  rw [step_turn ht, none, List.append_nil]
  refine
    { fits := fits
      conserved := by rw [h.conserved, same]
      batches := fun b hb => by rw [capacity, client]; exact h.batches b hb
      early := fun _ => h.early early
      single := h.single
      delivering := fun es d isLast hd => ?_
      settled := ?_
      enqueued := by simpa [Effect.total_append, silent.2] using h.enqueued }
  · have hd : r.stage = .delivering es d isLast := hd
    rw [hd] at free
    cases free
  · have count := h.settled
    rw [idle] at count
    rw [settled_append, silent.1, free]
    exact count

/-- A turn hands the batch over. -/
theorem flush (h : x.Tracked) {s : ConsumerStage} (hs : x.reporter.stage = s)
    (active : s.isActive = true) {now : Nat} {fx : List Effect}
    (ht : x.reporter.turn? now = some (x.reporter.flush s.closes, fx))
    (batch : Batch.Fits x.reporter.capacity x.reporter.client
      ⟨occasion s, x.reporter.batch, x.reporter.batch.map (.stamp x.reporter.client)⟩)
    (last : s.closes = true ↔ occasion s = .last)
    (drained : s.closes = true → x.reporter.queue = []) (silent : Silent fx) :
    (x.step (.turn now)).Tracked := by
  subst hs
  obtain ⟨idle, early⟩ := ConsumerStage.idle_of_isActive active
  rw [step_turn ht]
  refine
    { fits := h.fits.moved rfl (Nat.le_refl _) h.fits.closed ⟨rfl, drained⟩
      conserved := by simp [h.conserved, handed, Reporter.flush]
      batches := fun b hb => ?_
      early := fun open' b hb => ?_
      single := fun b hb => ?_
      delivering := fun es d l hd => ?_
      settled := ?_
      enqueued := by simpa [Effect.total_append, silent.2] using h.enqueued }
  · rcases List.mem_append.mp hb with hb | hb
    · exact h.batches b hb
    · obtain rfl := List.mem_singleton.mp hb
      exact batch
  · rcases List.mem_append.mp hb with hb | hb
    · exact h.early early b hb
    · obtain rfl := List.mem_singleton.mp hb
      intro he
      have final := last.mpr he
      simp [Reporter.flush, ConsumerStage.isOver, final] at open'
  · have earlier : b ∈ x.batches := by simpa [handed, Reporter.flush] using hb
    exact h.early early b earlier
  · obtain ⟨rfl, -, rfl⟩ := ConsumerStage.delivering.inj hd
    exact ⟨_, List.getLast?_concat .., rfl, last⟩
  · have count := h.settled
    rw [idle, Bool.toNat_false] at count
    simp only [settled_append, silent.1, Reporter.flush, ConsumerStage.isDelivering, handed,
      List.length_append, List.length_singleton, Bool.toNat_true]
    omega

/-! ### One stage after the other -/

theorem turn_starting (h : x.Tracked) (hs : x.reporter.stage = .starting) (now : Nat) :
    (x.step (.turn now)).Tracked := by
  obtain ⟨closed, empty⟩ : x.reporter.closed = false ∧ x.reporter.batch = [] := h.fits.at_stage hs
  have ht : x.reporter.turn? now = some
      ({ x.reporter with stage := .waiting, nextTick := now + Reporter.tickInterval }, []) := by
    simp [Reporter.turn?, hs, Reporter.prepare, Nat.not_lt_of_le h.fits.room]
  refine h.quiet (by rw [hs]; rfl) ht (h.fits.moved rfl (Nat.le_refl _) closed ?_) rfl rfl rfl rfl
    ⟨rfl, rfl⟩
  show x.reporter.batch.length < x.reporter.capacity
  rw [empty]
  exact h.fits.pos

/-- What a waiting consumer does: it leaves, takes an event, or looks at its batch. -/
theorem await?_cases {r s : Reporter} {now : Nat} (h : r.await? now = some s) :
    s = { r with stage := .leaving } ∨
      (∃ e rest, r.queue = e :: rest ∧
        s = { r with queue := rest, batch := r.batch ++ [e], stage := .received }) ∨
      s = { r with nextTick := Reporter.tickAfter r.nextTick now, stage := .ticked } := by
  unfold Reporter.await? at h
  split at h
  · exact .inl (Option.some.inj h).symm
  · split at h
    · next e rest hq => exact .inr (.inl ⟨e, rest, hq, (Option.some.inj h).symm⟩)
    · split at h
      · exact .inl (Option.some.inj h).symm
      · split at h
        · exact .inr (.inr (Option.some.inj h).symm)
        · cases h

theorem turn_waiting (h : x.Tracked) (hs : x.reporter.stage = .waiting) (now : Nat) :
    (x.step (.turn now)).Tracked := by
  obtain ⟨closed, small⟩ : x.reporter.closed = false ∧
    x.reporter.batch.length < x.reporter.capacity := h.fits.at_stage hs
  have active : x.reporter.stage.isActive = true := by rw [hs]; rfl
  cases ha : x.reporter.await? now with
  | none =>
    have none : x.reporter.turn? now = none := by simp [Reporter.turn?, hs, ha]
    simp only [step, none]
    exact h
  | some r =>
    have ht : x.reporter.turn? now = some (r, []) := by simp [Reporter.turn?, hs, ha]
    rcases await?_cases ha with rfl | ⟨e, rest, hq, rfl⟩ | rfl
    · exact h.quiet active ht (h.fits.moved rfl (Nat.le_refl _) closed small) rfl rfl rfl rfl
        ⟨rfl, rfl⟩
    · refine h.quiet active ht (h.fits.moved rfl ?_ closed ?_) ?_ rfl rfl rfl ⟨rfl, rfl⟩
      · simp [hq]
      · simpa [ConsumerStage.Holds] using Nat.succ_le_of_lt small
      · simp [hq]
    · exact h.quiet active ht (h.fits.moved rfl (Nat.le_refl _) closed small) rfl rfl rfl rfl
        ⟨rfl, rfl⟩

theorem turn_received (h : x.Tracked) (hs : x.reporter.stage = .received) (now : Nat) :
    (x.step (.turn now)).Tracked := by
  obtain ⟨closed, small⟩ : x.reporter.closed = false ∧
    x.reporter.batch.length ≤ x.reporter.capacity := h.fits.at_stage hs
  have pos := h.fits.pos
  by_cases full : x.reporter.capacity ≤ x.reporter.batch.length
  · have ht : x.reporter.turn? now = some (x.reporter.flush false, []) := by
      simp [Reporter.turn?, hs, Reporter.flushIf, full]
    refine h.flush hs rfl ht ⟨fun empty => ?_, fun _ => Nat.le_antisymm small full,
      nofun, nofun, rfl⟩ ⟨nofun, nofun⟩ nofun ⟨rfl, rfl⟩
    rw [show x.reporter.batch = [] from empty, List.length_nil] at full
    omega
  · have ht : x.reporter.turn? now = some ({ x.reporter with stage := .waiting }, []) := by
      simp [Reporter.turn?, hs, Reporter.flushIf, full]
    exact h.quiet (by rw [hs]; rfl) ht
      (h.fits.moved rfl (Nat.le_refl _) closed (Nat.lt_of_not_le full)) rfl rfl rfl rfl ⟨rfl, rfl⟩

theorem turn_ticked (h : x.Tracked) (hs : x.reporter.stage = .ticked) (now : Nat) :
    (x.step (.turn now)).Tracked := by
  obtain ⟨closed, small⟩ : x.reporter.closed = false ∧
    x.reporter.batch.length < x.reporter.capacity := h.fits.at_stage hs
  cases hb : x.reporter.batch.isEmpty with
  | false =>
    have ht : x.reporter.turn? now = some (x.reporter.flush false, []) := by
      simp [Reporter.turn?, hs, Reporter.flushIf, hb]
    exact h.flush hs rfl ht ⟨List.isEmpty_eq_false_iff.mp hb, nofun, fun _ => small, nofun, rfl⟩
      ⟨nofun, nofun⟩ nofun ⟨rfl, rfl⟩
  | true =>
    have ht : x.reporter.turn? now = some ({ x.reporter with stage := .waiting }, []) := by
      simp [Reporter.turn?, hs, Reporter.flushIf, hb]
    exact h.quiet (by rw [hs]; rfl) ht (h.fits.moved rfl (Nat.le_refl _) closed small) rfl rfl rfl
      rfl ⟨rfl, rfl⟩

theorem turn_leaving (h : x.Tracked) (hs : x.reporter.stage = .leaving) (now : Nat) :
    (x.step (.turn now)).Tracked := by
  obtain ⟨-, small⟩ : x.reporter.closed = false ∧
    x.reporter.batch.length < x.reporter.capacity := h.fits.at_stage hs
  have queue := h.fits.queue
  have ht : x.reporter.turn? now = some
      ({ x.reporter with closed := true, stage := .draining }, []) := by
    simp [Reporter.turn?, hs]
  refine h.quiet (by rw [hs]; rfl) ht (h.fits.moved rfl (Nat.le_refl _) rfl ?_) rfl rfl rfl rfl
    ⟨rfl, rfl⟩
  show x.reporter.batch.length + x.reporter.queue.length < 2 * x.reporter.capacity
  omega

theorem turn_draining (h : x.Tracked) (hs : x.reporter.stage = .draining) (now : Nat) :
    (x.step (.turn now)).Tracked := by
  obtain ⟨closed, small⟩ : x.reporter.closed = true ∧
    x.reporter.batch.length + x.reporter.queue.length < 2 * x.reporter.capacity :=
    h.fits.at_stage hs
  have active : x.reporter.stage.isActive = true := by rw [hs]; rfl
  have ht : x.reporter.turn? now = some x.reporter.drain := by simp [Reporter.turn?, hs]
  cases hq : x.reporter.queue with
  | cons e rest =>
    rw [Reporter.drain_cons hq] at ht
    rw [hq, List.length_cons] at small
    refine h.quiet active ht (h.fits.moved rfl ?_ ?_ ?_) ?_ rfl rfl ?_ ⟨rfl, rfl⟩
    · simp [hq]
    · rw [hs]
      exact closed
    · simp only [hs, ConsumerStage.Holds, List.length_append, List.length_singleton]
      omega
    · simp [hq]
    · simp [hs, ConsumerStage.isDelivering]
  | nil =>
    rw [hq, List.length_nil] at small
    cases hb : x.reporter.batch.isEmpty with
    | true =>
      rw [Reporter.drain_empty hq hb] at ht
      exact h.quiet active ht
        (h.fits.moved rfl (Nat.le_refl _) closed ⟨List.isEmpty_iff.mp hb, hq⟩) rfl rfl rfl rfl
        ⟨rfl, rfl⟩
    | false =>
      rw [Reporter.drain_rest hq hb] at ht
      exact h.flush hs rfl ht
        ⟨List.isEmpty_eq_false_iff.mp hb, (fun full => by cases full), (fun tick => by cases tick),
          fun _ => small, rfl⟩
        ⟨fun _ => rfl, fun _ => rfl⟩ (fun _ => hq) ⟨rfl, rfl⟩

/-- A turn of the consumer keeps track of the accepted events. -/
theorem turn (h : x.Tracked) (now : Nat) : (x.step (.turn now)).Tracked := by
  have idle (none : x.reporter.turn? now = none) : (x.step (.turn now)).Tracked := by
    simp only [step, none]
    exact h
  cases hs : x.reporter.stage with
  | starting => exact h.turn_starting hs now
  | waiting => exact h.turn_waiting hs now
  | received => exact h.turn_received hs now
  | ticked => exact h.turn_ticked hs now
  | leaving => exact h.turn_leaving hs now
  | draining => exact h.turn_draining hs now
  | delivering es d isLast => exact idle (by simp [Reporter.turn?, hs])
  | stopped => exact idle (by simp [Reporter.turn?, hs])
  | failed => exact idle (by simp [Reporter.turn?, hs])

/-! ### Answers -/

/-- A delivery goes on. -/
theorem going (h : x.Tracked) {es : List Event} {d : DeliveryStage} {isLast : Bool}
    (hs : x.reporter.stage = .delivering es d isLast) (d' : DeliveryStage) {fx : List Effect}
    (silent : Silent fx) :
    Tracked
      { x with
        reporter := { x.reporter with stage := .delivering es d' isLast }
        effects := x.effects ++ fx } := by
  obtain ⟨closed, holds⟩ := h.fits.at_stage hs
  have early := h.early
  have settled := h.settled
  rw [hs] at early settled
  refine
    { fits := h.fits.moved rfl (Nat.le_refl _) closed holds
      conserved := h.conserved
      batches := h.batches
      early := early
      single := h.single
      delivering := fun es' d'' l hd => ?_
      settled := by rw [settled_append, silent.1]; exact settled
      enqueued := by simpa [Effect.total_append, silent.2] using h.enqueued }
  obtain ⟨rfl, -, rfl⟩ := ConsumerStage.delivering.inj hd
  exact h.delivering es d isLast hs

/-- A delivery has finished. -/
theorem finished (h : x.Tracked) {es : List Event} {d : DeliveryStage} {isLast : Bool}
    (hs : x.reporter.stage = .delivering es d isLast) {fx : List Effect}
    (one : Pipeline.settled fx = 1) (he : Effect.total .eventEnqueued fx = 0) :
    Tracked
      { x with
        reporter := { x.reporter with stage := if isLast then .stopped else .waiting }
        effects := x.effects ++ fx } := by
  obtain ⟨closed, empty, drained⟩ : x.reporter.closed = isLast ∧ x.reporter.batch = [] ∧
    (isLast = true → x.reporter.queue = []) := h.fits.at_stage hs
  have early := h.early
  have settled := h.settled
  rw [hs] at early settled
  refine
    { fits := h.fits.moved rfl (Nat.le_refl _) ?_ ?_
      conserved := h.conserved
      batches := h.batches
      early := fun open' => ?_
      single := h.single
      delivering := fun es' d' l hd => by cases isLast <;> cases hd
      settled := ?_
      enqueued := by simpa [Effect.total_append, he] using h.enqueued }
  · cases isLast <;> exact closed
  · cases isLast with
    | true => exact ⟨empty, drained rfl⟩
    | false =>
      show x.reporter.batch.length < x.reporter.capacity
      rw [empty]
      exact h.fits.pos
  · cases isLast with
    | true => cases open'
    | false => exact early rfl
  · have free : (if isLast then ConsumerStage.stopped else .waiting).isDelivering = false := by
      cases isLast <;> rfl
    simp only [settled_append, one, free]
    exact settled

theorem answer (h : x.Tracked) (a : DeliveryAnswer) : (x.step (.answer a)).Tracked := by
  cases hs : x.reporter.stage with
  | delivering es d isLast =>
    have quiet (c : Counter) : Effect.total c (x.reporter.courier.resume d a).2 = 0 :=
      x.reporter.courier.total_resume d a c
    cases hr : x.reporter.courier.resume d a with
    | mk d' fx =>
      rw [hr] at quiet
      have silent : Silent fx := ⟨by simp [Pipeline.settled, quiet], quiet _⟩
      by_cases hd : ∃ result, d' = .finished result
      · obtain ⟨result, rfl⟩ := hd
        have done := Reporter.resume_finished hs hr
        have step : x.step (.answer a) =
            { x with
              reporter := (x.reporter.resume a).1
              effects := x.effects ++ (x.reporter.resume a).2 } := rfl
        rw [step, done]
        refine h.finished hs ?_ ?_
        · simp [settled_append, silent.1, settled_resultEffects, settled_endLog]
        · simp [Effect.total_append, silent.2, settled_resultEffects, settled_endLog]
      · have still := Reporter.resume_going hs hr fun result he => hd ⟨result, he⟩
        have step : x.step (.answer a) =
            { x with
              reporter := (x.reporter.resume a).1
              effects := x.effects ++ (x.reporter.resume a).2 } := rfl
        rw [step, still]
        exact h.going hs d' silent
  | _ =>
    have same : x.reporter.resume a = (x.reporter, []) := by simp [Reporter.resume, hs]
    simp only [step, same]
    exact h.note ⟨rfl, rfl⟩

/-- Every move keeps track of the accepted events. -/
protected theorem step (h : x.Tracked) (m : Move) : (x.step m).Tracked := by
  cases m with
  | offer e => exact h.offer e
  | turn now => exact h.turn now
  | answer a => exact h.answer a
  | stop => exact { h with fits := { h.fits with } }
  | abandon => exact { h with fits := { h.fits with } }

end Tracked

/-! ## All of it -/

/-- A reporter as it starts, before anything was offered. -/
def start (name : String) (settings : ReporterSettings) (client : ClientIdentity)
    (target : CollectorTarget) : Pipeline :=
  { reporter := .start name settings client target }

/-- What holds of the events and the batches in a state of a pipeline. -/
structure Orderly (x : Pipeline) : Prop where
  /-- Accepted events are in the batches, in the batch that is being built and in the queue. -/
  conserved : x.accepted =
    x.batches.flatMap (·.events) ++ (x.reporter.batch ++ x.reporter.queue)
  emptied : x.reporter.stage = .stopped → x.reporter.batch = [] ∧ x.reporter.queue = []
  batches : ∀ b ∈ x.batches, b.Fits x.reporter.capacity x.reporter.client
  /-- Only the last batch is delivered because the reporter ends. -/
  single : ∀ b ∈ x.batches.dropLast, b.occasion ≠ .last
  /-- What is being delivered is the batch that was handed over last. -/
  delivering : ∀ es d isLast, x.reporter.stage = .delivering es d isLast →
    ∃ b, x.batches.getLast? = some b ∧ es = b.sent ∧ (isLast = true ↔ b.occasion = .last)
  /-- Each batch but the one that is being delivered was delivered once or given up once. -/
  settled : settled x.effects + x.reporter.stage.isDelivering.toNat = x.batches.length
  enqueued : Effect.total .eventEnqueued x.effects = x.accepted.length
  bounded : x.reporter.queue.length ≤ x.reporter.capacity
  queueFull : ∀ e, (x.reporter.offer e).2 =
      .error (.queueFull x.reporter.name x.reporter.capacity e.kind) ↔
    x.reporter.closed = false ∧ x.reporter.queue.length = x.reporter.capacity
  closed : ∀ e, (x.reporter.offer e).2 = .error (.closed x.reporter.name e.kind) ↔
    x.reporter.closed = true
  /-- The queue is closed when the consumer has left its loop for good. -/
  shut : x.reporter.closed = x.reporter.stage.closes
  refused : ∀ e y, (x.reporter.offer e).2 = .error y →
    x.step (.offer e) = { x with effects := x.effects ++ [.count .eventDropped 1] }

theorem Tracked.orderly {x : Pipeline} (h : x.Tracked) : x.Orderly where
  conserved := h.conserved
  emptied hs := by
    have holds := h.fits.holds
    rw [hs] at holds
    exact holds
  batches := h.batches
  single := h.single
  delivering := h.delivering
  settled := h.settled
  enqueued := h.enqueued
  bounded := h.fits.queue
  queueFull e := by
    cases hc : x.reporter.closed with
    | true => simp [Reporter.offer_closed hc]
    | false =>
      have bound := h.fits.queue
      rcases Nat.lt_or_ge x.reporter.queue.length x.reporter.capacity with room | full
      · simp [Reporter.offer_accepted hc room, Nat.ne_of_lt room]
      · simp [Reporter.offer_full hc full, Nat.le_antisymm bound full]
  closed e := by
    cases hc : x.reporter.closed with
    | true => simp [Reporter.offer_closed hc]
    | false =>
      rcases Nat.lt_or_ge x.reporter.queue.length x.reporter.capacity with room | full
      · simp [Reporter.offer_accepted hc room]
      · simp [Reporter.offer_full hc full]
  shut := h.fits.closed
  refused _ _ hy := Tracked.step_offer_of_error hy

theorem tracked_start {name : String} {settings : ReporterSettings} {client : ClientIdentity}
    {target : CollectorTarget} (room : max settings.queueSize 1 ≤ Reporter.batchLimit) :
    (start name settings client target).Tracked where
  fits := ⟨room, Nat.le_max_right .., Nat.zero_le _, rfl, rfl⟩
  conserved := rfl
  batches b hb := by cases hb
  early _ b hb := by cases hb
  single b hb := by cases hb
  delivering _ _ _ hd := by cases hd
  settled := rfl
  enqueued := rfl

/-- Without room for its batch the consumer fails in its first turn. -/
theorem step_turn_fails {x : Pipeline} (hs : x.reporter.stage = .starting)
    (beyond : Reporter.batchLimit < x.reporter.capacity) (now : Nat) :
    x.step (.turn now) = { x with reporter := x.reporter.fail } := by
  have ht : x.reporter.turn? now = some (x.reporter.fail, []) := by
    simp [Reporter.turn?, hs, Reporter.prepare, beyond]
  have none : handed x.reporter x.reporter.fail = [] := rfl
  rw [Tracked.step_turn ht, none, List.append_nil, List.append_nil]

/-- An event that was accepted before the consumer fails is lost. -/
theorem not_orderly_of_limit_lt {name : String} {settings : ReporterSettings}
    {client : ClientIdentity} {target : CollectorTarget}
    (beyond : Reporter.batchLimit < max settings.queueSize 1) (e : Event) :
    ¬((start name settings client target).run [.offer e, .turn 0]).Orderly := by
  have offered : (start name settings client target).step (.offer e) =
      { reporter := { Reporter.start name settings client target with queue := [e] }
        accepted := [e]
        effects := [.count .eventEnqueued 1] } := by
    have pos : 0 < max settings.queueSize 1 := Nat.le_max_right ..
    have accepted := Reporter.offer_accepted (r := .start name settings client target) rfl pos e
    simp only [step, start, accepted]
    rfl
  have failed : (start name settings client target).run [.offer e, .turn 0] =
      { reporter := { Reporter.start name settings client target with queue := [e] }.fail
        accepted := [e]
        effects := [.count .eventEnqueued 1] } := by
    show ((start name settings client target).step (.offer e)).step (.turn 0) = _
    rw [offered, step_turn_fails rfl beyond]
  intro h
  have lost := h.conserved
  rw [failed] at lost
  simp [Reporter.fail] at lost

/-- Reporters keep accepted events in order exactly if there is room for their batches. -/
theorem orderly_iff (name : String) (settings : ReporterSettings) (client : ClientIdentity)
    (target : CollectorTarget) :
    (∀ ms, ((start name settings client target).run ms).Orderly) ↔
      max settings.queueSize 1 ≤ Reporter.batchLimit := by
  constructor
  · intro h
    refine Nat.le_of_not_lt fun beyond => ?_
    let e : Event := .ofInstance .onlineStart "" ⟨"", "", "", 0, none, none, none, none⟩ none
    exact not_orderly_of_limit_lt beyond e (h _)
  · exact fun room ms => (run_induction (tracked_start room) (fun _ m h => h.step m) ms).orderly

/-- A queue that can be made and a batch that cannot: an accepted event is lost. -/
theorem event_lost :
    let settings : ReporterSettings :=
      { address := some "collector:9091", queueSize := 1152921504606846976 }
    let target : CollectorTarget := .fixed "http://collector:9091/lossless/events"
    let e : Event := .ofInstance .onlineStart "" ⟨"default", "echo", "127.0.0.1", 8080, none, none,
      none, none⟩ none
    let x := (start "pushgateway" settings {} target).run [.offer e, .turn 0, .stop]
    (Reporter.start? "pushgateway" settings {} target).isSome = true ∧
      x.accepted = [e] ∧ x.batches = [] ∧ x.reporter.batch = [] ∧ x.reporter.queue = [] := by
  decide +kernel

end Pipeline

end InstanceLifecycle
