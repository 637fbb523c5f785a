import Mathlib.Order.Bounds.Basic
import InstanceLifecycle.Proofs.Event.Attempts

/-!
# How often a batch is posted

A delivery makes attempts until the first one that is accepted, or until the last one has failed.
Each of them looks the collector up anew and posts the same events at most once, and there is one
wait between two attempts.

Results:

* `Delivering.step`: how far the attempts have come, kept by every move;
* `Delivering.ends`: a delivery comes to an end;
* `Reporter.delivers_within_three`: a reporter that was started makes at most three attempts and
  counts the batch once.
-/

namespace InstanceLifecycle

namespace DeliveryWatch

variable {τ : Timer} {o : CollectorAnswers} {w u : DeliveryWatch}

/-! ## The course of a delivery -/

section Course

variable (τ) (o) (r : Reporter) (isLast : Bool) (arrival : Nat)

/-- The reporter is at this stage of the delivery, with nothing in its batch. -/
structure Carries (w : DeliveryWatch) (d : DeliveryStage) : Prop where
  courier : w.reporter.courier = r.courier
  batch : w.reporter.batch = []
  stage : w.reporter.stage = .delivering r.load d isLast
  returned : w.returned = none

/-- What was done altogether: the lookups, posts and waits of so many attempts. -/
structure Account (w : DeliveryWatch) (asked posted waited : Nat) (effects : List Effect) :
    Prop where
  lookups : w.lookups = o.lookups r.courier τ arrival asked
  posts : w.posts = o.posts r.courier τ arrival r.load posted
  waits : w.waits = o.waits r.courier τ arrival waited
  effects : w.effects = effects

/-- The delivery has returned a result after so many attempts, with one wait after each of them but
the last, and the batch was counted. -/
structure Ended (w : DeliveryWatch) (made : Nat) (result : Except ReportError Nat)
    (delivered failed : Nat) : Prop where
  returned : w.returned = some result
  batch : w.reporter.batch = []
  stage : w.reporter.stage = if isLast then .stopped else .waiting
  since : w.since = o.endedAt r.courier τ arrival (made - 1)
  account : Account τ o r arrival w made made (made - 1) (o.warnings r.courier made ++
    r.resultEffects r.load.length result ++ r.endLog isLast)
  delivered : w.total .batchDelivered = delivered
  failed : w.total .batchFailed = failed

/-- How far a delivery has come: it looks for a collector, posts or pauses in or after an attempt,
or it has ended with an attempt that was accepted or with the last one. -/
inductive Delivering (w : DeliveryWatch) : Prop
  | locating (n : Nat) (service : ServiceKey) (path : String)
    (target : r.courier.target = .discovered service path)
    (carries : Carries r isLast w (.locating (n + 1) service path (Reporter.body r.load)))
    (room : n < r.courier.backoff.attempts) (failed : ∀ k ∈ o.accepted r.courier, n < k)
    (since : w.since = o.begunAt r.courier τ arrival n)
    (now_le : w.now ≤ w.since + o.locatedMillis (n + 1))
    (account : Account τ o r arrival w (n + 1) n n (o.warnings r.courier n))
  | posting (n : Nat) (url : String) (address : o.address r.courier (n + 1) = .ok url)
    (carries : Carries r isLast w (.posting (n + 1) url (Reporter.body r.load)))
    (room : n < r.courier.backoff.attempts) (failed : ∀ k ∈ o.accepted r.courier, n < k)
    (since : w.since = o.postedAt r.courier τ arrival n)
    (now_le : w.now ≤ w.since + o.postedMillis (n + 1))
    (account : Account τ o r arrival w (n + 1) (n + 1) n (o.warnings r.courier n))
  | waiting (n : Nat)
    (carries : Carries r isLast w
      (.waiting (n + 1) (r.courier.backoff.base.scale (n + 1)) (Reporter.body r.load)))
    (room : n + 1 < r.courier.backoff.attempts) (failed : ∀ k ∈ o.accepted r.courier, n + 1 < k)
    (since : w.since = o.endedAt r.courier τ arrival n)
    (now_le : w.now ≤ w.since + τ.millis w.since (r.courier.backoff.base.scale (n + 1)))
    (account : Account τ o r arrival w (n + 1) (n + 1) (n + 1) (o.warnings r.courier (n + 1)))
  | delivered (n : Nat) (room : n < r.courier.backoff.attempts)
    (failed : ∀ k ∈ o.accepted r.courier, n < k) (accepts : n + 1 ∈ o.accepted r.courier)
    (ended : Ended τ o r isLast arrival w (n + 1) (.ok (n + 1)) 1 0)
  | dropped (n : Nat) (reason : String) (spent : n + 1 = r.courier.backoff.attempts)
    (failed : ∀ k ∈ o.accepted r.courier, n + 1 < k)
    (why : o.failure? r.courier (n + 1) = some reason)
    (ended : Ended τ o r isLast arrival w (n + 1) (.error (.delivery (n + 1) reason)) 0 1)

end Course

section

variable {r : Reporter} {isLast : Bool} {arrival : Nat}

/-! ## Waiting -/

theorem Carries.idle {d : DeliveryStage} (h : Carries r isLast w d) (i : Idles τ o w u) :
    Carries r isLast u d where
  courier := i.courier.trans h.courier
  batch := i.batch.trans h.batch
  stage := i.stage.trans h.stage
  returned := by rw [i.same]; exact h.returned

theorem Carries.delivery? {d : DeliveryStage} (h : Carries r isLast w d) :
    w.reporter.delivery? = some (r.load, d) := by
  rw [Reporter.delivery?, h.stage]

/-- A delivery that waits is not late. -/
theorem Carries.now_le {d : DeliveryStage} (h : Carries r isLast w d) (i : Idles τ o w u)
    {x : Nat × DeliveryAnswer} (awaited : d.awaited? τ o w.since = some x)
    (le : w.now ≤ w.since + x.1) :
    u.now ≤ u.since + x.1 := by
  have since : u.since = w.since := by rw [i.same]
  rw [since]
  exact i.calm (r.load, d) h.delivery? x awaited le

theorem Account.idle {asked posted waited : Nat} {fx : List Effect}
    (h : Account τ o r arrival w asked posted waited fx) (i : Idles τ o w u) :
    Account τ o r arrival u asked posted waited fx := by
  rw [i.same]
  exact ⟨h.lookups, h.posts, h.waits, h.effects⟩

theorem Ended.idle {made delivered failed : Nat} {result : Except ReportError Nat}
    (h : Ended τ o r isLast arrival w made result delivered failed) (i : Idles τ o w u) :
    Ended τ o r isLast arrival u made result delivered failed where
  returned := by rw [i.same]; exact h.returned
  batch := i.batch.trans h.batch
  stage := i.stage.trans h.stage
  since := by rw [i.same]; exact h.since
  account := h.account.idle i
  delivered := by rw [i.same]; exact h.delivered
  failed := by rw [i.same]; exact h.failed

theorem Ended.delivery? {made delivered failed : Nat} {result : Except ReportError Nat}
    (h : Ended τ o r isLast arrival w made result delivered failed) :
    w.reporter.delivery? = none := by
  rw [Reporter.delivery?, h.stage]
  cases isLast <;> rfl

theorem Delivering.idle (h : Delivering τ o r isLast arrival w) (i : Idles τ o w u) :
    Delivering τ o r isLast arrival u := by
  have since : u.since = w.since := by rw [i.same]
  cases h with
  | locating n service path target carries room failed at_ now_le account =>
    exact .locating n service path target (carries.idle i) room failed (since.trans at_)
      (carries.now_le i rfl now_le) (account.idle i)
  | posting n url address carries room failed at_ now_le account =>
    exact .posting n url address (carries.idle i) room failed (since.trans at_)
      (carries.now_le i rfl now_le) (account.idle i)
  | waiting n carries room failed at_ now_le account =>
    refine .waiting n (carries.idle i) room failed (since.trans at_) ?_ (account.idle i)
    exact since ▸ carries.now_le i rfl now_le
  | delivered n room failed accepts ended =>
    exact .delivered n room failed accepts (ended.idle i)
  | dropped n reason spent failed why ended =>
    exact .dropped n reason spent failed why (ended.idle i)

/-! ## Being told -/

/-- A delivery that goes on enters the next stage. -/
theorem Carries.tell_going {d d' : DeliveryStage} {a : DeliveryAnswer} {fx : List Effect}
    (h : Carries r isLast w d) (resumes : r.courier.resume d a = (d', fx))
    (going : ∀ result, d' ≠ .finished result) :
    Carries r isLast (w.tell d a) d' ∧ w.tell d a =
      { w with
        reporter := { w.reporter with stage := .delivering r.load d' isLast }
        since := w.now
        lookups := w.lookups ++ (d'.lookup?.map (w.now, ·)).toList
        posts := w.posts ++ (d'.post?.map (w.now, ·)).toList
        waits := w.waits ++ (d'.pause?.map (w.now, ·)).toList
        effects := w.effects ++ fx } := by
  rw [← h.courier] at resumes
  have unfinished : d'.result? = w.returned := by
    rw [h.returned]
    cases d' with
    | finished result => exact absurd rfl (going result)
    | _ => rfl
  have enters : w.tell d a = w.enter
      ({ w.reporter with stage := .delivering r.load d' isLast }, fx) w.returned := by
    rw [tell, Reporter.resume_going h.stage resumes going, resumes, unfinished]
  exact ⟨enters ▸ ⟨h.courier, h.batch, rfl, h.returned⟩, enters⟩

/-- A delivery that ends gives the reporter back to its queue. -/
theorem Carries.tell_finished {d : DeliveryStage} {a : DeliveryAnswer} {fx : List Effect}
    {result : Except ReportError Nat} (h : Carries r isLast w d)
    (resumes : r.courier.resume d a = (.finished result, fx)) :
    w.tell d a =
      { w with
        reporter := { w.reporter with stage := if isLast then .stopped else .waiting }
        since := w.now
        effects := w.effects ++ (fx ++ r.resultEffects r.load.length result ++ r.endLog isLast)
        returned := some result } := by
  rw [← h.courier] at resumes
  have same : w.reporter.resultEffects r.load.length result ++ w.reporter.endLog isLast =
      r.resultEffects r.load.length result ++ r.endLog isLast := by
    unfold Reporter.resultEffects Reporter.endLog
    rw [h.courier]
  rw [tell, Reporter.resume_finished h.stage resumes, resumes, List.append_assoc, same,
    ← List.append_assoc]
  cases isLast <;> simp [enter, Reporter.delivery?, DeliveryStage.result?]

/-- An attempt begins with a lookup, or with a post where the address is fixed. -/
theorem begins {n : Nat}
    (carries : Carries r isLast w (r.courier.attempt (n + 1) (Reporter.body r.load)))
    (room : n < r.courier.backoff.attempts) (failed : ∀ k ∈ o.accepted r.courier, n < k)
    (since : w.since = o.begunAt r.courier τ arrival n) (now_eq : w.now = w.since)
    (lookups : w.lookups = o.lookups r.courier τ arrival n ++
      ((r.courier.attempt (n + 1) (Reporter.body r.load)).lookup?.map (w.now, ·)).toList)
    (posts : w.posts = o.posts r.courier τ arrival r.load n ++
      ((r.courier.attempt (n + 1) (Reporter.body r.load)).post?.map (w.now, ·)).toList)
    (waits : w.waits = o.waits r.courier τ arrival n)
    (effects : w.effects = o.warnings r.courier n) :
    Delivering τ o r isLast arrival w := by
  rw [now_eq, since] at lookups posts
  cases target : r.courier.target with
  | fixed url =>
    have begun (body : String) : r.courier.attempt (n + 1) body = .posting (n + 1) url body := by
      rw [Courier.attempt, target]
    have address : o.address r.courier (n + 1) = .ok url := by
      rw [CollectorAnswers.address, target]
    have sent : o.postedAt r.courier τ arrival n = o.begunAt r.courier τ arrival n := by
      rw [CollectorAnswers.postedAt, CollectorAnswers.lookupMillis, target]
      rfl
    rw [begun] at carries lookups posts
    refine .posting n url address carries room failed (since.trans sent.symm) (by omega)
      ⟨?_, ?_, waits, effects⟩
    · rw [lookups, CollectorAnswers.lookups_succ, target]
      rfl
    · rw [posts, CollectorAnswers.posts_succ, address, sent]
      rfl
  | discovered service path =>
    have begun (body : String) :
        r.courier.attempt (n + 1) body = .locating (n + 1) service path body := by
      rw [Courier.attempt, target]
    rw [begun] at carries lookups posts
    refine .locating n service path target carries room failed since (by omega)
      ⟨?_, posts.trans (List.append_nil _), waits, effects⟩
    rw [lookups, CollectorAnswers.lookups_succ, target]
    rfl

/-- After an attempt that failed the delivery pauses, or ends if that was the last one. -/
theorem Carries.fails {n : Nat} {d : DeliveryStage} {a : DeliveryAnswer} {reason : String}
    (h : Carries r isLast w d) (room : n < r.courier.backoff.attempts)
    (failed : ∀ k ∈ o.accepted r.courier, n < k)
    (why : o.failure? r.courier (n + 1) = some reason)
    (resumes : r.courier.resume d a = r.courier.fail (n + 1) reason (Reporter.body r.load))
    (now_eq : w.now = o.endedAt r.courier τ arrival n)
    (account : Account τ o r arrival w (n + 1) (n + 1) n (o.warnings r.courier n)) :
    Delivering τ o r isLast arrival (w.tell d a) := by
  have fails : ∀ k ∈ o.accepted r.courier, n + 1 < k := fun k accepts => by
    refine Nat.lt_of_le_of_ne (failed k accepts) ?_
    rintro rfl
    exact absurd (why.symm.trans accepts.2) (by simp)
  have logged : o.warnings r.courier (n + 1) =
      o.warnings r.courier n ++ (r.courier.fail (n + 1) reason (Reporter.body r.load)).2 := by
    rw [CollectorAnswers.warnings_succ, why]
    rfl
  by_cases pauses : n + 1 < r.courier.backoff.attempts
  · have stage := r.courier.fail_pauses reason (Reporter.body r.load) pauses
    obtain ⟨carries, told⟩ := h.tell_going (resumes.trans (Prod.ext stage rfl)) (by simp)
    rw [told] at carries ⊢
    refine .waiting n carries pauses fails now_eq (Nat.le_add_right ..) ⟨?_, ?_, ?_, ?_⟩
    · exact (List.append_nil _).trans account.lookups
    · exact (List.append_nil _).trans account.posts
    · rw [CollectorAnswers.waits_succ, ← account.waits, ← now_eq]
      rfl
    · rw [logged, ← account.effects]
  · have spent : n + 1 = r.courier.backoff.attempts := by omega
    have stage := r.courier.fail_last reason (Reporter.body r.load) spent
    have told := h.tell_finished (resumes.trans (Prod.ext stage rfl))
    have effects : w.effects ++ ((r.courier.fail (n + 1) reason (Reporter.body r.load)).2 ++
        r.resultEffects r.load.length (.error (.delivery (n + 1) reason)) ++ r.endLog isLast) =
        o.warnings r.courier (n + 1) ++
          r.resultEffects r.load.length (.error (.delivery (n + 1) reason)) ++
            r.endLog isLast := by
      rw [logged, ← account.effects]
      simp only [List.append_assoc]
    rw [effects] at told
    rw [told]
    refine .dropped n reason spent fails why ⟨rfl, h.batch, rfl, now_eq,
      ⟨account.lookups, account.posts, account.waits, rfl⟩, ?_, ?_⟩ <;>
    · simp only [total, Effect.total_append, CollectorAnswers.total_warnings]
      cases isLast <;> rfl

/-- An attempt that is accepted ends the delivery. -/
theorem Carries.accepts {n : Nat} {d : DeliveryStage} {a : DeliveryAnswer}
    (h : Carries r isLast w d) (room : n < r.courier.backoff.attempts)
    (failed : ∀ k ∈ o.accepted r.courier, n < k) (success : o.failure? r.courier (n + 1) = none)
    (resumes : r.courier.resume d a = (.finished (.ok (n + 1)), []))
    (now_eq : w.now = o.endedAt r.courier τ arrival n)
    (account : Account τ o r arrival w (n + 1) (n + 1) n (o.warnings r.courier n)) :
    Delivering τ o r isLast arrival (w.tell d a) := by
  have logged : o.warnings r.courier (n + 1) = o.warnings r.courier n := by
    rw [CollectorAnswers.warnings_succ, success]
    exact List.append_nil _
  have told := h.tell_finished resumes
  rw [List.nil_append, ← List.append_assoc, account.effects, ← logged] at told
  rw [told]
  refine .delivered n room failed ⟨Nat.le_add_left .., success⟩ ⟨rfl, h.batch, rfl, now_eq,
    ⟨account.lookups, account.posts, account.waits, rfl⟩, ?_, ?_⟩ <;>
  · simp only [total, Effect.total_append, CollectorAnswers.total_warnings]
    cases isLast <;> rfl

/-- A lookup that finds an address is followed by a post to it. -/
theorem resume_located_ok {n : Nat} {service : ServiceKey} {path url : String} (body : String)
    (target : r.courier.target = .discovered service path)
    (address : o.address r.courier n = .ok url) :
    r.courier.resume (.locating n service path body) (.located (o.located n)) =
      (.posting n url body, []) := by
  rw [CollectorAnswers.address, target] at address
  revert address
  simp only [Courier.resume]
  rcases o.located n with e | _ | e <;> simp +contextual

/-- A lookup that finds no address is an attempt that failed. -/
theorem resume_located_error {n : Nat} {service : ServiceKey} {path reason : String} (body : String)
    (target : r.courier.target = .discovered service path)
    (address : o.address r.courier n = .error reason) :
    r.courier.resume (.locating n service path body) (.located (o.located n)) =
      r.courier.fail n reason body := by
  rw [CollectorAnswers.address, target] at address
  revert address
  simp only [Courier.resume]
  rcases o.located n with e | _ | e <;> simp +contextual [eq_comm]

/-- When the lookup has been answered the delivery posts, or its attempt has failed. -/
theorem Carries.located {n : Nat} {service : ServiceKey} {path : String}
    (h : Carries r isLast w (.locating (n + 1) service path (Reporter.body r.load)))
    (target : r.courier.target = .discovered service path) (room : n < r.courier.backoff.attempts)
    (failed : ∀ k ∈ o.accepted r.courier, n < k) (now_eq : w.now = o.postedAt r.courier τ arrival n)
    (account : Account τ o r arrival w (n + 1) n n (o.warnings r.courier n)) :
    Delivering τ o r isLast arrival
      (w.tell (.locating (n + 1) service path (Reporter.body r.load))
        (.located (o.located (n + 1)))) := by
  cases address : o.address r.courier (n + 1) with
  | error reason =>
    have why : o.failure? r.courier (n + 1) = some reason := by
      rw [CollectorAnswers.failure?, address]
    have ended : w.now = o.endedAt r.courier τ arrival n := by
      rw [CollectorAnswers.endedAt, CollectorAnswers.postMillis, address]
      exact now_eq
    have posts : w.posts = o.posts r.courier τ arrival r.load (n + 1) := by
      rw [CollectorAnswers.posts_succ, address]
      exact account.posts.trans (List.append_nil _).symm
    exact h.fails room failed why (resume_located_error _ target address) ended
      ⟨account.lookups, posts, account.waits, account.effects⟩
  | ok url =>
    obtain ⟨posts, told⟩ := h.tell_going (resume_located_ok _ target address) (by simp)
    rw [told] at posts ⊢
    refine .posting n url address posts room failed now_eq (Nat.le_add_right ..) ⟨?_, ?_, ?_, ?_⟩
    · exact (List.append_nil _).trans account.lookups
    · rw [CollectorAnswers.posts_succ, address, ← account.posts, ← now_eq]
      rfl
    · exact (List.append_nil _).trans account.waits
    · exact (List.append_nil _).trans account.effects

/-- When the post has been answered the delivery has ended, or its attempt has failed. -/
theorem Carries.posted {n : Nat} {url : String}
    (h : Carries r isLast w (.posting (n + 1) url (Reporter.body r.load)))
    (address : o.address r.courier (n + 1) = .ok url) (room : n < r.courier.backoff.attempts)
    (failed : ∀ k ∈ o.accepted r.courier, n < k) (now_eq : w.now = o.endedAt r.courier τ arrival n)
    (account : Account τ o r arrival w (n + 1) (n + 1) n (o.warnings r.courier n)) :
    Delivering τ o r isLast arrival
      (w.tell (.posting (n + 1) url (Reporter.body r.load)) (.posted (o.posted (n + 1)))) := by
  cases reply : o.posted (n + 1) with
  | error reason =>
    refine h.fails room failed ?_ rfl now_eq account
    simp only [CollectorAnswers.failure?, address, reply]
  | ok s =>
    cases success : s.isSuccess with
    | false =>
      have why : o.failure? r.courier (n + 1) =
          some s!"collector {url} answered {s.render}" := by
        simp [CollectorAnswers.failure?, address, reply, success]
      refine h.fails room failed why ?_ now_eq account
      simp [Courier.resume, success]
    | true =>
      refine h.accepts room failed ?_ ?_ now_eq account
      · simp [CollectorAnswers.failure?, address, reply, success]
      · exact r.courier.resume_posted_success (n + 1) url _ success

/-- After a pause the next attempt begins. -/
theorem Carries.elapsed {n : Nat} {d : Duration}
    (h : Carries r isLast w (.waiting n d (Reporter.body r.load)))
    (room : n < r.courier.backoff.attempts) (failed : ∀ k ∈ o.accepted r.courier, n < k)
    (now_eq : w.now = o.begunAt r.courier τ arrival n)
    (account : Account τ o r arrival w n n n (o.warnings r.courier n)) :
    Delivering τ o r isLast arrival (w.tell (.waiting n d (Reporter.body r.load)) .elapsed) := by
  have going (body : String) (result : Except ReportError Nat) :
      r.courier.attempt (n + 1) body ≠ .finished result := by
    unfold Courier.attempt
    cases r.courier.target <;> simp
  have pauses (body : String) : (r.courier.attempt (n + 1) body).pause? = none := by
    unfold Courier.attempt
    cases r.courier.target <;> rfl
  obtain ⟨attempts, told⟩ := h.tell_going (a := .elapsed) rfl (going _)
  rw [told] at attempts ⊢
  refine begins attempts room failed now_eq rfl ?_ ?_ ?_ ?_
  · rw [← account.lookups]
  · rw [← account.posts]
  · rw [← account.waits, pauses]
    exact List.append_nil _
  · exact (List.append_nil _).trans account.effects

/-! ## Steps -/

theorem delivering_start : Delivering τ o r isLast arrival (start r isLast arrival) := by
  refine begins (n := 0) ⟨rfl, rfl, rfl, rfl⟩ r.courier.backoff.one_le_attempts
    (fun k accepts => accepts.1) rfl rfl ?_ ?_ ?_ rfl <;>
  · simp only [start, enter, Reporter.delivery?, Reporter.flush, Courier.attempt]
    cases r.courier.target <;> rfl

theorem Delivering.told (h : Delivering τ o r isLast arrival w) {es : List Event} {d : DeliveryStage}
    {x : Nat × DeliveryAnswer} (underway : w.reporter.delivery? = some (es, d))
    (awaited : d.awaited? τ o w.since = some x) (due : w.since + x.1 ≤ w.now) :
    Delivering τ o r isLast arrival (w.tell d x.2) := by
  cases h with
  | locating n service path target carries room failed since now_le account =>
    obtain ⟨-, rfl⟩ := Prod.mk.inj (Option.some.inj (carries.delivery?.symm.trans underway))
    obtain rfl := Option.some.inj awaited
    have lookupMillis : o.lookupMillis r.courier (n + 1) = o.locatedMillis (n + 1) := by
      rw [CollectorAnswers.lookupMillis, target]
    refine carries.located target room failed ?_ account
    rw [CollectorAnswers.postedAt, lookupMillis, ← since]
    exact Nat.le_antisymm now_le due
  | posting n url address carries room failed since now_le account =>
    obtain ⟨-, rfl⟩ := Prod.mk.inj (Option.some.inj (carries.delivery?.symm.trans underway))
    obtain rfl := Option.some.inj awaited
    refine carries.posted address room failed ?_ account
    rw [CollectorAnswers.endedAt, CollectorAnswers.postMillis, address, ← since]
    exact Nat.le_antisymm now_le due
  | waiting n carries room failed since now_le account =>
    obtain ⟨-, rfl⟩ := Prod.mk.inj (Option.some.inj (carries.delivery?.symm.trans underway))
    obtain rfl := Option.some.inj awaited
    refine carries.elapsed room failed ?_ account
    rw [since] at now_le due
    exact Nat.le_antisymm now_le due
  | delivered n room failed accepts ended =>
    rw [ended.delivery?] at underway
    cases underway
  | dropped n reason spent failed why ended =>
    rw [ended.delivery?] at underway
    cases underway

theorem Delivering.step (h : Delivering τ o r isLast arrival w) (m : Moves τ o w u) :
    Delivering τ o r isLast arrival u := by
  rcases m.idles_or_told with idles | ⟨es, d, x, underway, awaited, due, rfl⟩
  · exact h.idle idles
  · exact h.told underway awaited due

/-! ## Ends -/

/-- How many lookups, posts and waits were begun. -/
def work (w : DeliveryWatch) : Nat := w.lookups.length + w.posts.length + w.waits.length

theorem Account.work_le {asked posted waited : Nat} {fx : List Effect}
    (h : Account τ o r arrival w asked posted waited fx) : w.work ≤ asked + posted + waited := by
  rw [work, h.lookups, h.posts, h.waits]
  exact o.length_records_le r.courier τ arrival r.load asked posted waited

theorem Delivering.work_le (h : Delivering τ o r isLast arrival w) :
    w.work ≤ 3 * r.courier.backoff.attempts := by
  cases h with
  | locating n service path target carries room failed since now_le account =>
    have := account.work_le
    omega
  | posting n url address carries room failed since now_le account =>
    have := account.work_le
    omega
  | waiting n carries room failed since now_le account =>
    have := account.work_le
    omega
  | delivered n room failed accepts ended =>
    have := ended.account.work_le
    omega
  | dropped n reason spent failed why ended =>
    have := ended.account.work_le
    omega

/-- A delivery has returned, or it waits for something. -/
theorem Delivering.returned_or_waits (h : Delivering τ o r isLast arrival w) :
    (∃ result, w.returned = some result) ∨
      ∃ d x, Carries r isLast w d ∧ d.awaited? τ o w.since = some x ∧ w.now ≤ w.since + x.1 := by
  cases h with
  | locating n service path target carries room failed since now_le account =>
    exact .inr ⟨_, _, carries, rfl, now_le⟩
  | posting n url address carries room failed since now_le account =>
    exact .inr ⟨_, _, carries, rfl, now_le⟩
  | waiting n carries room failed since now_le account =>
    exact .inr ⟨_, _, carries, rfl, now_le⟩
  | delivered n room failed accepts ended => exact .inl ⟨_, ended.returned⟩
  | dropped n reason spent failed why ended => exact .inl ⟨_, ended.returned⟩

/-- A delivery is told what it waits for, at the moment when that comes. -/
theorem Carries.reaches_told {d : DeliveryStage} {x : Nat × DeliveryAnswer}
    (h : Carries r isLast w d) (awaited : d.awaited? τ o w.since = some x)
    (now_le : w.now ≤ w.since + x.1) :
    Reaches τ o w ({ w with now := w.since + x.1 }.tell d x.2) := by
  have passes : Moves τ o w { w with now := w.since + x.1 } := by
    have moves := Moves.pass (o := o) (w := w) (w.since + x.1 - w.now) fun d' hd y hy => by
      obtain rfl := Option.some.inj (h.delivery?.symm.trans hd)
      obtain rfl := Option.some.inj (awaited.symm.trans hy)
      omega
    rwa [Nat.add_sub_cancel' now_le] at moves
  exact .tail (.single passes) (.told h.delivery? awaited (Nat.le_refl _))

/-- A delivery that is told something returns or begins a lookup, a post or a wait. -/
theorem Carries.returns_or_works {d : DeliveryStage} (h : Carries r isLast w d)
    (a : DeliveryAnswer) :
    (∃ result, (w.tell d a).returned = some result) ∨ (w.tell d a).work = w.work + 1 := by
  generalize hs : r.courier.resume d a = s
  obtain ⟨d', fx⟩ := s
  cases d' with
  | finished result =>
    rw [h.tell_finished hs]
    exact .inl ⟨result, rfl⟩
  | locating | posting | waiting =>
    rw [(h.tell_going hs (by simp)).2]
    refine .inr ?_
    simp only [work, DeliveryStage.lookup?, DeliveryStage.post?, DeliveryStage.pause?,
      List.length_append, Option.map_some, Option.map_none, Option.toList, List.length_singleton,
      List.length_nil]
    omega

/-- A delivery comes to an end. -/
theorem Delivering.ends (h : Delivering τ o r isLast arrival w) :
    ∃ u result, Reaches τ o w u ∧ u.returned = some result := by
  generalize left : 3 * r.courier.backoff.attempts - w.work = k
  induction k using Nat.strongRecOn generalizing w with
  | ind k ih =>
    rcases h.returned_or_waits with ⟨result, returned⟩ | ⟨d, x, carries, awaited, now_le⟩
    · exact ⟨w, result, .refl, returned⟩
    · have run := carries.reaches_told awaited now_le
      have later : Carries r isLast { w with now := w.since + x.1 } d :=
        ⟨carries.courier, carries.batch, carries.stage, carries.returned⟩
      have told := run.keeps h Delivering.step
      rcases later.returns_or_works x.2 with ⟨result, returned⟩ | works
      · exact ⟨_, result, run, returned⟩
      · have room := told.work_le
        have more : ({ w with now := w.since + x.1 }.tell d x.2).work = w.work + 1 := works
        obtain ⟨u, result, rest, returned⟩ := ih _ (by omega) told rfl
        exact ⟨u, result, run.trans rest, returned⟩

end

/-! ## Attempts within a budget -/

/-- What becomes of a batch for which so many attempts may be made. -/
structure DeliversWithin (budget : Nat) (τ : Timer) (o : CollectorAnswers) (r : Reporter)
    (isLast : Bool) (arrival : Nat) : Prop where
  /-- The delivery returns. -/
  ends : ∀ w, Reaches τ o (start r isLast arrival) w →
    ∃ u result, Reaches τ o w u ∧ u.returned = some result
  /-- Nothing is in the batch while it goes on or afterwards. -/
  empty : ∀ w, Reaches τ o (start r isLast arrival) w → w.reporter.batch = []
  /-- It ends with the first attempt that is accepted, if the budget reaches so far. -/
  accepted : ∀ w, Reaches τ o (start r isLast arrival) w → ∀ result, w.returned = some result →
    ∀ k, IsLeast (o.accepted r.courier) k → k ≤ budget →
      Ended τ o r isLast arrival w k (.ok k) 1 0
  /-- Else it ends with the last attempt and the reason why that one failed. -/
  dropped : ∀ w, Reaches τ o (start r isLast arrival) w → ∀ result, w.returned = some result →
    (∀ k ∈ o.accepted r.courier, budget < k) → ∃ reason, o.failure? r.courier budget = some reason ∧
      Ended τ o r isLast arrival w budget (.error (.delivery budget reason)) 0 1
  /-- An attempt begins when the wait before it is over, as long as the clock can represent the end of
  that wait. -/
  spaced : τ.NeverEarly → τ.InTime → ∀ n,
    τ.Reaches (o.endedAt r.courier τ arrival n) (r.courier.backoff.base.scale (n + 1)) →
      o.begunAt r.courier τ arrival (n + 1) = o.endedAt r.courier τ arrival n +
        (r.courier.backoff.base.scale (n + 1)).ceilMillis

section

variable {r : Reporter} {isLast : Bool} {arrival : Nat}

theorem Delivering.batch (h : Delivering τ o r isLast arrival w) : w.reporter.batch = [] := by
  cases h with
  | locating n service path target carries => exact carries.batch
  | posting n url address carries => exact carries.batch
  | waiting n carries => exact carries.batch
  | delivered n room failed accepts ended => exact ended.batch
  | dropped n reason spent failed why ended => exact ended.batch

/-- A delivery that has returned ended with the first attempt that was accepted, or with the last
one that the budget allows. -/
theorem Delivering.result (h : Delivering τ o r isLast arrival w)
    {result : Except ReportError Nat} (returned : w.returned = some result) :
    (∃ k, IsLeast (o.accepted r.courier) k ∧ k ≤ r.courier.backoff.attempts ∧
        Ended τ o r isLast arrival w k (.ok k) 1 0) ∨
      (∀ k ∈ o.accepted r.courier, r.courier.backoff.attempts < k) ∧
        ∃ reason, o.failure? r.courier r.courier.backoff.attempts = some reason ∧
          Ended τ o r isLast arrival w r.courier.backoff.attempts
            (.error (.delivery r.courier.backoff.attempts reason)) 0 1 := by
  have going {d : DeliveryStage} (carries : Carries r isLast w d) : False := by
    rw [carries.returned] at returned
    cases returned
  cases h with
  | locating n service path target carries => exact (going carries).elim
  | posting n url address carries => exact (going carries).elim
  | waiting n carries => exact (going carries).elim
  | delivered n room failed accepts ended => exact .inl ⟨n + 1, ⟨accepts, failed⟩, room, ended⟩
  | dropped n reason spent failed why ended =>
    rw [← spent]
    exact .inr ⟨failed, reason, why, ended⟩

theorem delivers_within_attempts :
    DeliversWithin r.courier.backoff.attempts τ o r isLast arrival where
  ends w run := (run.keeps delivering_start Delivering.step).ends
  empty w run := (run.keeps delivering_start Delivering.step).batch
  accepted w run result returned k first le := by
    rcases (run.keeps delivering_start Delivering.step).result returned with
      ⟨k', first', -, ended⟩ | ⟨none, -⟩
    · exact first.unique first' ▸ ended
    · exact absurd le (Nat.not_le.mpr (none k first.1))
  dropped w run result returned none := by
    rcases (run.keeps delivering_start Delivering.step).result returned with
      ⟨k, first, le, -⟩ | ⟨-, ended⟩
    · exact absurd le (Nat.not_le.mpr (none k first.1))
    · exact ended
  spaced early late n reach := congrArg _ (Timer.millis_of_reaches early late reach)

end

end DeliveryWatch

namespace Reporter

open DeliveryWatch

/-- Every reporter that was started delivers its batch within three attempts, whatever it is
answered and whatever timer it waits with. The waits are as long as they should be where the clock
can represent their ends. -/
theorem delivers_within_three (τ : Timer) (o : CollectorAnswers) {r : Reporter} {name : String}
    {settings : ReporterSettings} {target : CollectorTarget}
    (started : r.courier = (start name settings r.client target).courier) (isLast : Bool)
    (arrival : Nat) : DeliversWithin 3 τ o r isLast arrival := by
  have attempts : r.courier.backoff.attempts = 3 := by
    rw [started]
    rfl
  rw [← attempts]
  exact delivers_within_attempts

/-- A batch whose first attempt finds no collector is posted once, in the second attempt. -/
theorem delivers_within_three_twice :
    let τ : Timer := .thirtyYears
    let collectors : ServiceKey := ⟨"default", "collector"⟩
    let o : CollectorAnswers :=
      ⟨fun n => .ok (if n = 2 then some ⟨"10.0.0.7", 9091⟩ else none), fun _ => 10,
        fun _ => .ok ⟨200⟩, fun _ => 100⟩
    let r : Reporter :=
      { Reporter.start "pushgateway" {} {} (.discovered collectors "events") with
        batch := [⟨.onlineStart, "2024-05-01 10:11:12", {}, "default", "echo", "127.0.0.1", 8080,
          none⟩] }
    ∃ w, Reaches τ o (DeliveryWatch.start r false 0) w ∧ w.returned = some (.ok 2) ∧
      w.reporter.batch = [] ∧ w.since = 1120 ∧
      w.lookups = [(0, collectors), (1010, collectors)] ∧
      w.posts = [(1020, "http://10.0.0.7:9091/events", Reporter.body r.load)] ∧
      w.waits = [(10, .ofSeconds 1)] ∧ w.total .batchDelivered = 1 ∧
      w.total .batchFailed = 0 := by
  intro τ collectors o r
  have delivers := delivers_within_three τ o (r := r) rfl false 0
  have first : IsLeast (o.accepted r.courier) 2 := by
    refine ⟨⟨by decide, by decide⟩, fun k accepts => ?_⟩
    refine Nat.lt_of_le_of_ne accepts.1 ?_
    rintro rfl
    exact absurd accepts.2 (by decide)
  obtain ⟨w, result, run, returned⟩ := delivers.ends _ .refl
  have ended := delivers.accepted w run result returned 2 first (by decide)
  refine ⟨w, run, ended.returned, ended.batch, ?_, ?_, ?_, ?_, ended.delivered, ended.failed⟩
  · rw [ended.since]
    decide +kernel
  · rw [ended.account.lookups]
    decide +kernel
  · have missing : (o.address r.courier 1).toOption = none := by decide
    have found : (o.address r.courier 2).toOption = some "http://10.0.0.7:9091/events" := by
      decide +kernel
    have sent : o.postedAt r.courier τ 0 1 = 1020 := by decide +kernel
    rw [ended.account.posts, CollectorAnswers.posts_succ, CollectorAnswers.posts_succ, missing,
      found, sent]
    rfl
  · rw [ended.account.waits]
    decide +kernel

/-- The clock cannot represent the end of every delay: after one of 2^63 seconds a batch is posted
again when thirty years have passed. -/
theorem retry_comes_early :
    let τ : Timer := .thirtyYears
    let o : CollectorAnswers :=
      ⟨fun _ => .ok none, fun _ => 0, fun _ => .ok ⟨503⟩, fun _ => 0⟩
    let base : Duration := .ofSeconds (Width.bound 63)
    let r : Reporter :=
      Reporter.start "pushgateway" { retryBackoff := base } {} (.fixed "http://collector:9091")
    ∃ w, Reaches τ o (DeliveryWatch.start r false 0) w ∧
      w.posts.map Prod.fst = [0, 946080000000] ∧ w.waits = [(0, base.scale 1)] ∧
      946080000000 * 1000000 < (base.scale 1).nanos := by
  intro τ o base r
  let w := DeliveryWatch.start r false 0
  let body := Reporter.body r.load
  have posts : Carries r false w (.posting 1 "http://collector:9091" body) := ⟨rfl, rfl, rfl, rfl⟩
  have refused := posts.reaches_told (τ := τ) (o := o) rfl (Nat.zero_le _)
  have waits : Carries r false ({ w with now := 0 }.tell (.posting 1 "http://collector:9091" body)
      (.posted (.ok ⟨503⟩))) (.waiting 1 (base.scale 1) body) := ⟨rfl, rfl, rfl, rfl⟩
  have again := waits.reaches_told (τ := τ) (o := o) rfl (Nat.zero_le _)
  exact ⟨_, refused.trans again, by decide +kernel, by decide +kernel, by decide +kernel⟩

end Reporter

end InstanceLifecycle
