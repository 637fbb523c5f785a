import Mathlib.Data.List.Nodup
import InstanceLifecycle.Proofs.Traffic.Shutdown
import InstanceLifecycle.Proofs.Traffic.Warmups

/-!
# When a warm-up ends

A timer never ends a warm-up before it is due, nor after a shutdown has begun, whatever the clock
does. If the clock moves on only when no timer can go on, then each timer that is due before the
shutdown ends its warm-up, and just when it is due. So the ends that are reported are those of the
warm-ups that were due in time.

Results:

* `Punctual.step`: under such a clock no running timer is overdue, kept by every move;
* `warmups_run`: how far each warm-up has come after a run, under any clock and under such a one;
* `warmups_end_when_due`: after every run the starts of warm-ups are those of the registrations that
  have succeeded under an active one, and the ends are those of the warm-ups that were due in time,
  each at its time and for its instance; none comes after the shutdown, which waits for the timers.
-/

namespace InstanceLifecycle

namespace Traffic

/-! ## The clock -/

/-- Whether a call is a running timer that can go on: its sleep is over or was cut short. -/
def Call.canEnd (x : Call) (τ : Timer) (isCancelled : Bool) (now : Nat) : Bool :=
  match x.stage with
  | .warmup d => (τ.poll x.since d isCancelled now).isSome
  | _ => false

/-- Whether a move can be taken under a virtual clock: time passes a moment only when no timer can
go on at it. A sleep that is over stays so, so the last moment decides. -/
def Timely (t : Traffic) : Move → Prop
  | .pass millis => ∀ x ∈ t.calls,
      millis = 0 ∨ x.canEnd t.timer t.isCancelled (t.now + (millis - 1)) = false
  | _ => True

instance (t : Traffic) (m : Move) : Decidable (t.Timely m) := by
  unfold Timely
  split <;> infer_instance

/-- The end of the time in which warm-ups can end, after a move: it moves on with the clock until
the shutdown. -/
def limitAfter (t : Traffic) (limit : Nat) (m : Move) : Nat :=
  if t.isCancelled then limit else (t.step m).now

/-- A timer that cannot go on at a moment before the end of some time was not cancelled, and is due
at that end at the earliest. -/
theorem canEnd_eq_false {w : Warming} {τ : Timer} {isCancelled : Bool} {now millis : Nat}
    (h : w.running.canEnd τ isCancelled (now + (millis - 1)) = false) :
    isCancelled = false ∧ now + millis ≤ w.due τ := by
  simp only [Call.canEnd, Warming.running, Timer.poll] at h
  unfold Warming.due
  cases isCancelled with
  | true => simp at h
  | false =>
    refine ⟨rfl, ?_⟩
    by_cases due : w.start + τ.pause w.start w.interval ≤ now + (millis - 1)
    · simp [due] at h
    · omega

theorem now_le_step (t : Traffic) (m : Move) : t.now ≤ (t.step m).now := by
  have move := t.stepped m
  generalize t.step m = u at move
  cases move with
  | idle _ le => exact le
  | _ => exact Nat.le_refl _

theorem timer_step (t : Traffic) (m : Move) : (t.step m).timer = t.timer := by
  have move := t.stepped m
  generalize t.step m = u at move
  cases move <;> rfl

/-- Only the passing of time moves the clock. -/
theorem now_step_of_ne {t : Traffic} {m : Move} (h : ∀ millis, m ≠ .pass millis) :
    (t.step m).now = t.now := by
  cases m with
  | pass millis => exact absurd rfl (h millis)
  | answer n a =>
    simp only [step]
    split
    · split <;> rfl
    · rfl
  | _ => rfl

/-- A warm-up that a move starts begins now. -/
theorem start_of_warming? {t : Traffic} {m : Move} {w : Warming} (h : t.warming? m = some w) :
    w.start = t.now ∧ ∀ millis, m ≠ .pass millis := by
  unfold warming? at h
  split at h
  · split at h
    · obtain ⟨d, -, rfl⟩ := Option.map_eq_some_iff.mp h
      exact ⟨rfl, fun millis same => by cases same⟩
    · cases h
  · cases h

/-! ## Timers under a virtual clock -/

/-- Where no running timer is overdue: a warm-up that has not ended is not due before the end of the
time in which it can, and each one that has ended did so when it was due. -/
structure Punctual (t : Traffic) (ws : List Warming) (ends : List Ending) (limit : Nat) : Prop where
  le_now : limit ≤ t.now
  eq_now : t.isCancelled = false → limit = t.now
  pending : ∀ w ∈ ws, w ∉ ends.map Ending.warming → limit ≤ w.due t.timer
  ended : ∀ e ∈ ends, e.time = e.warming.due t.timer ∧ e.time ≤ limit

namespace Punctual

variable {t : Traffic} {ws : List Warming} {ends more : List Ending} {limit : Nat} {m : Move}

/-- The end of the time in which warm-ups can end moves on. -/
theorem le_limitAfter (h : t.Punctual ws ends limit) (m : Move) :
    limit ≤ t.limitAfter limit m := by
  unfold limitAfter
  split
  · exact Nat.le_refl _
  · exact Nat.le_trans h.le_now (now_le_step t m)

/-- A warm-up that has not ended is not due before the end of the time in which it can. -/
theorem pending_step (h : t.Punctual ws ends limit) (known : t.Warmups ws ends)
    (timely : t.Timely m) {w : Warming} (hw : w ∈ ws) (silent : w ∉ ends.map Ending.warming) :
    t.limitAfter limit m ≤ w.due t.timer := by
  have due := h.pending w hw silent
  unfold limitAfter
  split
  · exact due
  · next going =>
    have now := h.eq_now (by simpa using going)
    by_cases passes : ∃ millis, m = .pass millis
    · obtain ⟨millis, rfl⟩ := passes
      have runs : t.calls[w.timer]? = some w.running := by
        cases known.course w hw with
        | runs runs => exact runs
        | elapsed _ mem => exact absurd mem silent
        | interrupted _ _ cancelled => exact absurd cancelled going
      rcases timely _ (List.mem_of_getElem? runs) with rfl | waits
      · exact now ▸ due
      · exact (canEnd_eq_false waits).2
    · rw [now_step_of_ne fun millis same => passes ⟨millis, same⟩, ← now]
      exact due

/-- Every move that can be taken under a virtual clock leaves no timer overdue. -/
theorem step (h : t.Punctual ws ends limit) (known : t.Warmups ws ends) (timely : t.Timely m)
    (adds : t.Adds ws more) :
    (t.step m).Punctual (ws ++ (t.warming? m).toList) (ends ++ more) (t.limitAfter limit m) := by
  have timer := timer_step t m
  refine ⟨?_, fun going => ?_, fun w hw silent => ?_, fun e he => ?_⟩
  · unfold limitAfter
    split
    · exact Nat.le_trans h.le_now (now_le_step t m)
    · exact Nat.le_refl _
  · rw [isCancelled_step, Bool.or_eq_false_iff] at going
    simp [limitAfter, going.1]
  · rw [timer]
    rcases List.mem_append.mp hw with hw | hw
    · refine h.pending_step known timely hw fun mem => silent ?_
      rw [List.map_append]
      exact List.mem_append_left _ mem
    · obtain ⟨start, waits⟩ := start_of_warming? (Option.mem_toList.mp hw)
      have now : (t.step m).now = t.now := now_step_of_ne waits
      have le : t.limitAfter limit m ≤ t.now := by
        unfold limitAfter
        split
        · exact h.le_now
        · exact Nat.le_of_eq now
      exact Nat.le_trans le (start ▸ Nat.le_add_right ..)
  · rw [timer]
    rcases List.mem_append.mp he with he | he
    · obtain ⟨time, le⟩ := h.ended e he
      exact ⟨time, Nat.le_trans le (h.le_limitAfter m)⟩
    · cases adds with
      | nothing => cases he
      | @one w mem runs going due =>
        obtain rfl := List.mem_singleton.mp he
        have pending := h.pending w mem ((known.course w mem).silent_of_runs runs)
        rw [h.eq_now going] at pending
        refine ⟨Nat.le_antisymm pending due, ?_⟩
        simp only [limitAfter, going]
        exact now_le_step t m

/-- Whether timers are overdue does not depend on the probe server. -/
theorem serving (h : t.Punctual ws ends limit) (server : ProbeServer) :
    (t.serving server).Punctual ws ends limit :=
  ⟨h.le_now, h.eq_now, h.pending, h.ended⟩

end Punctual

theorem punctual_start (τ : Timer) (settings : GracefulSettings) (server : ProbeServer) :
    (start τ settings server).Punctual [] [] 0 :=
  ⟨Nat.le_refl _, fun _ => rfl, fun _ h => absurd h List.not_mem_nil,
    fun _ h => absurd h List.not_mem_nil⟩

/-! ## Timers after a shutdown -/

/-- Whether all timers that run were started just now. -/
def FreshTimers (t : Traffic) : Prop := ∀ x ∈ t.calls, x.isTimer = true → x.since = t.now

theorem freshTimers_of_isAtRest {t : Traffic} (h : t.isAtRest = true) : t.FreshTimers := by
  intro x hx timer
  have none := List.all_eq_true.mp h x hx
  rw [timer] at none
  cases none

/-- After a shutdown time passes only when all timers are over, so that those that run were started
just now. -/
theorem freshTimers_step {t : Traffic} {m : Move} (cancelled : t.isCancelled = true)
    (timely : t.Timely m) (fresh : t.FreshTimers) : (t.step m).FreshTimers := by
  cases m with
  | pass millis =>
    intro x hx timer
    rcases timely x hx with rfl | waits
    · exact fresh x hx timer
    · -- A timer that runs can go on at once.
      unfold Call.isTimer at timer
      split at timer
      · next d hd => simp [Call.canEnd, hd, Timer.poll, cancelled] at waits
      · cases timer
  | cancel => exact fresh
  | register i =>
    intro x hx timer
    rcases List.mem_append.mp hx with hx | hx
    · exact fresh x hx timer
    · rw [List.mem_singleton.mp hx]
      rfl
  | deregister i isProbe =>
    intro x hx timer
    rcases List.mem_append.mp hx with hx | hx
    · exact fresh x hx timer
    · rw [List.mem_singleton.mp hx]
      rfl
  | answer n a =>
    simp only [step]
    split
    · split
      · intro x hx timer
        rcases List.mem_append.mp hx with hx | hx
        · rcases List.mem_or_eq_of_mem_set hx with hx | rfl
          · exact fresh x hx timer
          · rfl
        · obtain ⟨y, -, hy⟩ := List.mem_filterMap.mp hx
          cases y <;> cases hy
          rfl
      · exact fresh
    · exact fresh

/-! ## Controllers that are shut down -/

namespace Closing

variable {c : Closing} {ts us : List Turn}

/-- Whether all turns of a run are taken under a virtual clock. -/
def Timely : Closing → List Turn → Prop
  | _, [] => True
  | c, t :: ts => c.traffic.Timely t.move ∧ Timely (c.step t) ts

instance decidableTimely : ∀ (c : Closing) (ts : List Turn), Decidable (Timely c ts)
  | _, [] => .isTrue trivial
  | c, t :: ts =>
    have := decidableTimely (c.step t) ts
    inferInstanceAs (Decidable (c.traffic.Timely t.move ∧ Timely (c.step t) ts))

theorem Timely.of_append (h : c.Timely (ts ++ us)) : (c.run ts).Timely us := by
  induction ts generalizing c with
  | nil => exact h
  | cons t ts ih => exact ih h.2

/-- The time at which the first shutdown begins, or at which the run ends if there is none. -/
def horizon : Closing → List Turn → Nat
  | c, [] => c.traffic.now
  | c, t :: ts => if t.move.isCancel then c.traffic.now else horizon (c.step t) ts

/-- The warm-ups that some turns start, in order. -/
def warmings : Closing → List Turn → List Warming
  | _, [] => []
  | c, t :: ts => (c.traffic.warming? t.move).toList ++ warmings (c.step t) ts

/-- The end of the time in which warm-ups can end, after a run. -/
theorem limit_cons (c : Closing) (t : Turn) (ts : List Turn) (limit : Nat) :
    (if (c.step t).traffic.isCancelled then c.traffic.limitAfter limit t.move
      else horizon (c.step t) ts) =
      if c.traffic.isCancelled then limit else horizon c (t :: ts) := by
  obtain ⟨server, hs⟩ := c.exists_serving_step t
  have cancelled : (c.step t).traffic.isCancelled =
      (c.traffic.isCancelled || t.move.isCancel) := by
    rw [hs]
    exact isCancelled_step ..
  rw [cancelled]
  unfold limitAfter
  cases c.traffic.isCancelled <;> cases ht : t.move.isCancel
  · simp [horizon, ht]
  · cases hm : t.move <;> rw [hm] at ht <;> cases ht
    simp [horizon, hm, Move.isCancel, Traffic.step]
  · simp
  · simp

/-- After a run it is known how far each warm-up has come; none has ended after a shutdown, and
under a virtual clock none was overdue. -/
theorem warmups_run {ws : List Warming} {ends : List Ending} (h : c.traffic.Warmups ws ends)
    (sound : c.traffic.Sound) (ts : List Turn) :
    ∃ more, (c.run ts).traffic.Warmups (ws ++ warmings c ts) (ends ++ more) ∧
      (c.traffic.isCancelled = true → more = []) ∧
      ∀ limit, c.traffic.Punctual ws ends limit → c.Timely ts →
        (c.run ts).traffic.Punctual (ws ++ warmings c ts) (ends ++ more)
          (if c.traffic.isCancelled then limit else horizon c ts) := by
  induction ts generalizing c ws ends with
  | nil =>
    refine ⟨[], by simpa [warmings] using h, fun _ => rfl, fun limit punctual _ => ?_⟩
    have now : (if c.traffic.isCancelled then limit else c.traffic.now) = limit := by
      split
      · rfl
      · next going => exact (punctual.eq_now (by simpa using going)).symm
    simp only [warmings, List.append_nil, horizon, now]
    exact punctual
  | cons t ts ih =>
    obtain ⟨server, hs⟩ := c.exists_serving_step t
    obtain ⟨first, adds, next⟩ := h.step sound t.move
    have known : (c.step t).traffic.Warmups (ws ++ (c.traffic.warming? t.move).toList)
        (ends ++ first) := by
      rw [hs]
      exact next.idle rfl rfl rfl id
    obtain ⟨rest, last, later, inTime⟩ := ih known (by rw [hs]; exact (sound.step _).serving _)
    refine ⟨first ++ rest, ?_, fun cancelled => ?_, fun limit punctual timely => ?_⟩
    · rw [run_cons, warmings, ← List.append_assoc, ← List.append_assoc]
      exact last
    · have none : first = [] := by
        cases adds with
        | nothing => rfl
        | one _ _ going => exact absurd (cancelled.symm.trans going) (by decide)
      rw [none, later (isCancelled_run cancelled [t])]
      rfl
    · rw [run_cons, warmings, ← List.append_assoc, ← List.append_assoc, ← limit_cons]
      refine inTime _ ?_ timely.2
      rw [hs]
      exact (punctual.step h timely.1 adds).serving server

theorem freshTimers_run (cancelled : c.traffic.isCancelled = true) (timely : c.Timely ts)
    (fresh : c.traffic.FreshTimers) : (c.run ts).traffic.FreshTimers := by
  induction ts generalizing c with
  | nil => exact fresh
  | cons t ts ih =>
    obtain ⟨server, hs⟩ := c.exists_serving_step t
    refine ih (isCancelled_run cancelled [t]) timely.2 ?_
    rw [hs]
    exact freshTimers_step cancelled timely.1 fresh

/-- A timer that is over stays so. -/
theorem warmed_run {n : Nat} (h : c.traffic.stage? n = some .warmed) (ts : List Turn) :
    (c.run ts).traffic.stage? n = some .warmed :=
  run_induction (P := fun u => u.stage? n = some .warmed) (fun _ m h => warmed_step h m)
    (fun _ _ h => h) h ts

/-! ## Warm-ups end when they are due -/

/-- How the ends of warm-ups that a run reports go with the warm-ups that it has started. -/
structure TimesWarmups (c : Closing) (ts : List Turn) : Prop where
  timers : ((warmings c ts).map Warming.timer).Nodup
  succeeded : ∀ w ∈ warmings c ts,
    ∃ r, (c.run ts).traffic.stage? w.call = some (.register (.done (.ok r)))
  started : (c.run ts).traffic.reportsOf .warmupStart = (warmings c ts).map Warming.beginning
  /-- The ends that were reported are those of some warm-ups, each once and never before it is due.
  Under a virtual clock they are those of all that were due before the horizon, each when it was
  due, and of none that is due after it. -/
  ended : ∃ ends : List Ending, (ends.map Ending.warming).Nodup ∧
    (∀ e ∈ ends, e.warming ∈ warmings c ts ∧ e.warming.due c.traffic.timer ≤ e.time) ∧
    (c.run ts).traffic.reportsOf .warmupEnd = ends.map Ending.report ∧
    (c.Timely ts →
      (∀ e ∈ ends, e.time = e.warming.due c.traffic.timer ∧ e.time ≤ horizon c ts) ∧
      ∀ w ∈ warmings c ts, w.due c.traffic.timer < horizon c ts → w ∈ ends.map Ending.warming)
  /-- A warm-up is due after its interval in whole milliseconds, if the clock can represent that. -/
  interval : c.traffic.timer.NeverEarly → c.traffic.timer.InTime →
    ∀ w ∈ warmings c ts, c.traffic.timer.Reaches w.start w.interval →
      w.due c.traffic.timer = w.start + w.interval.ceilMillis
  silent : ∀ past rest, ts = past ++ .shutdown :: rest →
    (c.run ts).traffic.reportsOf .warmupEnd = (c.run past).traffic.reportsOf .warmupEnd
  /-- A shutdown that has waited had a moment, at or after its beginning, at which no timer ran. The
  warm-ups that were started before that are over for good; under a virtual clock, a timer that runs
  was started just now. -/
  awaited : ∀ k s, (c.run ts).shutdowns[k]? = some s → s.hasWaited = true →
    ∃ past rest, ts = past ++ rest ∧ k < (c.run past).shutdowns.length ∧
      (∀ w ∈ warmings c past, ∀ next,
        (c.run (ts ++ next)).traffic.stage? w.timer = some .warmed) ∧
      (c.Timely ts → (c.run ts).traffic.FreshTimers)

section Runs

variable {τ : Timer} {settings : GracefulSettings} {server : ProbeServer}

/-- How far the warm-ups have come after a run from the start. -/
theorem exists_warmups (τ : Timer) (settings : GracefulSettings) (server : ProbeServer)
    (ts : List Turn) :
    ∃ ends, ((start τ settings server).run ts).traffic.Warmups
        (warmings (start τ settings server) ts) ends ∧
      ((start τ settings server).Timely ts →
        ((start τ settings server).run ts).traffic.Punctual
          (warmings (start τ settings server) ts) ends (horizon (start τ settings server) ts)) := by
  obtain ⟨ends, key, -, inTime⟩ := warmups_run (c := start τ settings server)
    (warmups_start τ settings server) (run_sound τ settings server []) ts
  exact ⟨ends, key, fun timely => inTime 0 (punctual_start τ settings server) timely⟩

/-- After the beginning of a shutdown no end of a warm-up is reported. -/
theorem silent_after_shutdown (past rest : List Turn) :
    ((start τ settings server).run (past ++ .shutdown :: rest)).traffic.reportsOf .warmupEnd =
      ((start τ settings server).run past).traffic.reportsOf .warmupEnd := by
  obtain ⟨ends, before, -⟩ := exists_warmups τ settings server past
  have sound := sound_run τ settings server past
  rw [run_append, run_cons]
  generalize (start τ settings server).run past = c at *
  have begun : (c.step .shutdown).traffic.Warmups (warmings (start τ settings server) past) ends :=
    before.idle rfl rfl rfl fun _ => rfl
  obtain ⟨more, after, none, -⟩ := warmups_run begun (sound.step .cancel) rest
  rw [after.reported, none rfl, List.append_nil, before.reported]

/-- At a moment without a running timer all warm-ups that were started are over. -/
theorem over_of_atRest {ts : List Turn}
    (rest : ((start τ settings server).run ts).traffic.isAtRest = true) :
    ∀ w ∈ warmings (start τ settings server) ts,
      ((start τ settings server).run ts).traffic.stage? w.timer = some .warmed := by
  intro w hw
  obtain ⟨ends, h, -⟩ := exists_warmups τ settings server ts
  rcases (h.course w hw).timer with runs | warmed
  · have noTimer := List.all_eq_true.mp rest _ (List.mem_of_getElem? runs)
    cases noTimer
  · exact warmed

/-- What a shutdown has waited for. -/
theorem awaited_of_hasWaited {ts : List Turn} {k : Nat} {s : Shutdown}
    (hs : ((start τ settings server).run ts).shutdowns[k]? = some s) (waited : s.hasWaited = true) :
    ∃ past rest, ts = past ++ rest ∧
      k < ((start τ settings server).run past).shutdowns.length ∧
      (∀ w ∈ warmings (start τ settings server) past, ∀ next,
        ((start τ settings server).run (ts ++ next)).traffic.stage? w.timer = some .warmed) ∧
      ((start τ settings server).Timely ts →
        ((start τ settings server).run ts).traffic.FreshTimers) := by
  obtain ⟨past, rest, rfl, begun, atRest⟩ :=
    atRest_of_isReleased rfl hs (Shutdown.isReleased_of_hasWaited waited)
  refine ⟨past, rest, rfl, begun, fun w hw next => ?_, fun timely => ?_⟩
  · rw [List.append_assoc, run_append]
    exact warmed_run (over_of_atRest atRest w hw) _
  · rw [run_append]
    exact freshTimers_run (isCancelled_of_lt rfl begun) timely.of_append
      (freshTimers_of_isAtRest atRest)

/-- After every run the ends of warm-ups that were reported are those of the warm-ups whose timer
was due in time, each when it was due and for its instance. None is reported after a shutdown has
begun, and a shutdown that has waited for the timers leaves none behind. -/
theorem warmups_end_when_due (τ : Timer) (settings : GracefulSettings) (server : ProbeServer)
    (ts : List Turn) : TimesWarmups (start τ settings server) ts := by
  obtain ⟨ends, h, punctual⟩ := exists_warmups τ settings server ts
  have timer : ((start τ settings server).run ts).traffic.timer = τ :=
    run_induction (P := fun u => u.timer = τ) (fun u m h => (timer_step u m).trans h)
      (fun _ _ h => h) rfl ts
  refine ⟨h.timers, h.succeeded, h.started,
    ⟨ends, h.nodup, fun e he => ⟨h.subset (List.mem_map_of_mem he), ?_⟩, h.reported,
      fun timely => ?_⟩,
    fun early late w _ reach => ?_, fun past rest heq => ?_, fun k s hs => awaited_of_hasWaited hs⟩
  · have due := h.due e he
    rwa [timer] at due
  · have inTime := punctual timely
    refine ⟨fun e he => ?_, fun w hw before => ?_⟩
    · have ended := inTime.ended e he
      rwa [timer] at ended
    · by_contra silent
      have pending := inTime.pending w hw silent
      rw [timer] at pending
      exact Nat.lt_irrefl _ (Nat.lt_of_lt_of_le before pending)
  · exact congrArg (w.start + ·) (Timer.pause_of_reaches early late reach)
  · subst heq
    exact silent_after_shutdown past rest

end Runs

/-! ## Two warm-ups and a shutdown -/

/-- Settings with a warm-up of this duration. -/
def warmingFor (d : Duration) : GracefulSettings :=
  { enabled := true, warmup := { enabled := true, interval := d } }

/-- The call with this number registers an instance without a rule. -/
def comesOnline (n : Nat) (i : Instance) : List Turn :=
  [.within (.register i), .within (.answer n (.register (.rule (.ok none)))),
    .within (.answer n (.register (.registered (.ok ⟨"ins-1", false⟩))))]

/-- The first warm-up ends after a minute; the second one meets the shutdown, which waits for its
timer. -/
theorem warmups_end_when_due_twice :
    let τ : Timer := .thirtyYears
    let server : ProbeServer := { listen := "127.0.0.1:0" }
    let i : Instance := ⟨"default", "echo", "127.0.0.1", 8080, none, none, none, none⟩
    let j : Instance := ⟨"default", "echo", "127.0.0.1", 8081, none, none, none, none⟩
    let c := start τ (warmingFor (.ofSeconds 60)) server
    let past : List Turn := comesOnline 0 i ++ [.within (.pass 30000)] ++ comesOnline 2 j ++
      [.within (.pass 30000), .within (.answer 1 (.timer false)), .within (.pass 10000), .shutdown]
    let ts : List Turn := past ++ [.goOn 0, .within (.answer 3 (.timer true)), .goOn 0]
    c.Timely ts ∧ (c.run ts).traffic.reportsOf .warmupStart = [⟨0, 0, i⟩, ⟨30000, 2, j⟩] ∧
      (c.run ts).traffic.reportsOf .warmupEnd = [⟨60000, 1, i⟩] ∧ horizon c ts = 70000 ∧
      (c.run (past ++ [.goOn 0])).shutdowns = [.waiting false] ∧
      (c.run ts).shutdowns = [.stopping] ∧ TimesWarmups c ts := by
  intro τ server i j c past ts
  exact ⟨by decide +kernel, by decide +kernel, by decide +kernel, by decide +kernel,
    by decide +kernel, by decide +kernel,
    warmups_end_when_due .thirtyYears (warmingFor (.ofSeconds 60)) server ts⟩

/-- A warm-up that is due at the very moment of the shutdown may end, and one of a millisecond and a
half ends after two. A shutdown may return while the timer of a registration is pending that has
just succeeded. -/
theorem warmup_end_not_after_interval :
    let server : ProbeServer := { listen := "127.0.0.1:0" }
    let i : Instance := ⟨"default", "echo", "127.0.0.1", 8080, none, none, none, none⟩
    let ends (millis : Nat) : List Turn :=
      comesOnline 0 i ++ [.within (.pass millis), .within (.answer 1 (.timer false)), .shutdown]
    let minute : Duration := .ofSeconds 60
    let short : Duration := .ofNanos 1500000
    let c (d : Duration) := start .thirtyYears (warmingFor d) server
    let late : List Turn := [.shutdown, .goOn 0] ++ comesOnline 0 i ++ [.goOn 0]
    ((c minute).Timely (ends 60000) ∧
      ((c minute).run (ends 60000)).traffic.reportsOf .warmupEnd = [⟨60000, 1, i⟩] ∧
      horizon (c minute) (ends 60000) * 1000000 = minute.nanos) ∧
    ((c short).Timely (ends 2) ∧
      ((c short).run (ends 2)).traffic.reportsOf .warmupEnd = [⟨2, 1, i⟩] ∧
      short.nanos < 2 * 1000000) ∧
    ((c minute).Timely late ∧ ((c minute).run late).shutdowns = [.returned] ∧
      ((c minute).run late).traffic.isAtRest = false) := by
  decide +kernel

end Closing

end Traffic

end InstanceLifecycle
