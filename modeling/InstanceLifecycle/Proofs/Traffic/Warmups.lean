import Mathlib.Data.List.Nodup
import InstanceLifecycle.Proofs.Traffic.Summaries

/-!
# Warm-ups

A registration that succeeds under a policy with an active warm-up reports its start and spawns a
timer, which sleeps for the interval of the policy unless a shutdown cuts it short
(`schedule_warmup_end`). So each warm-up is in one of three states, whatever the clock does: its
timer runs, it has ended by itself when its time was over, or a shutdown has interrupted it.

Results:

* `Register.succeed_warms`: a registration that succeeds reports the start of a warm-up and starts a
  timer, or does neither; `still_resume`: any other step of a call does neither;
* `Call.accepts_timer`: a running timer is told what its sleep says when it is looked at;
* `Warmups.step`: how far each warm-up has come, kept by every move, which starts at most one
  warm-up and ends at most one, and none after a shutdown.
-/

namespace InstanceLifecycle

/-! ## Effects -/

/-- The instance of an event of some kind. -/
def Effect.announces? (kind : EventKind) : Effect → Option Instance
  | event k i _ => if k = kind then some i else none
  | _ => none

/-- A step that reports neither the start nor the end of a warm-up and starts no timer. -/
structure Step.IsStill {σ : Type} (s : Step σ) : Prop where
  starts : s.effects.filterMap (·.announces? .warmupStart) = []
  ends : s.effects.filterMap (·.announces? .warmupEnd) = []
  timers : ∀ i d, .warmup i d ∉ s.effects

theorem Step.Informs.isStill {σ : Type} {s : Step σ} {T : Table InstanceKey PolicySummary}
    {kinds : List EventKind} (h : s.Informs T kinds) (hs : .warmupStart ∉ kinds)
    (he : .warmupEnd ∉ kinds) : s.IsStill := by
  have silent {kind : EventKind} (hk : kind ∉ kinds) :
      s.effects.filterMap (·.announces? kind) = [] := by
    rw [List.filterMap_eq_nil_iff]
    intro x hx
    have carries := h.carries x hx
    cases x with
    | event k i info =>
      have other : k ≠ kind := fun same => hk (same ▸ carries.1)
      simp [Effect.announces?, other]
    | _ => rfl
  exact ⟨silent hs, silent he, fun i d hd => hs (h.carries _ hd)⟩

/-- The warm-up that follows a successful registration under a policy. -/
def Policy.warms? (p : Policy) : Option Duration :=
  if p.enabled && p.warmup.isActive then some p.warmup.interval else none

/-- A registration that succeeds reports the start of a warm-up and starts a timer for it, or does
neither. -/
theorem Register.succeed_warms {c : Controller} {i : Instance} {p : Policy}
    (hc : c.state? i.key = some .registering) (r : Registration) (now : Nat) :
    (succeed c i p r).stage = .done (.ok r) ∧
      (succeed c i p r).effects.filterMap (·.announces? .warmupStart) =
        p.warms?.toList.map (fun _ => i) ∧
      (succeed c i p r).effects.filterMap (·.announces? .warmupEnd) = [] ∧
      Traffic.timersOf now (succeed c i p r).effects =
        p.warms?.toList.map fun d => ⟨i, .warmup d, now⟩ := by
  unfold succeed Policy.warms?
  rw [Controller.moving_eq _ _ rfl, if_pos hc]
  refine ⟨rfl, ?_, ?_, ?_⟩ <;> cases p.enabled <;> cases p.warmup.isActive <;> rfl

namespace Traffic

/-! ## Calls that do not warm up -/

/-- A call that begins to retract reports nothing about warm-ups. -/
theorem still_start (c : Controller) (i : Instance) (isProbe : Bool) :
    (ofDeregister i isProbe (Deregister.start c i)).IsStill :=
  (informs_start c i isProbe).isStill (by decide) (by decide)

/-- A call reports something about warm-ups only when the registrar has accepted its instance, or
when it is a timer. -/
theorem still_resume {x : Call} {a : Answer} (awaits : x.stage.awaits a = true)
    (accepted : ∀ r, a ≠ .register (.registered (.ok r))) (timer : ∀ d, x.stage ≠ .warmup d)
    (c : Controller) (now : Nat) : (x.resume c a now).IsStill := by
  obtain ⟨i, stage, since⟩ := x
  rcases Stage.cases_of_awaits awaits with
    ⟨s, b, hs, rfl, -⟩ | ⟨isProbe, r, hs, rfl⟩ | ⟨d, isInterrupted, hs, rfl⟩
  · obtain rfl : stage = .register s := hs
    have informs : ∃ T, (Register.resume c i s b now).Informs T [.onlineStart] :=
      Register.exists_informs_resume (List.mem_singleton.mpr rfl)
        (fun r hr => accepted r (congrArg Answer.register hr)) now
    obtain ⟨T, h⟩ := informs
    have key := h.isStill (by decide) (by decide)
    exact ⟨key.starts, key.ends, key.timers⟩
  · obtain rfl : stage = .deregister isProbe .retracting := hs
    exact (informs_resume_retracting c i isProbe since r now).isStill (by decide) (by decide)
  · exact absurd hs (timer d)

/-- A call that goes on is no running timer. -/
theorem resume_stage_ne {x : Call} {a : Answer} (awaits : x.stage.awaits a = true) (c : Controller)
    (now : Nat) (d : Duration) : (x.resume c a now).stage ≠ .warmup d := by
  obtain ⟨i, stage, since⟩ := x
  rcases Stage.cases_of_awaits awaits with
    ⟨s, b, hs, rfl, -⟩ | ⟨isProbe, r, hs, rfl⟩ | ⟨e, isInterrupted, hs, rfl⟩
  · obtain rfl : stage = .register s := hs
    intro h
    cases h
  · obtain rfl : stage = .deregister isProbe .retracting := hs
    intro h
    cases h
  · obtain rfl : stage = .warmup e := hs
    intro h
    cases h

/-! ## Reports -/

/-- An event of some kind: when it was reported, by which call, and about which instance. -/
structure Report where
  time : Nat
  call : Nat
  inst : Instance
  deriving DecidableEq, Repr

/-- The event of some kind that a happening is. -/
def Happening.report? (kind : EventKind) (e : Happening) : Option Report :=
  match e.deed with
  | .effect x => (x.announces? kind).map fun i => ⟨e.time, e.call, i⟩
  | _ => none

/-- The events of some kind, in the order in which they were reported. -/
def reportsOf (t : Traffic) (kind : EventKind) : List Report :=
  t.trace.filterMap (·.report? kind)

/-- A call that goes on reports what its step reports. -/
theorem Goes.reportsOf {t u : Traffic} {n : Nat} {i : Instance} {told : List Answer}
    {s : Step Stage} (g : Goes t n i told s u) (kind : EventKind) :
    u.reportsOf kind = t.reportsOf kind ++
      (s.effects.filterMap (·.announces? kind)).map fun j => ⟨t.now, n, j⟩ := by
  have effects (fx : List Effect) :
      (fx.map Deed.effect).filterMap (fun d => Happening.report? kind ⟨t.now, n, i, d⟩) =
        (fx.filterMap (·.announces? kind)).map fun j => ⟨t.now, n, j⟩ := by
    rw [List.filterMap_map, List.map_filterMap]
    rfl
  have heard : (told.map Deed.told).filterMap (fun d => Happening.report? kind ⟨t.now, n, i, d⟩) =
      [] := by
    simp [Happening.report?]
  unfold Traffic.reportsOf
  rw [g.trace, note, List.filterMap_append, List.filterMap_map]
  show _ ++ (told.map Deed.told ++ deedsOf s).filterMap
    (fun d => Happening.report? kind ⟨t.now, n, i, d⟩) = _
  rw [List.filterMap_append, heard, deedsOf, List.filterMap_append, effects]
  simp [Happening.report?]

/-! ## Warm-ups -/

/-- A warm-up: the registration that has started it, its timer and its instance, the interval that
the policy of the registration asks for, and the time of its start. -/
structure Warming where
  call : Nat
  timer : Nat
  inst : Instance
  interval : Duration
  start : Nat

namespace Warming

variable (w : Warming)

/-- The timer while it runs. -/
def running : Call := ⟨w.inst, .warmup w.interval, w.start⟩

/-- When the sleep of the timer is over if no shutdown cuts it short. -/
def due (τ : Timer) : Nat := w.start + τ.pause w.start w.interval

/-- The event that the registration reports when the warm-up starts. -/
def beginning : Report := ⟨w.start, w.call, w.inst⟩

end Warming

/-- A warm-up that has ended by itself, and when. -/
structure Ending where
  warming : Warming
  time : Nat

/-- The event that the timer reports then. -/
def Ending.report (e : Ending) : Report := ⟨e.time, e.warming.timer, e.warming.inst⟩

/-- The warm-up that a move starts: it tells a registration under a policy with an active warm-up
that it has succeeded. -/
def warming? (t : Traffic) : Move → Option Warming
  | .answer n (.register (.registered (.ok _))) =>
    match t.calls[n]? with
    | some ⟨i, .register (.registering p), _⟩ =>
      p.warms?.map fun d => ⟨n, t.calls.length, i, d, t.now⟩
    | _ => none
  | _ => none

theorem warming?_of_ne {t : Traffic} {n : Nat} {a : Answer}
    (h : ∀ r, a ≠ .register (.registered (.ok r))) : t.warming? (.answer n a) = none := by
  unfold warming?
  split
  · next r heq => exact absurd (Move.answer.inj heq).2 (h r)
  · rfl

theorem warming?_of_not_waiting {t : Traffic} {n : Nat} {x : Call} (hx : t.calls[n]? = some x)
    (h : ¬∃ p, x.stage = .register (.registering p)) {r : Registration} :
    t.warming? (.answer n (.register (.registered (.ok r)))) = none := by
  simp only [warming?, hx]
  split
  · next same => exact absurd ⟨_, congrArg Call.stage (Option.some.inj same)⟩ h
  · rfl

/-! ## Timers -/

/-- A running timer is told what its sleep says when it is looked at, and nothing else: it has ended
by itself if it is due and no shutdown came first, and it is interrupted after a shutdown. -/
theorem Call.accepts_timer {x : Call} {d : Duration} (hd : x.stage = .warmup d) (τ : Timer)
    (isCancelled : Bool) (now : Nat) (isInterrupted : Bool) :
    x.accepts τ isCancelled now (.timer isInterrupted) = true ↔
      τ.poll x.since d isCancelled now = some isInterrupted := by
  have due : x.isDue τ isCancelled now = decide (τ.poll x.since d isCancelled now = some false) := by
    rw [isDue, hd]
    rfl
  have awaits : x.stage.awaits (.timer isInterrupted) = true := by
    rw [hd]
    rfl
  simp only [accepts, awaits, due, Answer.isElapsed, Answer.isInterrupted, Timer.poll]
  cases isInterrupted <;> cases isCancelled <;> simp

/-! ## How far warm-ups have come -/

/-- How far a warm-up has come, and whether it is among those that have ended by themselves: its
timer runs, or it has ended, or a shutdown has interrupted it. -/
inductive Course (t : Traffic) (ends : List Ending) (w : Warming) : Prop
  | runs (timer : t.calls[w.timer]? = some w.running) (silent : w ∉ ends.map Ending.warming)
  | elapsed (timer : t.stage? w.timer = some .warmed) (mem : w ∈ ends.map Ending.warming)
  | interrupted (timer : t.stage? w.timer = some .warmed) (silent : w ∉ ends.map Ending.warming)
    (cancelled : t.isCancelled = true)

namespace Course

variable {t u : Traffic} {ends ends' : List Ending} {w : Warming}

/-- A timer that is left alone comes no further. -/
theorem keep (h : Course t ends w) (timer : u.calls[w.timer]? = t.calls[w.timer]?)
    (mem : w ∈ ends'.map Ending.warming ↔ w ∈ ends.map Ending.warming)
    (cancelled : t.isCancelled = true → u.isCancelled = true) : Course u ends' w := by
  have stage : u.stage? w.timer = t.stage? w.timer := by rw [stage?, stage?, timer]
  cases h with
  | runs runs silent => exact .runs (timer.trans runs) (mt mem.mp silent)
  | elapsed ended here => exact .elapsed (stage.trans ended) (mem.mpr here)
  | interrupted ended silent hc =>
    exact .interrupted (stage.trans ended) (mt mem.mp silent) (cancelled hc)

/-- The timer of a warm-up runs, or it is over. -/
theorem timer (h : Course t ends w) :
    t.calls[w.timer]? = some w.running ∨ t.stage? w.timer = some .warmed := by
  cases h with
  | runs runs => exact .inl runs
  | elapsed warmed => exact .inr warmed
  | interrupted warmed => exact .inr warmed

/-- A warm-up whose timer runs has not ended. -/
theorem silent_of_runs (h : Course t ends w) (runs : t.calls[w.timer]? = some w.running) :
    w ∉ ends.map Ending.warming := by
  have going : t.stage? w.timer ≠ some .warmed := by simp [stage?, runs, Warming.running]
  cases h with
  | runs _ silent => exact silent
  | elapsed warmed => exact absurd warmed going
  | interrupted warmed => exact absurd warmed going

end Course

/-- All warm-ups that were started and those that have ended by themselves: the reports are theirs,
and every running timer is that of a warm-up. -/
structure Warmups (t : Traffic) (ws : List Warming) (ends : List Ending) : Prop where
  timers : (ws.map Warming.timer).Nodup
  nodup : (ends.map Ending.warming).Nodup
  subset : ends.map Ending.warming ⊆ ws
  due : ∀ e ∈ ends, e.warming.due t.timer ≤ e.time
  started : t.reportsOf .warmupStart = ws.map Warming.beginning
  reported : t.reportsOf .warmupEnd = ends.map Ending.report
  succeeded : ∀ w ∈ ws, ∃ r, t.stage? w.call = some (.register (.done (.ok r)))
  course : ∀ w ∈ ws, Course t ends w
  tracked : ∀ n x d, t.calls[n]? = some x → x.stage = .warmup d → ∃ w ∈ ws, w.timer = n

/-- What a move adds to the warm-ups that have ended by themselves: nothing, or one that runs and is
due while no shutdown has begun. -/
inductive Adds (t : Traffic) (ws : List Warming) : List Ending → Prop
  | nothing : Adds t ws []
  | one {w : Warming} (mem : w ∈ ws) (runs : t.calls[w.timer]? = some w.running)
    (going : t.isCancelled = false) (due : w.due t.timer ≤ t.now) : Adds t ws [⟨w, t.now⟩]

namespace Warmups

variable {t u : Traffic} {ws : List Warming} {ends : List Ending}

theorem timer_lt (h : t.Warmups ws ends) {w : Warming} (hw : w ∈ ws) :
    w.timer < t.calls.length := by
  rcases (h.course w hw).timer with runs | warmed
  · exact (List.getElem?_eq_some_iff.mp runs).1
  · obtain ⟨x, hx, -⟩ := Option.map_eq_some_iff.mp warmed
    exact (List.getElem?_eq_some_iff.mp hx).1

/-- A call that waits and is no timer is not that of a warm-up. -/
theorem timer_ne (h : t.Warmups ws ends) {n : Nat} {x : Call} (hx : t.calls[n]? = some x)
    (noTimer : ∀ d, x.stage ≠ .warmup d) {a : Answer} (awaits : x.stage.awaits a = true)
    {w : Warming} (hw : w ∈ ws) : w.timer ≠ n := by
  rintro rfl
  rcases (h.course w hw).timer with runs | warmed
  · obtain rfl := Option.some.inj (hx.symm.trans runs)
    exact noTimer _ rfl
  · obtain ⟨y, hy, hs⟩ := Option.map_eq_some_iff.mp warmed
    obtain rfl := Option.some.inj (hx.symm.trans hy)
    rw [hs] at awaits
    cases awaits

/-- A move that leaves calls and reports alone. -/
theorem idle (h : t.Warmups ws ends) (calls : u.calls = t.calls) (trace : u.trace = t.trace)
    (timer : u.timer = t.timer) (cancelled : t.isCancelled = true → u.isCancelled = true) :
    u.Warmups ws ends := by
  have reports (kind : EventKind) : u.reportsOf kind = t.reportsOf kind := by
    rw [reportsOf, reportsOf, trace]
  refine ⟨h.timers, h.nodup, h.subset, fun e he => ?_, (reports _).trans h.started,
    (reports _).trans h.reported, fun w hw => ?_, fun w hw => ?_, fun n x d hx => ?_⟩
  · rw [timer]
    exact h.due e he
  · rw [stage?, calls]
    exact h.succeeded w hw
  · exact (h.course w hw).keep (by rw [calls]) Iff.rfl cancelled
  · rw [calls] at hx
    exact h.tracked n x d hx

section Goes

variable {n : Nat} {i : Instance} {told : List Answer} {s : Step Stage} (g : Goes t n i told s u)
  (h : t.Warmups ws ends)
include g h

/-- A call that has succeeded does not go on. -/
theorem succeeded_goes (waits : ∀ x, t.calls[n]? = some x → ∃ a, x.stage.awaits a = true)
    {w : Warming} (hw : w ∈ ws) : ∃ r, u.stage? w.call = some (.register (.done (.ok r))) := by
  obtain ⟨r, hr⟩ := h.succeeded w hw
  obtain ⟨x, hx, hs⟩ := Option.map_eq_some_iff.mp hr
  have other : w.call ≠ n := by
    intro same
    obtain ⟨a, ha⟩ := waits x (same ▸ hx)
    rw [hs] at ha
    cases a <;> cases ha
  exact ⟨r, by rw [stage?, g.kept _ other x hx, Option.map_some, hs]⟩

/-- Other timers are left alone. -/
theorem course_goes (cancelled : u.isCancelled = t.isCancelled) {w : Warming} (hw : w ∈ ws)
    (other : w.timer ≠ n) {ends' : List Ending}
    (mem : w ∈ ends'.map Ending.warming ↔ w ∈ ends.map Ending.warming) : Course u ends' w := by
  have timer : u.calls[w.timer]? = t.calls[w.timer]? := by
    have hx := List.getElem?_eq_getElem (h.timer_lt hw)
    rw [g.kept _ other _ hx, hx]
  exact (h.course w hw).keep timer mem fun hc => cancelled.trans hc

/-- The ends that are known stay as they are. -/
theorem due_goes {e : Ending} (he : e ∈ ends) : e.warming.due u.timer ≤ e.time := by
  rw [g.timer]
  exact h.due e he

/-- A step that does not touch warm-ups. -/
theorem still (still : s.IsStill) (cancelled : u.isCancelled = t.isCancelled)
    (waits : ∀ x, t.calls[n]? = some x → ∃ a, x.stage.awaits a = true ∧ ∀ d, x.stage ≠ .warmup d)
    (stage : ∀ d, s.stage ≠ .warmup d) : u.Warmups ws ends := by
  have other {w : Warming} (hw : w ∈ ws) : w.timer ≠ n := by
    have hx := List.getElem?_eq_getElem (h.timer_lt hw)
    rintro rfl
    obtain ⟨a, awaits, noTimer⟩ := waits _ hx
    exact h.timer_ne hx noTimer awaits hw rfl
  refine ⟨h.timers, h.nodup, h.subset, fun e he => due_goes g h he, ?_, ?_,
    fun w hw => succeeded_goes g h (fun x hx => ?_) hw,
    fun w hw => course_goes g h cancelled hw (other hw) Iff.rfl, fun m x d hx hd => ?_⟩
  · rw [g.reportsOf, still.starts, h.started]
    exact List.append_nil _
  · rw [g.reportsOf, still.ends, h.reported]
    exact List.append_nil _
  · obtain ⟨a, ha, -⟩ := waits x hx
    exact ⟨a, ha⟩
  · by_cases hm : m = n
    · rw [hm, g.call] at hx
      obtain rfl := Option.some.inj hx
      exact absurd hd (stage d)
    · rcases g.others m hm x hx with old | ⟨-, -, e, new, -⟩
      · exact h.tracked m x d old hd
      · exact absurd new (still.timers _ e)

end Goes

/-! ### Successes -/

/-- A registration that succeeds starts its warm-up. -/
theorem warms (h : t.Warmups ws ends) (sound : t.Sound) {n : Nat} {i : Instance} {p : Policy}
    {since : Nat} (hx : t.calls[n]? = some ⟨i, .register (.registering p), since⟩) {d : Duration}
    (hd : p.warms? = some d) (r : Registration) :
    (t.proceed n ⟨i, .register (.registering p), since⟩ (.register (.registered (.ok r)))).Warmups
      (ws ++ [⟨n, t.calls.length, i, d, t.now⟩]) ends := by
  let a : Answer := .register (.registered (.ok r))
  let x : Call := ⟨i, .register (.registering p), since⟩
  let w : Warming := ⟨n, t.calls.length, i, d, t.now⟩
  have g : Goes t n i [a] (x.resume t.controller a t.now) (t.proceed n x a) := goes_proceed hx a
  have hc : t.controller.state? i.key = some .registering := sound.owns hx .registering rfl
  obtain ⟨stage, starts, silent, timers⟩ := Register.succeed_warms (p := p) hc r t.now
  have calls : (t.proceed n x a).calls =
      t.calls.set n ⟨i, (x.resume t.controller a t.now).stage, t.now⟩ ++ [w.running] := by
    show _ ++ timersOf t.now (Register.succeed t.controller i p r).effects = _
    rw [timers, hd]
    rfl
  have waits : ∀ y, t.calls[n]? = some y → ∃ b, y.stage.awaits b = true := by
    intro y hy
    obtain rfl := Option.some.inj (hy.symm.trans hx)
    exact ⟨a, rfl⟩
  have other {v : Warming} (hv : v ∈ ws) : v.timer ≠ n :=
    h.timer_ne hx (fun d hd => by cases hd) (a := a) rfl hv
  have fresh : w ∉ ends.map Ending.warming :=
    fun hw => Nat.lt_irrefl _ (h.timer_lt (h.subset hw))
  refine ⟨?_, h.nodup, fun v hv => List.mem_append_left _ (h.subset hv),
    fun e he => due_goes g h he, ?_, ?_, fun v hv => ?_, fun v hv => ?_, fun m y e hy he => ?_⟩
  · rw [List.map_append, List.map_singleton, ← List.concat_eq_append]
    refine h.timers.concat fun mem => ?_
    obtain ⟨v, hv, same⟩ := List.mem_map.mp mem
    exact Nat.ne_of_lt (h.timer_lt hv) same
  · rw [g.reportsOf, h.started, List.map_append]
    show _ ++ ((Register.succeed t.controller i p r).effects.filterMap _).map _ = _
    rw [starts, hd]
    rfl
  · rw [g.reportsOf, h.reported]
    show _ ++ ((Register.succeed t.controller i p r).effects.filterMap _).map _ = _
    rw [silent]
    exact List.append_nil _
  · rcases List.mem_append.mp hv with hv | hv
    · exact succeeded_goes g h waits hv
    · rw [List.mem_singleton.mp hv]
      refine ⟨r, ?_⟩
      rw [stage?, g.call]
      exact congrArg some (congrArg Stage.register stage)
  · rcases List.mem_append.mp hv with hv | hv
    · exact course_goes g h rfl hv (other hv) Iff.rfl
    · rw [List.mem_singleton.mp hv]
      have last (ys : List Call) (hl : ys.length = t.calls.length) :
          (ys ++ [w.running])[t.calls.length]? = some w.running := by simp [← hl]
      refine .runs ?_ fresh
      rw [calls]
      exact last _ (by simp)
  · by_cases hm : m = n
    · rw [hm, g.call] at hy
      obtain rfl := Option.some.inj hy
      cases he
    · rcases g.others m hm y hy with old | ⟨le, -⟩
      · obtain ⟨v, hv, rfl⟩ := h.tracked m y e old he
        exact ⟨v, List.mem_append_left _ hv, rfl⟩
      · have lt : m < (t.proceed n x a).calls.length := (List.getElem?_eq_some_iff.mp hy).1
        rw [calls, List.length_append, List.length_set] at lt
        exact ⟨w, List.mem_append_right _ (List.mem_singleton.mpr rfl),
          Nat.le_antisymm le (Nat.le_of_lt_succ lt)⟩

/-- A registration that succeeds without a warm-up starts none. -/
theorem succeeds (h : t.Warmups ws ends) (sound : t.Sound) {n : Nat} {i : Instance}
    {p : Policy} {since : Nat} (hx : t.calls[n]? = some ⟨i, .register (.registering p), since⟩)
    (hp : p.warms? = none) (r : Registration) :
    (t.proceed n ⟨i, .register (.registering p), since⟩
      (.register (.registered (.ok r)))).Warmups ws ends := by
  have hc : t.controller.state? i.key = some .registering := sound.owns hx .registering rfl
  obtain ⟨stage, starts, silent, timers⟩ := Register.succeed_warms (p := p) hc r t.now
  rw [hp] at starts timers
  refine still (goes_proceed hx _) h ⟨starts, silent, fun j d hd => ?_⟩ rfl (fun y hy => ?_)
    fun d hd => by cases hd
  · have mem : (⟨j, .warmup d, t.now⟩ : Call) ∈
        timersOf t.now (Register.succeed t.controller i p r).effects :=
      List.mem_filterMap.mpr ⟨_, hd, rfl⟩
    rw [timers] at mem
    cases mem
  · obtain rfl := Option.some.inj (hy.symm.trans hx)
    exact ⟨.register (.registered (.ok r)), rfl, fun d hd => by cases hd⟩

/-! ### Timers that end -/

section Timer

variable {n : Nat} {x : Call} {d : Duration}

/-- A running timer is that of a warm-up that has not ended. -/
theorem running (h : t.Warmups ws ends) (hx : t.calls[n]? = some x) (hd : x.stage = .warmup d) :
    ∃ w ∈ ws, w.timer = n ∧ w.interval = d ∧ x = w.running ∧ w ∉ ends.map Ending.warming := by
  obtain ⟨w, hw, rfl⟩ := h.tracked n x d hx hd
  rcases (h.course w hw).timer with runs | warmed
  · obtain rfl := Option.some.inj (hx.symm.trans runs)
    exact ⟨w, hw, rfl, Stage.warmup.inj hd, rfl, (h.course w hw).silent_of_runs runs⟩
  · simp [stage?, hx, hd] at warmed

/-- A timer is over: its warm-up has come to its end if its course says so, and no other one. -/
theorem finish (h : t.Warmups ws ends) {w : Warming} (hw : w ∈ ws)
    (hx : t.calls[w.timer]? = some w.running) {isInterrupted : Bool} {more : List Ending}
    (nodup : ((ends ++ more).map Ending.warming).Nodup)
    (mine : ∀ e ∈ more, e.warming = w ∧ w.due t.timer ≤ e.time)
    (reported : (t.proceed w.timer w.running (.timer isInterrupted)).reportsOf .warmupEnd =
      (ends ++ more).map Ending.report)
    (course : Course (t.proceed w.timer w.running (.timer isInterrupted)) (ends ++ more) w) :
    (t.proceed w.timer w.running (.timer isInterrupted)).Warmups ws (ends ++ more) := by
  have g := goes_proceed hx (.timer isInterrupted)
  have timers : ∀ i d, .warmup i d ∉
      (w.running.resume t.controller (.timer isInterrupted) t.now).effects := by
    intro i d hd
    have informs := informs_finish t.controller w.inst w.interval w.start isInterrupted t.now
    have start : .warmupStart ∈ [EventKind.warmupEnd] := informs.carries _ hd
    exact absurd start (by decide)
  refine ⟨h.timers, nodup, fun v hv => ?_, fun e he => ?_, ?_, reported,
    fun v hv => succeeded_goes g h (fun y hy => ?_) hv, fun v hv => ?_, fun m y e hy he => ?_⟩
  · rw [List.map_append] at hv
    rcases List.mem_append.mp hv with hv | hv
    · exact h.subset hv
    · obtain ⟨e, he, rfl⟩ := List.mem_map.mp hv
      rw [(mine e he).1]
      exact hw
  · rcases List.mem_append.mp he with he | he
    · exact due_goes g h he
    · obtain ⟨rfl, due⟩ := mine e he
      exact due
  · rw [g.reportsOf, h.started]
    cases isInterrupted <;> exact List.append_nil _
  · obtain rfl := Option.some.inj (hy.symm.trans hx)
    exact ⟨.timer isInterrupted, rfl⟩
  · by_cases same : v.timer = w.timer
    · rw [List.inj_on_of_nodup_map h.timers hv hw same]
      exact course
    · have notMore : v ∉ more.map Ending.warming := by
        intro hmem
        obtain ⟨e, he, rfl⟩ := List.mem_map.mp hmem
        exact same (congrArg Warming.timer (mine e he).1)
      refine course_goes g h rfl hv same ?_
      rw [List.map_append, List.mem_append, or_iff_left notMore]
  · by_cases hm : m = w.timer
    · rw [hm, g.call] at hy
      obtain rfl := Option.some.inj hy
      cases he
    · rcases g.others m hm y hy with old | ⟨-, -, e', new, -⟩
      · exact h.tracked m y e old he
      · exact absurd new (timers _ e')

/-- A timer that meets the shutdown reports nothing. -/
theorem interrupt (h : t.Warmups ws ends) {w : Warming} (hw : w ∈ ws)
    (hx : t.calls[w.timer]? = some w.running) (cancelled : t.isCancelled = true) :
    (t.proceed w.timer w.running (.timer true)).Warmups ws ends := by
  have g := goes_proceed hx (.timer true)
  have none : (t.proceed w.timer w.running (.timer true)).reportsOf .warmupEnd =
      (ends ++ []).map Ending.report := by
    rw [g.reportsOf, h.reported, List.append_nil]
    exact List.append_nil _
  have silent := (h.course w hw).silent_of_runs hx
  have key := h.finish hw hx (by simpa using h.nodup) (fun e he => by cases he) none
    (.interrupted (by rw [stage?_proceed hx]; rfl) (by simpa using silent) cancelled)
  rwa [List.append_nil] at key

/-- A timer that is due reports so. -/
theorem elapse (h : t.Warmups ws ends) {w : Warming} (hw : w ∈ ws)
    (hx : t.calls[w.timer]? = some w.running) (due : w.due t.timer ≤ t.now) :
    (t.proceed w.timer w.running (.timer false)).Warmups ws (ends ++ [⟨w, t.now⟩]) := by
  have g := goes_proceed hx (.timer false)
  have silent := (h.course w hw).silent_of_runs hx
  have one : (t.proceed w.timer w.running (.timer false)).reportsOf .warmupEnd =
      (ends ++ [(⟨w, t.now⟩ : Ending)]).map Ending.report := by
    rw [g.reportsOf, h.reported, List.map_append]
    rfl
  refine h.finish hw hx ?_ (fun e he => ?_) one (.elapsed ?_ (by simp))
  · rw [List.map_append, List.map_singleton, ← List.concat_eq_append]
    exact h.nodup.concat silent
  · rw [List.mem_singleton.mp he]
    exact ⟨rfl, due⟩
  · rw [stage?_proceed hx]
    rfl

end Timer

/-! ### Moves -/

/-- The registrar has accepted an instance. -/
theorem accepted (h : t.Warmups ws ends) (sound : t.Sound) (n : Nat) (r : Registration) :
    (t.step (.answer n (.register (.registered (.ok r))))).Warmups
      (ws ++ (t.warming? (.answer n (.register (.registered (.ok r))))).toList) ends := by
  cases hx : t.calls[n]? with
  | none =>
    simp only [warming?, hx, Option.toList_none, List.append_nil]
    simpa [step, hx] using h
  | some x =>
    by_cases waits : ∃ p, x.stage = .register (.registering p)
    · obtain ⟨p, hp⟩ := waits
      obtain ⟨i, stage, since⟩ := x
      obtain rfl : stage = .register (.registering p) := hp
      rw [step_answer (a := .register (.registered (.ok r))) hx rfl]
      simp only [warming?, hx]
      cases hd : p.warms? with
      | none => simpa using h.succeeds sound hx hd r
      | some d => exact h.warms sound hx hd r
    · have unheard : x.stage.awaits (.register (.registered (.ok r))) = false := by
        rw [Bool.eq_false_iff]
        intro awaits
        rcases Stage.cases_of_awaits awaits with ⟨s, b, hs, ha, hb⟩ | ⟨_, _, _, ha⟩ | ⟨_, _, _, ha⟩
        · obtain rfl := Answer.register.inj ha
          obtain ⟨p, rfl⟩ := RegisterStage.eq_registering_of_awaits hb
          exact waits ⟨p, hs⟩
        · cases ha
        · cases ha
      rw [warming?_of_not_waiting hx waits, Option.toList_none, List.append_nil]
      simpa [step, hx, Call.accepts, unheard] using h

/-- A call is answered, but not by a registrar that has accepted its instance. -/
theorem answered (h : t.Warmups ws ends) {n : Nat} {x : Call} {a : Answer}
    (other : ∀ r, a ≠ .register (.registered (.ok r))) (hx : t.calls[n]? = some x)
    (taken : x.accepts t.timer t.isCancelled t.now a = true) :
    ∃ more, t.Adds ws more ∧ (t.proceed n x a).Warmups ws (ends ++ more) := by
  have awaits : x.stage.awaits a = true := by
    simp only [Call.accepts, Bool.and_eq_true] at taken
    exact taken.1.1
  by_cases timer : ∃ d, x.stage = .warmup d
  · obtain ⟨d, hd⟩ := timer
    obtain ⟨isInterrupted, rfl⟩ : ∃ b, a = .timer b := by
      rw [hd] at awaits
      cases a with
      | timer b => exact ⟨b, rfl⟩
      | _ => cases awaits
    have said := (Call.accepts_timer hd ..).mp taken
    obtain ⟨w, hw, rfl, rfl, rfl, -⟩ := h.running hx hd
    cases isInterrupted with
    | true =>
      refine ⟨[], .nothing, ?_⟩
      rw [List.append_nil]
      refine h.interrupt hw hx ?_
      by_contra going
      simp only [Timer.poll, if_neg going] at said
      split at said <;> cases said
    | false =>
      obtain ⟨going, due⟩ := (Timer.poll_eq_elapsed_iff _).mp said
      exact ⟨_, .one hw hx going due, h.elapse hw hx due⟩
  · refine ⟨[], .nothing, ?_⟩
    have noTimer : ∀ d, x.stage ≠ .warmup d := fun d hd => timer ⟨d, hd⟩
    rw [List.append_nil]
    refine still (goes_proceed hx a) h (still_resume awaits other noTimer ..) rfl (fun y hy => ?_)
      (resume_stage_ne awaits _ _)
    obtain rfl := Option.some.inj (hy.symm.trans hx)
    exact ⟨a, awaits, noTimer⟩

/-- Every move keeps account of the warm-ups: it may start one, and it may end one unless a shutdown
came before. -/
theorem step (h : t.Warmups ws ends) (sound : t.Sound) (m : Move) :
    ∃ more, t.Adds ws more ∧
      (t.step m).Warmups (ws ++ (t.warming? m).toList) (ends ++ more) := by
  have quietly {m : Move} (none : t.warming? m = none) (key : (t.step m).Warmups ws ends) :
      ∃ more, t.Adds ws more ∧
        (t.step m).Warmups (ws ++ (t.warming? m).toList) (ends ++ more) := by
    refine ⟨[], .nothing, ?_⟩
    rw [none, Option.toList_none, List.append_nil, List.append_nil]
    exact key
  have fresh (x : Call) (hx : t.calls[t.calls.length]? = some x) :
      ∃ a, x.stage.awaits a = true ∧ ∀ d, x.stage ≠ .warmup d := by
    rw [List.getElem?_eq_none (Nat.le_refl _)] at hx
    cases hx
  cases m with
  | pass millis => exact quietly rfl (h.idle rfl rfl rfl id)
  | cancel => exact quietly rfl (h.idle rfl rfl rfl fun _ => rfl)
  | register i =>
    exact quietly rfl <| still (goes_launch (Step.serves_of_quiet rfl rfl)) h
      ⟨rfl, rfl, fun _ _ hd => by cases hd⟩ rfl fresh fun d hd => by cases hd
  | deregister i isProbe =>
    exact quietly rfl <|
      still (goes_launch (serves_start ..)) h (still_start ..) rfl fresh fun d hd => by cases hd
  | answer n a =>
    by_cases success : ∃ r, a = .register (.registered (.ok r))
    · obtain ⟨r, rfl⟩ := success
      refine ⟨[], .nothing, ?_⟩
      rw [List.append_nil]
      exact h.accepted sound n r
    · have other : ∀ r, a ≠ .register (.registered (.ok r)) := fun r hr => success ⟨r, hr⟩
      have none := warming?_of_ne (t := t) (n := n) other
      cases hx : t.calls[n]? with
      | none => exact quietly none (by simpa [Traffic.step, hx] using h)
      | some x =>
        by_cases taken : x.accepts t.timer t.isCancelled t.now a = true
        · obtain ⟨more, adds, key⟩ := h.answered other hx taken
          rw [none, Option.toList_none, List.append_nil, step_answer hx taken]
          exact ⟨more, adds, key⟩
        · exact quietly none (by simpa [Traffic.step, hx, taken] using h)

end Warmups

theorem warmups_start (τ : Timer) (settings : GracefulSettings) (server : ProbeServer) :
    (start τ settings server).Warmups [] [] :=
  ⟨List.nodup_nil, List.nodup_nil, fun _ h => h, fun _ h => absurd h List.not_mem_nil, rfl, rfl,
    fun _ h => absurd h List.not_mem_nil, fun _ h => absurd h List.not_mem_nil,
    fun n x _ h => by simp [start] at h⟩

/-! ## Timers that are over -/

/-- A timer that is over stays so. -/
theorem warmed_step {t : Traffic} {n : Nat} (h : t.stage? n = some .warmed) (m : Move) :
    (t.step m).stage? n = some .warmed := by
  obtain ⟨x, hx, hs⟩ := Option.map_eq_some_iff.mp h
  have begun := (List.getElem?_eq_some_iff.mp hx).1
  have stays {v : Traffic} (kept : v.calls[n]? = some x) : v.stage? n = some .warmed := by
    rw [stage?, kept, Option.map_some, hs]
  have move := t.stepped m
  generalize t.step m = v at move
  cases move with
  | idle => exact h
  | register i =>
    exact stays ((goes_launch (Step.serves_of_quiet rfl rfl)).kept n (Nat.ne_of_lt begun) x hx)
  | deregister i isProbe =>
    exact stays ((goes_launch (serves_start ..)).kept n (Nat.ne_of_lt begun) x hx)
  | @answer k y a call awaits =>
    refine stays ((goes_proceed call a).kept n ?_ x hx)
    rintro rfl
    obtain rfl := Option.some.inj (hx.symm.trans call)
    rw [hs] at awaits
    cases awaits

end Traffic

end InstanceLifecycle
