import InstanceLifecycle.Weight.Adjuster

/-!
# The ticks of an adjuster

Any number of ticks share one adjuster. A tick runs without a break until it waits for its turn or
for an answer to its lookup; then other ticks may go on, and policies may be invalidated. Which
comes next, and with what answer, is open: a move names it. Each kept policy bears the number of the
tick that has looked it up, so that a use of a policy can be traced to its lookup.

Results:

* `run_induction`: what the start satisfies and every move preserves holds after every run;
* `run_synced`: a policy is kept exactly if the number of its lookup is, and only ticks of an
  adjuster that is switched on look up.
-/

namespace InstanceLifecycle

namespace Refresh

/-- A tick and the stage where it stands. -/
structure Call where
  tick : Tick
  stage : TickStage
  deriving Repr

/-- What happens at an adjuster. Ticks are numbered in the order in which they begin. -/
inductive Happening
  | began (n : Nat) (service : ServiceKey)
  /-- A tick starts its lookup. -/
  | asked (n : Nat) (service : ServiceKey)
  /-- A tick ends with the weights under a policy, which answers the lookup of a tick. -/
  | used (n : Nat) (service : ServiceKey) (p : WarmupPolicy) (source : Nat)
  | invalidated (service : ServiceKey)
  deriving DecidableEq, Repr

end Refresh

/-- All ticks of an adjuster and what has happened so far. -/
structure Refresh where
  adjuster : Adjuster
  calls : List Refresh.Call := []
  /-- The ticks that have looked up what is kept. -/
  sources : Table ServiceKey Nat := .empty
  trace : List Refresh.Happening := []

namespace Refresh

/-- What can happen next. -/
inductive Move
  | tick (t : Tick)
  /-- The tick with this number takes its turn. -/
  | turn (n : Nat)
  /-- The lookup of the tick with this number is answered. -/
  | answer (n : Nat) (r : Except Failure (Option RemoteRule))
  | invalidate (k : ServiceKey)

/-- The ticks of an adjuster that was just created. -/
def start (s : Settings) : Refresh := { adjuster := .create s }

/-- What is written down when a tick comes to a stage before its lookup was answered. -/
def notes (x : Refresh) (n : Nat) (t : Tick) : TickStage → List Happening
  | .queued => []
  | .looking => [.asked n t.service]
  | .done _ =>
    if x.adjuster.enabled && !t.candidates.isEmpty then
      match x.adjuster.cached? t.service, x.sources.get? t.service with
      | some p, some m => [.used n t.service p m]
      | _, _ => []
    else []

/-- Begins a tick. -/
def arrive (x : Refresh) (t : Tick) : Refresh :=
  let n := x.calls.length
  let s := x.adjuster.arrive n t
  { x with
    adjuster := s.1
    calls := x.calls ++ [⟨t, s.2.1⟩]
    trace := x.trace ++ .began n t.service :: x.notes n t s.2.1 }

/-- A tick takes its turn. -/
def takeTurn (x : Refresh) (n : Nat) (t : Tick) : Refresh :=
  let s := x.adjuster.takeTurn t
  { x with
    adjuster := s.1
    calls := x.calls.set n ⟨t, s.2.1⟩
    trace := x.trace ++ x.notes n t s.2.1 }

/-- The policy under the answer to a lookup; without an answer it is local. -/
def policyFor (x : Refresh) (r : Except Failure (Option RemoteRule)) : WarmupPolicy :=
  (x.adjuster.settings.resolve (r.toOption.getD none)).warmup

/-- The lookup of a tick is answered. -/
def looked (x : Refresh) (n : Nat) (t : Tick) (r : Except Failure (Option RemoteRule)) : Refresh :=
  let s := x.adjuster.looked t r
  { x with
    adjuster := s.1
    calls := x.calls.set n ⟨t, s.2.1⟩
    sources :=
      match r with
      | .ok _ => x.sources.insert t.service n
      | .error _ => x.sources
    trace := x.trace ++ [.used n t.service (x.policyFor r) n] }

/-- Takes a move; one that cannot come changes nothing. -/
def step (x : Refresh) : Move → Refresh
  | .tick t => x.arrive t
  | .turn n =>
    match x.calls[n]? with
    | some ⟨t, .queued⟩ => if x.adjuster.isFirst t.service n then x.takeTurn n t else x
    | _ => x
  | .answer n r =>
    match x.calls[n]? with
    | some ⟨t, .looking⟩ => x.looked n t r
    | _ => x
  | .invalidate k =>
    { x with
      adjuster := x.adjuster.invalidate k
      sources := x.sources.erase k
      trace := x.trace ++ [.invalidated k] }

/-- Takes some moves. -/
def run (x : Refresh) (ms : List Move) : Refresh := ms.foldl step x

@[simp]
theorem run_nil (x : Refresh) : x.run [] = x := rfl

theorem run_cons (x : Refresh) (m : Move) (ms : List Move) :
    x.run (m :: ms) = (x.step m).run ms := rfl

/-- What the start satisfies and every move preserves holds after every run. -/
theorem run_induction {P : Refresh → Prop} {x : Refresh} (start : P x)
    (step : ∀ y m, P y → P (y.step m)) (ms : List Move) : P (x.run ms) := by
  induction ms generalizing x with
  | nil => exact start
  | cons m ms ih =>
    rw [run_cons]
    exact ih (step x m start)

/-- A move begins a tick, gives a waiting tick its turn, answers a lookup or invalidates a service,
or it changes nothing. -/
theorem step_cases {P : Refresh → Prop} {x : Refresh} (m : Move) (same : P x)
    (arrive : ∀ t, P (x.arrive t))
    (turn : ∀ n t, x.calls[n]? = some ⟨t, .queued⟩ → x.adjuster.isFirst t.service n = true →
      P (x.takeTurn n t))
    (answer : ∀ n t r, x.calls[n]? = some ⟨t, .looking⟩ → P (x.looked n t r))
    (invalidate : ∀ k, P (x.step (.invalidate k))) : P (x.step m) := by
  cases m with
  | tick t => exact arrive t
  | turn n =>
    simp only [step]
    split
    · next t hn =>
      split
      · next hf => exact turn n t hn hf
      · exact same
    · exact same
  | answer n r =>
    simp only [step]
    split
    · next t hn => exact answer n t r hn
    · exact same
  | invalidate k => exact invalidate k

/-! ## Kept policies and their lookups -/

/-- A policy is kept exactly if the number of its lookup is, and only ticks of an adjuster that is
switched on are waiting for something. -/
structure Synced (x : Refresh) : Prop where
  sources : ∀ k, (x.sources.get? k).isSome = (x.adjuster.cached? k).isSome
  enabled : ∀ y ∈ x.calls, (∀ ws, y.stage ≠ .done ws) → x.adjuster.enabled = true

end Refresh

/-! ## What steps leave alone -/

namespace Adjuster

variable (a : Adjuster) (n : Nat) (t : Tick)

/-- A turn changes neither what is kept nor the switch. -/
theorem takeTurn_frame :
    (a.takeTurn t).1.cache = a.cache ∧ (a.takeTurn t).1.enabled = a.enabled := by
  unfold takeTurn
  split
  · exact ⟨rfl, rfl⟩
  · exact ⟨rfl, rfl⟩

/-- The arrival of a tick changes neither what is kept nor the switch. -/
theorem arrive_frame :
    (a.arrive n t).1.cache = a.cache ∧ (a.arrive n t).1.enabled = a.enabled := by
  unfold arrive
  split
  · split
    · exact ⟨rfl, rfl⟩
    · dsimp only
      split
      · exact takeTurn_frame ..
      · exact ⟨rfl, rfl⟩
  · exact ⟨rfl, rfl⟩

/-- A tick that does not end at once belongs to an adjuster that is switched on. -/
theorem enabled_of_arrive_waits (h : ∀ ws, (a.arrive n t).2.1 ≠ .done ws) : a.enabled = true := by
  unfold arrive at h
  split at h
  · next he => exact (Bool.and_eq_true_iff.mp he).1
  · exact absurd rfl (h [])

theorem enabled_looked (r : Except Failure (Option RemoteRule)) :
    (a.looked t r).1.enabled = a.enabled := by
  cases r <;> rfl

/-- A lookup ends its tick. -/
theorem looked_done (r : Except Failure (Option RemoteRule)) :
    ∃ ws, (a.looked t r).2.1 = .done ws := by
  cases r <;> exact ⟨_, rfl⟩

end Adjuster

namespace Refresh

/-! ## Runs -/

theorem Synced.arrive {x : Refresh} (h : x.Synced) (t : Tick) : (x.arrive t).Synced where
  sources k := by
    rw [Adjuster.cached?, Refresh.arrive, (Adjuster.arrive_frame ..).1]
    exact h.sources k
  enabled y hy hw := by
    show (x.adjuster.arrive x.calls.length t).1.enabled = true
    rw [(Adjuster.arrive_frame ..).2]
    rcases List.mem_append.mp hy with hy | hy
    · exact h.enabled y hy hw
    · obtain rfl := List.mem_singleton.mp hy
      exact x.adjuster.enabled_of_arrive_waits _ _ hw

theorem Synced.takeTurn {x : Refresh} (h : x.Synced) {n : Nat} {t : Tick}
    (hn : x.calls[n]? = some ⟨t, .queued⟩) : (x.takeTurn n t).Synced where
  sources k := by
    rw [Adjuster.cached?, Refresh.takeTurn, (Adjuster.takeTurn_frame ..).1]
    exact h.sources k
  enabled y hy hw := by
    show (x.adjuster.takeTurn t).1.enabled = true
    rw [(Adjuster.takeTurn_frame ..).2]
    exact h.enabled _ (List.mem_of_getElem? hn) (by simp)

theorem Synced.looked {x : Refresh} (h : x.Synced) (n : Nat) (t : Tick)
    (r : Except Failure (Option RemoteRule)) : (x.looked n t r).Synced where
  sources k := by
    cases r with
    | ok remote =>
      simp only [Refresh.looked, Adjuster.cached?, Adjuster.looked, Adjuster.leave,
        Table.get?_insert]
      split
      · rfl
      · exact h.sources k
    | error f => exact h.sources k
  enabled y hy hw := by
    show (x.adjuster.looked t r).1.enabled = true
    rw [Adjuster.enabled_looked]
    rcases List.mem_or_eq_of_mem_set hy with hy | rfl
    · exact h.enabled y hy hw
    · obtain ⟨ws, hws⟩ := x.adjuster.looked_done t r
      exact absurd hws (hw ws)

/-- Every move keeps policies and lookups in step. -/
theorem Synced.step {x : Refresh} (h : x.Synced) (m : Move) : (x.step m).Synced := by
  refine step_cases (P := Synced) m h h.arrive (fun n t hn _ => h.takeTurn hn)
    (fun n t r _ => h.looked n t r) fun k => ⟨fun j => ?_, h.enabled⟩
  simp only [Refresh.step, Adjuster.cached?_invalidate, Table.get?_erase]
  split
  · rfl
  · exact h.sources j

/-- A policy is kept exactly if the number of its lookup is, and only ticks of an adjuster that is
switched on look up. -/
theorem run_synced (s : Settings) (ms : List Move) : ((start s).run ms).Synced :=
  run_induction ⟨fun _ => rfl, fun _ hy => by cases hy⟩ (fun _ m h => h.step m) ms

end Refresh

end InstanceLifecycle
