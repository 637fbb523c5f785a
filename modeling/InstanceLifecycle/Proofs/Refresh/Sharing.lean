import InstanceLifecycle.Lifecycle.Register
import InstanceLifecycle.Proofs.Refresh.Line

/-!
# Shared lookups

The ticks for a service share a lookup: while it is in flight the others wait, and what it finds is
kept for all of them. A failed lookup is not kept, so the next tick in the line looks up again. The
weights of a tick are those under a policy that is kept when it ends, or under the answer to its own
lookup. That is the policy under which a registration would be made with the same settings and
answer.

Results:

* `stores_add_kept`: lookups that are kept are balanced by policies that are dropped;
* `run_since`: what holds at the end of a run has begun to hold at some move;
* `shares_lookups`: who looks up when, and where the weights and the kept policies come from.
-/

namespace InstanceLifecycle

namespace Refresh

/-! ## What is set at the start -/

/-- A move changes no settings. -/
theorem step_settings {x : Refresh} (h : Lined x.adjuster x.calls) (m : Move) :
    (x.step m).adjuster.enabled = x.adjuster.enabled ∧
      (x.step m).adjuster.settings = x.adjuster.settings := by
  refine step_cases (P := fun y => y.adjuster.enabled = x.adjuster.enabled ∧
    y.adjuster.settings = x.adjuster.settings) m ⟨rfl, rfl⟩ (fun t => ?_) (fun n t _ _ => ?_)
    (fun n t r _ => ?_) fun k => ⟨rfl, rfl⟩
  · exact x.adjuster.arrive_cases (P := fun a _ => a.enabled = x.adjuster.enabled ∧
      a.settings = x.adjuster.settings) (h.fresh t.service) (fun _ => ⟨rfl, rfl⟩)
      (fun _ _ _ => ⟨rfl, rfl⟩) (fun _ _ _ => ⟨rfl, rfl⟩) fun _ _ _ => ⟨rfl, rfl⟩
  · exact x.adjuster.takeTurn_cases (P := fun a _ => a.enabled = x.adjuster.enabled ∧
      a.settings = x.adjuster.settings) t (fun _ _ => ⟨rfl, rfl⟩) fun _ => ⟨rfl, rfl⟩
  · cases r <;> exact ⟨rfl, rfl⟩

theorem run_settings (s : Settings) (ms : List Move) :
    ((start s).run ms).adjuster.enabled = s.adjustWeights ∧
      ((start s).run ms).adjuster.settings = s.graceful := by
  have all : Lined ((start s).run ms).adjuster ((start s).run ms).calls ∧
      ((start s).run ms).adjuster.enabled = s.adjustWeights ∧
      ((start s).run ms).adjuster.settings = s.graceful := by
    refine run_induction (P := fun y => Lined y.adjuster y.calls ∧
      y.adjuster.enabled = s.adjustWeights ∧ y.adjuster.settings = s.graceful)
      ⟨run_lined s [], rfl, rfl⟩ (fun y m hy => ?_) ms
    obtain ⟨lined, on, settings⟩ := hy
    obtain ⟨on', settings'⟩ := step_settings lined m
    exact ⟨lined.step m, on'.trans on, settings'.trans settings⟩
  exact all.2

/-- The policy under an answer is the one under which a registration would be made. -/
theorem policyFor_eq {x : Refresh} {c : Controller} (same : c.settings = x.adjuster.settings)
    (r : Except Failure (Option RemoteRule)) : x.policyFor r = (c.policyFor r).warmup := by
  cases r <;> simp [policyFor, Controller.policyFor, Except.toOption, same]

/-! ## Which ticks look up -/

/-- Whether a tick asks for weights. -/
def Asks (a : Adjuster) (t : Tick) : Prop := (a.enabled && !t.candidates.isEmpty) = true

/-- Only ticks that ask for weights stand in a line. -/
def AllAsk (a : Adjuster) (cs : List Call) : Prop :=
  ∀ (n : Nat) (y : Call), cs[n]? = some y → y.stage.waits = true → Asks a y.tick

theorem AllAsk.snoc {a : Adjuster} {cs : List Call} (h : AllAsk a cs) {t : Tick} {stage : TickStage}
    (new : stage.waits = true → Asks a t) : AllAsk a (cs ++ [⟨t, stage⟩]) := by
  intro n y hy hw
  rcases getElem?_snoc.mp hy with hy | ⟨-, rfl⟩
  · exact h n y hy hw
  · exact new hw

theorem AllAsk.set {a : Adjuster} {cs : List Call} (h : AllAsk a cs) {n : Nat} {y : Call}
    (hn : cs[n]? = some y) (hw : y.stage.waits = true) (stage : TickStage) :
    AllAsk a (cs.set n ⟨y.tick, stage⟩) := by
  intro m z hz hz'
  rcases (getElem?_set_some (lt_of_getElem? hn)).mp hz with ⟨-, rfl⟩ | ⟨-, hz⟩
  · exact h n y hn hw
  · exact h m z hz hz'

theorem AllAsk.step {x : Refresh} (lined : Lined x.adjuster x.calls)
    (h : AllAsk x.adjuster x.calls) (m : Move) :
    AllAsk (x.step m).adjuster (x.step m).calls := by
  have on := (step_settings lined m).1
  have calls : AllAsk x.adjuster (x.step m).calls := by
    refine step_cases (P := fun y => AllAsk x.adjuster y.calls) m h (fun t => ?_)
      (fun n t hn _ => h.set hn rfl _) (fun n t r hn => h.set hn rfl _) fun k => h
    exact x.adjuster.arrive_cases (P := fun _ s => AllAsk x.adjuster (x.calls ++ [Call.mk t s]))
      (lined.fresh _) (fun _ => h.snoc nofun) (fun _ _ _ => h.snoc nofun)
      (fun on _ _ => h.snoc fun _ => on) fun on _ _ => h.snoc fun _ => on
  intro n y hy hw
  have asks := calls n y hy hw
  rw [Asks] at asks ⊢
  rw [on]
  exact asks

theorem run_allAsk (s : Settings) (ms : List Move) :
    AllAsk ((start s).run ms).adjuster ((start s).run ms).calls := by
  have all : Lined ((start s).run ms).adjuster ((start s).run ms).calls ∧
      AllAsk ((start s).run ms).adjuster ((start s).run ms).calls := by
    refine run_induction (P := fun y => Lined y.adjuster y.calls ∧ AllAsk y.adjuster y.calls)
      ⟨run_lined s [], fun n y hy => by simp [start] at hy⟩ (fun y m hy => ?_) ms
    exact ⟨hy.1.step m, hy.2.step hy.1 m⟩
  exact all.2

/-- A tick that asks for nothing ends at once, and nothing else changes. -/
theorem step_tick_idle {x : Refresh} {t : Tick} (off : ¬Asks x.adjuster t) :
    x.step (.tick t) =
      { x with
        calls := x.calls ++ [⟨t, .done []⟩]
        trace := x.trace ++ [.began x.calls.length t.service] } := by
  have off : (x.adjuster.enabled && !t.candidates.isEmpty) = false := by simpa [Asks] using off
  simp only [step, Refresh.arrive, Adjuster.arrive, notes, off, Bool.false_eq_true, if_false]

/-! ## Lookups that are kept and policies that are dropped -/

/-- Whether a move answers a lookup for a service so that its policy is kept. -/
def stores (k : ServiceKey) (x : Refresh) : Move → Bool
  | .answer n (.ok _) =>
    match x.calls[n]? with
    | some ⟨t, .looking⟩ => t.service = k
    | _ => false
  | _ => false

/-- Whether a move drops the policy of a service. -/
def drops (k : ServiceKey) (x : Refresh) : Move → Bool
  | .invalidate j => j = k && (x.adjuster.cached? k).isSome
  | _ => false

/-- The number of moves of a run that are of some kind when they are taken. -/
def count (p : Refresh → Move → Bool) : Refresh → List Move → Nat
  | _, [] => 0
  | x, m :: ms => (p x m).toNat + count p (x.step m) ms

/-- The number of policies that are kept for a service. -/
def kept (k : ServiceKey) (x : Refresh) : Nat := (x.adjuster.cached? k).isSome.toNat

theorem kept_looked {x : Refresh} (h : Lined x.adjuster x.calls) {n : Nat} {t : Tick}
    (hn : x.calls[n]? = some ⟨t, .looking⟩) (r : Except Failure (Option RemoteRule))
    (k : ServiceKey) :
    (stores k x (.answer n r)).toNat + kept k x = kept k (x.looked n t r) := by
  have none := h.uncached n t hn
  cases r with
  | error f => simp [stores, kept, cached?_looked]
  | ok remote =>
    by_cases hk : k = t.service
    · simp [stores, hn, kept, cached?_looked, hk, none]
    · simp [stores, hn, kept, cached?_looked, hk, Ne.symm hk]

theorem stores_step {x : Refresh} (h : Lined x.adjuster x.calls) (k : ServiceKey) (m : Move) :
    (stores k x m).toNat + kept k x = (drops k x m).toNat + kept k (x.step m) := by
  cases m with
  | tick t =>
    have same : (x.arrive t).adjuster.cache = x.adjuster.cache := (Adjuster.arrive_frame ..).1
    simp [stores, drops, kept, step, Adjuster.cached?, same]
  | turn n =>
    have same (t : Tick) : (x.takeTurn n t).adjuster.cache = x.adjuster.cache :=
      (Adjuster.takeTurn_frame ..).1
    simp only [stores, drops, kept, step, Adjuster.cached?]
    split
    · split <;> simp [same]
    · rfl
  | answer n r =>
    simp only [step, drops]
    split
    · next t hn => simpa using kept_looked h hn r k
    · next idle =>
      cases r with
      | error f => rfl
      | ok remote =>
        have no : stores k x (.answer n (.ok remote)) = false := by
          simp only [stores]
        simp [no]
  | invalidate j =>
    simp only [stores, drops, kept, step, Adjuster.cached?_invalidate]
    by_cases hj : j = k
    · simp [hj]
    · simp [hj, Ne.symm hj]

/-- Lookups that are kept are balanced by policies that are dropped. -/
theorem stores_add_kept {x : Refresh} (h : Lined x.adjuster x.calls) (k : ServiceKey)
    (ms : List Move) :
    count (stores k) x ms + kept k x = count (drops k) x ms + kept k (x.run ms) := by
  induction ms generalizing x with
  | nil => rfl
  | cons m ms ih =>
    have first := stores_step h k m
    have rest := ih (h.step m)
    simp only [count, run_cons]
    omega

/-- Between two drops of a policy at most one lookup is kept. -/
theorem stores_le {x : Refresh} (h : Lined x.adjuster x.calls) (k : ServiceKey) (ms : List Move) :
    count (stores k) x ms ≤ count (drops k) x ms + 1 := by
  have balance := stores_add_kept h k ms
  have last : kept k (x.run ms) ≤ 1 := Bool.toNat_le _
  omega

/-! ## Where something comes from -/

/-- What holds at the end of a run and not at its start has begun to hold at some move and has held
since then. -/
theorem run_since {P : Refresh → Prop} {x : Refresh} (no : ¬P x) {ms : List Move}
    (yes : P (x.run ms)) :
    ∃ before m rest, ms = before ++ m :: rest ∧ ¬P (x.run before) ∧
      ∀ mid, mid <+: rest → P (((x.run before).step m).run mid) := by
  -- either it holds all along, or it begins to hold at a later move
  have key : ∀ (ms : List Move) (y : Refresh), P (y.run ms) →
      (∀ mid, mid <+: ms → P (y.run mid)) ∨
        ∃ before m rest, ms = before ++ m :: rest ∧ ¬P (y.run before) ∧
          ∀ mid, mid <+: rest → P (((y.run before).step m).run mid) := by
    intro ms
    induction ms with
    | nil =>
      intro y hy
      refine .inl fun mid hm => ?_
      rw [List.prefix_nil.mp hm]
      exact hy
    | cons m ms ih =>
      intro y hy
      rcases ih (y.step m) hy with all | ⟨before, m', rest, rfl, hn, hr⟩
      · by_cases now : P y
        · refine .inl fun mid hm => ?_
          cases mid with
          | nil => exact now
          | cons i mid =>
            obtain ⟨rfl, inner⟩ := List.cons_prefix_cons.mp hm
            exact all mid inner
        · exact .inr ⟨[], m, ms, rfl, now, all⟩
      · exact .inr ⟨m :: before, m', rest, rfl, hn, hr⟩
  rcases key ms x yes with all | later
  · exact absurd (all [] List.nil_prefix) no
  · exact later

/-- The weights of a tick under a policy. -/
def weights (p : WarmupPolicy) (t : Tick) : List Weight.DynamicWeight :=
  Weight.compute .double p t.now t.candidates

/-- How a tick ends in a move. -/
inductive Ends (x : Refresh) (n : Nat) (t : Tick) : Move → List Weight.DynamicWeight → Prop
  /-- It asks for nothing. -/
  | idle (off : ¬Asks x.adjuster t) : Ends x n t (.tick t) []
  /-- A policy is kept when it comes. -/
  | hit (p : WarmupPolicy) (asks : Asks x.adjuster t)
    (cached : x.adjuster.cached? t.service = some p) :
    Ends x n t (.tick t) (weights p t)
  /-- A policy is kept when its turn comes. -/
  | shared (p : WarmupPolicy) (asks : Asks x.adjuster t)
    (queued : x.calls[n]? = some ⟨t, .queued⟩) (cached : x.adjuster.cached? t.service = some p) :
    Ends x n t (.turn n) (weights p t)
  /-- Its own lookup is answered. -/
  | looked (r : Except Failure (Option RemoteRule)) (asks : Asks x.adjuster t)
    (looking : x.calls[n]? = some ⟨t, .looking⟩) :
    Ends x n t (.answer n r) (weights (x.policyFor r) t)

/-- The tick that ends in a turn or with an answer is the one that the move names. -/
theorem ends_of_set {cs : List Call} {n n' : Nat} {t t' : Tick} {y : Call} {stage : TickStage}
    {ws : List Weight.DynamicWeight} (hn : cs[n]? = some y)
    (after : (cs.set n ⟨t, stage⟩)[n']? = some ⟨t', .done ws⟩)
    (before : cs[n']? ≠ some ⟨t', .done ws⟩) : n' = n ∧ t = t' ∧ stage = .done ws := by
  rcases (getElem?_set_some (lt_of_getElem? hn)).mp after with ⟨rfl, he⟩ | ⟨-, old⟩
  · exact ⟨rfl, Call.mk.inj he⟩
  · exact absurd old before

theorem ends_arrive {x : Refresh} (lined : Lined x.adjuster x.calls) {t t' : Tick} {n : Nat}
    {ws : List Weight.DynamicWeight} (after : (x.arrive t).calls[n]? = some ⟨t', .done ws⟩)
    (before : x.calls[n]? ≠ some ⟨t', .done ws⟩) : Ends x n t' (.tick t) ws := by
  rcases getElem?_snoc.mp after with old | ⟨-, he⟩
  · exact absurd old before
  · obtain ⟨rfl, hs⟩ := Call.mk.inj he
    revert hs
    refine x.adjuster.arrive_cases (P := fun _ s => s = .done ws → Ends x n t (.tick t) ws)
      (lined.fresh _) (fun off hs => ?_) (fun p on hc hs => ?_) (fun _ _ _ hs => by cases hs)
      fun _ _ _ hs => by cases hs
    · obtain rfl := TickStage.done.inj hs
      exact .idle (by simpa [Asks] using off)
    · obtain rfl := TickStage.done.inj hs
      exact .hit p on hc

/-- A tick that has ended after a move and not before ends in that move. -/
theorem ends_step {x : Refresh} (lined : Lined x.adjuster x.calls)
    (asks : AllAsk x.adjuster x.calls) {m : Move} {n : Nat} {t : Tick}
    {ws : List Weight.DynamicWeight} (after : (x.step m).calls[n]? = some ⟨t, .done ws⟩)
    (before : x.calls[n]? ≠ some ⟨t, .done ws⟩) : Ends x n t m ws := by
  cases m with
  | tick u => exact ends_arrive lined after before
  | turn i =>
    simp only [step] at after
    split at after
    · next u hi =>
      split at after
      · obtain ⟨rfl, rfl, hs⟩ := ends_of_set hi after before
        revert hs
        refine x.adjuster.takeTurn_cases (P := fun _ s => s = .done ws → Ends x n u (.turn n) ws) u
          (fun p hc hs => ?_) fun _ hs => by cases hs
        obtain rfl := TickStage.done.inj hs
        exact .shared p (asks n _ hi rfl) hi hc
      · exact absurd after before
    · exact absurd after before
  | answer i r =>
    simp only [step] at after
    split at after
    · next u hi =>
      obtain ⟨rfl, rfl, hs⟩ := ends_of_set hi after before
      have result : ws = weights (x.policyFor r) u := by
        cases r <;> exact (TickStage.done.inj hs).symm
      rw [result]
      exact .looked r (asks n _ hi rfl) hi
    · exact absurd after before
  | invalidate k => exact absurd after before

/-- A policy that is kept after a move and not before was looked up for its service. -/
theorem cached?_step {x : Refresh} {m : Move} {k : ServiceKey} {p : WarmupPolicy}
    (after : (x.step m).adjuster.cached? k = some p) (before : x.adjuster.cached? k ≠ some p) :
    ∃ n t remote, m = .answer n (.ok remote) ∧ x.calls[n]? = some ⟨t, .looking⟩ ∧ t.service = k ∧
      p = x.policyFor (.ok remote) := by
  cases m with
  | tick t =>
    have same : (x.arrive t).adjuster.cache = x.adjuster.cache := (Adjuster.arrive_frame ..).1
    rw [step, Adjuster.cached?, same] at after
    exact absurd after before
  | turn n =>
    have same (t : Tick) : (x.takeTurn n t).adjuster.cache = x.adjuster.cache :=
      (Adjuster.takeTurn_frame ..).1
    simp only [step] at after
    split at after
    · split at after
      · rw [Adjuster.cached?, same] at after
        exact absurd after before
      · exact absurd after before
    · exact absurd after before
  | answer n r =>
    simp only [step] at after
    split at after
    · next t hn =>
      rw [cached?_looked] at after
      cases r with
      | error f => exact absurd after before
      | ok remote =>
        dsimp only at after
        split at after
        · next hk => exact ⟨n, t, remote, rfl, hn, hk.symm, (Option.some.inj after).symm⟩
        · exact absurd after before
    · exact absurd after before
  | invalidate j =>
    rw [step, Adjuster.cached?_invalidate] at after
    split at after
    · cases after
    · exact absurd after before

/-! ## All of it -/

/-- How ticks share lookups: what holds of a state that an adjuster comes to by some moves. -/
structure SharesLookups (s : Settings) (ms : List Move) (x : Refresh) : Prop where
  /-- One lookup for a service is in flight at a time. -/
  alone : ∀ (n m : Nat) (t u : Tick), x.calls[n]? = some ⟨t, .looking⟩ →
    x.calls[m]? = some ⟨u, .looking⟩ → t.service = u.service → n = m
  /-- A lookup starts only while no policy is kept. -/
  starts : ∀ (m : Move) (n : Nat) (t : Tick), (x.step m).calls[n]? = some ⟨t, .looking⟩ →
    x.calls[n]? ≠ some ⟨t, .looking⟩ → x.adjuster.cached? t.service = none
  /-- Between two drops of a policy at most one lookup is kept. -/
  once : ∀ k rest, count (stores k) x rest ≤ count (drops k) x rest + 1
  failed : ∀ n f k,
    (x.step (.answer n (.error f))).adjuster.cached? k = x.adjuster.cached? k
  /-- Every tick that has ended has done so in one of these ways. -/
  ended : ∀ (n : Nat) (t : Tick) ws, x.calls[n]? = some ⟨t, .done ws⟩ →
    ∃ before m rest, ms = before ++ m :: rest ∧ Ends ((start s).run before) n t m ws
  /-- What is kept was looked up and not dropped since. -/
  kept : ∀ k p, x.adjuster.cached? k = some p → ∃ before n t remote rest,
    ms = before ++ .answer n (.ok remote) :: rest ∧
      ((start s).run before).calls[n]? = some ⟨t, .looking⟩ ∧ t.service = k ∧
      p = x.policyFor (.ok remote) ∧ .invalidate k ∉ rest
  /-- A registration would be made under the same policy. -/
  policy : ∀ c : Controller, c.settings = s.graceful → ∀ r, x.policyFor r = (c.policyFor r).warmup
  localPolicy : ∀ f, x.policyFor (.error f) = s.graceful.localPolicy.warmup
  enabled : x.adjuster.enabled = s.adjustWeights
  /-- Ticks that ask for nothing neither wait nor look up. -/
  asks : ∀ (n : Nat) (y : Call), x.calls[n]? = some y → y.stage.waits = true →
    Asks x.adjuster y.tick
  idle : ∀ t, ¬Asks x.adjuster t → x.step (.tick t) =
    { x with
      calls := x.calls ++ [⟨t, .done []⟩]
      trace := x.trace ++ [.began x.calls.length t.service] }
  /-- What concerns one service changes nothing for another. -/
  apart : ∀ m k, x.service? m ≠ some k → SameFor k x (x.step m)
  /-- The ticks for a service end by turns and answers of their own, whatever the answers are. -/
  served : ∀ k f, (∀ m ∈ serve f (x.adjuster.line k), x.service? m = some k) ∧
    ∀ (n : Nat) (t : Tick) stage,
      (x.run (serve f (x.adjuster.line k))).calls[n]? = some ⟨t, stage⟩ → t.service = k →
        ∃ ws, stage = .done ws

/-- Where a tick starts its lookup, no policy is kept. -/
theorem uncached_of_starts {x : Refresh} (h : Lined x.adjuster x.calls) {m : Move} {n : Nat}
    {t : Tick} (after : (x.step m).calls[n]? = some ⟨t, .looking⟩)
    (before : x.calls[n]? ≠ some ⟨t, .looking⟩) : x.adjuster.cached? t.service = none := by
  have balance := stores_step h t.service m
  have none : kept t.service (x.step m) = 0 := by
    simp [kept, (h.step m).uncached n t after]
  cases m with
  | invalidate k => exact absurd after before
  | _ =>
    simp only [drops, none] at balance
    have zero : kept t.service x = 0 := by simp at balance; omega
    simpa [kept] using zero

/-- How ticks share lookups. -/
theorem shares_lookups (s : Settings) (ms : List Move) :
    SharesLookups s ms ((start s).run ms) := by
  have lined := run_lined s ms
  obtain ⟨on, settings⟩ := run_settings s ms
  refine
    { alone := fun _ _ _ _ hn hm same => lined.looking_unique hn hm same
      starts := fun _ _ _ after before => uncached_of_starts lined after before
      once := fun k rest => stores_le lined k rest
      failed := fun n f k => ?_
      ended := fun n t ws hn => ?_
      kept := fun k p hp => ?_
      policy := fun c hc r => policyFor_eq (hc.trans settings.symm) r
      localPolicy := fun f => ?_
      enabled := on
      asks := run_allAsk s ms
      idle := fun t off => step_tick_idle off
      apart := fun m k apart => step_apart lined apart
      served := fun k f => ⟨fun m hm => service?_serve lined hm, fun n t stage hn hk => ?_⟩ }
  · simp only [step]
    split
    · rw [cached?_looked]
    · rfl
  · have no : ¬(start s).calls[n]? = some ⟨t, .done ws⟩ := by simp [start]
    obtain ⟨before, m, rest, he, hb, ha⟩ :=
      run_since (P := fun y => y.calls[n]? = some ⟨t, .done ws⟩) no hn
    exact ⟨before, m, rest, he,
      ends_step (run_lined s before) (run_allAsk s before) (ha [] List.nil_prefix) hb⟩
  · have no : ¬(start s).adjuster.cached? k = some p := by
      simp [start, Adjuster.create, Adjuster.cached?, Table.get?_empty]
    obtain ⟨before, m, rest, he, hb, ha⟩ :=
      run_since (P := fun y => y.adjuster.cached? k = some p) no hp
    obtain ⟨n, t, remote, rfl, hn, hk, hpol⟩ := cached?_step (ha [] List.nil_prefix) hb
    refine ⟨before, n, t, remote, rest, he, hn, hk, ?_, fun dropped => ?_⟩
    · rw [hpol, policyFor, policyFor, (run_settings s before).2, settings]
    · obtain ⟨u, v, rfl⟩ := List.append_of_mem dropped
      have held := ha (u ++ [.invalidate k]) ⟨v, by simp⟩
      rw [run, List.foldl_append] at held
      simp [step, Adjuster.cached?_invalidate] at held
  · rw [policyFor, settings]
    exact congrArg Policy.warmup s.graceful.resolve_none
  · have emptied := line_serve lined k f
    have lined' := run_induction (P := fun y => Lined y.adjuster y.calls) lined
      (fun _ m h => h.step m) (serve f (((start s).run ms).adjuster.line k))
    exact lined'.ended_of_line_nil emptied hn hk

end Refresh

end InstanceLifecycle
