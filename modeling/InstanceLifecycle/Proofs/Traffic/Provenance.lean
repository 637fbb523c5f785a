import Mathlib.Data.List.Induction
import InstanceLifecycle.Proofs.Policy.Paths
import InstanceLifecycle.Proofs.Traffic.Cycle
import InstanceLifecycle.Proofs.Traffic.Summaries

/-!
# Whose summary an event carries

If the calls for an instance come one after another, its registrations make one attempt after
another, each under the policy for the answer to its own lookup. An event that a registration
reports, and the one that announces that the instance is retracted, come while the attempt that they
belong to is still the latest one, and so they carry the summary of its policy. The timer that ends
a warm-up may outlive its attempt: it reports with whatever summary a later attempt has put in
place.

Results:

* `mem_trace_run`: what was written down in a run was written down by one of its moves;
* `Kept.step`: the summary of an instance is that of its latest attempt, and this is the successful
  one as long as the instance is listed;
* `summaries_provenance`: which attempt each event belongs to, and whose summary it carries;
* `warmupEnd_of_other_policy`: the end of a warm-up with the summary of an attempt it does not
  belong to.
-/

namespace InstanceLifecycle

/-- A registration that leaves its instance listed has succeeded. -/
theorem RegisterStage.done_of_listed {s : RegisterStage} {b : RegistrationState}
    (hp : s.place? = some b) (hb : b.isListed = true) : ∃ r, s = .done (.ok r) := by
  cases s with
  | lookup => cases hp
  | done r =>
    cases r with
    | ok x => exact ⟨x, rfl⟩
    | error e => cases e <;> cases hp <;> cases hb
  | _ =>
    cases hp
    cases hb

namespace Traffic

/-! ## What moves write down -/

/-- What a move writes down. -/
def news (t : Traffic) (m : Move) : List Happening := (t.step m).trace.drop t.trace.length

theorem Goes.news {t u : Traffic} {n : Nat} {i : Instance} {told : List Answer} {s : Step Stage}
    (g : Goes t n i told s u) :
    u.trace.drop t.trace.length = (told.map Deed.told ++ deedsOf s).map fun d => ⟨t.now, n, i, d⟩ := by
  rw [g.trace, note, List.drop_left]

/-- What was written down stays. -/
theorem trace_step (t : Traffic) (m : Move) : (t.step m).trace = t.trace ++ t.news m := by
  have kept : t.trace <+: (t.step m).trace := by
    have move := t.stepped m
    generalize t.step m = u at move
    cases move with
    | idle => exact List.prefix_refl _
    | register i => exact List.prefix_append ..
    | deregister i isProbe => exact List.prefix_append ..
    | answer => exact List.prefix_append ..
  exact (List.prefix_iff_eq_append.mp kept).symm

/-- What was written down in a run was written down by one of its moves. -/
theorem mem_trace_run {t : Traffic} {ms : List Move} {e : Happening} (he : e ∈ (t.run ms).trace) :
    e ∈ t.trace ∨ ∃ past m rest, ms = past ++ m :: rest ∧ e ∈ (t.run past).news m := by
  induction ms using List.reverseRecOn with
  | nil => exact .inl he
  | append_singleton ms m ih =>
    rw [run_append] at he
    have he : e ∈ ((t.run ms).step m).trace := he
    rw [trace_step] at he
    rcases List.mem_append.mp he with he | he
    · rcases ih he with old | ⟨past, m', rest, rfl, new⟩
      · exact .inl old
      · exact .inr ⟨past, m', rest ++ [m], by simp, new⟩
    · exact .inr ⟨ms, m, [], rfl, he⟩

/-- The event of an instance that a happening is, with the call that reports it. -/
def Happening.event? (k : InstanceKey) (e : Happening) :
    Option (Nat × EventKind × Option PolicySummary) :=
  match e.deed with
  | .effect x => (x.eventOf? k).map fun p => (e.call, p)
  | _ => none

/-- The events of an instance among some happenings. -/
def eventsIn (k : InstanceKey) (hs : List Happening) :
    List (Nat × EventKind × Option PolicySummary) := hs.filterMap (·.event? k)

theorem mem_eventsIn {k : InstanceKey} {hs : List Happening} {call : Nat} {kind : EventKind}
    {info : Option PolicySummary} :
    (call, kind, info) ∈ eventsIn k hs ↔
      ∃ e ∈ hs, e.call = call ∧ ∃ i, i.key = k ∧ e.deed = .effect (.event kind i info) := by
  unfold eventsIn
  rw [List.mem_filterMap]
  constructor
  · rintro ⟨e, he, hevent⟩
    refine ⟨e, he, ?_⟩
    unfold Happening.event? at hevent
    split at hevent
    · next x hx =>
      obtain ⟨p, hp, heq⟩ := Option.map_eq_some_iff.mp hevent
      obtain ⟨rfl, rfl⟩ := Prod.mk.inj heq
      cases x <;> simp [Effect.eventOf?] at hp
      obtain ⟨hk, rfl, rfl⟩ := hp
      exact ⟨rfl, _, hk, hx⟩
    · cases hevent
  · rintro ⟨e, he, rfl, i, hk, hd⟩
    refine ⟨e, he, ?_⟩
    rw [Happening.event?, hd]
    simp [Effect.eventOf?, hk]

/-- An event that a call reports when it goes on. -/
theorem Goes.event {t u : Traffic} {n : Nat} {i : Instance} {told : List Answer} {s : Step Stage}
    (g : Goes t n i told s u) {e : Happening} (he : e ∈ u.trace.drop t.trace.length)
    {kind : EventKind} {j : Instance} {info : Option PolicySummary}
    (hd : e.deed = .effect (.event kind j info)) :
    .event kind j info ∈ s.effects ∧ e.call = n ∧ j = i := by
  rw [g.news] at he
  obtain ⟨d, hmem, rfl⟩ := List.mem_map.mp he
  have hd : d = .effect (.event kind j info) := hd
  subst hd
  have mem : .event kind j info ∈ s.effects := by simpa [deedsOf] using hmem
  exact ⟨mem, rfl, g.serves.isFor _ mem⟩

/-! ## Which call began which -/

/-- The call that a move answers. -/
def Move.answered? : Move → Option Nat
  | answer n _ => some n
  | _ => none

/-- For each call that a move begins, the call whose answer began it. -/
def begun (t : Traffic) (m : Move) : List (Option Nat) :=
  List.replicate ((t.step m).calls.length - t.calls.length) m.answered?

/-- For each call that some moves begin, the call whose answer began it. For a timer this is the
registration that started it. -/
def starters : Traffic → List Move → List (Option Nat)
  | _, [] => []
  | t, m :: ms => t.begun m ++ starters (t.step m) ms

theorem starters_concat (t : Traffic) (ms : List Move) (m : Move) :
    starters t (ms ++ [m]) = starters t ms ++ (t.run ms).begun m := by
  induction ms generalizing t with
  | nil => simp [starters]
  | cons m' ms ih =>
    rw [List.cons_append, starters, ih, starters, run_cons, List.append_assoc]

/-! ## Attempts -/

/-- A registration of an instance that has begun an attempt: its lookup was answered in this way,
and it was not refused, so that it has moved the instance. -/
structure Attempt (t : Traffic) (k : InstanceKey) (n : Nat)
    (a : Except Failure (Option RemoteRule)) : Prop where
  call : ∃ i s since, t.calls[n]? = some ⟨i, .register s, since⟩ ∧ i.key = k ∧
    s.place?.isSome = true
  lookup : (accountOf (t.logOf n)).lookups = [a]

/-- The latest attempt for an instance. -/
structure Latest (t : Traffic) (k : InstanceKey) (n : Nat)
    (a : Except Failure (Option RemoteRule)) : Prop where
  attempt : t.Attempt k n a
  last : ∀ m b, t.Attempt k m b → m ≤ n

/-- A registration of an instance that has succeeded. -/
def Succeeded (t : Traffic) (k : InstanceKey) (n : Nat) : Prop :=
  ∃ i r since, t.calls[n]? = some ⟨i, .register (.done (.ok r)), since⟩ ∧ i.key = k

/-- The registration that an event of an instance belongs to, which a call reports at the
end of a run: the call itself, the registration that started the timer, or the last one that
has succeeded. -/
inductive Belongs (t₀ : Traffic) (ms : List Move) (k : InstanceKey) :
    (kind : EventKind) → (call n : Nat) → Prop
  | own {kind : EventKind} (h : kind ∈ EventKind.ofAttempt) (n : Nat) : Belongs t₀ ms k kind n n
  | timer {call n : Nat} (started : (starters t₀ ms)[call]? = some (some n)) :
    Belongs t₀ ms k .warmupEnd call n
  | retracted (call : Nat) {n : Nat} (succeeded : (t₀.run ms).Succeeded k n)
    (last : ∀ m, (t₀.run ms).Succeeded k m → m ≤ n) : Belongs t₀ ms k .offlineStart call n

/-- The latest attempt is one call under one answer. -/
theorem Latest.unique {t : Traffic} {k : InstanceKey} {n m : Nat}
    {a b : Except Failure (Option RemoteRule)} (h : t.Latest k n a) (h' : t.Latest k m b) :
    n = m ∧ a = b := by
  obtain rfl : n = m := Nat.le_antisymm (h'.last n a h.attempt) (h.last m b h'.attempt)
  have same := h.attempt.lookup.symm.trans h'.attempt.lookup
  exact ⟨rfl, (List.cons.inj same).1⟩

/-- Where the attempts are the same, the latest one is. -/
theorem Latest.congr {t u : Traffic} {k : InstanceKey} {n : Nat}
    {a : Except Failure (Option RemoteRule)} (h : t.Latest k n a)
    (same : ∀ m b, u.Attempt k m b ↔ t.Attempt k m b) : u.Latest k n a :=
  ⟨(same n a).mpr h.attempt, fun m b hb => h.last m b ((same m b).mp hb)⟩

/-- An attempt belongs to a registration that stands at a stage. -/
theorem Attempt.of_call {t : Traffic} {k : InstanceKey} {n : Nat}
    {a : Except Failure (Option RemoteRule)} (h : t.Attempt k n a) {x : Call}
    (hx : t.calls[n]? = some x) :
    x.inst.key = k ∧ ∃ s, x.stage = .register s ∧ s.place?.isSome = true := by
  obtain ⟨i, s, since, hn, hk, hs⟩ := h.call
  obtain rfl := Option.some.inj (hx.symm.trans hn)
  exact ⟨hk, s, rfl, hs⟩

section Goes

variable {t u : Traffic} {n : Nat} {i : Instance} {told : List Answer} {s : Step Stage}
  (g : Goes t n i told s u) {k : InstanceKey}
include g

/-- The attempts of other calls stay as they are. -/
theorem Goes.attempt_ne {m : Nat} (hm : m ≠ n) (a : Except Failure (Option RemoteRule)) :
    u.Attempt k m a ↔ t.Attempt k m a := by
  have log : u.logOf m = t.logOf m := by rw [g.logOf m, if_neg hm, List.append_nil]
  constructor
  · rintro ⟨⟨j, r, since, hx, hk, hr⟩, lookup⟩
    refine ⟨⟨j, r, since, ?_, hk, hr⟩, log ▸ lookup⟩
    rcases g.cases_call hx with ⟨he, -⟩ | ⟨-, hx⟩ | ⟨-, d, hd⟩
    · exact absurd he hm
    · exact hx
    · cases hd
  · rintro ⟨⟨j, r, since, hx, hk, hr⟩, lookup⟩
    exact ⟨⟨j, r, since, g.kept m hm _ hx, hk, hr⟩, log.symm ▸ lookup⟩

/-- The successes of other calls stay as they are. -/
theorem Goes.succeeded_ne {m : Nat} (hm : m ≠ n) (h : t.Succeeded k m) : u.Succeeded k m := by
  obtain ⟨j, r, since, hx, hk⟩ := h
  exact ⟨j, r, since, g.kept m hm _ hx, hk⟩

end Goes

/-- A call that is no registration of the instance, or has not begun an attempt, makes none. -/
theorem not_attempt {t : Traffic} {k : InstanceKey} {n : Nat} {x : Call} (hx : t.calls[n]? = some x)
    (h : x.inst.key = k → ∀ s, x.stage = .register s → s.place? = none)
    (a : Except Failure (Option RemoteRule)) : ¬t.Attempt k n a := by
  intro ha
  obtain ⟨hk, s, hs, begun⟩ := ha.of_call hx
  rw [h hk s hs] at begun
  cases begun

theorem Attempt.lt_length {t : Traffic} {k : InstanceKey} {n : Nat}
    {a : Except Failure (Option RemoteRule)} (h : t.Attempt k n a) : n < t.calls.length := by
  obtain ⟨i, s, since, hn, -⟩ := h.call
  exact (List.getElem?_eq_some_iff.mp hn).1

/-! ## Attempts in turn -/

/-- A registration that has begun an attempt had one lookup. -/
theorem Story.lookup_of_begun {τ : Timer} {c₀ : Controller} {i : Instance} {A : Account}
    {s : RegisterStage} {since : Nat} (h : Story τ c₀ i A s since) (hs : s.place?.isSome = true) :
    ∃ a, A.lookups = [a] := by
  cases h with
  | lookup => cases hs
  | _ => exact ⟨_, rfl⟩

theorem Account.lookups_ofStep (now : Nat) (a : RegisterAnswer) (s : Step RegisterStage) :
    (Account.ofStep now a s).lookups = (Account.ofAnswer now a).lookups := by
  have stage : (Account.ofStage now s.stage).lookups = [] := by cases s.stage <;> rfl
  show ((Account.ofAnswer now a).lookups ++ []) ++ (Account.ofStage now s.stage).lookups = _
  rw [stage, List.append_nil, List.append_nil]

namespace InTurn

variable {c₀ : Controller} {k : InstanceKey} {t : Traffic} {n : Nat} {i : Instance}

/-- A success is that of an attempt. -/
theorem attempt_of_succeeded (h : InTurn c₀ k t) (hn : t.Succeeded k n) :
    ∃ a, t.Attempt k n a := by
  obtain ⟨i, r, since, hx, hk⟩ := hn
  have recorded : Recorded t.timer c₀ i (accountOf (t.logOf n)) (.done (.ok r)) since :=
    h.calls n _ hx hk
  cases recorded with
  | story story =>
    obtain ⟨a, lookup⟩ := story.lookup_of_begun rfl
    exact ⟨a, ⟨i, _, since, hx, hk, rfl⟩, lookup⟩

/-- A registration that is admitted goes on with the attempt that it has begun, or begins one under
the answer to its lookup. -/
theorem attempt_proceed (h : InTurn c₀ k t) {stage : RegisterStage} {since : Nat}
    {a : RegisterAnswer} (call : t.calls[n]? = some ⟨i, .register stage, since⟩)
    (awaits : stage.awaits a = true) (hc : stage.admits (t.controller.state? i.key))
    (hi : i.key = k) :
    ∃ r, (t.proceed n ⟨i, .register stage, since⟩ (.register a)).Attempt k n r ∧
      (stage = .lookup ∧ a = .rule r ∨ stage ≠ .lookup ∧ t.Attempt k n r) := by
  have g := goes_proceed call (.register a)
  obtain ⟨b, place, -⟩ := Register.resume_place awaits hc t.now
  have begun : ∃ j s since', (t.proceed n ⟨i, .register stage, since⟩ (.register a)).calls[n]? =
      some ⟨j, .register s, since'⟩ ∧ j.key = k ∧ s.place?.isSome = true :=
    ⟨i, _, t.now, g.call, hi, by rw [place]; rfl⟩
  have story : Story t.timer c₀ i (accountOf (t.logOf n)) stage since :=
    Recorded.story_of_awaits (h.calls n _ call hi) awaits
  have lookups : (accountOf ((t.proceed n ⟨i, .register stage, since⟩ (.register a)).logOf n)).lookups =
      (accountOf (t.logOf n)).lookups ++ (Account.ofAnswer t.now a).lookups := by
    rw [g.logOf n, if_pos rfl]
    show (accountOf (t.logOf n ++ entries t.now n i a
      (Register.resume t.controller i stage a t.now))).lookups = _
    rw [accountOf_append, accountOf_entries, ← Account.lookups_ofStep t.now a
      (Register.resume t.controller i stage a t.now)]
    rfl
  by_cases hl : stage = .lookup
  · subst hl
    obtain ⟨r, rfl⟩ := RegisterStage.eq_rule_of_awaits awaits
    have none : (accountOf (t.logOf n)).lookups = [] := by
      generalize accountOf (t.logOf n) = A at story
      cases story
      rfl
    rw [none] at lookups
    exact ⟨r, ⟨begun, lookups⟩, .inl ⟨rfl, rfl⟩⟩
  · have moved : stage.place?.isSome = true := by
      cases stage with
      | lookup => exact absurd rfl hl
      | done r => exact hc.elim
      | _ => rfl
    have silent : (Account.ofAnswer t.now a).lookups = [] := by
      cases a with
      | rule r => cases stage <;> first | exact absurd rfl hl | cases awaits
      | _ => rfl
    obtain ⟨r, lookup⟩ := story.lookup_of_begun moved
    rw [silent, lookup, List.append_nil] at lookups
    exact ⟨r, ⟨begun, lookups⟩, .inr ⟨hl, ⟨i, stage, since, call, hi, moved⟩, lookup⟩⟩

end InTurn

/-- A step that is not told of a success leaves the listing of every instance as it is. -/
theorem Turn.lists_of_none {k : InstanceKey} {held : Option RegistrationState} {c : Controller}
    {s : Step Stage} (h : Turn k held c none s) (j : InstanceKey) :
    s.controller.lists j = c.lists j := by
  by_cases hj : j = k
  · subst hj
    cases h with
    | refused _ states =>
      unfold Controller.lists Controller.state?
      rw [states]
    | moved b _ _ state relists =>
      have listed : s.controller.lists j = b.isListed := by simp [Controller.lists, state j]
      rw [listed]
      exact relists
  · unfold Controller.lists
    rw [h.state?_of_ne hj]

/-! ## The summary of the latest attempt -/

/-- What holds of the summary of an instance whose calls come one after another, where a list says
which call began which. -/
structure Kept (c₀ : Controller) (k : InstanceKey) (begun : List (Option Nat)) (t : Traffic) :
    Prop where
  length : begun.length = t.calls.length
  /-- The summary is that of the latest attempt. -/
  slot : (∀ n a, ¬t.Attempt k n a) ∨ ∃ n a, t.Latest k n a ∧
    t.controller.summaries.get? k = some (c₀.policyFor a).summary
  /-- No call began an attempt after one that is open. -/
  newest : ∀ n x, t.calls[n]? = some x → x.inst.key = k → x.stage.isOpen = true →
    ∀ m a, t.Attempt k m a → m ≤ n
  /-- As long as the instance is listed, the latest attempt is the one that has succeeded. -/
  listed : t.controller.lists k = true → ∃ n a, t.Latest k n a ∧ t.Succeeded k n
  /-- A timer was started by a registration that has begun an attempt. -/
  timers : ∀ (m : Nat) (i : Instance) (d : Duration) (since : Nat),
    t.calls[m]? = some ⟨i, .warmup d, since⟩ → i.key = k →
    ∃ n a, begun[m]? = some (some n) ∧ t.Attempt k n a

namespace Kept

variable {c₀ : Controller} {k : InstanceKey} {bs : List (Option Nat)} {t u : Traffic} {n : Nat}
  {i : Instance} {told : List Answer} {s : Step Stage}

/-- The attempt of an open registration is the latest one, also when the registration goes on. -/
theorem latest (h : Kept c₀ k bs t) (g : Goes t n i told s u) {x : Call}
    (call : t.calls[n]? = some x) (hk : x.inst.key = k) (ho : x.stage.isOpen = true)
    {a : Except Failure (Option RemoteRule)} (ha : u.Attempt k n a) : u.Latest k n a := by
  refine ⟨ha, fun m b hm => ?_⟩
  by_cases hmn : m = n
  · omega
  · exact h.newest n x call hk ho m b ((g.attempt_ne hmn b).mp hm)

/-- While a registration is open that has begun an attempt, the summary is that of its policy. -/
theorem slot_of_open (h : Kept c₀ k bs t) {x : Call} (call : t.calls[n]? = some x)
    (hk : x.inst.key = k) (ho : x.stage.isOpen = true) {a : Except Failure (Option RemoteRule)}
    (ha : t.Attempt k n a) :
    t.controller.summaries.get? k = some (c₀.policyFor a).summary := by
  have own : t.Latest k n a := ⟨ha, h.newest n x call hk ho⟩
  rcases h.slot with none | ⟨m, b, latest, slot⟩
  · exact absurd ha (none n a)
  · rw [slot, (own.unique latest).2]

theorem length_begun (h : bs.length = t.calls.length) (grown : t.calls.length ≤ u.calls.length)
    (o : Option Nat) :
    (bs ++ List.replicate (u.calls.length - t.calls.length) o).length = u.calls.length := by
  rw [List.length_append, List.length_replicate, h]
  omega

/-- Calls that a move has not begun keep their places, and those that it has begun follow them. -/
theorem getElem?_begun (h : bs.length = t.calls.length) {m : Nat} {y : Call}
    (hy : u.calls[m]? = some y) (o : Option Nat) :
    (m < t.calls.length → (bs ++ List.replicate (u.calls.length - t.calls.length) o)[m]? = bs[m]?) ∧
      (t.calls.length ≤ m →
        (bs ++ List.replicate (u.calls.length - t.calls.length) o)[m]? = some o) := by
  have hm : m < u.calls.length := (List.getElem?_eq_some_iff.mp hy).1
  constructor
  · intro hlt
    exact List.getElem?_append_left (by omega)
  · intro hle
    rw [List.getElem?_append_right (by omega), List.getElem?_replicate, if_pos (by omega)]

/-- A call goes on that has nothing to do with an attempt for the instance. -/
theorem other (h : Kept c₀ k bs t) (g : Goes t n i told s u) (o : Option Nat)
    (before : ∀ a, ¬t.Attempt k n a) (after : ∀ a, ¬u.Attempt k n a)
    (slot : u.controller.summaries.get? k = t.controller.summaries.get? k)
    (listed : u.controller.lists k = true → t.controller.lists k = true)
    (newest : i.key = k → s.stage.isOpen = true → ∀ m a, t.Attempt k m a → m ≤ n)
    (still : ∀ d, s.stage ≠ .warmup d)
    (timers : ∀ j d, .warmup j d ∈ s.effects → j.key ≠ k) :
    Kept c₀ k (bs ++ List.replicate (u.calls.length - t.calls.length) o) u := by
  have same (m : Nat) (a : Except Failure (Option RemoteRule)) :
      u.Attempt k m a ↔ t.Attempt k m a := by
    by_cases hm : m = n
    · subst hm
      exact ⟨fun ha => absurd ha (after a), fun ha => absurd ha (before a)⟩
    · exact g.attempt_ne hm a
  refine ⟨length_begun h.length g.length o, ?_, fun m y hy hk ho m' a ha => ?_, fun hl => ?_,
    fun m j d since hy hk => ?_⟩
  · rw [slot]
    rcases h.slot with none | ⟨m, a, hm, hslot⟩
    · exact .inl fun m a ha => none m a ((same m a).mp ha)
    · exact .inr ⟨m, a, hm.congr same, hslot⟩
  · have ha := (same m' a).mp ha
    rcases g.cases_call hy with ⟨rfl, rfl⟩ | ⟨-, hy⟩ | ⟨-, d, hs⟩
    · exact newest hk ho m' a ha
    · exact h.newest m y hy hk ho m' a ha
    · rw [hs] at ho
      cases ho
  · obtain ⟨m, a, hm, succeeded⟩ := h.listed (listed hl)
    have hmn : m ≠ n := fun hmn => before a (hmn ▸ hm.attempt)
    exact ⟨m, a, hm.congr same, g.succeeded_ne hmn succeeded⟩
  · have hm : m ≠ n := by
      rintro rfl
      have stage := congrArg Call.stage (Option.some.inj (hy.symm.trans g.call))
      exact still d stage.symm
    rcases g.others m hm _ hy with old | ⟨-, -, d', new, -⟩
    · have hlt : m < t.calls.length := (List.getElem?_eq_some_iff.mp old).1
      obtain ⟨m', a, started, ha⟩ := h.timers m j d since old hk
      rw [(getElem?_begun h.length hy o).1 hlt]
      exact ⟨m', a, started, (same m' a).mpr ha⟩
    · exact absurd hk (timers j d' new)

/-- A registration of the instance goes on with its attempt, and no other call is open. -/
theorem own (h : Kept c₀ k bs t) (g : Goes t n i told s u) {x : Call}
    (call : t.calls[n]? = some x) (hk : x.inst.key = k) (ho : x.stage.isOpen = true)
    (only : ∀ m y, t.calls[m]? = some y → y.inst.key = k → y.stage.isOpen = true → m = n)
    {a : Except Failure (Option RemoteRule)} (ha : u.Attempt k n a)
    (slot : u.controller.summaries.get? k = some (c₀.policyFor a).summary)
    (listed : u.controller.lists k = true → u.Succeeded k n) :
    Kept c₀ k (bs ++ List.replicate (u.calls.length - t.calls.length) (some n)) u := by
  have latest := h.latest g call hk ho ha
  refine ⟨length_begun h.length g.length (some n), .inr ⟨n, a, latest, slot⟩,
    fun m y hy hyk hyo m' b hb => ?_, fun hl => ⟨n, a, latest, listed hl⟩,
    fun m j d since hy hj => ?_⟩
  · rcases g.cases_call hy with ⟨rfl, -⟩ | ⟨hm, hy⟩ | ⟨-, d, hs⟩
    · exact latest.last m' b hb
    · exact absurd (only m y hy hyk hyo) hm
    · rw [hs] at hyo
      cases hyo
  · have hm : m ≠ n := by
      rintro rfl
      obtain ⟨-, r, hr, -⟩ := ha.of_call hy
      cases hr
    rcases g.others m hm _ hy with old | ⟨new, -⟩
    · have hlt : m < t.calls.length := (List.getElem?_eq_some_iff.mp old).1
      obtain ⟨m', b, started, hb⟩ := h.timers m j d since old hj
      rw [(getElem?_begun h.length hy (some n)).1 hlt]
      by_cases hmn : m' = n
      · exact ⟨n, a, hmn ▸ started, ha⟩
      · exact ⟨m', b, started, (g.attempt_ne hmn b).mpr hb⟩
    · rw [(getElem?_begun h.length hy (some n)).2 new]
      exact ⟨n, a, rfl, ha⟩

/-! ### Moves -/

/-- A new call has made no attempt. -/
theorem not_attempt_new (t : Traffic) (k : InstanceKey) (a : Except Failure (Option RemoteRule)) :
    ¬t.Attempt k t.calls.length a := fun ha => Nat.lt_irrefl _ ha.lt_length

/-- A call begins. -/
theorem launch (h : Kept c₀ k bs t) (serves : s.Serves t.controller i) (o : Option Nat)
    (after : ∀ r, s.stage = .register r → r.place? = none) {kinds : List EventKind}
    (informs : s.Informs t.controller.summaries kinds) (quiet : EventKind.warmupStart ∉ kinds)
    (listed : s.controller.lists k = true → t.controller.lists k = true)
    (still : ∀ d, s.stage ≠ .warmup d) :
    Kept c₀ k (bs ++ List.replicate ((t.launch i s).calls.length - t.calls.length) o)
      (t.launch i s) := by
  have g := goes_launch serves
  refine h.other g o (not_attempt_new t k) (not_attempt g.call fun _ => after) ?_ listed
    (fun _ _ m a ha => Nat.le_of_lt ha.lt_length) still fun j d hd => ?_
  · rw [g.controller, informs.summaries]
  · exact absurd (informs.carries _ hd) quiet

/-- A registration of the instance goes on that is admitted. -/
theorem admitted (h : Kept c₀ k bs t) (inTurn : InTurn c₀ k t)
    (on : t.controller.settings.enabled = true)
    (same : ∀ r, t.controller.policyFor r = c₀.policyFor r) {stage : RegisterStage} {since : Nat}
    {a : RegisterAnswer} (call : t.calls[n]? = some ⟨i, .register stage, since⟩)
    (awaits : stage.awaits a = true) (hc : stage.admits (t.controller.state? i.key))
    (hi : i.key = k) :
    let u := t.proceed n ⟨i, .register stage, since⟩ (.register a)
    Kept c₀ k (bs ++ List.replicate (u.calls.length - t.calls.length) (some n)) u := by
  intro u
  have g : Goes t n i [.register a] _ u := goes_proceed call (.register a)
  have ho := Stage.isOpen_of_admits hc
  obtain ⟨only, -⟩ := inTurn.only n _ call hi ho
  obtain ⟨r, attempt, cases⟩ := inTurn.attempt_proceed call awaits hc hi
  obtain ⟨b, place, state⟩ := Register.resume_place awaits hc t.now
  refine h.own g call hi ho only attempt ?_ fun hl => ?_
  · rcases cases with ⟨rfl, rfl⟩ | ⟨hl, before⟩
    · have enabled := (t.controller.enabled_policyFor r).trans on
      have left := (Register.informs_resume_rule hc enabled t.now).summaries
      show (Register.resume t.controller i .lookup (.rule r) t.now).controller.summaries.get? k = _
      rw [left, hi, Table.get?_insert_self, same]
    · have left := (Register.informs_resume (c := t.controller) (i := i) hl a t.now).summaries
      show (Register.resume t.controller i stage a t.now).controller.summaries.get? k = _
      rw [left]
      exact h.slot_of_open call hi ho before
  · have listed : b.isListed = true := by
      have hl : (Register.resume t.controller i stage a t.now).controller.lists k = true := hl
      rw [Controller.lists, ← hi, state] at hl
      exact hl
    obtain ⟨x, hx⟩ := RegisterStage.done_of_listed place listed
    refine ⟨i, x, t.now, ?_, hi⟩
    rw [← hx]
    exact g.call

/-- A call comes too late with its lookup. -/
theorem late (h : Kept c₀ k bs t) {since : Nat}
    (call : t.calls[n]? = some ⟨i, .register .lookup, since⟩)
    (hc : ¬RegisterStage.lookup.admits (t.controller.state? i.key))
    (r : Except Failure (Option RemoteRule)) :
    let u := t.proceed n ⟨i, .register .lookup, since⟩ (.register (.rule r))
    Kept c₀ k (bs ++ List.replicate (u.calls.length - t.calls.length) (some n)) u := by
  have g := goes_proceed call (.register (.rule r))
  obtain ⟨x, hx⟩ := Call.resume_turnedAway hc since r t.now
  rw [hx] at g
  refine h.other g _ (not_attempt call fun _ s hs => ?_) (not_attempt g.call fun _ s hs => ?_) ?_ ?_
    (fun _ ho => by cases ho) (fun d hd => by cases hd) fun j d hd => ?_
  · cases hs
    rfl
  · cases hs
    rfl
  · rw [g.controller]
  · rw [g.controller]
    exact id
  · cases List.all_eq_true.mp (Register.policyEffects_quiet r) _ hd

/-- A call goes on that has begun no attempt and reports no start of warm-up. -/
theorem apart (h : Kept c₀ k bs t) {x : Call} (call : t.calls[n]? = some x) {a : Answer}
    (stage : ∀ r, x.stage ≠ .register r) {kinds : List EventKind}
    (informs : (x.resume t.controller a t.now).Informs t.controller.summaries kinds)
    (quiet : EventKind.warmupStart ∉ kinds)
    (after : ∀ r, (x.resume t.controller a t.now).stage ≠ .register r)
    (still : ∀ d, (x.resume t.controller a t.now).stage ≠ .warmup d)
    (closed : (x.resume t.controller a t.now).stage.isOpen = false)
    (listed : (x.resume t.controller a t.now).controller.lists k = true →
      t.controller.lists k = true) :
    Kept c₀ k (bs ++ List.replicate ((t.proceed n x a).calls.length - t.calls.length) (some n))
      (t.proceed n x a) := by
  have g := goes_proceed call a
  refine h.other g _ (not_attempt call fun _ s hs => absurd hs (stage s))
    (not_attempt g.call fun _ s hs => absurd hs (after s)) ?_ listed (fun _ ho => ?_) still
    fun j d hd => absurd (informs.carries _ hd) quiet
  · rw [g.controller, informs.summaries]
  · rw [closed] at ho
    cases ho

/-- A call of the instance is answered. -/
theorem proceed (h : Kept c₀ k bs t) (inTurn : InTurn c₀ k t) (sound : t.Sound)
    (on : t.controller.settings.enabled = true)
    (same : ∀ r, t.controller.policyFor r = c₀.policyFor r) {x : Call} {a : Answer}
    (call : t.calls[n]? = some x) (awaits : x.stage.awaits a = true) (hk : x.inst.key = k) :
    Kept c₀ k (bs ++ List.replicate ((t.proceed n x a).calls.length - t.calls.length) (some n))
      (t.proceed n x a) := by
  cases Call.advance awaits (sound.owns call) with
  | admitted awaits hc => exact h.admitted inTurn on same call awaits hc hk
  | late r hc => exact h.late call hc r
  | @overtaken i since p b hc =>
    -- An instance stays unregistered while its only call waits for the listener.
    have unregistered := inTurn.binding n i p since call hk
    rw [← hk] at unregistered
    exact absurd unregistered hc
  | @retracted i since isProbe r hc =>
    have stage := Deregister.stage_retracted hc r
    refine h.apart call (fun r hr => by cases hr)
      (informs_resume_retracting t.controller i isProbe since r t.now) (by simp)
      (fun r hr => by cases hr) (fun d hd => by cases hd) ?_ fun _ => ?_
    · show (Stage.deregister isProbe (Deregister.resume t.controller i .retracting r).stage).isOpen = _
      rw [stage]
      cases r <;> rfl
    · have hi : i.key = k := hk
      rw [Controller.lists, ← hi, hc]
      rfl
  | @timer i since d isInterrupted =>
    exact h.apart call (fun r hr => by cases hr)
      (informs_finish t.controller i d since isInterrupted t.now) (by simp)
      (fun r hr => by cases hr) (fun d hd => by cases hd) rfl id

/-- A call of another instance is answered. -/
theorem foreign (h : Kept c₀ k bs t) (sound : t.Sound) (on : t.controller.settings.enabled = true)
    {x : Call} {a : Answer} (call : t.calls[n]? = some x) (awaits : x.stage.awaits a = true)
    (hk : x.inst.key ≠ k) :
    Kept c₀ k (bs ++ List.replicate ((t.proceed n x a).calls.length - t.calls.length) (some n))
      (t.proceed n x a) := by
  have g := goes_proceed call a
  have advance := Call.advance awaits (sound.owns call)
  have turn := Call.turn_resume awaits (sound.owns call) t.now
  refine h.other g _ (not_attempt call fun hi => absurd hi hk)
    (not_attempt g.call fun hi => absurd hi hk) ?_ (fun hl => ?_) (fun hi => absurd hi hk)
    (fun d hd => ?_) fun j d hd => ?_
  · rw [g.controller]
    exact summaries_of_ne advance on hk t.now
  · rw [g.controller, Controller.lists, turn.state?_of_ne (Ne.symm hk)] at hl
    exact hl
  · cases advance <;> cases hd
  · have hj : j = x.inst := g.serves.isFor _ hd
    rw [hj]
    exact hk

/-- Time passes, or the controller is shut down. -/
theorem idle (h : Kept c₀ k bs t) (now : Nat) (isCancelled : Bool) :
    Kept c₀ k bs { t with now, isCancelled } := by
  let u : Traffic := { t with now, isCancelled }
  have same (n : Nat) (a : Except Failure (Option RemoteRule)) : u.Attempt k n a ↔ t.Attempt k n a :=
    ⟨fun ha => ⟨ha.call, ha.lookup⟩, fun ha => ⟨ha.call, ha.lookup⟩⟩
  refine ⟨h.length, ?_, fun n x hx hk ho m a ha => h.newest n x hx hk ho m a ((same m a).mp ha),
    fun hl => ?_, fun m i d since hx hk => ?_⟩
  · rcases h.slot with none | ⟨n, a, hn, slot⟩
    · exact .inl fun n a ha => none n a ((same n a).mp ha)
    · exact .inr ⟨n, a, hn.congr same, slot⟩
  · obtain ⟨n, a, hn, succeeded⟩ := h.listed hl
    exact ⟨n, a, hn.congr same, succeeded⟩
  · obtain ⟨n, a, started, ha⟩ := h.timers m i d since hx hk
    exact ⟨n, a, started, (same n a).mpr ha⟩

/-- Every move keeps the summary that of the latest attempt. -/
theorem step (h : Kept c₀ k bs t) (inTurn : InTurn c₀ k t) (sound : t.Sound)
    (on : t.controller.settings.enabled = true)
    (same : ∀ r, t.controller.policyFor r = c₀.policyFor r) (m : Move) :
    Kept c₀ k (bs ++ t.begun m) (t.step m) := by
  unfold begun
  have move := t.stepped m
  generalize t.step m = u at move
  cases move with
  | idle m le isCancelled =>
    show Kept c₀ k (bs ++ List.replicate (t.calls.length - t.calls.length) _) _
    rw [Nat.sub_self, List.replicate_zero, List.append_nil]
    exact h.idle _ _
  | register i =>
    have informs : Step.Informs t.controller.summaries []
        (⟨t.controller, Stage.register .lookup, []⟩ : Step Stage) :=
      Step.informs_of_quiet rfl rfl
    refine h.launch (Step.serves_of_quiet rfl rfl) _ (fun r hr => ?_) informs (by simp) id
      (fun d hd => by cases hd)
    obtain rfl := Stage.register.inj hr
    rfl
  | deregister i isProbe =>
    have turn := turn_start t.controller i isProbe
    refine h.launch (serves_start ..) _ (fun r hr => by cases hr) (informs_start ..) (by simp)
      (fun hl => ?_) (fun d hd => by cases hd)
    rwa [turn.lists_of_none] at hl
  | @answer n x a call awaits =>
    by_cases hk : x.inst.key = k
    · exact h.proceed inTurn sound on same call awaits hk
    · exact h.foreign sound on call awaits hk

end Kept

/-- After a run in which the calls for an instance come one after another, its summary is that of
its latest attempt. -/
theorem run_kept (τ : Timer) {settings : GracefulSettings} (on : settings.enabled = true)
    (server : ProbeServer) {k : InstanceKey} {ms : List Move}
    (alone : Alone k (start τ settings server) ms) :
    Kept (start τ settings server).controller k (starters (start τ settings server) ms)
      ((start τ settings server).run ms) := by
  induction ms using List.reverseRecOn with
  | nil =>
    have none (n : Nat) (x : Call) : (start τ settings server).calls[n]? ≠ some x := by simp [start]
    refine ⟨rfl, .inl fun n a ha => ?_, fun n x hx => absurd hx (none n x), fun hl => ?_,
      fun m i d since hx => absurd hx (none m _)⟩
    · obtain ⟨i, s, since, hx, -⟩ := ha.call
      exact none n _ hx
    · cases hl
  | append_singleton ms m ih =>
    obtain ⟨before, -⟩ := (along_concat ..).mp alone
    have settled := run_settings τ settings server ms
    rw [run_append, starters_concat]
    exact (ih before).step (run_inTurn τ on server before) (run_sound τ settings server ms)
      (by rw [settled]; exact on) (fun r => policyFor_congr settled r) m

/-! ## Events -/

/-- Where the summary of an event comes from that a call reports at the end of a run: the event
belongs to the attempt of the call `n` under the answer `a`, and it carries the summary of the
latest attempt, of the call `m` under the answer `b`. Only the end of a warm-up may belong to an
earlier attempt. -/
structure Provenance (t₀ : Traffic) (ms : List Move) (k : InstanceKey) (kind : EventKind) (call : Nat)
    (info : Option PolicySummary) (n : Nat) (a : Except Failure (Option RemoteRule)) (m : Nat)
    (b : Except Failure (Option RemoteRule)) : Prop where
  belongs : Belongs t₀ ms k kind call n
  attempt : (t₀.run ms).Attempt k n a
  latest : (t₀.run ms).Latest k m b
  carries : info = some (t₀.controller.policyFor b).summary
  own : kind ≠ .warmupEnd → n = m

/-- An event carries the summary of the attempt that it belongs to, unless it ends a warm-up and the
latest attempt is under a policy with another summary. -/
theorem Provenance.carries_own_iff {t₀ : Traffic} {ms : List Move} {k : InstanceKey}
    {kind : EventKind} {call n m : Nat} {info : Option PolicySummary}
    {a b : Except Failure (Option RemoteRule)} (h : Provenance t₀ ms k kind call info n a m b) :
    info = some (t₀.controller.policyFor a).summary ↔
      (kind = .warmupEnd →
        (t₀.controller.policyFor b).summary = (t₀.controller.policyFor a).summary) := by
  rw [h.carries, Option.some.injEq]
  constructor
  · exact fun he _ => he
  · intro he
    by_cases hk : kind = .warmupEnd
    · exact he hk
    · obtain rfl := h.own hk
      rw [(List.cons.inj (h.attempt.lookup.symm.trans h.latest.attempt.lookup)).1]

section Events

variable {τ : Timer} {settings : GracefulSettings} {server : ProbeServer} {k : InstanceKey}
  {ms : List Move}
  {kind : EventKind} {info : Option PolicySummary} {call n : Nat}
  {a : Except Failure (Option RemoteRule)}

/-- An event that carries the summary that is there when it is reported carries that of the latest
attempt. -/
theorem Kept.provenance {t₀ : Traffic} {bs : List (Option Nat)}
    (h : Kept t₀.controller k bs (t₀.run ms)) (belongs : Belongs t₀ ms k kind call n)
    (attempt : (t₀.run ms).Attempt k n a)
    (carries : info = (t₀.run ms).controller.summaries.get? k)
    (own : kind ≠ .warmupEnd → (t₀.run ms).Latest k n a) :
    ∃ n a m b, Provenance t₀ ms k kind call info n a m b := by
  rcases h.slot with none | ⟨m, b, latest, slot⟩
  · exact absurd attempt (none n a)
  · exact ⟨n, a, m, b, belongs, attempt, latest, carries.trans slot,
      fun hk => ((own hk).unique latest).1⟩

/-- A call to retract an instance announces so while the attempt that has succeeded is
the latest. -/
theorem provenance_start {i : Instance} {isProbe : Bool} (on : settings.enabled = true)
    (alone : Alone k (start τ settings server) (ms ++ [.deregister i isProbe]))
    (hevent : .event kind i info ∈
      (ofDeregister i isProbe
        (Deregister.start ((start τ settings server).run ms).controller i)).effects)
    (hi : i.key = k) :
    ∃ n a m b, Provenance (start τ settings server) (ms ++ [.deregister i isProbe]) k kind call info
      n a m b := by
  have h := run_kept τ on server alone
  have inTurn := run_inTurn τ on server alone
  have last : (start τ settings server).run (ms ++ [.deregister i isProbe]) =
      ((start τ settings server).run ms).step (.deregister i isProbe) := run_append ..
  let c := ((start τ settings server).run ms).controller
  have informs := informs_start c i isProbe
  obtain ⟨mem, carries⟩ := informs.carries _ hevent
  obtain rfl := List.mem_singleton.mp mem
  have registered : c.state? i.key = some .registered := by
    by_contra hc
    obtain ⟨fx, quiet, he⟩ := ofDeregister_eq i isProbe (Deregister.start c i)
    rw [he] at hevent
    rcases List.mem_append.mp hevent with hevent | hevent
    · cases List.all_eq_true.mp (Deregister.start_quiet hc) _ hevent
    · cases List.all_eq_true.mp quiet _ hevent
  have listed : ((start τ settings server).run (ms ++ [.deregister i isProbe])).controller.lists k =
      true := by
    rw [last]
    show (ofDeregister i isProbe (Deregister.start c i)).controller.lists k = true
    rw [(turn_start c i isProbe).lists_of_none, Controller.lists, ← hi, registered]
    rfl
  obtain ⟨n, a, latest, succeeded⟩ := h.listed listed
  refine h.provenance (.retracted call succeeded fun m hm => ?_) latest.attempt ?_ fun _ => latest
  · obtain ⟨b, hb⟩ := inTurn.attempt_of_succeeded hm
    exact latest.last m b hb
  · rw [last]
    show info = (ofDeregister i isProbe (Deregister.start c i)).controller.summaries.get? k
    rw [informs.summaries, ← hi]
    exact carries

/-- A registration that goes on reports its own attempt, which is the latest one. -/
theorem provenance_registration {stage : RegisterStage} {since : Nat} {i : Instance}
    {w : RegisterAnswer} (on : settings.enabled = true)
    (alone : Alone k (start τ settings server) (ms ++ [.answer call (.register w)]))
    (hx : ((start τ settings server).run ms).calls[call]? = some ⟨i, .register stage, since⟩)
    (awaits : stage.awaits w = true)
    (hc : stage.admits (((start τ settings server).run ms).controller.state? i.key))
    (last : (start τ settings server).run (ms ++ [.answer call (.register w)]) =
      ((start τ settings server).run ms).proceed call ⟨i, .register stage, since⟩ (.register w))
    (hevent : .event kind i info ∈
      (Register.resume ((start τ settings server).run ms).controller i stage w
        ((start τ settings server).run ms).now).effects)
    (hk : i.key = k) :
    ∃ n a m b, Provenance (start τ settings server) (ms ++ [.answer call (.register w)]) k kind call
      info n a m b := by
  obtain ⟨before, -⟩ := (along_concat ..).mp alone
  have h := run_kept τ on server before
  have h' := run_kept τ on server alone
  have inTurn := run_inTurn τ on server before
  have settled := run_settings τ settings server ms
  generalize (start τ settings server).run ms = t at *
  have g := goes_proceed hx (.register w)
  have on' : t.controller.settings.enabled = true := by rw [settled]; exact on
  obtain ⟨r, attempt, cases⟩ := inTurn.attempt_proceed hx awaits hc hk
  have latest := h.latest g hx hk (Stage.isOpen_of_admits hc) attempt
  have informs : (Register.resume t.controller i stage w t.now).Informs
      (Register.resume t.controller i stage w t.now).controller.summaries EventKind.ofAttempt := by
    rcases cases with ⟨rfl, rfl⟩ | ⟨hl, -⟩
    · have enabled := (t.controller.enabled_policyFor r).trans on'
      have key := Register.informs_resume_rule hc enabled t.now
      rwa [key.summaries]
    · have key := Register.informs_resume (c := t.controller) (i := i) hl w t.now
      rwa [key.summaries]
  obtain ⟨mem, carries⟩ := informs.carries _ hevent
  have going : kind ≠ .threadEnd := by
    rintro rfl
    simp [EventKind.ofAttempt] at mem
  rw [if_neg going, hk] at carries
  rw [← last] at attempt latest
  refine h'.provenance (.own mem call) attempt ?_ fun _ => latest
  rw [last]
  exact carries

/-- A timer reports the end of the warm-up that a registration has started. -/
theorem provenance_timer {i : Instance} {since : Nat} {d : Duration} {isInterrupted : Bool}
    (on : settings.enabled = true)
    (alone : Alone k (start τ settings server) (ms ++ [.answer call (.timer isInterrupted)]))
    (hx : ((start τ settings server).run ms).calls[call]? = some ⟨i, .warmup d, since⟩)
    (last : (start τ settings server).run (ms ++ [.answer call (.timer isInterrupted)]) =
      ((start τ settings server).run ms).proceed call ⟨i, .warmup d, since⟩ (.timer isInterrupted))
    (hevent : .event kind i info ∈
      (Call.resume ⟨i, .warmup d, since⟩ ((start τ settings server).run ms).controller
        (.timer isInterrupted) ((start τ settings server).run ms).now).effects)
    (hk : i.key = k) :
    ∃ n a m b, Provenance (start τ settings server) (ms ++ [.answer call (.timer isInterrupted)]) k
      kind call info n a m b := by
  obtain ⟨before, -⟩ := (along_concat ..).mp alone
  have h' := run_kept τ on server alone
  obtain ⟨n, a, started, attempt⟩ := (run_kept τ on server before).timers call i d since hx hk
  have started' : (starters (start τ settings server)
      (ms ++ [.answer call (.timer isInterrupted)]))[call]? = some (some n) := by
    rw [starters_concat]
    exact List.getElem?_append_left (List.getElem?_eq_some_iff.mp started).1 ▸ started
  generalize (start τ settings server).run ms = t at *
  have g := goes_proceed hx (.timer isInterrupted)
  obtain ⟨mem, carries⟩ := (informs_finish t.controller i d since isInterrupted t.now).carries _ hevent
  obtain rfl := List.mem_singleton.mp mem
  have hn : n ≠ call := by
    rintro rfl
    obtain ⟨-, s, hs, -⟩ := attempt.of_call hx
    cases hs
  have attempt' := (g.attempt_ne hn a).mpr attempt
  rw [← last] at attempt'
  refine h'.provenance (.timer started') attempt' ?_ fun hkind => absurd rfl hkind
  rw [last, ← hk]
  exact carries

/-- A call that is answered reports its own attempt, the end of its warm-up or the end of its
instance. -/
theorem provenance_answer {x : Call} {w : Answer} {i : Instance} (on : settings.enabled = true)
    (alone : Alone k (start τ settings server) (ms ++ [.answer call w]))
    (hx : ((start τ settings server).run ms).calls[call]? = some x)
    (awaits : x.stage.awaits w = true)
    (last : ((start τ settings server).run ms).step (.answer call w) =
      ((start τ settings server).run ms).proceed call x w)
    (hevent : .event kind i info ∈
      (x.resume ((start τ settings server).run ms).controller w
        ((start τ settings server).run ms).now).effects)
    (hi : i = x.inst) (hk : i.key = k) :
    (kind = .threadEnd ∧ info = none) ∨
      ∃ n a m b, Provenance (start τ settings server) (ms ++ [.answer call w]) k kind call info
        n a m b := by
  have after : (start τ settings server).run (ms ++ [.answer call w]) =
      ((start τ settings server).run ms).proceed call x w := (run_append ..).trans last
  subst hi
  cases Call.advance awaits ((run_sound τ settings server ms).owns hx) with
  | admitted awaits hc =>
    exact .inr (provenance_registration on alone hx awaits hc after hevent hk)
  | @late i since r hc =>
    obtain ⟨e, he⟩ := Call.resume_turnedAway hc since r ((start τ settings server).run ms).now
    rw [he] at hevent
    cases List.all_eq_true.mp (Register.policyEffects_quiet r) _ hevent
  | @overtaken i since p b hc =>
    obtain ⟨before, -⟩ := (along_concat ..).mp alone
    have unregistered := (run_inTurn τ on server before).binding call i p since hx hk
    rw [← hk] at unregistered
    exact absurd unregistered hc
  | @retracted i since isProbe r hc =>
    have informs := informs_resume_retracting ((start τ settings server).run ms).controller i isProbe
      since r ((start τ settings server).run ms).now
    obtain ⟨mem, carries⟩ := informs.carries _ hevent
    obtain rfl := List.mem_singleton.mp mem
    exact .inl ⟨rfl, carries⟩
  | timer d isInterrupted => exact .inr (provenance_timer on alone hx after hevent hk)

/-- An event of a move ends its instance and carries nothing, or belongs to an attempt. -/
theorem provenance_news {m : Move} {i : Instance} {e : Happening} (on : settings.enabled = true)
    (alone : Alone k (start τ settings server) (ms ++ [m]))
    (he : e ∈ ((start τ settings server).run ms).news m)
    (hd : e.deed = .effect (.event kind i info)) (hi : i.key = k) :
    (kind = .threadEnd ∧ info = none) ∨
      ∃ n a l b, Provenance (start τ settings server) (ms ++ [m]) k kind e.call info n a l b := by
  unfold news at he
  have move := ((start τ settings server).run ms).stepped m
  generalize hu : ((start τ settings server).run ms).step m = u at move he
  cases move with
  | idle => simp at he
  | register j =>
    obtain ⟨mem, -⟩ := (goes_launch (Step.serves_of_quiet rfl rfl)).event he hd
    cases mem
  | deregister j isProbe =>
    obtain ⟨mem, -, rfl⟩ := (goes_launch (serves_start ..)).event he hd
    exact .inr (provenance_start on alone mem hi)
  | @answer call x w hx awaits =>
    obtain ⟨mem, rfl, same⟩ := (goes_proceed hx w).event he hd
    exact provenance_answer on alone hx awaits hu mem same hi

end Events

/-- Every event of an instance whose calls come one after another was reported by a move, and the
last event of an instance carries nothing. Each other one belongs to an attempt and carries the
summary of the latest attempt at this time. This is the summary of its own attempt, unless it ends a
warm-up and the policies of the two attempts have different summaries. -/
theorem summaries_provenance (τ : Timer) (settings : GracefulSettings)
    (on : settings.enabled = true) (server : ProbeServer) (k : InstanceKey) (ms : List Move)
    (alone : Alone k (start τ settings server) ms) :
    let t₀ := start τ settings server
    let policyFor := t₀.controller.policyFor
    ∀ call kind info, (call, kind, info) ∈ eventsIn k (t₀.run ms).trace →
      ∃ past m rest, ms = past ++ m :: rest ∧
        (call, kind, info) ∈ eventsIn k ((t₀.run past).news m) ∧
        ((kind = .threadEnd ∧ info = none) ∨
          ∃ n a l b, Provenance t₀ (past ++ [m]) k kind call info n a l b ∧
            (info = some (policyFor a).summary ↔
              (kind = .warmupEnd → (policyFor b).summary = (policyFor a).summary))) := by
  intro t₀ policyFor call kind info hmem
  obtain ⟨e, he, rfl, i, hi, hd⟩ := mem_eventsIn.mp hmem
  rcases mem_trace_run he with old | ⟨past, m, rest, rfl, new⟩
  · cases old
  · have sofar : Alone k t₀ (past ++ [m]) := by
      rw [List.append_cons] at alone
      exact alone.of_append
    refine ⟨past, m, rest, rfl, mem_eventsIn.mpr ⟨e, new, rfl, i, hi, hd⟩, ?_⟩
    rcases provenance_news on sofar new hd hi with last | ⟨n, a, l, b, h⟩
    · exact .inl last
    · exact .inr ⟨n, a, l, b, h, h.carries_own_iff⟩

/-! ## A warm-up that outlives its attempt -/

/-- Settings with a warm-up of a minute. -/
def warmingSettings : GracefulSettings :=
  { enabled := true, warmup := { enabled := true, interval := .ofSeconds 60 } }

/-- A rule that switches the readiness probe on, as a list of rules whose sections are given by
place. -/
def readinessRule : RemoteRule :=
  ⟨.lossless, .array [.array [.array [.null, .array [.bool true]]]]⟩

/-- An instance comes online without a rule and warms up. It is retracted, and before the warm-up is
over it is registered again under a rule. -/
def movesToSecondAttempt (i : Instance) : List Move :=
  [.register i, .answer 0 (.register (.rule (.ok none))),
    .answer 0 (.register (.registered (.ok ⟨"ins-1", false⟩))), .deregister i false,
    .answer 2 (.retracted (.ok ())), .register i,
    .answer 3 (.register (.rule (.ok (some readinessRule)))), .pass 60000]

/-- The events of the two attempts carry the summaries of their policies, until the timer of the
first one is over. -/
theorem summaries_provenance_twice :
    let server : ProbeServer := { listen := "127.0.0.1:0" }
    let i : Instance := ⟨"default", "echo", "127.0.0.1", 8080, none, none, none, none⟩
    let t₀ := start .thirtyYears warmingSettings server
    let policyFor := t₀.controller.policyFor
    let ms := movesToSecondAttempt i
    let first := some (policyFor (.ok none)).summary
    warmingSettings.enabled = true ∧ Alone i.key t₀ ms ∧
      eventsIn i.key (t₀.run ms).trace =
        [(0, .onlineStart, first), (0, .onlineEnd, first), (0, .warmupStart, first),
          (2, .offlineStart, first), (2, .threadEnd, none)] ∧
      ∀ call kind info, (call, kind, info) ∈ eventsIn i.key (t₀.run ms).trace →
        ∃ past m rest, ms = past ++ m :: rest ∧
          (call, kind, info) ∈ eventsIn i.key ((t₀.run past).news m) ∧
          ((kind = .threadEnd ∧ info = none) ∨
            ∃ n a l b, Provenance t₀ (past ++ [m]) i.key kind call info n a l b ∧
              (info = some (policyFor a).summary ↔
                (kind = .warmupEnd → (policyFor b).summary = (policyFor a).summary))) := by
  intro server i t₀ policyFor ms first
  have alone : Alone i.key t₀ ms := by decide +kernel
  exact ⟨rfl, alone, by decide +kernel,
    summaries_provenance .thirtyYears warmingSettings rfl server i.key ms alone⟩

/-- The timer of the first attempt ends its warm-up with the summary of the second one, whose policy
has another summary. -/
theorem warmupEnd_of_other_policy :
    let server : ProbeServer := { listen := "127.0.0.1:0" }
    let i : Instance := ⟨"default", "echo", "127.0.0.1", 8080, none, none, none, none⟩
    let t₀ := start .thirtyYears warmingSettings server
    let policyFor := t₀.controller.policyFor
    let past := movesToSecondAttempt i
    let m : Move := .answer 1 (.timer false)
    let first := (policyFor (.ok none)).summary
    let second := (policyFor (.ok (some readinessRule))).summary
    Alone i.key t₀ (past ++ [m]) ∧ first ≠ second ∧
      Belongs t₀ (past ++ [m]) i.key .warmupEnd 1 0 ∧
      (t₀.run (past ++ [m])).Attempt i.key 0 (.ok none) ∧
      eventsIn i.key ((t₀.run past).news m) = [(1, .warmupEnd, some second)] := by
  intro server i t₀ policyFor past m first second
  have alone : Alone i.key t₀ (past ++ [m]) := by decide +kernel
  have started : (starters t₀ (past ++ [m]))[1]? = some (some 0) := by decide +kernel
  have reported : eventsIn i.key ((t₀.run past).news m) = [(1, .warmupEnd, some second)] := by
    decide +kernel
  have unruled : (accountOf ((t₀.run (past ++ [m])).logOf 0)).lookups.map
      (fun a => a.toOption.map Option.isNone) = [some true] := by decide +kernel
  have attempt : (t₀.run (past ++ [m])).Attempt i.key 0 (.ok none) := by
    obtain ⟨e, he, hcall, j, hj, hd⟩ := mem_eventsIn.mp (reported ▸ List.mem_singleton.mpr rfl)
    rcases provenance_news rfl alone he hd hj with ⟨hk, -⟩ | ⟨n, a, l, b, h⟩
    · cases hk
    · rw [hcall] at h
      have hn : n = 0 := by
        cases h.belongs with
        | own hkind => simp [EventKind.ofAttempt] at hkind
        | timer begun => exact Option.some.inj (Option.some.inj (begun.symm.trans started))
      have own : (t₀.run (past ++ [m])).Attempt i.key 0 a := hn ▸ h.attempt
      rw [own.lookup] at unruled
      have ha : a = .ok none := by
        cases a with
        | error f => simp [Except.toOption] at unruled
        | ok r =>
          cases r with
          | none => rfl
          | some rule => simp [Except.toOption] at unruled
      exact ha ▸ own
  exact ⟨alone, by decide +kernel, .timer started, attempt, reported⟩

end Traffic

end InstanceLifecycle
