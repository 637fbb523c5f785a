import InstanceLifecycle.Proofs.Refresh.Basic

/-!
# Lines of ticks

The ticks for a service that find no policy stand in a line. Only the first of them may look up, and
only while no policy is kept; the others wait for their turn. Each service has a line of its own,
and what concerns one service leaves the line and the policy of every other as they are.

Results:

* `run_lined`: who stands in a line and who looks up, in every state;
* `step_apart`: what concerns one service changes nothing for another;
* `line_serve`: a line empties by turns and answers of its own ticks alone.
-/

namespace InstanceLifecycle

/-- Whether a tick has not ended. -/
def TickStage.waits : TickStage → Bool
  | .done _ => false
  | _ => true

/-! ## Lines of an adjuster -/

namespace Adjuster

variable (a : Adjuster)

/-- The adjuster after a tick went to the end of a line. -/
def join (k : ServiceKey) (n : Nat) : Adjuster :=
  { a with lines := a.lines.insert k (a.line k ++ [n]) }

theorem line_join (j k : ServiceKey) (n : Nat) :
    (a.join j n).line k = if k = j then a.line j ++ [n] else a.line k := by
  simp only [join, line, Table.get?_insert]
  split <;> rfl

theorem line_leave (j k : ServiceKey) :
    (a.leave j).line k = if k = j then (a.line j).tail else a.line k := by
  simp only [leave, line, Table.get?_insert]
  split <;> rfl

/-- A turn ends the tick with the kept policy or starts its lookup. -/
theorem takeTurn_cases {P : Adjuster → TickStage → Prop} (t : Tick)
    (hit : ∀ p, a.cached? t.service = some p →
      P (a.leave t.service) (.done (Weight.compute .double p t.now t.candidates)))
    (look : a.cached? t.service = none → P a .looking) :
    P (a.takeTurn t).1 (a.takeTurn t).2.1 := by
  unfold takeTurn
  cases hc : a.cached? t.service with
  | some p => exact hit p hc
  | none => exact look hc

/-- A tick that asks for nothing ends at once, as does one that finds a policy; any other goes to
the end of the line and looks up if nobody is before it. -/
theorem arrive_cases {P : Adjuster → TickStage → Prop} {n : Nat} {t : Tick}
    (fresh : n ∉ a.line t.service)
    (idle : (a.enabled && !t.candidates.isEmpty) = false → P a (.done []))
    (hit : ∀ p, (a.enabled && !t.candidates.isEmpty) = true → a.cached? t.service = some p →
      P a (.done (Weight.compute .double p t.now t.candidates)))
    (first : (a.enabled && !t.candidates.isEmpty) = true → a.cached? t.service = none →
      a.line t.service = [] → P (a.join t.service n) .looking)
    (later : (a.enabled && !t.candidates.isEmpty) = true → a.cached? t.service = none →
      a.line t.service ≠ [] → P (a.join t.service n) .queued) :
    P (a.arrive n t).1 (a.arrive n t).2.1 := by
  unfold arrive
  split
  · next on =>
    cases hc : a.cached? t.service with
    | some p => exact hit p on hc
    | none =>
      have uncached : (a.join t.service n).cached? t.service = none := hc
      cases hl : a.line t.service with
      | nil =>
        have front : (a.join t.service n).isFirst t.service n = true := by
          simp [isFirst, line_join, hl]
        have turn := (a.join t.service n).takeTurn_cases (P := P) t
          (fun p hp => by rw [uncached] at hp; cases hp) fun _ => first on hc hl
        simp only [join, hl] at front turn
        simp only [front, if_true]
        exact turn
      | cons m rest =>
        have behind : (a.join t.service n).isFirst t.service n = false := by
          have other : m ≠ n := fun he => fresh (by simp [hl, he])
          simp [isFirst, line_join, hl, other]
        have queued := later on hc (by simp [hl])
        simp only [join, hl] at behind queued
        simp only [behind, Bool.false_eq_true, if_false]
        exact queued
  · next off => exact idle (by simpa using off)

end Adjuster

namespace Refresh

/-! ## Who stands in a line -/

/-- The ticks for a service that have not ended stand in its line; who looks up is the first, and no
policy is kept meanwhile. -/
structure Lined (a : Adjuster) (cs : List Call) : Prop where
  nodup : ∀ k, (a.line k).Nodup
  mem : ∀ k n, n ∈ a.line k ↔
    ∃ y, cs[n]? = some y ∧ y.tick.service = k ∧ y.stage.waits = true
  head : ∀ (n : Nat) (t : Tick), cs[n]? = some ⟨t, .looking⟩ → (a.line t.service).head? = some n
  uncached : ∀ (n : Nat) (t : Tick), cs[n]? = some ⟨t, .looking⟩ → a.cached? t.service = none

theorem getElem?_snoc {cs : List Call} {y z : Call} {n : Nat} :
    (cs ++ [y])[n]? = some z ↔ cs[n]? = some z ∨ n = cs.length ∧ y = z := by
  rw [List.getElem?_append]
  split
  · next h => simp [Nat.ne_of_lt h]
  · next h =>
    rw [List.getElem?_eq_none (by omega : cs.length ≤ n), List.getElem?_singleton]
    by_cases he : n = cs.length
    · simp [he]
    · simp [he, show n - cs.length ≠ 0 by omega]

theorem getElem?_set_some {cs : List Call} {y z : Call} {n m : Nat} (hn : n < cs.length) :
    (cs.set n y)[m]? = some z ↔ m = n ∧ y = z ∨ m ≠ n ∧ cs[m]? = some z := by
  rw [List.getElem?_set]
  by_cases he : n = m
  · simp [he, he ▸ hn]
  · simp [he, Ne.symm he]

theorem lt_of_getElem? {cs : List Call} {n : Nat} {y : Call} (h : cs[n]? = some y) :
    n < cs.length :=
  (List.getElem?_eq_some_iff.mp h).1

namespace Lined

variable {a : Adjuster} {cs : List Call}

/-- A tick that has not come stands in no line. -/
theorem fresh (h : Lined a cs) (k : ServiceKey) : cs.length ∉ a.line k := by
  intro hm
  obtain ⟨y, hy, -⟩ := (h.mem k _).mp hm
  exact absurd (lt_of_getElem? hy) (Nat.lt_irrefl _)

/-- One tick for a service looks up at a time. -/
theorem looking_unique (h : Lined a cs) {n m : Nat} {t u : Tick}
    (hn : cs[n]? = some ⟨t, .looking⟩) (hm : cs[m]? = some ⟨u, .looking⟩)
    (same : t.service = u.service) : n = m := by
  have hn := h.head n t hn
  rw [same, h.head m u hm] at hn
  exact (Option.some.inj hn).symm

/-- A tick ends when it comes. -/
theorem ended (h : Lined a cs) (t : Tick) (ws : List Weight.DynamicWeight) :
    Lined a (cs ++ [⟨t, .done ws⟩]) where
  nodup := h.nodup
  mem k n := by
    rw [h.mem k n]
    constructor
    · rintro ⟨y, hy, rest⟩
      exact ⟨y, getElem?_snoc.mpr (.inl hy), rest⟩
    · rintro ⟨y, hy, hk, hw⟩
      rcases getElem?_snoc.mp hy with hy | ⟨-, rfl⟩
      · exact ⟨y, hy, hk, hw⟩
      · cases hw
  head n u hn := by
    rcases getElem?_snoc.mp hn with hn | ⟨-, he⟩
    · exact h.head n u hn
    · cases he
  uncached n u hn := by
    rcases getElem?_snoc.mp hn with hn | ⟨-, he⟩
    · exact h.uncached n u hn
    · cases he

/-- A tick goes to the end of its line; it may look up if it is alone there. -/
theorem joined (h : Lined a cs) {t : Tick} {stage : TickStage} (waits : stage.waits = true)
    (alone : stage = .looking → a.cached? t.service = none ∧ a.line t.service = []) :
    Lined (a.join t.service cs.length) (cs ++ [⟨t, stage⟩]) where
  nodup k := by
    rw [Adjuster.line_join]
    split
    · have apart : ∀ n ∈ a.line t.service, n ≠ cs.length :=
        fun n hn he => h.fresh t.service (he ▸ hn)
      refine List.nodup_append.mpr ⟨h.nodup _, by simp, fun n hn m hm => ?_⟩
      rw [List.mem_singleton.mp hm]
      exact apart n hn
    · exact h.nodup k
  mem k n := by
    have old := h.mem k n
    simp only [Adjuster.line_join, getElem?_snoc]
    split
    · next hk =>
      subst hk
      rw [List.mem_append, List.mem_singleton, old]
      constructor
      · rintro (⟨y, hy, rest⟩ | rfl)
        · exact ⟨y, .inl hy, rest⟩
        · exact ⟨_, .inr ⟨rfl, rfl⟩, rfl, waits⟩
      · rintro ⟨y, hy | ⟨hn, -⟩, rest⟩
        · exact .inl ⟨y, hy, rest⟩
        · exact .inr hn
    · next hk =>
      rw [old]
      constructor
      · rintro ⟨y, hy, rest⟩
        exact ⟨y, .inl hy, rest⟩
      · rintro ⟨y, hy | ⟨-, rfl⟩, hs, hw⟩
        · exact ⟨y, hy, hs, hw⟩
        · exact absurd hs.symm hk
  head n u hn := by
    rw [Adjuster.line_join]
    rcases getElem?_snoc.mp hn with hn | ⟨rfl, he⟩
    · have front := h.head n u hn
      split
      · next hk =>
        rw [hk] at front
        simp [List.head?_append, front]
      · exact front
    · obtain ⟨rfl, hs⟩ := Call.mk.inj he
      simp [(alone hs).2]
  uncached n u hn := by
    rcases getElem?_snoc.mp hn with hn | ⟨-, he⟩
    · exact h.uncached n u hn
    · obtain ⟨rfl, hs⟩ := Call.mk.inj he
      exact (alone hs).1

/-- The first tick of a line starts its lookup. -/
theorem looks (h : Lined a cs) {n : Nat} {t : Tick} (hn : cs[n]? = some ⟨t, .queued⟩)
    (front : (a.line t.service).head? = some n) (hc : a.cached? t.service = none) :
    Lined a (cs.set n ⟨t, .looking⟩) where
  nodup := h.nodup
  mem k m := by
    rw [h.mem k m]
    constructor
    · rintro ⟨y, hy, hk, hw⟩
      by_cases he : m = n
      · subst he
        obtain rfl := Option.some.inj (hn.symm.trans hy)
        exact ⟨_, (getElem?_set_some (lt_of_getElem? hn)).mpr (.inl ⟨rfl, rfl⟩), hk, rfl⟩
      · exact ⟨y, (getElem?_set_some (lt_of_getElem? hn)).mpr (.inr ⟨he, hy⟩), hk, hw⟩
    · rintro ⟨y, hy, hk, hw⟩
      rcases (getElem?_set_some (lt_of_getElem? hn)).mp hy with ⟨rfl, rfl⟩ | ⟨-, hy⟩
      · exact ⟨_, hn, hk, rfl⟩
      · exact ⟨y, hy, hk, hw⟩
  head m u hm := by
    rcases (getElem?_set_some (lt_of_getElem? hn)).mp hm with ⟨rfl, he⟩ | ⟨-, hm⟩
    · obtain ⟨rfl, -⟩ := Call.mk.inj he
      exact front
    · exact h.head m u hm
  uncached m u hm := by
    rcases (getElem?_set_some (lt_of_getElem? hn)).mp hm with ⟨rfl, he⟩ | ⟨-, hm⟩
    · obtain ⟨rfl, -⟩ := Call.mk.inj he
      exact hc
    · exact h.uncached m u hm

theorem mem_tail_iff {l : List Nat} {n m : Nat} (nodup : l.Nodup) (front : l.head? = some n) :
    m ∈ l.tail ↔ m ∈ l ∧ m ≠ n := by
  cases l with
  | nil => cases front
  | cons i l =>
    obtain rfl := Option.some.inj front
    have out := (List.nodup_cons.mp nodup).1
    simp only [List.tail_cons, List.mem_cons]
    constructor
    · exact fun hm => ⟨.inr hm, fun he => out (he ▸ hm)⟩
    · rintro ⟨he | hm, ne⟩
      · exact absurd he ne
      · exact hm

/-- The first tick of a line ends. -/
theorem leaves (h : Lined a cs) {n : Nat} {t : Tick} {stage : TickStage}
    (hn : cs[n]? = some ⟨t, stage⟩) (front : (a.line t.service).head? = some n)
    (ws : List Weight.DynamicWeight) :
    Lined (a.leave t.service) (cs.set n ⟨t, .done ws⟩) where
  nodup k := by
    rw [Adjuster.line_leave]
    split
    · exact (h.nodup _).tail
    · exact h.nodup k
  mem k m := by
    have old := h.mem k m
    simp only [Adjuster.line_leave, getElem?_set_some (lt_of_getElem? hn)]
    split
    · next hk =>
      subst hk
      rw [mem_tail_iff (h.nodup _) front, old]
      constructor
      · rintro ⟨⟨y, hy, rest⟩, he⟩
        exact ⟨y, .inr ⟨he, hy⟩, rest⟩
      · rintro ⟨y, ⟨-, rfl⟩ | ⟨he, hy⟩, hs, hw⟩
        · cases hw
        · exact ⟨⟨y, hy, hs, hw⟩, he⟩
    · next hk =>
      rw [old]
      constructor
      · rintro ⟨y, hy, hs, hw⟩
        refine ⟨y, .inr ⟨fun he => ?_, hy⟩, hs, hw⟩
        rw [he, hn] at hy
        obtain rfl := Option.some.inj hy
        exact hk hs.symm
      · rintro ⟨y, ⟨-, rfl⟩ | ⟨-, hy⟩, hs, hw⟩
        · cases hw
        · exact ⟨y, hy, hs, hw⟩
  head m u hm := by
    rcases (getElem?_set_some (lt_of_getElem? hn)).mp hm with ⟨-, he⟩ | ⟨ne, hm⟩
    · cases he
    · have first := h.head m u hm
      rw [Adjuster.line_leave]
      split
      · next hk =>
        rw [hk, front] at first
        exact absurd (Option.some.inj first).symm ne
      · exact first
  uncached m u hm := by
    rcases (getElem?_set_some (lt_of_getElem? hn)).mp hm with ⟨-, he⟩ | ⟨-, hm⟩
    · cases he
    · exact h.uncached m u hm

/-- A policy is kept for a service for which nobody looks up. -/
theorem keeps (h : Lined a cs) {k : ServiceKey} (p : WarmupPolicy)
    (idle : ∀ (n : Nat) (t : Tick), cs[n]? = some ⟨t, .looking⟩ → t.service ≠ k) :
    Lined { a with cache := a.cache.insert k p } cs where
  nodup := h.nodup
  mem := h.mem
  head := h.head
  uncached n t hn := by
    simp only [Adjuster.cached?, Table.get?_insert, if_neg (idle n t hn)]
    exact h.uncached n t hn

/-- A policy is dropped. -/
theorem drops (h : Lined a cs) (k : ServiceKey) : Lined (a.invalidate k) cs where
  nodup := h.nodup
  mem := h.mem
  head := h.head
  uncached n t hn := by
    rw [Adjuster.cached?_invalidate]
    split
    · rfl
    · exact h.uncached n t hn

/-! ## Moves -/

theorem arrive {x : Refresh} (h : Lined x.adjuster x.calls) (t : Tick) :
    Lined (x.arrive t).adjuster (x.arrive t).calls :=
  x.adjuster.arrive_cases (t := t) (P := fun a s => Lined a (x.calls ++ [Call.mk t s])) (h.fresh _)
    (fun _ => h.ended t _) (fun _ _ _ => h.ended t _)
    (fun _ hc hl => h.joined rfl fun _ => ⟨hc, hl⟩) fun _ _ _ => h.joined rfl fun hs => by cases hs

theorem takeTurn {x : Refresh} (h : Lined x.adjuster x.calls) {n : Nat} {t : Tick}
    (hn : x.calls[n]? = some ⟨t, .queued⟩) (first : x.adjuster.isFirst t.service n = true) :
    Lined (x.takeTurn n t).adjuster (x.takeTurn n t).calls :=
  have front : (x.adjuster.line t.service).head? = some n := of_decide_eq_true first
  x.adjuster.takeTurn_cases (P := fun a s => Lined a (x.calls.set n ⟨t, s⟩)) t
    (fun _ _ => h.leaves hn front _) (h.looks hn front)

theorem looked {x : Refresh} (h : Lined x.adjuster x.calls) {n : Nat} {t : Tick}
    (hn : x.calls[n]? = some ⟨t, .looking⟩) (r : Except Failure (Option RemoteRule)) :
    Lined (x.looked n t r).adjuster (x.looked n t r).calls := by
  have front := h.head n t hn
  cases r with
  | error f => exact h.leaves hn front _
  | ok remote =>
    refine (h.leaves hn front _).keeps (x.adjuster.settings.resolve remote).warmup fun m u hm => ?_
    rcases (getElem?_set_some (lt_of_getElem? hn)).mp hm with ⟨-, he⟩ | ⟨ne, hm⟩
    · cases he
    · exact fun same => ne (h.looking_unique hm hn same)

/-- Every move keeps the lines in order. -/
theorem step {x : Refresh} (h : Lined x.adjuster x.calls) (m : Move) :
    Lined (x.step m).adjuster (x.step m).calls :=
  step_cases (P := fun y => Lined y.adjuster y.calls) m h h.arrive (fun _ _ hn => h.takeTurn hn)
    (fun _ _ r hn => h.looked hn r) h.drops

end Lined

/-- Who stands in a line and who looks up, in every state. -/
theorem run_lined (s : Settings) (ms : List Move) :
    Lined ((start s).run ms).adjuster ((start s).run ms).calls := by
  have first : Lined (start s).adjuster (start s).calls := by
    refine ⟨fun _ => .nil, fun k n => ?_, fun n t hn => by simp [start] at hn, fun n t hn => ?_⟩
    · simp [start, Adjuster.create, Adjuster.line, Table.get?_empty]
    · simp [start] at hn
  exact run_induction (P := fun y => Lined y.adjuster y.calls) first (fun _ m h => h.step m) ms

/-! ## One service apart from the others -/

/-- The service that a move concerns. -/
def service? (x : Refresh) : Move → Option ServiceKey
  | .tick t => some t.service
  | .turn n => x.calls[n]?.map (·.tick.service)
  | .answer n _ => x.calls[n]?.map (·.tick.service)
  | .invalidate k => some k

/-- For a service, one state is as another. -/
structure SameFor (k : ServiceKey) (x y : Refresh) : Prop where
  line : y.adjuster.line k = x.adjuster.line k
  cached : y.adjuster.cached? k = x.adjuster.cached? k
  calls : ∀ (n : Nat) (c : Call), c.tick.service = k → (y.calls[n]? = some c ↔ x.calls[n]? = some c)

theorem SameFor.refl (k : ServiceKey) (x : Refresh) : SameFor k x x :=
  ⟨rfl, rfl, fun _ _ _ => .rfl⟩

theorem calls_snoc {cs : List Call} {y c : Call} {n : Nat} (ne : y.tick.service ≠ c.tick.service) :
    (cs ++ [y])[n]? = some c ↔ cs[n]? = some c := by
  rw [getElem?_snoc]
  constructor
  · rintro (hn | ⟨-, rfl⟩)
    · exact hn
    · exact absurd rfl ne
  · exact .inl

theorem calls_set {cs : List Call} {y z c : Call} {n m : Nat} (hn : cs[n]? = some y)
    (same : z.tick = y.tick) (ne : y.tick.service ≠ c.tick.service) :
    (cs.set n z)[m]? = some c ↔ cs[m]? = some c := by
  rw [getElem?_set_some (lt_of_getElem? hn)]
  constructor
  · rintro (⟨-, rfl⟩ | ⟨-, hm⟩)
    · exact absurd (by rw [same]) ne
    · exact hm
  · refine fun hm => .inr ⟨fun he => ?_, hm⟩
    rw [he, hn] at hm
    exact ne (by rw [Option.some.inj hm])

theorem arrive_apart {x : Refresh} (h : Lined x.adjuster x.calls) {t : Tick} {k : ServiceKey}
    (ne : t.service ≠ k) : SameFor k x (x.arrive t) := by
  have frame := x.adjuster.arrive_cases (n := x.calls.length) (t := t)
    (P := fun a _ => a.line k = x.adjuster.line k ∧ a.cached? k = x.adjuster.cached? k) (h.fresh _)
    (fun _ => ⟨rfl, rfl⟩) (fun _ _ _ => ⟨rfl, rfl⟩)
    (fun _ _ _ => ⟨by rw [Adjuster.line_join, if_neg (Ne.symm ne)], rfl⟩)
    (fun _ _ _ => ⟨by rw [Adjuster.line_join, if_neg (Ne.symm ne)], rfl⟩)
  exact ⟨frame.1, frame.2, fun n c hc => calls_snoc (by rw [hc]; exact ne)⟩

theorem takeTurn_apart {x : Refresh} {n : Nat} {t : Tick} {k : ServiceKey}
    (hn : x.calls[n]? = some ⟨t, .queued⟩) (ne : t.service ≠ k) : SameFor k x (x.takeTurn n t) := by
  have frame := x.adjuster.takeTurn_cases (t := t)
    (P := fun a _ => a.line k = x.adjuster.line k ∧ a.cached? k = x.adjuster.cached? k)
    (fun _ _ => ⟨by rw [Adjuster.line_leave, if_neg (Ne.symm ne)], rfl⟩) (fun _ => ⟨rfl, rfl⟩)
  exact ⟨frame.1, frame.2, fun m c hc => calls_set hn rfl (by rw [hc]; exact ne)⟩

theorem line_looked (x : Refresh) (n : Nat) (t : Tick) (r : Except Failure (Option RemoteRule))
    (k : ServiceKey) : (x.looked n t r).adjuster.line k =
      if k = t.service then (x.adjuster.line t.service).tail else x.adjuster.line k := by
  cases r <;> exact Adjuster.line_leave ..

theorem cached?_looked (x : Refresh) (n : Nat) (t : Tick) (r : Except Failure (Option RemoteRule))
    (k : ServiceKey) : (x.looked n t r).adjuster.cached? k =
      match r with
      | .ok _ => if k = t.service then some (x.policyFor r) else x.adjuster.cached? k
      | .error _ => x.adjuster.cached? k := by
  cases r with
  | ok remote => exact Table.get?_insert ..
  | error f => rfl

theorem looked_apart {x : Refresh} {n : Nat} {t : Tick} {k : ServiceKey}
    (hn : x.calls[n]? = some ⟨t, .looking⟩) (r : Except Failure (Option RemoteRule))
    (ne : t.service ≠ k) : SameFor k x (x.looked n t r) where
  line := by rw [line_looked, if_neg (Ne.symm ne)]
  cached := by
    rw [cached?_looked]
    cases r with
    | ok remote => exact if_neg (Ne.symm ne)
    | error f => rfl
  calls m c hc := calls_set hn rfl (by rw [hc]; exact ne)

/-- What concerns one service changes nothing for another. -/
theorem step_apart {x : Refresh} (h : Lined x.adjuster x.calls) {m : Move} {k : ServiceKey}
    (apart : x.service? m ≠ some k) : SameFor k x (x.step m) := by
  cases m with
  | tick t => exact arrive_apart h fun he => apart (congrArg some he)
  | turn n =>
    simp only [step]
    split
    · next t hn =>
      split
      · exact takeTurn_apart hn fun he => apart (by simp [service?, hn, he])
      · exact .refl k x
    · exact .refl k x
  | answer n r =>
    simp only [step]
    split
    · next t hn => exact looked_apart hn r fun he => apart (by simp [service?, hn, he])
    · exact .refl k x
  | invalidate j =>
    refine ⟨rfl, ?_, fun _ _ _ => .rfl⟩
    exact (Adjuster.cached?_invalidate ..).trans (if_neg fun he => apart (by rw [he]; rfl))

/-! ## Serving a line -/

/-- Gives each of these ticks its turn and answers its lookup. -/
def serve (f : Nat → Except Failure (Option RemoteRule)) (ns : List Nat) : List Move :=
  ns.flatMap fun n => [.turn n, .answer n (f n)]

/-- The first tick of a line ends by its turn and an answer, whatever the answer is. -/
theorem line_serve_head {x : Refresh} (h : Lined x.adjuster x.calls) {k : ServiceKey} {n : Nat}
    {rest : List Nat} (hl : x.adjuster.line k = n :: rest)
    (r : Except Failure (Option RemoteRule)) :
    ((x.step (.turn n)).step (.answer n r)).adjuster.line k = rest := by
  have answered {y : Refresh} {t : Tick} (hy : y.calls[n]? = some ⟨t, .looking⟩)
      (ht : t.service = k) (line : y.adjuster.line k = n :: rest) :
      (y.step (.answer n r)).adjuster.line k = rest := by
    simp only [step, hy, line_looked, ht, if_true, line, List.tail_cons]
  obtain ⟨⟨t, stage⟩, hn, rfl, hw⟩ := (h.mem k n).mp (by simp [hl])
  simp only at hl
  cases stage with
  | done ws => cases hw
  | looking =>
    have same : x.step (.turn n) = x := by simp [step, hn]
    rw [same]
    exact answered hn rfl hl
  | queued =>
    have first : x.adjuster.isFirst t.service n = true := by
      simp [Adjuster.isFirst, hl]
    have turned : x.step (.turn n) = x.takeTurn n t := by simp [step, hn, first]
    rw [turned]
    have lt := lt_of_getElem? hn
    cases hc : x.adjuster.cached? t.service with
    | some p =>
      have stays : (x.takeTurn n t).step (.answer n r) = x.takeTurn n t := by
        simp [step, takeTurn, Adjuster.takeTurn, hc, Adjuster.finish, lt]
      rw [stays]
      simp [takeTurn, Adjuster.takeTurn, hc, Adjuster.line_leave, hl]
    | none =>
      refine answered (t := t) ?_ rfl ?_
      · simp [takeTurn, Adjuster.takeTurn, hc, lt]
      · simp [takeTurn, Adjuster.takeTurn, hc, hl]

/-- A line empties by turns and answers of its own ticks alone. -/
theorem line_serve {x : Refresh} (h : Lined x.adjuster x.calls) (k : ServiceKey)
    (f : Nat → Except Failure (Option RemoteRule)) :
    (x.run (serve f (x.adjuster.line k))).adjuster.line k = [] := by
  generalize hl : x.adjuster.line k = ns
  induction ns generalizing x with
  | nil => exact hl
  | cons n rest ih => exact ih ((h.step _).step _) (line_serve_head h hl (f n))

/-- Where nobody stands in the line of a service, its ticks have ended. -/
theorem Lined.ended_of_line_nil {a : Adjuster} {cs : List Call} (h : Lined a cs) {k : ServiceKey}
    (hl : a.line k = []) {n : Nat} {t : Tick} {stage : TickStage} (hn : cs[n]? = some ⟨t, stage⟩)
    (hk : t.service = k) : ∃ ws, stage = .done ws := by
  cases stage with
  | done ws => exact ⟨ws, rfl⟩
  | _ =>
    have inLine := (h.mem k n).mpr ⟨_, hn, hk, rfl⟩
    rw [hl] at inLine
    cases inLine

/-- Serving a line concerns its service only. -/
theorem service?_serve {x : Refresh} (h : Lined x.adjuster x.calls) {k : ServiceKey}
    {f : Nat → Except Failure (Option RemoteRule)} {m : Move}
    (hm : m ∈ serve f (x.adjuster.line k)) : x.service? m = some k := by
  obtain ⟨n, hn, hm⟩ := List.mem_flatMap.mp hm
  obtain ⟨y, hy, hk, -⟩ := (h.mem k n).mp hn
  simp only [List.mem_cons, List.not_mem_nil, or_false] at hm
  rcases hm with rfl | rfl
  · simp [service?, hy, hk]
  · simp [service?, hy, hk]

end Refresh

end InstanceLifecycle
