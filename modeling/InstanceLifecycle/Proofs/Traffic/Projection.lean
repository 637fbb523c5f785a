import InstanceLifecycle.Proofs.Traffic.Listener

/-!
# What is seen of one instance

All calls share one controller, and what is written down of them is one list. What belongs to one
instance is its calls, which are numbered among themselves, what the controller keeps for it, and
what was written down about it. Log entries and the probe server are left out: the routes and the
listener are the same for all instances.

Results:

* `getElem?_filter_isOf`, `filter_set_isOf`: where a call stands among the calls for its instance;
* `After.filter_calls`, `After.tale`: what is seen of an instance after a call has gone on;
* `filter_calls_launch`, `tale_launch`: the same after a call has begun.
-/

namespace InstanceLifecycle

/-! ## Controllers that keep the same for an instance -/

/-- Two controllers that keep the same for an instance. -/
structure Controller.AlikeAt (k : InstanceKey) (c d : Controller) : Prop where
  settings : c.settings = d.settings
  states : c.states.get? k = d.states.get? k
  summaries : c.summaries.get? k = d.summaries.get? k

protected theorem Controller.AlikeAt.refl (k : InstanceKey) (c : Controller) : c.AlikeAt k c :=
  ⟨rfl, rfl, rfl⟩

protected theorem Controller.AlikeAt.trans {k : InstanceKey} {c d e : Controller}
    (h : c.AlikeAt k d) (h' : d.AlikeAt k e) : c.AlikeAt k e :=
  ⟨h.settings.trans h'.settings, h.states.trans h'.states, h.summaries.trans h'.summaries⟩

/-- Whether an effect is more than a log entry or something about the probe server, which all
instances share. -/
def Effect.isPublic : Effect → Bool
  | installed .. => false
  | x => x.matters

/-- Controllers that keep the same for an instance are alike for it, if the listener is prompt. -/
def Likeness.atKey (k : InstanceKey) : Likeness k where
  Like := Controller.AlikeAt k
  shows := Effect.isPublic
  isPrompt := true
  Allows _ _ := True
  settings h := h.settings
  states h := h.states
  summaries h := h.summaries
  address _ := nofun
  insert_state h _ := ⟨h.settings, by simp, h.summaries⟩
  insert_summary h _ := ⟨h.settings, h.states, by simp⟩
  insert_route h _ _ := ⟨h.settings, h.states, h.summaries⟩
  run h _ := ⟨h.settings, h.states, h.summaries⟩
  shows_log _ := rfl
  shows_bindFailure _ := rfl
  shows_installed _ _ := rfl

/-- Controllers that keep the same for an instance and are both bound or both not. -/
def Likeness.atKeyAndAddress (k : InstanceKey) : Likeness k where
  Like c d := c.AlikeAt k d ∧ c.server.address = d.server.address
  shows := Effect.isPublic
  isPrompt := false
  Allows binding binding' := binding = binding'
  settings h := h.1.settings
  states h := h.1.states
  summaries h := h.1.summaries
  address h _ := h.2
  insert_state h s := ⟨(atKey k).insert_state h.1 s, h.2⟩
  insert_summary h p := ⟨(atKey k).insert_summary h.1 p, h.2⟩
  insert_route h path handler := ⟨(atKey k).insert_route h.1 path handler, h.2⟩
  run h allowed :=
    ⟨(atKey k).run h.1 trivial, by simp only [ProbeServer.address_run, h.2, allowed]⟩
  shows_log _ := rfl
  shows_bindFailure _ := rfl
  shows_installed _ _ := rfl

/-- The calls for other instances leave what is kept for one as it is. -/
def Invariant.besides (k : InstanceKey) (c₀ : Controller) : Invariant (· ≠ k) where
  Holds c := c.AlikeAt k c₀
  Allows _ := True
  insert_state own h _ :=
    ⟨h.settings, by simpa [Table.get?_insert, own.symm] using h.states, h.summaries⟩
  insert_summary own h _ :=
    ⟨h.settings, h.states, by simpa [Table.get?_insert, own.symm] using h.summaries⟩
  insert_route h _ _ := ⟨h.settings, h.states, h.summaries⟩
  run h _ := ⟨h.settings, h.states, h.summaries⟩

/-- A server that is bound stays so. -/
def Invariant.bound (addr : String) : Invariant fun _ => True where
  Holds c := c.server.address = some addr
  Allows _ := True
  insert_state _ h _ := h
  insert_summary _ h _ := h
  insert_route h _ _ := h
  run h _ := by simp [ProbeServer.address_run, h]

/-- A server whose listener fails stays unbound. -/
def Invariant.unbound : Invariant fun _ => True where
  Holds c := c.server.address = none
  Allows binding := ∃ e, binding = .error e
  insert_state _ h _ := h
  insert_summary _ h _ := h
  insert_route h _ _ := h
  run h allowed := by
    obtain ⟨e, rfl⟩ := allowed
    simp [ProbeServer.address_run, h, Except.toOption]

namespace Traffic

/-! ## Calls for an instance -/

/-- Whether a call is for an instance. -/
def Call.isOf (k : InstanceKey) (x : Call) : Bool := x.inst.key = k

/-- The number of a call among those for an instance. -/
def rank (k : InstanceKey) (xs : List Call) (n : Nat) : Nat := (xs.take n).countP (·.isOf k)

section Rank

variable {k : InstanceKey} {xs : List Call} {n : Nat} {x y : Call}

theorem rank_cons_succ :
    rank k (x :: xs) (n + 1) = rank k xs n + if x.isOf k then 1 else 0 := by
  rw [rank, List.take_succ_cons, List.countP_cons]
  rfl

theorem rank_append (h : n ≤ xs.length) (ys : List Call) : rank k (xs ++ ys) n = rank k xs n := by
  unfold rank
  rw [List.take_append_of_le_length h]

theorem rank_length : rank k xs xs.length = (xs.filter (·.isOf k)).length := by
  rw [rank, List.take_length, List.countP_eq_length_filter]

/-- Among the calls for an instance a call for it is found under its number among them. -/
theorem getElem?_filter_isOf (hx : xs[n]? = some x) (hk : x.isOf k = true) :
    (xs.filter (·.isOf k))[rank k xs n]? = some x := by
  induction xs generalizing n with
  | nil => simp at hx
  | cons z xs ih =>
    cases n with
    | zero =>
      obtain rfl : z = x := by simpa using hx
      simp [rank, hk]
    | succ n =>
      have rest := ih (by simpa using hx)
      rw [rank_cons_succ]
      by_cases hz : z.isOf k = true <;> simp [hz, rest]

/-- A call that goes on stays in its place among the calls for its instance. -/
theorem filter_set_isOf (hx : xs[n]? = some x) (same : y.isOf k = x.isOf k) :
    (xs.set n y).filter (·.isOf k) =
      if x.isOf k then (xs.filter (·.isOf k)).set (rank k xs n) y else xs.filter (·.isOf k) := by
  induction xs generalizing n with
  | nil => simp at hx
  | cons z xs ih =>
    cases n with
    | zero =>
      obtain rfl : z = x := by simpa using hx
      by_cases hz : z.isOf k = true <;> simp [rank, hz, same]
    | succ n =>
      have rest := ih (by simpa using hx)
      rw [rank_cons_succ, List.set_cons_succ]
      by_cases hz : z.isOf k = true <;> by_cases hk : x.isOf k = true <;> simp_all

theorem rank_set (hx : xs[n]? = some x) (same : y.isOf k = x.isOf k) (m : Nat) :
    rank k (xs.set n y) m = rank k xs m := by
  induction xs generalizing n m with
  | nil => rfl
  | cons z xs ih =>
    cases m with
    | zero => rfl
    | succ m =>
      cases n with
      | zero =>
        obtain rfl : z = x := by simpa using hx
        rw [List.set_cons_zero, rank_cons_succ, rank_cons_succ, same]
      | succ n =>
        rw [List.set_cons_succ, rank_cons_succ, rank_cons_succ, ih (by simpa using hx)]

/-- The number of a call among those for its instance is one of their numbers. -/
theorem rank_le_length (k : InstanceKey) (xs : List Call) (n : Nat) :
    rank k xs n ≤ (xs.filter (·.isOf k)).length := by
  rw [← List.countP_eq_length_filter]
  exact (List.take_sublist n xs).countP_le

/-- If all calls are for one instance they have their own numbers. -/
theorem rank_filter (h : n ≤ (xs.filter (·.isOf k)).length) :
    rank k (xs.filter (·.isOf k)) n = n := by
  have all : ∀ x ∈ (xs.filter (·.isOf k)).take n, x.isOf k = true := fun x hx =>
    (List.mem_filter.mp (List.mem_of_mem_take hx)).2
  rw [rank, List.countP_eq_length.mpr all, List.length_take, Nat.min_eq_left h]

end Rank

/-! ## What is seen of an instance -/

/-- The instance that a deed names. -/
def Deed.key? : Deed → Option InstanceKey
  | effect (.moved k _ _) => some k
  | effect (.event _ i _) => some i.key
  | effect (.warmup i _) => some i.key
  | _ => none

/-- Whether a deed is more than a log entry or something about the probe server. -/
def Deed.isPublic : Deed → Bool
  | effect x => x.isPublic
  | d => d.matters

/-- Whether a happening is about an instance: its deed names it, or its call is for it and the deed
names none. -/
def Happening.isAbout (k : InstanceKey) (e : Happening) : Bool := e.deed.key?.getD e.inst.key = k

/-- What is seen of an instance in some happenings; its calls are numbered among themselves. -/
def tale (k : InstanceKey) (xs : List Call) (es : List Happening) : List Happening :=
  (es.filter fun e => e.deed.isPublic && e.isAbout k).map fun e =>
    { e with call := rank k xs e.call }

/-- What is seen of an instance: its calls with their results, what is kept for it, and what its
calls have done and met with, but for the log and the probe server. -/
structure Life where
  calls : List Call
  state : Option RegistrationState
  summary : Option PolicySummary
  trace : List Happening

/-- What is seen of an instance in some traffic. -/
def life (t : Traffic) (k : InstanceKey) : Life :=
  ⟨t.calls.filter (·.isOf k), t.controller.state? k, t.controller.summaries.get? k,
    tale k t.calls t.trace⟩

theorem serves_boundAtOnce {c : Controller} {i : Instance} {s : Step Stage} (h : s.Serves c i)
    (now : Nat) (binding : Except String String) : (boundAtOnce i now binding s).Serves c i := by
  unfold boundAtOnce
  split
  · next p _ =>
    have follows : (Register.followBinding s.controller i p now binding).Serves s.controller i :=
      Register.serves_followBinding now binding
    have served : (ofRegister (Register.followBinding s.controller i p now binding)).Serves c i :=
      ⟨follows.isFor, follows.settings.trans h.settings⟩
    exact served.after h.isFor
  · exact h

section Tale

variable {k : InstanceKey}

theorem isAbout_of_isFor {e : Happening} (h : e.deed.IsFor e.inst) :
    e.isAbout k = decide (e.inst.key = k) := by
  obtain ⟨now, n, i, d⟩ := e
  cases d with
  | effect x =>
    cases x with
    | moved j a b =>
      obtain rfl : j = i.key := h
      rfl
    | event kind j info =>
      obtain rfl : j = i := h
      rfl
    | warmup j d =>
      obtain rfl : j = i := h
      rfl
    | _ => rfl
  | _ => rfl

theorem tale_append (xs : List Call) (es fs : List Happening) :
    tale k xs (es ++ fs) = tale k xs es ++ tale k xs fs := by
  simp [tale]

theorem Deed.matters_of_isPublic {d : Deed} (h : d.isPublic = true) : d.matters = true := by
  cases d with
  | effect x =>
    cases x with
    | installed path isReplaced => cases h
    | _ => exact h
  | _ => exact h

/-- What does not matter is not seen. -/
theorem tale_filter (xs : List Call) (es : List Happening) :
    tale k xs (es.filter (·.deed.matters)) = tale k xs es := by
  unfold tale
  rw [List.filter_filter]
  refine congrArg (List.map _) (List.filter_congr fun e _ => ?_)
  by_cases h : e.deed.isPublic = true
  · simp [h, Deed.matters_of_isPublic h]
  · simp [h]

/-- What is seen of the deeds of a call for an instance. -/
theorem tale_note {i : Instance} {ds : List Deed} (h : ∀ d ∈ ds, d.IsFor i) (xs : List Call)
    (now n : Nat) :
    tale k xs (ds.map fun d => ⟨now, n, i, d⟩) =
      if i.key = k then (ds.filter Deed.isPublic).map fun d => ⟨now, rank k xs n, i, d⟩
      else [] := by
  have about : ∀ d ∈ ds, (Happening.mk now n i d).isAbout k = decide (i.key = k) := fun d hd =>
    isAbout_of_isFor (h d hd)
  unfold tale
  rw [List.filter_map, List.map_map]
  by_cases hk : i.key = k
  · rw [if_pos hk]
    refine congrArg (List.map _) (List.filter_congr fun d hd => ?_)
    simp [about d hd, hk]
  · rw [if_neg hk]
    have none : ds.filter ((fun e : Happening => e.deed.isPublic && e.isAbout k) ∘
        fun d => ⟨now, n, i, d⟩) = [] := by
      rw [List.filter_eq_nil_iff]
      intro d hd
      simp [about d hd, hk]
    rw [none]
    rfl

/-- What was written down of calls that keep their numbers is seen as before. -/
theorem Numbered.tale_congr {t : Traffic} (h : t.Numbered) {xs : List Call}
    (same : ∀ n < t.calls.length, rank k xs n = rank k t.calls n) :
    tale k xs t.trace = tale k t.calls t.trace := by
  unfold tale
  refine List.map_congr_left fun e he => ?_
  obtain ⟨x, hx, -⟩ := h.entry e (List.mem_filter.mp he).1
  rw [same e.call (List.getElem?_eq_some_iff.mp hx).1]

end Tale

/-! ### Calls that go on -/

/-- Timers are started by effects that are public. -/
theorem timersOf_public (now : Nat) (fx : List Effect) :
    timersOf now (fx.filter Effect.isPublic) = timersOf now fx := by
  unfold timersOf
  rw [List.filterMap_filter]
  congr 1
  funext x
  cases x with
  | count c n => cases c <;> rfl
  | _ => rfl

theorem filter_public (a : Answer) (s : Step Stage) :
    (.told a :: deedsOf s).filter Deed.isPublic = [Deed.told a].filter Deed.isPublic ++
      ((s.effects.filter Effect.isPublic).map .effect ++
        [Deed.reached s.stage].filter Deed.isPublic) := by
  rw [← List.singleton_append, List.filter_append, deedsOf, List.filter_append, List.filter_map]
  rfl

section Growth

variable {k : InstanceKey} {t v : Traffic}

theorem isFor_deedsOf {c : Controller} {i : Instance} {s : Step Stage} (h : s.Serves c i) :
    ∀ d ∈ deedsOf s, d.IsFor i := by
  intro d hd
  rcases List.mem_append.mp hd with hd | hd
  · obtain ⟨x, hx, rfl⟩ := List.mem_map.mp hd
    exact h.isFor x hx
  · obtain rfl := List.mem_singleton.mp hd
    trivial

/-- The timers that a call starts are for its instance. -/
theorem filter_timersOf {c : Controller} {i : Instance} {s : Step Stage} (h : s.Serves c i)
    (now : Nat) :
    (timersOf now s.effects).filter (·.isOf k) =
      if i.key = k then timersOf now s.effects else [] := by
  have own : ∀ x ∈ timersOf now s.effects, x.inst = i := by
    intro x hx
    obtain ⟨y, hy, hyx⟩ := List.mem_filterMap.mp hx
    cases y with
    | warmup j d =>
      obtain rfl : j = i := h.isFor _ hy
      obtain rfl := Option.some.inj hyx
      rfl
    | _ => simp at hyx
  split
  · next hk => exact List.filter_eq_self.mpr fun x hx => by simp [Call.isOf, own x hx, hk]
  · next hk => exact List.filter_eq_nil_iff.mpr fun x hx => by simp [Call.isOf, own x hx, hk]

section After

variable {n : Nat} {i : Instance} {a : Answer} {c : Controller} {s : Step Stage} {x : Call}
  (h : After t n i a s v) (hx : t.calls[n]? = some x) (hi : x.inst = i)
include h hx hi

theorem After.rank_eq {m : Nat} (hm : m ≤ t.calls.length) :
    rank k v.calls m = rank k t.calls m := by
  subst hi
  have same : Call.isOf k ⟨x.inst, s.stage, t.now⟩ = x.isOf k := rfl
  rw [h.calls, rank_append (by simpa using hm), rank_set hx same]

variable (serves : s.Serves c i)
include serves

/-- The calls for an instance after a call has gone on. -/
theorem After.filter_calls :
    v.calls.filter (·.isOf k) =
      if i.key = k then
        (t.calls.filter (·.isOf k)).set (rank k t.calls n) ⟨i, s.stage, t.now⟩ ++
          timersOf t.now s.effects
      else t.calls.filter (·.isOf k) := by
  subst hi
  have same : Call.isOf k ⟨x.inst, s.stage, t.now⟩ = x.isOf k := rfl
  rw [h.calls, List.filter_append, filter_timersOf serves, filter_set_isOf hx same]
  by_cases hk : x.inst.key = k <;> simp [Call.isOf, hk]

/-- What is seen of an instance after a call has gone on. -/
theorem After.tale (numbered : t.Numbered) :
    tale k v.calls v.trace = tale k t.calls t.trace ++
      if i.key = k then
        ((.told a :: deedsOf s).filter Deed.isPublic).map fun d => ⟨t.now, rank k t.calls n, i, d⟩
      else [] := by
  have deeds : ∀ d ∈ Deed.told a :: deedsOf s, d.IsFor i := by
    intro d hd
    rcases List.mem_cons.mp hd with rfl | hd
    · trivial
    · exact isFor_deedsOf serves d hd
  have hn := (List.getElem?_eq_some_iff.mp hx).1
  rw [← tale_filter v.calls, h.trace, tale_filter, note, tale_append, tale_note deeds,
    numbered.tale_congr fun m hm => h.rank_eq hx hi (Nat.le_of_lt hm),
    h.rank_eq hx hi (Nat.le_of_lt hn)]

end After

section Launch

variable {i : Instance} {s : Step Stage}

theorem filter_calls_launch : (t.launch i s).calls.filter (·.isOf k) =
    t.calls.filter (·.isOf k) ++ if i.key = k then [⟨i, s.stage, t.now⟩] else [] := by
  unfold launch
  rw [List.filter_append]
  by_cases hk : i.key = k <;> simp [Call.isOf, hk]

theorem tale_launch {c : Controller} (serves : s.Serves c i) (numbered : t.Numbered) :
    tale k (t.launch i s).calls (t.launch i s).trace = tale k t.calls t.trace ++
      if i.key = k then
        ((deedsOf s).filter Deed.isPublic).map fun d => ⟨t.now, rank k t.calls t.calls.length, i, d⟩
      else [] := by
  have same (m : Nat) (hm : m ≤ t.calls.length) :
      rank k (t.launch i s).calls m = rank k t.calls m := rank_append hm _
  show tale k (t.launch i s).calls (t.note t.calls.length i (deedsOf s)) = _
  rw [note, tale_append, tale_note (isFor_deedsOf serves),
    numbered.tale_congr fun m hm => same m (Nat.le_of_lt hm), same _ (Nat.le_refl _)]

end Launch

end Growth

end Traffic

end InstanceLifecycle
