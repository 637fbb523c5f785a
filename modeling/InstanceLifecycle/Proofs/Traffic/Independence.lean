import InstanceLifecycle.Proofs.Traffic.Projection

/-!
# Instances are independent

If only the calls for one instance are kept, and each of them is answered as before, the instance
should fare as it did among the others. All instances share the states, the summaries, the probe
server and the signal to shut down; the calls read and write the first two under their own keys, and
nothing that they do depends on the routes. What is left is the listener. A call that comes to it
waits unless the server is bound already, and whether it is may be due to another instance. While it
waits another call for the same instance can go on and claim it. If a call that comes to the
listener is answered before any other call goes on this cannot happen, so both traffics make
matching steps, and one that is not kept changes nothing that is seen of the instance.

With a listener that takes its time the other direction of this still holds: what an instance meets
with among others it can meet with alone. Its listener fails then, so that every call has to wait;
one that did not have to among the others is answered at once.

Results:

* `Remains.serve_none`, `Remains.serve_of_calm`: one move, and what is kept of it;
* `Remains.served`: an instance none of whose calls waits for the listener fares as it would alone;
* `Remains.exists_served`: in any case it fares as it may fare alone;
* `independent_iff`: instances are independent exactly if the address of the listener is written in
  numbers;
* `other_instance_decides`: two calls for an instance, with another one and without it.
-/

namespace InstanceLifecycle.Traffic

/-! ## Deleting the calls for other instances -/

/-- Whether a move answers a call at the listener. -/
def Move.isListener : Move → Bool
  | .answer _ (.register (.bound _)) => true
  | _ => false

/-- The moves that do not answer calls at the listener. -/
def withoutListener (ms : List Move) : List Move := ms.filter fun m => !m.isListener

/-- Takes some moves with a listener. -/
def served (isPrompt : Bool) (binding : Nat → Except String String) (t : Traffic)
    (ms : List Move) : Traffic := ms.foldl (serve isPrompt binding) t

theorem withoutListener_append (ms ns : List Move) :
    withoutListener (ms ++ ns) = withoutListener ms ++ withoutListener ns := List.filter_append ..

/-- What is left of a move if only the calls for an instance are kept: an answer goes to the same
call, under its number among those that are kept. -/
def kept? (k : InstanceKey) (t : Traffic) : Move → Option Move
  | .register i => if i.key = k then some (.register i) else none
  | .deregister i isProbe => if i.key = k then some (.deregister i isProbe) else none
  | .answer n a =>
    if t.calls[n]?.any (·.isOf k) then some (.answer (rank k t.calls n) a) else none
  | m => some m

/-- What is left of some moves if only the calls for an instance are kept. -/
def restrict (isPrompt : Bool) (binding : Nat → Except String String) (k : InstanceKey) :
    Traffic → List Move → List Move
  | _, [] => []
  | t, m :: ms =>
    (t.kept? k m).toList ++ restrict isPrompt binding k (t.serve isPrompt binding m) ms

/-- Whether some call for an instance waits for the listener. -/
def waits (t : Traffic) (k : InstanceKey) : Bool := t.calls.any fun x => x.isOf k && x.isBinding

/-- Whether no call for an instance comes to wait for the listener. -/
def NeverWaits (isPrompt : Bool) (binding : Nat → Except String String) (k : InstanceKey)
    (t : Traffic) (ms : List Move) : Prop :=
  ∀ ns, ns <+: ms → (t.served isPrompt binding ns).waits k = false

/-- A traffic and what remains of it if only the calls for an instance are kept. -/
structure Remains (k : InstanceKey) (t u : Traffic) : Prop where
  timer : t.timer = u.timer
  controller : t.controller.AlikeAt k u.controller
  calls : t.calls.filter (·.isOf k) = u.calls
  now : t.now = u.now
  isCancelled : t.isCancelled = u.isCancelled
  trace : tale k t.calls t.trace = tale k u.calls u.trace
  left : t.Numbered
  right : u.Numbered

section Serve

variable {isPrompt : Bool} {binding : Nat → Except String String} {t : Traffic}
  {k : InstanceKey}

theorem Numbered.serve (h : t.Numbered) (m : Move) :
    (t.serve isPrompt binding m).Numbered := by
  obtain ⟨ns, hns⟩ := run_of_serve isPrompt binding t m
  rw [hns]
  exact h.run ns

theorem Numbered.served (h : t.Numbered) (ms : List Move) :
    (t.served isPrompt binding ms).Numbered := by
  induction ms generalizing t with
  | nil => exact h
  | cons m ms ih => exact ih (h.serve m)

theorem waits_eq_false_iff :
    t.waits k = false ↔
      ∀ (n : Nat) (x : Call), t.calls[n]? = some x → x.inst.key = k → x.isBinding = false := by
  unfold waits
  rw [List.any_eq_false]
  constructor
  · intro h n x hx hk
    simpa [Call.isOf, hk] using h x (List.mem_of_getElem? hx)
  · intro h x hx
    obtain ⟨n, hn⟩ := List.getElem?_of_mem hx
    by_cases hk : x.inst.key = k
    · simp [h n x hn hk]
    · simp [Call.isOf, hk]

theorem stage_ne_of_isBinding {x : Call} (h : x.isBinding = false) (p : Policy) :
    x.stage ≠ .register (.binding p) := by
  intro hs
  simp [Call.isBinding, hs, RegisterStage.isBinding] at h

/-- A call that does not wait for the listener and is not told what it waits for stays as it is. -/
theorem serve_of_not_accepts {n : Nat} {a : Answer}
    (h : ∀ x, t.calls[n]? = some x →
      x.accepts t.timer t.isCancelled t.now a = false ∧ x.isBinding = false) :
    t.serve isPrompt binding (.answer n a) = t := by
  have step : t.step (.answer n (a.bind (binding n))) = t := by
    cases hx : t.calls[n]? with
    | none => simp [Traffic.step, hx]
    | some x => simp [Traffic.step, hx, accepts_bind, (h x hx).1]
  have settle : t.settle binding n = t := by
    unfold Traffic.settle
    split
    · next p hs =>
      obtain ⟨x, hx, hs⟩ := Option.map_eq_some_iff.mp hs
      exact absurd hs (stage_ne_of_isBinding (h x hx).2 p)
    · rfl
  simp only [serve, step, settle, ite_self]

theorem accepts_bound_of_not_binding {x : Call} (h : x.isBinding = false) (τ : Timer)
    (isCancelled : Bool) (now : Nat) (r : Except String String) :
    x.accepts τ isCancelled now (.register (.bound r)) = false := by
  obtain ⟨i, stage, since⟩ := x
  cases stage with
  | register s =>
    cases s with
    | binding p => cases h
    | _ => rfl
  | deregister isProbe s => cases s <;> rfl
  | _ => rfl

/-- An answer of the listener that no call waits for does nothing. -/
theorem serve_of_isListener (calm : ∀ x ∈ t.calls, x.isBinding = false) {m : Move}
    (hm : m.isListener = true) : t.serve isPrompt binding m = t := by
  cases m with
  | answer n a =>
    cases a with
    | register a =>
      cases a with
      | bound r =>
        refine serve_of_not_accepts fun x hx => ?_
        have idle := calm x (List.mem_of_getElem? hx)
        exact ⟨accepts_bound_of_not_binding idle _ _ _ r, idle⟩
      | _ => cases hm
    | _ => cases hm
  | _ => cases hm

end Serve

section Invariants

variable {isPrompt : Bool} {binding : Nat → Except String String} {t : Traffic}
  (I : Invariant fun _ => True) (allowed : ∀ n, I.Allows (binding n))
include allowed

theorem holds_answer (h : I.Holds t.controller) (n : Nat) (a : Answer) :
    I.Holds (t.step (.answer n (a.bind (binding n)))).controller := by
  simp only [Traffic.step]
  split
  · split
    · exact I.call h trivial a t.now (allowed n)
    · exact h
  · exact h

/-- A move keeps what the calls for all instances keep. -/
theorem holds_serve (h : I.Holds t.controller) (m : Move) :
    I.Holds (t.serve isPrompt binding m).controller := by
  cases m with
  | pass millis => exact h
  | cancel => exact h
  | register i => exact h
  | deregister i isProbe => exact I.start h trivial
  | answer n a =>
    have first := holds_answer I allowed h n a
    simp only [Traffic.serve, settle]
    split
    · split
      · exact holds_answer I allowed first n (.register (.bound (binding n)))
      · exact first
    · exact first

theorem holds_served (h : I.Holds t.controller) (ms : List Move) :
    I.Holds (t.served isPrompt binding ms).controller := by
  induction ms generalizing t with
  | nil => exact h
  | cons m ms ih => exact ih (holds_serve I allowed h m)

end Invariants

/-! ### One move -/

/-- Every answer is that of some listener. -/
theorem Answer.exists_bind (a : Answer) : ∃ binding, a.bind binding = a := by
  cases a with
  | register a =>
    cases a with
    | bound r => exact ⟨r, rfl⟩
    | _ => exact ⟨.ok "", rfl⟩
  | _ => exact ⟨.ok "", rfl⟩

namespace Remains

variable {k : InstanceKey} {t u : Traffic} (h : Remains k t u)
include h

/-- All calls that are kept are for the instance. -/
theorem calls_own : u.calls.filter (·.isOf k) = u.calls := by
  rw [← h.calls, List.filter_filter]
  simp only [Bool.and_self]

/-- The call that is kept stands at its number among those that are kept. -/
theorem call {n : Nat} {x : Call} (hx : t.calls[n]? = some x) (hk : x.inst.key = k) :
    u.calls[rank k t.calls n]? = some x := by
  rw [← h.calls]
  exact getElem?_filter_isOf hx (by simpa [Call.isOf] using hk)

theorem accepts_eq (x : Call) (a : Answer) :
    x.accepts u.timer u.isCancelled u.now a = x.accepts t.timer t.isCancelled t.now a := by
  rw [h.timer, h.isCancelled, h.now]

theorem rank_eq_self (n : Nat) : rank k u.calls (rank k t.calls n) = rank k t.calls n := by
  rw [← h.calls]
  exact rank_filter (rank_le_length ..)

/-- A call for the instance makes the same step in both traffics. -/
theorem of_after {v w : Traffic} {n : Nat} {x : Call} {a b : Answer} {s s' : Step Stage}
    (hx : t.calls[n]? = some x) (hk : x.inst.key = k) (after : After t n x.inst a s v)
    (after' : After u (rank k t.calls n) x.inst b s' w) (serves : s.Serves t.controller x.inst)
    (serves' : s'.Serves u.controller x.inst) (same : (Likeness.atKey k).Matches s s')
    (told : [Deed.told a].filter Deed.isPublic = [Deed.told b].filter Deed.isPublic)
    (left : v.Numbered) (right : w.Numbered) : Remains k v w where
  timer := by rw [after.timer, after'.timer, h.timer]
  controller := by
    rw [after.controller, after'.controller]
    exact same.controller
  calls := by
    have shown : s.effects.filter Effect.isPublic = s'.effects.filter Effect.isPublic :=
      same.effects
    have timers : timersOf t.now s.effects = timersOf t.now s'.effects := by
      rw [← timersOf_public, shown, timersOf_public]
    rw [after.filter_calls hx rfl serves, if_pos hk, h.calls, after'.calls, timers, same.stage,
      h.now]
  now := by rw [after.now, after'.now, h.now]
  isCancelled := by rw [after.isCancelled, after'.isCancelled, h.isCancelled]
  trace := by
    have shown : s.effects.filter Effect.isPublic = s'.effects.filter Effect.isPublic :=
      same.effects
    have deeds : (.told a :: deedsOf s).filter Deed.isPublic =
        (.told b :: deedsOf s').filter Deed.isPublic := by
      rw [filter_public, filter_public, told, shown, same.stage]
    rw [after.tale hx rfl serves h.left, after'.tale (h.call hx hk) rfl serves' h.right, h.trace,
      h.rank_eq_self, deeds, h.now]
  left := left
  right := right

/-- A call for the instance begins with the same step in both traffics. -/
theorem launch {i : Instance} {s s' : Step Stage} (hi : i.key = k)
    (serves : s.Serves t.controller i) (serves' : s'.Serves u.controller i)
    (same : (Likeness.atKey k).Matches s s') (left : (t.launch i s).Numbered)
    (right : (u.launch i s').Numbered) : Remains k (t.launch i s) (u.launch i s') where
  timer := h.timer
  controller := same.controller
  calls := by
    rw [filter_calls_launch, if_pos hi, h.calls, same.stage, h.now]
    rfl
  now := h.now
  isCancelled := h.isCancelled
  trace := by
    have deeds : (deedsOf s).filter Deed.isPublic = (deedsOf s').filter Deed.isPublic := by
      rw [deedsOf, deedsOf, List.filter_append, List.filter_append, List.filter_map,
        List.filter_map]
      exact congrArg₂ (· ++ ·) (congrArg (List.map Deed.effect) same.effects)
        (by rw [same.stage])
    have number : rank k u.calls u.calls.length = rank k t.calls t.calls.length := by
      rw [rank_length, rank_length, h.calls_own, h.calls]
    rw [tale_launch serves h.left, tale_launch serves' h.right, h.trace, deeds, number, h.now]
  left := left
  right := right

/-- A call for another instance that begins leaves what remains. -/
theorem launch_other {i : Instance} {s : Step Stage} (hi : i.key ≠ k)
    (serves : s.Serves t.controller i) (frame : s.controller.AlikeAt k t.controller)
    (left : (t.launch i s).Numbered) : Remains k (t.launch i s) u where
  timer := h.timer
  controller := frame.trans h.controller
  calls := by rw [filter_calls_launch, if_neg hi, List.append_nil, h.calls]
  now := h.now
  isCancelled := h.isCancelled
  trace := by rw [tale_launch serves h.left, if_neg hi, List.append_nil, h.trace]
  left := left
  right := h.right

/-- A call for another instance that is answered leaves what remains. -/
theorem step_other {n : Nat} (hn : ∀ x, t.calls[n]? = some x → x.inst.key ≠ k) (a : Answer) :
    Remains k (t.step (.answer n a)) u := by
  have left := h.left.step (.answer n a)
  cases hx : t.calls[n]? with
  | none => simpa [Traffic.step, hx] using h
  | some x =>
    by_cases ha : x.accepts t.timer t.isCancelled t.now a = true
    · rw [step_answer hx ha] at left ⊢
      have after := after_proceed t n x a
      have serves := serves_resume x t.controller a t.now
      have frame : (x.resume t.controller a t.now).controller.AlikeAt k t.controller := by
        obtain ⟨binding, hb⟩ := a.exists_bind
        let I := Invariant.besides k t.controller
        have kept : I.Holds (x.resume t.controller (a.bind binding) t.now).controller :=
          I.call (.refl k t.controller) (hn x hx) a t.now trivial
        rw [hb] at kept
        exact kept
      refine ⟨h.timer, ?_, ?_, h.now, h.isCancelled, ?_, left, h.right⟩
      · exact frame.trans h.controller
      · rw [after.filter_calls hx rfl serves, if_neg (hn x hx), h.calls]
      · rw [after.tale hx rfl serves h.left, if_neg (hn x hx), List.append_nil, h.trace]
    · simpa [Traffic.step, hx, ha] using h

/-- So does whatever the listener does with it. -/
theorem serve_other {n : Nat} (hn : ∀ x, t.calls[n]? = some x → x.inst.key ≠ k) (a : Answer)
    (isPrompt : Bool) (binding : Nat → Except String String) :
    Remains k (t.serve isPrompt binding (.answer n a)) u := by
  have first := h.step_other hn (a.bind (binding n))
  have still : ∀ y, (t.step (.answer n (a.bind (binding n)))).calls[n]? = some y →
      y.inst.key ≠ k := by
    intro y hy
    have move := t.stepped (.answer n (a.bind (binding n)))
    generalize t.step (.answer n (a.bind (binding n))) = v at move hy
    cases move with
    | idle => exact hn y hy
    | @answer _ x _ call =>
      rw [(goes_proceed call _).call] at hy
      rw [← Option.some.inj hy]
      exact hn x call
  simp only [Traffic.serve, settle]
  split
  · split
    · exact first.step_other still _
    · exact first
  · exact first

theorem idle (calm : u.waits k = false) : ∀ x ∈ u.calls, x.isBinding = false := by
  intro x hx
  obtain ⟨n, hn⟩ := List.getElem?_of_mem hx
  rw [← h.calls] at hx
  exact waits_eq_false_iff.mp calm n x hn (by simpa [Call.isOf] using (List.mem_filter.mp hx).2)

section Own

variable {isPrompt : Bool} {binding binding' : Nat → Except String String}

omit h in
/-- If no call for its instance waits for the listener afterwards, the step of a call has not ended
there. -/
theorem boundIf_eq {n : Nat} {x : Call} {a : Answer} {v : Traffic} {s : Step Stage} {now : Nat}
    {b : Except String String}
    (after : After t n x.inst a (boundIf isPrompt x.inst now b s) v) (hx : t.calls[n]? = some x)
    (hk : x.inst.key = k) (calm : v.waits k = false) :
    boundIf isPrompt x.inst now b s = boundAtOnce x.inst now b s := by
  have hn := (List.getElem?_eq_some_iff.mp hx).1
  have call : v.calls[n]? = some ⟨x.inst, (boundIf isPrompt x.inst now b s).stage, t.now⟩ := by
    rw [after.calls, List.getElem?_append_left (by simpa using hn), List.getElem?_set_self hn]
  have goes := stage_ne_of_isBinding (waits_eq_false_iff.mp calm n _ call hk)
  cases isPrompt with
  | true => rfl
  | false =>
    have prompt : boundIf true x.inst now b s = s := boundIf_of_not_binding goes
    exact prompt.symm

/-- A call for the instance is answered in the same way, unless it comes to wait for
the listener. -/
theorem serve_own {n : Nat} {x : Call} (hx : t.calls[n]? = some x) (hk : x.inst.key = k)
    (a : Answer) (calm : t.waits k = false)
    (after : (t.serve isPrompt binding (.answer n a)).waits k = false)
    (after' : (u.serve isPrompt binding' (.answer (rank k t.calls n) a)).waits k = false) :
    Remains k (t.serve isPrompt binding (.answer n a))
      (u.serve isPrompt binding' (.answer (rank k t.calls n) a)) := by
  have hy := h.call hx hk
  have idle := waits_eq_false_iff.mp calm n x hx hk
  have accepts := h.accepts_eq x a
  cases ha : x.accepts t.timer t.isCancelled t.now a with
  | true =>
    have first : After t n x.inst _ _ (t.serve isPrompt binding (.answer n a)) :=
      after_serve hx ha
    have second : After u _ x.inst _ _ (u.serve isPrompt binding' (.answer _ a)) :=
      after_serve hy (accepts.trans ha)
    rw [boundIf_eq first hx hk after] at first
    rw [boundIf_eq second hy hk after'] at second
    refine h.of_after hx hk first second (serves_boundAtOnce (serves_resume ..) ..)
      (serves_boundAtOnce (serves_resume ..) ..) ?_ (told_bind ..) (h.left.serve _)
      (h.right.serve _)
    subst hk
    rw [← h.now]
    exact matches_call (L := .atKey x.inst.key) h.controller x.stage x.since a t.now trivial
  | false =>
    rw [serve_of_not_accepts fun z hz => ?_, serve_of_not_accepts fun z hz => ?_]
    · exact h
    · obtain rfl := Option.some.inj (hy.symm.trans hz)
      exact ⟨accepts.trans ha, idle⟩
    · obtain rfl := Option.some.inj (hx.symm.trans hz)
      exact ⟨ha, idle⟩

/-- A move of which nothing is kept leaves what remains. -/
theorem serve_none {m : Move} (hm : t.kept? k m = none) :
    Remains k (t.serve isPrompt binding m) u := by
  have left : (t.serve isPrompt binding m).Numbered := h.left.serve m
  cases m with
  | pass millis => cases hm
  | cancel => cases hm
  | register i =>
    have hi : i.key ≠ k := by simpa [kept?] using hm
    exact h.launch_other hi (Step.serves_of_quiet rfl rfl) (.refl ..) left
  | deregister i isProbe =>
    have hi : i.key ≠ k := by simpa [kept?] using hm
    exact h.launch_other hi (serves_start ..)
      ((Invariant.besides k t.controller).start (.refl ..) hi) left
  | answer n a =>
    refine h.serve_other (fun x hx hk => ?_) a isPrompt binding
    simp [kept?, hx, Call.isOf, hk] at hm

/-- A move of which something is kept answers a call for the instance, or it has the same effect as
what is kept of it. -/
theorem serve_some {m m' : Move} (hm : t.kept? k m = some m') :
    (∃ n a x, m = .answer n a ∧ m' = .answer (rank k t.calls n) a ∧ t.calls[n]? = some x ∧
      x.inst.key = k) ∨
    Remains k (t.serve isPrompt binding m) (u.serve isPrompt binding' m') := by
  have left : (t.serve isPrompt binding m).Numbered := h.left.serve m
  have right : (u.serve isPrompt binding' m').Numbered := h.right.serve m'
  cases m with
  | pass millis =>
    obtain rfl := Option.some.inj hm
    exact .inr ⟨h.timer, h.controller, h.calls, congrArg (· + millis) h.now, h.isCancelled, h.trace,
      left, right⟩
  | cancel =>
    obtain rfl := Option.some.inj hm
    exact .inr ⟨h.timer, h.controller, h.calls, h.now, rfl, h.trace, left, right⟩
  | register i =>
    obtain ⟨hi, rfl⟩ : i.key = k ∧ Move.register i = m' := by simpa [kept?] using hm
    exact .inr <| h.launch hi (Step.serves_of_quiet rfl rfl) (Step.serves_of_quiet rfl rfl)
      ⟨h.controller, rfl, rfl⟩ left right
  | deregister i isProbe =>
    obtain ⟨hi, rfl⟩ : i.key = k ∧ Move.deregister i isProbe = m' := by simpa [kept?] using hm
    refine .inr <| h.launch hi (serves_start ..) (serves_start ..) ?_ left right
    subst hi
    exact matches_ofDeregister (Deregister.matches_start (L := .atKey i.key) h.controller) isProbe
  | answer n a =>
    simp only [kept?, Option.ite_none_right_eq_some, Option.any_eq_true, Option.some.injEq] at hm
    obtain ⟨⟨x, hx, hk⟩, rfl⟩ := hm
    exact .inl ⟨n, a, x, rfl, rfl, hx, by simpa [Call.isOf] using hk⟩

/-- Unless a call for the instance comes to wait for the listener, a move of which something is kept
has the same effect as what is kept of it. -/
theorem serve_of_calm {m m' : Move} (hm : t.kept? k m = some m') (calm : t.waits k = false)
    (after : (t.serve isPrompt binding m).waits k = false)
    (after' : (u.serve isPrompt binding' m').waits k = false) :
    Remains k (t.serve isPrompt binding m) (u.serve isPrompt binding' m') := by
  rcases h.serve_some hm with ⟨n, a, x, rfl, rfl, hx, hk⟩ | same
  · exact h.serve_own hx hk a calm after after'
  · exact same

end Own

end Remains

/-! ### All moves -/

section Runs

variable {isPrompt : Bool} {binding binding' : Nat → Except String String} {k : InstanceKey}
  {t u : Traffic}

theorem served_singleton {isPrompt : Bool} {binding : Nat → Except String String} (t : Traffic)
    (m : Move) : t.served isPrompt binding [m] = t.serve isPrompt binding m := rfl

theorem served_append (t : Traffic) (ms ns : List Move) :
    t.served isPrompt binding (ms ++ ns) =
      (t.served isPrompt binding ms).served isPrompt binding ns :=
  List.foldl_append

theorem NeverWaits.now {ms : List Move} (h : NeverWaits isPrompt binding k t ms) :
    t.waits k = false := h [] List.nil_prefix

theorem NeverWaits.of_append {ms ns : List Move}
    (h : NeverWaits isPrompt binding k t (ms ++ ns)) :
    NeverWaits isPrompt binding k (t.served isPrompt binding ms) ns := by
  intro rs hr
  rw [← served_append]
  exact h _ ((List.prefix_append_right_inj ms).mpr hr)

theorem NeverWaits.tail {m : Move} {ms : List Move}
    (h : NeverWaits isPrompt binding k t (m :: ms)) :
    NeverWaits isPrompt binding k (t.serve isPrompt binding m) ms :=
  fun ns hn => h (m :: ns) (List.cons_prefix_cons.mpr ⟨rfl, hn⟩)

/-- Answers of the listener that no call waits for do nothing. -/
theorem served_of_isListener (calm : ∀ x ∈ t.calls, x.isBinding = false) {ms : List Move}
    (hms : ∀ m ∈ ms, m.isListener = true) : t.served isPrompt binding ms = t := by
  induction ms with
  | nil => rfl
  | cons m ms ih =>
    have first : t.serve isPrompt binding m = t := serve_of_isListener calm (hms m (by simp))
    show (t.serve isPrompt binding m).served isPrompt binding ms = t
    rw [first]
    exact ih fun m' hm => hms m' (by simp [hm])

/-- As long as no call for an instance waits for the listener, it fares in the same way if the calls
for other instances are deleted. -/
theorem Remains.served {ms : List Move} : ∀ {t u : Traffic} {ns : List Move}, Remains k t u →
    NeverWaits isPrompt binding k t ms → NeverWaits isPrompt binding' k u ns →
    withoutListener ns = withoutListener (restrict isPrompt binding k t ms) →
    Remains k (t.served isPrompt binding ms) (u.served isPrompt binding' ns) := by
  induction ms with
  | nil =>
    intro t u ns h _ hu same
    have listener : ∀ m ∈ ns, m.isListener = true := by
      simpa [withoutListener, restrict] using same
    rw [served_of_isListener (h.idle hu.now) listener]
    exact h
  | cons m ms ih =>
    intro t u ns h ht hu same
    have later := ht.tail
    show Remains k ((t.serve isPrompt binding m).served isPrompt binding ms) _
    unfold withoutListener restrict at same
    rw [List.filter_append] at same
    cases hm : t.kept? k m with
    | none =>
      rw [hm] at same
      exact ih (h.serve_none hm) later hu same
    | some m' =>
      rw [hm] at same
      by_cases listener : m'.isListener = true
      · -- No call for the instance waits, so the answer does nothing.
        have idle : u.serve isPrompt binding' m' = u :=
          serve_of_isListener (h.idle hu.now) listener
        have next := h.serve_of_calm hm ht.now later.now (idle.symm ▸ hu.now)
        rw [idle] at next
        simp only [Option.toList_some, List.filter_singleton, listener] at same
        exact ih next later hu same
      · simp only [Option.toList_some, List.filter_singleton, listener] at same
        obtain ⟨ls, ns', rfl, hls, -, same⟩ := List.filter_eq_cons_iff.mp same
        have idle : u.served isPrompt binding' ls = u :=
          served_of_isListener (h.idle hu.now) fun l hl => by simpa using hls l hl
        have goes := hu.of_append
        rw [idle] at goes
        have last := goes.tail
        rw [served_append, idle]
        show Remains k _ ((u.serve isPrompt binding' m').served isPrompt binding' ns')
        exact ih (h.serve_of_calm hm ht.now later.now last.now) later last same

/-- What remains is seen in the same way. -/
theorem Remains.life_eq (h : Remains k t u) : t.life k = u.life k := by
  have state : t.controller.state? k = u.controller.state? k := h.controller.states
  unfold life
  rw [h.calls_own, h.calls, state, h.controller.summaries, h.trace]

theorem remains_start (k : InstanceKey) (τ : Timer) (settings : GracefulSettings)
    (server : ProbeServer) : Remains k (start τ settings server) (start τ settings server) :=
  ⟨rfl, .refl .., rfl, rfl, rfl, rfl, numbered_start .., numbered_start ..⟩

/-! ### A listener that answers at once -/

theorem isBinding_boundAtOnce (i : Instance) (now : Nat) (b : Except String String)
    (s : Step Stage) (since : Nat) :
    Call.isBinding ⟨i, (boundAtOnce i now b s).stage, since⟩ = false := by
  unfold boundAtOnce
  split
  · next p _ =>
    have goes : (Register.followBinding s.controller i p now b).stage.isBinding = false :=
      Register.isBinding_followBinding now b
    exact goes
  · next hs =>
    unfold Call.isBinding
    split
    · next r hr =>
      cases r with
      | binding p => exact absurd hr (hs p)
      | _ => rfl
    · rfl

/-- With a listener that answers at once no call waits for it. -/
theorem isBinding_serve (calm : ∀ x ∈ t.calls, x.isBinding = false) (m : Move) :
    ∀ x ∈ (t.serve true binding m).calls, x.isBinding = false := by
  have launched (i : Instance) {s : Step Stage} (hs : (Call.mk i s.stage t.now).isBinding = false) :
      ∀ x ∈ (t.launch i s).calls, x.isBinding = false := by
    intro x hx
    rcases List.mem_append.mp hx with hx | hx
    · exact calm x hx
    · rw [List.mem_singleton.mp hx]
      exact hs
  cases m with
  | pass millis => exact calm
  | cancel => exact calm
  | register i => exact launched i rfl
  | deregister i isProbe => exact launched i rfl
  | answer n a =>
    by_cases ha : ∃ y, t.calls[n]? = some y ∧ y.accepts t.timer t.isCancelled t.now a = true
    · obtain ⟨y, hy, ha⟩ := ha
      have after : After t n y.inst _ _ (t.serve true binding (.answer n a)) := after_serve hy ha
      rw [after.calls]
      intro x hx
      rcases List.mem_append.mp hx with hx | hx
      · rcases List.mem_or_eq_of_mem_set hx with hx | rfl
        · exact calm x hx
        · exact isBinding_boundAtOnce ..
      · obtain ⟨e, -, he⟩ := List.mem_filterMap.mp hx
        cases e <;> simp at he
        subst he
        rfl
    · rw [serve_of_not_accepts fun x hx => ?_]
      · exact calm
      · exact ⟨by simpa using fun h => ha ⟨x, hx, h⟩, calm x (List.mem_of_getElem? hx)⟩

theorem neverWaits_of_prompt (calm : ∀ x ∈ t.calls, x.isBinding = false) (k : InstanceKey)
    (ms : List Move) : NeverWaits true binding k t ms := by
  intro ns _
  have idle : ∀ x ∈ (t.served true binding ns).calls, x.isBinding = false := by
    clear * - calm
    induction ns generalizing t with
    | nil => exact calm
    | cons m ns ih => exact ih (isBinding_serve calm m)
  exact waits_eq_false_iff.mpr fun n x hx _ => idle x (List.mem_of_getElem? hx)

end Runs

/-! ### A listener that always fails -/

/-- A listener that cannot be bound. -/
def failing (_ : Nat) : Except String String := .error ""

/-- A call comes to wait for the listener only after its lookup, and only if the server is not
bound. -/
theorem Call.lookup_of_isBinding {x : Call} {c : Controller} {a : Answer} {now since : Nat}
    (awaits : x.stage.awaits a = true)
    (h : Call.isBinding ⟨x.inst, (x.resume c a now).stage, since⟩ = true) :
    (∃ r, a = .register (.rule r)) ∧ c.server.address = none := by
  obtain ⟨i, stage, since⟩ := x
  rcases Stage.cases_of_awaits awaits with
    ⟨s, b, hs, rfl, awaits⟩ | ⟨isProbe, r, hs, rfl⟩ | ⟨d, isInterrupted, hs, rfl⟩
  · obtain rfl : stage = .register s := hs
    obtain ⟨⟨r, rfl⟩, free⟩ := Register.lookup_of_isBinding awaits h
    exact ⟨⟨r, rfl⟩, free⟩
  · obtain rfl : stage = .deregister isProbe .retracting := hs
    cases h
  · obtain rfl : stage = .warmup d := hs
    cases h

theorem Answer.eq_rule_of_bind {a : Answer} {b : Except String String}
    {r : Except Failure (Option RemoteRule)} (h : a.bind b = .register (.rule r)) :
    a = .register (.rule r) := by
  cases a with
  | register a =>
    cases a with
    | bound r => cases h
    | _ => exact h
  | _ => exact h

/-- If the listener is not prompt, a call that is not told what it waits for stays as it is. -/
theorem serve_of_refused {binding : Nat → Except String String} {t : Traffic} {n : Nat} {x : Call}
    {a : Answer} (hx : t.calls[n]? = some x)
    (refused : x.accepts t.timer t.isCancelled t.now a = false) :
    t.serve false binding (.answer n a) = t := by
  simp [Traffic.serve, Traffic.step, hx, accepts_bind, refused]

/-- A call that is answered, and then at the listener if it comes to wait for it. -/
theorem exists_served_settle (binding : Nat → Except String String) {t : Traffic} {n : Nat}
    {x : Call} {a : Answer} (hx : t.calls[n]? = some x)
    (ha : x.accepts t.timer t.isCancelled t.now a = true) :
    ∃ ns, withoutListener ns = withoutListener [.answer n a] ∧
      t.served false binding ns = (t.proceed n x (a.bind (binding n))).settle binding n := by
  have step : t.serve false binding (.answer n a) = t.proceed n x (a.bind (binding n)) :=
    step_answer hx ((accepts_bind ..).trans ha)
  rw [← step]
  unfold settle
  split
  · refine ⟨[.answer n a, .answer n (.register (.bound (binding n)))], ?_, rfl⟩
    simp [withoutListener, List.filter_cons, Move.isListener]
  · exact ⟨[.answer n a], rfl, rfl⟩

namespace Remains

variable {k : InstanceKey} {t u : Traffic} (h : Remains k t u)
  {binding : Nat → Except String String}
include h

section Answer

variable {n : Nat} {x : Call} (hx : t.calls[n]? = some x) (hk : x.inst.key = k) {a : Answer}
  (ha : x.accepts t.timer t.isCancelled t.now a = true)
include hx hk ha

/-- A call that comes to wait for a listener that is bound in neither traffic waits in both. -/
theorem serve_waiting (address : t.controller.server.address = u.controller.server.address)
    {r : Except Failure (Option RemoteRule)} (lookup : a = .register (.rule r)) :
    Remains k (t.serve false binding (.answer n a))
      (u.serve false failing (.answer (rank k t.calls n) a)) := by
  have hy := h.call hx hk
  have accepts : x.accepts u.timer u.isCancelled u.now a = true := (h.accepts_eq x a).trans ha
  have first : After t n x.inst (a.bind (binding n)) _ (t.serve false binding (.answer n a)) :=
    after_serve hx ha
  have second : After u _ x.inst (a.bind (failing _)) _ (u.serve false failing (.answer _ a)) :=
    after_serve hy accepts
  subst lookup
  refine h.of_after hx hk first second (serves_resume ..) (serves_resume ..) ?_ rfl
    (h.left.serve _) (h.right.serve _)
  subst hk
  rw [← h.now]
  have same := matches_call (L := .atKeyAndAddress x.inst.key) ⟨h.controller, address⟩ x.stage
    x.since (.register (.rule r)) t.now (rfl : failing n = failing n)
  exact ⟨same.controller.1, same.stage, same.effects⟩

/-- A call that does not come to wait for the listener need not wait alone. -/
theorem exists_going (goes : Call.isBinding
      ⟨x.inst, (x.resume t.controller (a.bind (binding n)) t.now).stage, t.now⟩ = false) :
    ∃ ns, withoutListener ns = withoutListener [.answer (rank k t.calls n) a] ∧
      Remains k (t.serve false binding (.answer n a)) (u.served false failing ns) := by
  have hy := h.call hx hk
  have accepts : x.accepts u.timer u.isCancelled u.now a = true := (h.accepts_eq x a).trans ha
  have first : After t n x.inst (a.bind (binding n)) _ (t.serve false binding (.answer n a)) :=
    after_serve hx ha
  have atOnce : boundAtOnce x.inst t.now (binding n)
      (x.resume t.controller (a.bind (binding n)) t.now) = _ :=
    boundAtOnce_of_not_binding (stage_ne_of_isBinding goes)
  have settled := after_settle hy (a.bind (failing (rank k t.calls n))) failing
  obtain ⟨ns, hns, run⟩ := exists_served_settle failing hy accepts
  refine ⟨ns, hns, ?_⟩
  have right : (u.served false failing ns).Numbered := h.right.served ns
  rw [run] at right ⊢
  refine h.of_after hx hk first settled (serves_resume ..)
    (serves_boundAtOnce (serves_resume ..) ..) ?_ (told_bind ..) (h.left.serve _) right
  rw [← atOnce]
  subst hk
  rw [← h.now]
  exact matches_call (L := .atKey x.inst.key) h.controller x.stage x.since a t.now trivial

end Answer

variable (address : u.controller.server.address = none ∨
  t.controller.server.address = u.controller.server.address)
include address

/-- A call for the instance is answered in the same way, if it is answered at once at a failing
listener where it need not wait for another one. -/
theorem exists_answer {n : Nat} {x : Call} (hx : t.calls[n]? = some x) (hk : x.inst.key = k)
    (a : Answer) :
    ∃ ns, withoutListener ns = withoutListener [.answer (rank k t.calls n) a] ∧
      Remains k (t.serve false binding (.answer n a)) (u.served false failing ns) := by
  cases ha : x.accepts t.timer t.isCancelled t.now a with
  | false =>
    refine ⟨[.answer (rank k t.calls n) a], rfl, ?_⟩
    have refused : x.accepts u.timer u.isCancelled u.now a = false := (h.accepts_eq x a).trans ha
    rw [served_singleton, serve_of_refused hx ha, serve_of_refused (h.call hx hk) refused]
    exact h
  | true =>
    cases waits : Call.isBinding
        ⟨x.inst, (x.resume t.controller (a.bind (binding n)) t.now).stage, t.now⟩ with
    | false => exact h.exists_going hx hk ha waits
    | true =>
      have awaits : x.stage.awaits (a.bind (binding n)) = true := by
        have told := (accepts_bind x t.timer t.isCancelled t.now a (binding n)).trans ha
        simp only [Call.accepts, Bool.and_eq_true] at told
        exact told.1.1
      obtain ⟨⟨rule, told⟩, free⟩ := Call.lookup_of_isBinding awaits waits
      have unbound : t.controller.server.address = u.controller.server.address := by
        rcases address with none | same
        · rw [free, none]
        · exact same
      refine ⟨[.answer (rank k t.calls n) a], rfl, ?_⟩
      rw [served_singleton]
      exact h.serve_waiting hx hk ha unbound (Answer.eq_rule_of_bind told)

theorem exists_serve {m m' : Move} (hm : t.kept? k m = some m') :
    ∃ ns, withoutListener ns = withoutListener [m'] ∧
      Remains k (t.serve false binding m) (u.served false failing ns) := by
  rcases h.serve_some hm with ⟨n, a, x, rfl, rfl, hx, hk⟩ | same
  · exact h.exists_answer address hx hk a
  · exact ⟨[m'], rfl, same⟩

end Remains

/-- An instance fares among others as it may fare alone, if its listener always fails. -/
theorem Remains.exists_served {k : InstanceKey} (binding : Nat → Except String String)
    (ms : List Move) : ∀ {t u : Traffic}, Remains k t u →
    (u.controller.server.address = none ∨
      t.controller.server.address = u.controller.server.address) →
    ∃ ns, withoutListener ns = withoutListener (restrict false binding k t ms) ∧
      Remains k (t.served false binding ms) (u.served false failing ns) := by
  induction ms with
  | nil => exact fun h _ => ⟨[], rfl, h⟩
  | cons m ms ih =>
    intro t u h address
    -- The server of the traffic alone is never bound, or it always is at the same address.
    have later (ns : List Move) : (u.served false failing ns).controller.server.address = none ∨
        (t.serve false binding m).controller.server.address =
          (u.served false failing ns).controller.server.address := by
      cases hu : u.controller.server.address with
      | none => exact .inl (holds_served .unbound (fun _ => ⟨_, rfl⟩) hu ns)
      | some addr =>
        rw [hu] at address
        have ht : t.controller.server.address = some addr := by simpa using address
        have left : (t.serve false binding m).controller.server.address = some addr :=
          holds_serve (.bound addr) (fun _ => trivial) ht m
        have right : (u.served false failing ns).controller.server.address = some addr :=
          holds_served (.bound addr) (fun _ => trivial) hu ns
        exact .inr (left.trans right.symm)
    cases hm : t.kept? k m with
    | none =>
      obtain ⟨ns, hns, run⟩ := ih (h.serve_none hm) (later [])
      refine ⟨ns, ?_, run⟩
      rw [restrict, hm]
      exact hns
    | some m' =>
      obtain ⟨first, hfirst, same⟩ := h.exists_serve address hm
      obtain ⟨ns, hns, run⟩ := ih same (later first)
      refine ⟨first ++ ns, ?_, ?_⟩
      · rw [restrict, hm, withoutListener_append, withoutListener_append, hfirst, hns]
        rfl
      · rw [served_append]
        exact run

/-! ## Independence -/

/-- With a prompt listener an instance fares in the same way if the calls for other instances are
deleted. -/
theorem life_eq_of_prompt (τ : Timer) (settings : GracefulSettings) (server : ProbeServer)
    (k : InstanceKey) (binding binding' : Nat → Except String String) {ms ns : List Move}
    (same : withoutListener ns =
      withoutListener (restrict true binding k (start τ settings server) ms)) :
    ((start τ settings server).served true binding ms).life k =
      ((start τ settings server).served true binding' ns).life k := by
  have calm : ∀ x ∈ (start τ settings server).calls, x.isBinding = false :=
    fun _ hx => absurd hx List.not_mem_nil
  have remains := remains_start k τ settings server
  exact (remains.served (neverWaits_of_prompt calm k ms) (neverWaits_of_prompt calm k ns)
    same).life_eq

/-! ### Listeners with a name in their address -/

section Alike

variable {isPrompt : Bool} {binding : Nat → Except String String} {t u : Traffic}
  (h : t.Alike isPrompt u)
include h

/-- Traffics that differ in their listeners only are seen in the same way. -/
theorem Alike.life_eq (k : InstanceKey) : t.life k = u.life k := by
  have state : t.controller.state? k = u.controller.state? k :=
    congrArg (Table.get? · k) h.controller.states
  unfold life
  rw [h.calls, state, h.controller.summaries, ← tale_filter, h.trace, tale_filter]

theorem Alike.served (ms : List Move) :
    (t.served isPrompt binding ms).Alike isPrompt (u.served isPrompt binding ms) := by
  induction ms generalizing t u with
  | nil => exact h
  | cons m ms ih => exact ih (h.serve (fun _ => rfl) m)

/-- The same is left of moves if only the calls for an instance are kept. -/
theorem Alike.restrict_eq (k : InstanceKey) (ms : List Move) :
    restrict isPrompt binding k t ms = restrict isPrompt binding k u ms := by
  induction ms generalizing t u with
  | nil => rfl
  | cons m ms ih =>
    have first : t.kept? k m = u.kept? k m := by
      unfold kept?
      rw [h.calls]
    rw [restrict, restrict, first, ih (h.serve (fun _ => rfl) m)]

end Alike

/-- An instance fares in the same way whatever other instances do, exactly if the address of the
listener is written in numbers, so that a call that comes to it is answered before any other call
goes on: deleting the calls for all other instances leaves its calls with their results, its states,
what it asks the registrar and what is reported about it as they are. In any case it fares among
others as it may fare alone, under some other outcomes and moments of the listener. Instances are
the same if they have the same namespace, service, host and port. -/
theorem independent_iff (listen : String) :
    (Listen.isNumeric listen = true ↔
      ∀ (τ : Timer) (settings : GracefulSettings) (server : ProbeServer) (k : InstanceKey)
        (binding binding' : Nat → Except String String) (ms ns : List Move),
        server.listen = listen →
        let isPrompt := Listen.isNumeric listen
        let t := start τ settings server
        withoutListener ns = withoutListener (restrict isPrompt binding k t ms) →
        (t.served isPrompt binding ms).isBinding = false →
        (t.served isPrompt binding' ns).isBinding = false →
        (t.served isPrompt binding ms).life k = (t.served isPrompt binding' ns).life k) ∧
    (∀ (τ : Timer) (settings : GracefulSettings) (server : ProbeServer) (k : InstanceKey)
        (binding : Nat → Except String String) (ms : List Move), server.listen = listen →
        let isPrompt := Listen.isNumeric listen
        let t := start τ settings server
        ∃ (binding' : Nat → Except String String) (ns : List Move),
          withoutListener ns = withoutListener (restrict isPrompt binding k t ms) ∧
          (t.served isPrompt binding ms).life k = (t.served isPrompt binding' ns).life k) ∧
    ∀ i j : Instance, i.key = j.key ↔
      i.namespaceName = j.namespaceName ∧ i.service = j.service ∧ i.host = j.host ∧
        i.port = j.port := by
  generalize Listen.isNumeric listen = isPrompt
  refine ⟨⟨?_, fun same => ?_⟩, fun τ settings server k binding ms _ => ?_,
    fun i j => by simp [Instance.key]⟩
  · rintro rfl τ settings server k binding binding' ms ns - isPrompt t same - -
    exact life_eq_of_prompt τ settings server k binding binding' same
  · by_contra numeric
    obtain rfl : isPrompt = false := by simpa using numeric
    let bound (_ : Nat) : Except String String := .ok "127.0.0.1:9090"
    let k := secondInstance.key
    let ms := contend firstInstance secondInstance
    let t := start .thirtyYears readySettings { listen }
    let u := start .thirtyYears readySettings { listen := "localhost:9090" }
    have alike : t.Alike false u := alike_start ..
    have left : restrict false bound k t ms = restrict false bound k u ms := alike.restrict_eq k ms
    have beside : (t.served false bound ms).Alike false (u.served false bound ms) :=
      alike.served ms
    have apart : (t.served false bound (restrict false bound k u ms)).Alike false
        (u.served false bound (restrict false bound k u ms)) := alike.served _
    have calm {v w : Traffic} (h : v.Alike false w) (calm : w.isBinding = false) :
        v.isBinding = false := by
      unfold isBinding at calm ⊢
      rw [h.calls]
      exact calm
    have seen := same .thirtyYears readySettings { listen } k bound bound ms
      (restrict false bound k u ms) rfl (congrArg withoutListener left.symm)
      (calm beside (by decide +kernel)) (calm apart (by decide +kernel))
    rw [beside.life_eq k, apart.life_eq k] at seen
    exact absurd (congrArg (fun l => l.calls.map Call.hasSucceeded?) seen) (by decide +kernel)
  · intro _ t
    cases isPrompt with
    | true =>
      exact ⟨binding, _, rfl, life_eq_of_prompt τ settings server k binding binding rfl⟩
    | false =>
      have remains := remains_start k τ settings server
      obtain ⟨ns, kept, run⟩ := remains.exists_served binding ms (.inr rfl)
      exact ⟨failing, ns, kept, run.life_eq⟩

/-- An instance comes online, and two calls register another one: which of them succeeds, and how
often its start is reported, depends on whether the listener was bound for the first instance. -/
theorem other_instance_decides :
    let listen := "localhost:9090"
    let isPrompt := Listen.isNumeric listen
    let t := start .thirtyYears readySettings { listen }
    let bound (_ : Nat) : Except String String := .ok "127.0.0.1:9090"
    let k := secondInstance.key
    let ms := contend firstInstance secondInstance
    let beside := t.served isPrompt bound ms
    let apart := t.served isPrompt bound (restrict isPrompt bound k t ms)
    (beside.isBinding = false ∧
      (beside.life k).calls.map Call.hasSucceeded? = [some true, some false] ∧
      beside.reports k = [.onlineStart, .onlineEnd]) ∧
    (apart.isBinding = false ∧
      (apart.life k).calls.map Call.hasSucceeded? = [some false, some true] ∧
      apart.reports k = [.onlineStart, .onlineStart, .onlineEnd]) := by
  decide +kernel

end InstanceLifecycle.Traffic
