import InstanceLifecycle.Lifecycle.Traffic

/-!
# Runs of a traffic

Whatever the calls of a controller do, they do in runs of moves. What holds of all runs is proved by
induction over the moves, and a move does one of three things.

Results:

* `run_append`: the traffic after two lists of moves is that after the second, from that after the
  first;
* `run_induction`: what the start satisfies and every move preserves holds after every run;
* `Along.run`: the same for moves that are taken only where they may be;
* `stepped`: a move begins a call, answers one or does nothing to calls.
-/

namespace InstanceLifecycle

namespace RegisterStage

variable {a : RegisterAnswer}

theorem eq_rule_of_awaits (h : lookup.awaits a = true) : ∃ r, a = .rule r := by
  cases a with
  | rule r => exact ⟨r, rfl⟩
  | _ => cases h

theorem eq_bound_of_awaits {p : Policy} (h : (binding p).awaits a = true) : ∃ r, a = .bound r := by
  cases a with
  | bound r => exact ⟨r, rfl⟩
  | _ => cases h

theorem eq_gate_of_awaits {p : Policy} {g : GateStage} (h : (gating p g).awaits a = true) :
    ∃ b, a = .gate b := by
  cases a with
  | gate b => exact ⟨b, rfl⟩
  | _ => cases h

theorem eq_registered_of_awaits {p : Policy} (h : (registering p).awaits a = true) :
    ∃ r, a = .registered r := by
  cases a with
  | registered r => exact ⟨r, rfl⟩
  | _ => cases h

/-- Only a call to the registrar waits for its answer. -/
theorem eq_registering_of_awaits {s : RegisterStage} {r : Except Failure Registration}
    (h : s.awaits (.registered r) = true) : ∃ p, s = .registering p := by
  cases s with
  | registering p => exact ⟨p, rfl⟩
  | _ => cases h

end RegisterStage

namespace Traffic

/-! ## Runs -/

@[simp]
theorem run_nil (t : Traffic) : t.run [] = t := rfl

theorem run_cons (t : Traffic) (m : Move) (ms : List Move) :
    t.run (m :: ms) = (t.step m).run ms := rfl

/-- The traffic after two lists of moves is that after the second, from that after the first. -/
theorem run_append (t : Traffic) (ms ns : List Move) : t.run (ms ++ ns) = (t.run ms).run ns :=
  List.foldl_append

/-- What the start satisfies and every move preserves holds after every run. -/
theorem run_induction {P : Traffic → Prop} {ok : Move → Prop} {t : Traffic} (start : P t)
    (step : ∀ u m, ok m → P u → P (u.step m)) (ms : List Move) (hms : ∀ m ∈ ms, ok m) :
    P (t.run ms) := by
  induction ms generalizing t with
  | nil => exact start
  | cons m ms ih =>
    rw [run_cons]
    exact ih (step t m (hms m (by simp)) start) fun m' hm => hms m' (by simp [hm])

/-- Whether something holds of each move of a run where it is taken. -/
def Along (P : Traffic → Move → Prop) : Traffic → List Move → Prop
  | _, [] => True
  | t, m :: ms => P t m ∧ Along P (t.step m) ms

section Along

variable {P : Traffic → Move → Prop}

instance decidableAlong [∀ t m, Decidable (P t m)] :
    ∀ (t : Traffic) (ms : List Move), Decidable (Along P t ms)
  | _, [] => .isTrue trivial
  | t, m :: ms =>
    have := decidableAlong (t.step m) ms
    inferInstanceAs (Decidable (P t m ∧ Along P (t.step m) ms))

/-- Something holds along two lists of moves if it holds along the first, and along the second from
there. -/
theorem along_append (t : Traffic) (ms ns : List Move) :
    Along P t (ms ++ ns) ↔ Along P t ms ∧ Along P (t.run ms) ns := by
  induction ms generalizing t with
  | nil => simp [Along]
  | cons m ms ih =>
    simp only [List.cons_append, Along, run_cons, and_assoc]
    rw [ih (t.step m)]

theorem along_concat (t : Traffic) (ms : List Move) (m : Move) :
    Along P t (ms ++ [m]) ↔ Along P t ms ∧ P (t.run ms) m := by
  rw [along_append]
  simp [Along]

/-- What holds of each move of a run holds of each move of its beginning. -/
theorem Along.of_append {t : Traffic} {ms ns : List Move} (h : Along P t (ms ++ ns)) :
    Along P t ms :=
  ((along_append ..).mp h).1

/-- What the start satisfies and every move preserves that is taken where it may be holds after a
run of such moves. -/
theorem Along.run {I : Traffic → Prop} (step : ∀ u m, P u m → I u → I (u.step m)) {t : Traffic}
    (start : I t) {ms : List Move} (h : Along P t ms) : I (t.run ms) := by
  induction ms generalizing t with
  | nil => exact start
  | cons m ms ih =>
    rw [run_cons]
    exact ih (step t m h.1 start) h.2

end Along

/-- An answer that comes to a call makes it go on. -/
theorem step_answer {t : Traffic} {n : Nat} {x : Call} {a : Answer} (hx : t.calls[n]? = some x)
    (ha : x.accepts t.timer t.isCancelled t.now a = true) :
    t.step (.answer n a) = t.proceed n x a := by
  simp [step, hx, ha]

/-- What a move does: it begins a call, or it answers one, or it does nothing to calls. -/
inductive Stepped (t : Traffic) : Move → Traffic → Prop
  | idle (m : Move) {now : Nat} (le : t.now ≤ now) (isCancelled : Bool) :
    Stepped t m { t with now, isCancelled }
  | register (i : Instance) :
    Stepped t (.register i) (t.launch i ⟨t.controller, .register .lookup, []⟩)
  | deregister (i : Instance) (isProbe : Bool) :
    Stepped t (.deregister i isProbe)
      (t.launch i (ofDeregister i isProbe (Deregister.start t.controller i)))
  | answer {n : Nat} {x : Call} {a : Answer} (call : t.calls[n]? = some x)
    (awaits : x.stage.awaits a = true)
    (due : a.isElapsed = true → x.isDue t.timer t.isCancelled t.now = true) :
    Stepped t (.answer n a) (t.proceed n x a)

/-- A move begins a call, or it answers one, or it does nothing to calls. -/
theorem stepped (t : Traffic) (m : Move) : t.Stepped m (t.step m) := by
  cases m with
  | pass millis => exact .idle _ (Nat.le_add_right ..) _
  | register i => exact .register i
  | deregister i isProbe => exact .deregister i isProbe
  | answer n a =>
    cases hx : t.calls[n]? with
    | none =>
      have same : t.step (.answer n a) = t := by simp [step, hx]
      rw [same]
      exact .idle _ (Nat.le_refl _) _
    | some x =>
      by_cases ha : x.accepts t.timer t.isCancelled t.now a = true
      · rw [step_answer hx ha]
        simp only [Call.accepts, Bool.and_eq_true] at ha
        obtain ⟨⟨awaits, due⟩, -⟩ := ha
        exact .answer hx awaits fun he => by simpa [he] using due
      · have same : t.step (.answer n a) = t := by simp [step, hx, ha]
        rw [same]
        exact .idle _ (Nat.le_refl _) _
  | cancel => exact .idle _ (Nat.le_refl _) _

end Traffic

end InstanceLifecycle
