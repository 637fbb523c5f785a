import Mathlib.Data.List.Induction
import InstanceLifecycle.Lifecycle.Shutdown
import InstanceLifecycle.Proofs.Traffic.Exclusion

/-!
# How a shutdown waits for timers

A turn of a controller that may be shut down is a move of its traffic, but for what it does to the
probe server. So what every move preserves and does not depend on the probe server holds after every
run. A shutdown goes on only if there was a moment without a running timer since it began.

Results:

* `Closing.exists_serving_step`: a turn is a move of the traffic, but for the probe server;
* `Closing.run_induction`: what the moves preserve holds after every run;
* `Closing.run_within`: turns that are moves make the run of these moves;
* `isCancelled_step`: what is cancelled stays so;
* `Closing.isCancelled_of_lt`: when a shutdown has begun, everything that can be interrupted may be;
* `Closing.atRest_of_isReleased`: a shutdown that goes on had a moment without a running timer, at
  or after its beginning.
-/

namespace InstanceLifecycle

namespace Traffic

/-! ## Cancellation -/

/-- Whether a move cancels. -/
def Move.isCancel : Move → Bool
  | cancel => true
  | _ => false

/-- Only a cancellation cancels, and what is cancelled stays so. -/
theorem isCancelled_step (t : Traffic) (m : Move) :
    (t.step m).isCancelled = (t.isCancelled || m.isCancel) := by
  cases m with
  | answer n a =>
    simp only [step, Move.isCancel, Bool.or_false]
    split
    · split <;> rfl
    · rfl
  | cancel => simp [step, Move.isCancel]
  | _ => simp [step, launch, Move.isCancel]

/-- What the states and the registrar have agreed on does not depend on the probe server. -/
theorem Sound.serving {t : Traffic} (h : t.Sound) (server : ProbeServer) :
    (t.serving server).Sound :=
  ⟨h.held, h.listed⟩

namespace Shutdown

theorem isReleased_of_hasWaited {s : Shutdown} (h : s.hasWaited = true) : s.isReleased = true := by
  cases s with
  | waiting => cases h
  | _ => rfl

/-- A shutdown that need not wait did not have to before, or sees that no timer runs. -/
theorem isReleased_observe {isEmpty : Bool} {s : Shutdown}
    (h : (s.observe isEmpty).isReleased = true) : s.isReleased = true ∨ isEmpty = true := by
  cases s with
  | waiting isReleased => simpa [observe, Shutdown.isReleased] using h
  | _ => exact .inl h

end Shutdown

namespace Closing

/-! ## Turns and moves -/

/-- The move of the traffic that a turn is, but for what it does to the probe server. -/
def Turn.move : Turn → Move
  | within m => m
  | shutdown => .cancel
  | serve _ => .pass 0
  | goOn _ => .pass 0

/-- Whether a turn is a move of the traffic and nothing else. -/
def Turn.isWithin : Turn → Bool
  | within _ => true
  | _ => false

variable {c : Closing} {ts : List Turn}

@[simp]
theorem run_nil (c : Closing) : c.run [] = c := rfl

theorem run_append (c : Closing) (ts us : List Turn) : c.run (ts ++ us) = (c.run ts).run us :=
  List.foldl_append

theorem run_cons (c : Closing) (t : Turn) (ts : List Turn) : c.run (t :: ts) = (c.step t).run ts :=
  rfl

/-- A turn is a move of the traffic, but for the probe server. -/
theorem exists_serving_step (c : Closing) (t : Turn) :
    ∃ server, (c.step t).traffic = (c.traffic.step t.move).serving server := by
  cases t with
  | within m => exact ⟨_, rfl⟩
  | serve server => exact ⟨server, rfl⟩
  | shutdown => exact ⟨_, rfl⟩
  | goOn k =>
    unfold step
    dsimp only
    split <;> exact ⟨_, rfl⟩

/-- What every move preserves and does not depend on the probe server holds after every run. -/
theorem run_induction {P : Traffic → Prop} (step : ∀ u m, P u → P (u.step m))
    (serving : ∀ u server, P u → P (u.serving server)) (start : P c.traffic) (ts : List Turn) :
    P (c.run ts).traffic := by
  induction ts generalizing c with
  | nil => exact start
  | cons t ts ih =>
    obtain ⟨server, hs⟩ := c.exists_serving_step t
    refine ih (c := c.step t) ?_
    rw [hs]
    exact serving _ server (step _ _ start)

/-- Turns that are moves make the run of these moves. -/
theorem run_within (h : ∀ t ∈ ts, t.isWithin = true) :
    (c.run ts).traffic = c.traffic.run (ts.map Turn.move) := by
  induction ts generalizing c with
  | nil => rfl
  | cons t ts ih =>
    have here := h t List.mem_cons_self
    cases t with
    | within m => exact ih (c := c.step (.within m)) fun u hu => h u (List.mem_cons_of_mem _ hu)
    | _ => cases here

theorem isCancelled_run (h : c.traffic.isCancelled = true) (ts : List Turn) :
    (c.run ts).traffic.isCancelled = true := by
  refine run_induction (P := fun u => u.isCancelled = true) (fun u m h => ?_) (fun _ _ h => h) h ts
  rw [isCancelled_step, h]
  rfl

theorem sound_run (τ : Timer) (settings : GracefulSettings) (server : ProbeServer)
    (ts : List Turn) : ((start τ settings server).run ts).traffic.Sound :=
  run_induction (P := Sound) (fun _ m h => h.step m) (fun _ server h => h.serving server)
    (run_sound τ settings server []) ts

/-! ## What a shutdown has waited for -/

/-- A turn begins at most one shutdown, and then it cancels; no shutdown is forgotten. -/
theorem length_step (c : Closing) (t : Turn) :
    (c.step t).shutdowns.length = c.shutdowns.length ∨ t = .shutdown := by
  cases t with
  | within m => exact .inl (List.length_map _)
  | serve server => exact .inl rfl
  | shutdown => exact .inr rfl
  | goOn k =>
    unfold step
    dsimp only
    split
    · exact .inl List.length_set
    · exact .inl List.length_set
    · exact .inl rfl

/-- When a shutdown has begun, everything that can be interrupted may be. -/
theorem isCancelled_of_lt (none : c.shutdowns = []) {k : Nat}
    (h : k < (c.run ts).shutdowns.length) : (c.run ts).traffic.isCancelled = true := by
  induction ts using List.reverseRecOn with
  | nil =>
    rw [run_nil, none] at h
    exact absurd h (Nat.not_lt_zero _)
  | append_singleton ts t ih =>
    rw [run_append] at h ⊢
    rcases length_step (c.run ts) t with same | rfl
    · exact isCancelled_run (ih (same ▸ h)) [t]
    · rfl

/-- Where a released shutdown goes on, no other one is released. -/
theorem exists_isReleased_of_set {ss : List Shutdown} {j k : Nat} {r next s : Shutdown}
    (found : ss[j]? = some r) (free : r.isReleased = true) (hs : (ss.set j next)[k]? = some s)
    (h : s.isReleased = true) : ∃ r, ss[k]? = some r ∧ r.isReleased = true := by
  by_cases same : j = k
  · subst same
    exact ⟨r, found, free⟩
  · rw [List.getElem?_set_ne same] at hs
    exact ⟨s, hs, h⟩

/-- A turn releases a shutdown only if no timer runs after it. -/
theorem isReleased_step {t : Turn} {k : Nat} {s : Shutdown}
    (hs : (c.step t).shutdowns[k]? = some s) (h : s.isReleased = true) :
    (∃ r, c.shutdowns[k]? = some r ∧ r.isReleased = true) ∨
      (c.step t).traffic.isAtRest = true := by
  cases t with
  | within m =>
    simp only [step, List.getElem?_map] at hs
    obtain ⟨r, hr, rfl⟩ := Option.map_eq_some_iff.mp hs
    exact (Shutdown.isReleased_observe h).imp (fun h => ⟨r, hr, h⟩) id
  | serve server => exact .inl ⟨s, hs, h⟩
  | shutdown =>
    simp only [step] at hs
    by_cases old : k < c.shutdowns.length
    · rw [List.getElem?_append_left old] at hs
      exact .inl ⟨s, hs, h⟩
    · rw [List.getElem?_append_right (Nat.le_of_not_lt old)] at hs
      obtain rfl := List.mem_singleton.mp (List.mem_of_getElem? hs)
      exact .inr h
  | goOn j =>
    unfold step at hs
    dsimp only at hs
    split at hs
    · next found => exact .inl (exists_isReleased_of_set found rfl hs h)
    · next found => exact .inl (exists_isReleased_of_set found rfl hs h)
    · exact .inl ⟨s, hs, h⟩

/-- A shutdown that need not wait any more had a moment without a running timer, at or after its
beginning. -/
theorem atRest_of_isReleased (none : c.shutdowns = []) {k : Nat} {s : Shutdown}
    (hs : (c.run ts).shutdowns[k]? = some s) (h : s.isReleased = true) :
    ∃ past rest, ts = past ++ rest ∧ k < (c.run past).shutdowns.length ∧
      (c.run past).traffic.isAtRest = true := by
  induction ts using List.reverseRecOn generalizing s with
  | nil => simp [none] at hs
  | append_singleton ts t ih =>
    rw [run_append] at hs
    rcases isReleased_step hs h with ⟨r, hr, free⟩ | rest
    · obtain ⟨past, more, rfl, begun, rest⟩ := ih hr free
      exact ⟨past, more ++ [t], List.append_assoc .., begun, rest⟩
    · refine ⟨ts ++ [t], [], (List.append_nil _).symm, ?_, ?_⟩
      · rw [run_append]
        exact (List.getElem?_eq_some_iff.mp hs).1
      · rw [run_append]
        exact rest

end Closing

end Traffic

end InstanceLifecycle
