import InstanceLifecycle.Gate.Basic

/-!
# Passages of the gate

A passage of the gate begins when an instance comes to it and goes on with each answer that it is
told, until it is closed. The stages of a passage never leave the strategy that it began with.

Results:

* `fits_passage`: every stage of a passage fits the strategy;
* `resume_passed`: the gate lets an instance through when a delay is over or a health check was
  answered with success, and then only.
-/

namespace InstanceLifecycle

/-- Whether a stage of the gate can come up under a strategy. -/
def GateStage.Fits (s : DelayStrategy) : GateStage → Prop
  | .delaying d => s = .byTime d
  | .checking check .. => s = .byHealthCheck check
  | .pausing check .. => s = .byHealthCheck check
  | .closed _ => True

namespace Gate

/-- The stage of the gate after an instance came to it at some time and the gate was told some
answers, each with its time. -/
def passage (i : Instance) (p : DelayPolicy) (arrival : Nat) (told : List (Nat × GateAnswer)) :
    GateStage :=
  told.foldl (fun g x => (resume i g x.2 x.1).1) (arrive i p arrival).1

theorem passage_nil (i : Instance) (p : DelayPolicy) (arrival : Nat) :
    passage i p arrival [] = (arrive i p arrival).1 := rfl

theorem passage_concat (i : Instance) (p : DelayPolicy) (arrival : Nat)
    (told : List (Nat × GateAnswer)) (now : Nat) (a : GateAnswer) :
    passage i p arrival (told ++ [(now, a)]) = (resume i (passage i p arrival told) a now).1 := by
  simp [passage]

/-! ## Stages and strategies -/

theorem fits_arrive (i : Instance) (p : DelayPolicy) (now : Nat) :
    (arrive i p now).1.Fits p.strategy := by
  unfold arrive
  split
  · split
    · next h => exact h
    · next h => exact h
    · trivial
  · trivial

theorem fits_afterFailure (i : Instance) (check : HealthCheckPolicy) (started attempt : Nat) :
    (afterFailure i check started attempt).1.Fits (.byHealthCheck check) := by
  unfold afterFailure
  split
  · rfl
  · trivial

theorem fits_judge (i : Instance) (check : HealthCheckPolicy) (started attempt now : Nat)
    (r : Except String Http.Status) :
    (judge i check started attempt now r).1.Fits (.byHealthCheck check) := by
  unfold judge
  split
  · split
    · trivial
    · exact fits_afterFailure ..
  · exact fits_afterFailure ..

/-- The next stage fits the same strategy. -/
theorem fits_resume {s : DelayStrategy} {g : GateStage} (h : g.Fits s) (i : Instance)
    (a : GateAnswer) (now : Nat) : (resume i g a now).1.Fits s := by
  cases g with
  | closed r => trivial
  | delaying d => cases a <;> first | exact h | trivial
  | pausing check started n => cases a <;> first | exact h | trivial
  | checking check started n =>
    cases a with
    | answered r =>
      obtain rfl : s = .byHealthCheck check := h
      exact fits_judge ..
    | elapsed => exact h
    | interrupted => trivial

/-- Every stage of a passage fits the strategy that the instance came under. -/
theorem fits_passage (i : Instance) (p : DelayPolicy) (arrival : Nat)
    (told : List (Nat × GateAnswer)) : (passage i p arrival told).Fits p.strategy := by
  unfold passage
  generalize hg : (arrive i p arrival).1 = g
  have h : g.Fits p.strategy := hg ▸ fits_arrive i p arrival
  clear hg
  induction told generalizing g with
  | nil => exact h
  | cons x told ih => exact ih _ (fits_resume h i x.2 x.1)

/-! ## Being let through -/

/-- A gate that is switched on lets nothing through at once. -/
theorem arrive_not_passed {p : DelayPolicy} (h : p.enabled = true) (i : Instance) (now : Nat)
    (pass : GatePass) : (arrive i p now).1 ≠ .closed (.ok pass) := by
  rw [arrive, if_pos h]
  split <;> simp [ask]

theorem judge_passed {i : Instance} {check : HealthCheckPolicy} {started attempt now : Nat}
    {r : Except String Http.Status} {pass : GatePass}
    (h : (judge i check started attempt now r).1 = .closed (.ok pass)) :
    ∃ s, r = .ok s ∧ s.isSuccess = true := by
  have failed (n : Nat) : (afterFailure i check started n).1 ≠ .closed (.ok pass) := by
    unfold afterFailure
    split <;> simp
  unfold judge at h
  split at h
  · next s =>
    split at h
    · next hs => exact ⟨s, rfl, hs⟩
    · exact absurd h (failed attempt)
  · exact absurd h (failed attempt)

/-- An open gate lets an instance through when a delay is over or a health check was answered with
success, and then only. -/
theorem resume_passed {i : Instance} {g : GateStage} {a : GateAnswer} {now : Nat} {pass : GatePass}
    (hg : ∀ r, g ≠ .closed r) (h : (resume i g a now).1 = .closed (.ok pass)) :
    (∃ d, g = .delaying d ∧ a = .elapsed) ∨
      ∃ check started n s, g = .checking check started n ∧ a = .answered (.ok s) ∧
        s.isSuccess = true := by
  cases g with
  | closed r => exact absurd rfl (hg r)
  | delaying d =>
    cases a with
    | elapsed => exact .inl ⟨d, rfl, rfl⟩
    | interrupted => simp [resume] at h
    | answered r => simp [resume] at h
  | pausing check started n => cases a <;> simp [resume, ask] at h
  | checking check started n =>
    cases a with
    | elapsed => simp [resume] at h
    | interrupted => simp [resume] at h
    | answered r =>
      obtain ⟨s, rfl, hs⟩ := judge_passed h
      exact .inr ⟨check, started, n, s, rfl, rfl, hs⟩

end Gate

end InstanceLifecycle
