import InstanceLifecycle.Proofs.Refresh.Basic

/-!
# Invalidation

An invalidation drops the policy that is kept for a service. It does not touch a lookup that is in
flight: its answer is kept afterwards, and ticks that begin later use it. So the ticks after an
invalidation use fresh policies exactly if no lookup for the service was in flight.

Results:

* `run_fresh`: after an invalidation without a lookup in flight, only lookups that started later are
  used;
* `freshAfter_iff`: when ticks that begin after an invalidation use only such lookups.
-/

namespace InstanceLifecycle

namespace Refresh

/-- Whether the ticks for a service that begin after it was invalidated use only policies whose
lookups started after that, too. -/
def FreshAfter (x : Refresh) (k : ServiceKey) : Prop :=
  ∀ ms rest, ((x.step (.invalidate k)).run ms).trace = x.trace ++ .invalidated k :: rest →
    ∀ n p m, .began n k ∈ rest → .used n k p m ∈ rest → .asked m k ∈ rest

/-- What has happened at an adjuster since some time when no lookup for a service was in flight and
no policy was kept: all policies for the service that are looked up, kept or used come from lookups
that started since then. -/
structure Fresh (k : ServiceKey) (past rest : List Happening) (x : Refresh) : Prop where
  trace : x.trace = past ++ rest
  looking : ∀ n t, x.calls[n]? = some ⟨t, .looking⟩ → t.service = k → .asked n k ∈ rest
  kept : ∀ m, x.sources.get? k = some m → .asked m k ∈ rest
  used : ∀ n p m, .used n k p m ∈ rest → .asked m k ∈ rest

namespace Fresh

variable {k : ServiceKey} {past rest : List Happening} {x : Refresh}

/-- A use that is written down before an answer is one of the kept policy. -/
theorem source_of_notes {n n' m : Nat} {t : Tick} {stage : TickStage} {p : WarmupPolicy}
    (h : .used n' k p m ∈ x.notes n t stage) : x.sources.get? k = some m := by
  unfold notes at h
  split at h
  · cases h
  · simp at h
  · split at h
    · split at h
      · next hm =>
        obtain ⟨-, rfl, -, rfl⟩ := Happening.used.inj (List.mem_singleton.mp h)
        exact hm
      · cases h
    · cases h

theorem arrive (h : Fresh k past rest x) (t : Tick) :
    Fresh k past (rest ++ .began x.calls.length t.service ::
      x.notes x.calls.length t (x.adjuster.arrive x.calls.length t).2.1) (x.arrive t) where
  trace := by simp [Refresh.arrive, h.trace]
  looking n t' hn hk := by
    simp only [Refresh.arrive, List.getElem?_append] at hn
    split at hn
    · exact List.mem_append_left _ (h.looking n t' hn hk)
    · next hlt =>
      obtain ⟨hz, he⟩ := List.getElem?_eq_some_iff.mp hn
      obtain rfl : n = x.calls.length := by simp at hz; omega
      simp only [Nat.sub_self, List.getElem_cons_zero, Call.mk.injEq] at he
      obtain ⟨rfl, hs⟩ := he
      rw [hs]
      simp [notes, hk]
  kept m hm := List.mem_append_left _ (h.kept m hm)
  used n p m hu := by
    refine List.mem_append_left _ ?_
    rcases List.mem_append.mp hu with hu | hu
    · exact h.used n p m hu
    · rcases List.mem_cons.mp hu with hu | hu
      · cases hu
      · exact h.kept m (source_of_notes hu)

/-- Where a tick is in another stage, the ticks that look up are those from before and
perhaps that. -/
theorem looking_set {n n' : Nat} {y : Call} {t : Tick} (h : Fresh k past rest x)
    (hn : (x.calls.set n y)[n']? = some ⟨t, .looking⟩) (hk : t.service = k) :
    .asked n' k ∈ rest ∨ n' = n ∧ y = ⟨t, .looking⟩ := by
  rw [List.getElem?_set] at hn
  split at hn
  · next he =>
    split at hn
    · exact .inr ⟨he.symm, Option.some.inj hn⟩
    · cases hn
  · exact .inl (h.looking n' t hn hk)

theorem takeTurn (h : Fresh k past rest x) (n : Nat) (t : Tick) :
    Fresh k past (rest ++ x.notes n t (x.adjuster.takeTurn t).2.1) (x.takeTurn n t) where
  trace := by simp [Refresh.takeTurn, h.trace]
  looking n' t' hn hk := by
    rcases h.looking_set hn hk with hr | ⟨rfl, hy⟩
    · exact List.mem_append_left _ hr
    · obtain ⟨rfl, hs⟩ := Call.mk.inj hy
      rw [hs]
      simp [notes, hk]
  kept m hm := List.mem_append_left _ (h.kept m hm)
  used n' p m hu := by
    refine List.mem_append_left _ ?_
    rcases List.mem_append.mp hu with hu | hu
    · exact h.used n' p m hu
    · exact h.kept m (source_of_notes hu)

theorem looked (h : Fresh k past rest x) {n : Nat} {t : Tick}
    (hn : x.calls[n]? = some ⟨t, .looking⟩) (r : Except Failure (Option RemoteRule)) :
    Fresh k past (rest ++ [.used n t.service (x.policyFor r) n]) (x.looked n t r) where
  trace := by simp [Refresh.looked, h.trace]
  looking n' t' hn' hk := by
    refine List.mem_append_left _ ?_
    rcases h.looking_set hn' hk with hr | ⟨rfl, hy⟩
    · exact hr
    · obtain ⟨rfl, -⟩ := Call.mk.inj hy
      exact h.looking n' _ hn hk
  kept m hm := by
    refine List.mem_append_left _ ?_
    cases r with
    | ok remote =>
      simp only [Refresh.looked, Table.get?_insert] at hm
      split at hm
      · next hk =>
        obtain rfl := Option.some.inj hm
        exact h.looking n t hn hk.symm
      · exact h.kept m hm
    | error f => exact h.kept m hm
  used n' p m hu := by
    refine List.mem_append_left _ ?_
    rcases List.mem_append.mp hu with hu | hu
    · exact h.used n' p m hu
    · obtain ⟨-, hk, -, rfl⟩ := Happening.used.inj (List.mem_singleton.mp hu)
      exact h.looking m t hn hk.symm

theorem invalidate (h : Fresh k past rest x) (j : ServiceKey) :
    Fresh k past (rest ++ [.invalidated j]) (x.step (.invalidate j)) where
  trace := by simp [Refresh.step, h.trace]
  looking n t hn hk := List.mem_append_left _ (h.looking n t hn hk)
  kept m hm := by
    simp only [Refresh.step, Table.get?_erase] at hm
    split at hm
    · cases hm
    · exact List.mem_append_left _ (h.kept m hm)
  used n p m hu := by
    refine List.mem_append_left _ (h.used n p m ?_)
    simpa using hu

/-- Every move keeps to lookups that started since then. -/
theorem step (h : Fresh k past rest x) (m : Move) : ∃ rest', Fresh k past rest' (x.step m) :=
  step_cases (P := fun y => ∃ rest', Fresh k past rest' y) m ⟨_, h⟩ (fun t => ⟨_, h.arrive t⟩)
    (fun n t _ _ => ⟨_, h.takeTurn n t⟩) (fun _ _ r hn => ⟨_, h.looked hn r⟩)
    fun j => ⟨_, h.invalidate j⟩

end Fresh

/-- After an invalidation without a lookup in flight, only lookups that started later are used. -/
theorem run_fresh {x : Refresh} {k : ServiceKey}
    (idle : ∀ y ∈ x.calls, y.tick.service = k → y.stage ≠ .looking) (ms : List Move) :
    ∃ rest, Fresh k (x.trace ++ [.invalidated k]) rest ((x.step (.invalidate k)).run ms) := by
  have first : Fresh k (x.trace ++ [.invalidated k]) [] (x.step (.invalidate k)) := by
    refine ⟨by simp [Refresh.step], fun n t hn hk => ?_, fun m hm => ?_, fun _ _ _ h => by cases h⟩
    · exact absurd rfl (idle _ (List.mem_of_getElem? hn) hk)
    · simp [Refresh.step] at hm
  refine run_induction (P := fun y => ∃ rest, Fresh k (x.trace ++ [.invalidated k]) rest y) ⟨_, first⟩
    (fun y m h => ?_) ms
  obtain ⟨rest, h⟩ := h
  exact h.step m

/-- A tick that finds a kept policy uses it. -/
theorem trace_arrive_of_cached {x : Refresh} {t : Tick} (on : x.adjuster.enabled = true)
    (some : t.candidates.isEmpty = false) {p : WarmupPolicy} {m : Nat}
    (hp : x.adjuster.cached? t.service = .some p) (hm : x.sources.get? t.service = .some m) :
    (x.arrive t).trace = x.trace ++ [.began x.calls.length t.service,
      .used x.calls.length t.service p m] := by
  simp only [arrive, Adjuster.arrive_of_cached on some hp, Adjuster.finish, notes, on, some, hp, hm]
  rfl

/-- The answer to a lookup that was in flight at an invalidation is used by the next tick. -/
theorem not_freshAfter_of_looking {x : Refresh} (h : x.Synced) {n : Nat} {t : Tick}
    (hn : x.calls[n]? = some ⟨t, .looking⟩) : ¬x.FreshAfter t.service := by
  intro fresh
  have on : x.adjuster.enabled = true := h.enabled _ (List.mem_of_getElem? hn) (by simp)
  let next : Tick := ⟨t.service, [⟨"", 0, none⟩], 0⟩
  let p := x.policyFor (.ok none)
  let y := (x.step (.invalidate t.service)).looked n t (.ok none)
  have answered : (x.step (.invalidate t.service)).step (.answer n (.ok none)) = y := by
    have hn' : (x.step (.invalidate t.service)).calls[n]? = some ⟨t, .looking⟩ := hn
    simp only [step] at hn' ⊢
    rw [hn']
    rfl
  have kept : y.adjuster.cached? t.service = some p := Table.get?_insert_self ..
  have source : y.sources.get? t.service = some n := Table.get?_insert_self ..
  have used := trace_arrive_of_cached (x := y) (t := next) on rfl kept source
  have trace : ((x.step (.invalidate t.service)).run [.answer n (.ok none), .tick next]).trace =
      x.trace ++ .invalidated t.service ::
        [.used n t.service p n, .began y.calls.length t.service,
          .used y.calls.length t.service p n] := by
    rw [run_cons, answered, run_cons, run_nil]
    show (y.arrive next).trace = _
    rw [used]
    simp [y, p, next, looked, step, policyFor, Adjuster.invalidate]
  have asked := fresh _ _ trace y.calls.length p n (by simp) (by simp)
  simp at asked

/-- The ticks that begin after an invalidation use only policies whose lookups started later exactly
if no lookup for the service was in flight. -/
theorem freshAfter_iff (s : Settings) (ms : List Move) (k : ServiceKey) :
    ((start s).run ms).FreshAfter k ↔
      ∀ y ∈ ((start s).run ms).calls, y.tick.service = k → y.stage ≠ .looking := by
  constructor
  · rintro fresh ⟨t, stage⟩ hy rfl rfl
    obtain ⟨n, hn⟩ := List.mem_iff_getElem?.mp hy
    exact not_freshAfter_of_looking (run_synced s ms) hn fresh
  · intro idle ms' rest htrace n p m _ hu
    obtain ⟨rest', h⟩ := run_fresh idle ms'
    have same : rest = rest' := by
      have ends := htrace.symm.trans h.trace
      simpa using ends
    rw [same] at hu ⊢
    exact h.used n p m hu

/-- A tick begins after its service was invalidated and uses a policy whose lookup started before
that; nothing is looked up again. -/
theorem stale_policy_used :
    let k : ServiceKey := ⟨"default", "echo"⟩
    let t : Tick := ⟨k, [⟨"ins-1", 100, none⟩], 0⟩
    let g : GracefulSettings := { enabled := true, warmup := { enabled := true } }
    let x := (start { graceful := g }).run [.tick t]
    x.trace = [.began 0 k, .asked 0 k] ∧
      ((x.step (.invalidate k)).run [.answer 0 (.ok none), .tick t]).trace =
        x.trace ++ .invalidated k ::
          [.used 0 k g.localWarmup 0, .began 1 k, .used 1 k g.localWarmup 0] := by
  decide +kernel

end Refresh

end InstanceLifecycle
