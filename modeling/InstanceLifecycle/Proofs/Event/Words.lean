import Mathlib.Computability.RegularExpressions
import InstanceLifecycle.Event.Basic
import InstanceLifecycle.Registration.State

/-!
# Words of events

The events of an instance come in cycles: it is announced, perhaps several times, until it is
online; it goes offline, perhaps after several attempts; and then it is gone, and a new cycle can
begin. For each state of an instance there is an expression for what may have been reported until
then.

Results:

* `words_announce`, `words_online`, `words_retract`, `words_gone`: an event leads from what one
  state allows to what the next one allows;
* `not_online_of_offline`: no word is both one of an instance that is online and one of an instance
  that is not.
-/

namespace InstanceLifecycle

open RegularExpression

/-! ## Repetitions -/

/-- One or more words after each other. -/
def repeated (p : RegularExpression EventKind) : RegularExpression EventKind := p * p.star

section Repeated

variable {p : RegularExpression EventKind} {x y : List EventKind}

theorem comp_append {q : RegularExpression EventKind} (hx : x ∈ p.matches') (hy : y ∈ q.matches') :
    x ++ y ∈ (p * q).matches' := Language.append_mem_mul hx hy

theorem nil_mem_star : [] ∈ p.star.matches' := Language.nil_mem_kstar _

/-- One word more can follow. -/
theorem star_concat (hx : x ∈ p.star.matches') (hy : y ∈ p.matches') :
    x ++ y ∈ p.star.matches' := by
  have le : KStar.kstar p.matches' * p.matches' ≤ KStar.kstar p.matches' := kstar_mul_le_kstar
  exact le (Language.append_mem_mul hx hy)

theorem star_of_repeated (h : x ∈ (repeated p).matches') : x ∈ p.star.matches' := by
  have le : p.matches' * KStar.kstar p.matches' ≤ KStar.kstar p.matches' := mul_kstar_le_kstar
  exact le h

/-- A word after others is a repetition. -/
theorem repeated_concat (hx : x ∈ p.star.matches') (hy : y ∈ p.matches') :
    x ++ y ∈ (repeated p).matches' := by
  have comm : KStar.kstar p.matches' * p.matches' = p.matches' * KStar.kstar p.matches' :=
    Language.mul_self_kstar_comm _
  have key := Language.append_mem_mul hx hy
  rw [matches'_star, comm] at key
  exact key

/-- What each word of an expression satisfies and words after each other keep, all repetitions
satisfy. -/
theorem star_induction {P : List EventKind → Prop} (nil : P [])
    (append : ∀ x y, P x → P y → P (x ++ y)) (words : ∀ x ∈ p.matches', P x)
    (h : x ∈ p.star.matches') : P x := by
  obtain ⟨L, rfl, hL⟩ := Language.mem_kstar.mp h
  clear h
  induction L with
  | nil => exact nil
  | cons w L ih =>
    have rest : ∀ y ∈ L, y ∈ p.matches' := fun y hy => hL y (List.mem_cons_of_mem _ hy)
    rw [List.flatten_cons]
    exact append _ _ (words w (hL w List.mem_cons_self)) (ih rest)

end Repeated

/-! ## Expressions -/

/-- An instance is announced, at least once. -/
def attempts : RegularExpression EventKind := repeated (char .onlineStart)

/-- An instance is announced until it is online, and perhaps begins to warm up. -/
def arrival : RegularExpression EventKind :=
  attempts * char .onlineEnd * (1 + char .warmupStart)

/-- An instance comes and goes. -/
def cycle : RegularExpression EventKind :=
  arrival * repeated (char .offlineStart) * char .threadEnd

/-- An instance has come and gone so often, and since then it may have been announced in vain. -/
def offline : RegularExpression EventKind := cycle.star * (1 + attempts)

/-- The same, and the instance was announced. -/
def announced : RegularExpression EventKind := cycle.star * attempts

/-- An instance has come and gone so often and has come again, and since then it may have started to
go in vain. -/
def online : RegularExpression EventKind := cycle.star * (arrival * (char .offlineStart).star)

/-- The same, and the instance has started to go. -/
def leaving : RegularExpression EventKind :=
  cycle.star * (arrival * repeated (char .offlineStart))

/-- What may have been reported about an instance in a state. -/
def words : Option RegistrationState → RegularExpression EventKind
  | some .gating => announced
  | some .registering => announced
  | some .registered => online
  | some .deregistering => leaving
  | _ => offline

/-! ## Events -/

section Events

variable {w : List EventKind}

/-- An announcement in vain leaves an instance offline. -/
theorem offline_of_announced (h : w ∈ announced.matches') : w ∈ offline.matches' := by
  obtain ⟨c, hc, a, ha, rfl⟩ := Language.mem_mul.mp h
  have more : a ∈ ((1 : RegularExpression EventKind) + attempts).matches' :=
    (Language.mem_add ..).mpr (.inr ha)
  exact comp_append hc more

/-- An instance that has started to go in vain is online. -/
theorem online_of_leaving (h : w ∈ leaving.matches') : w ∈ online.matches' := by
  obtain ⟨c, hc, z, hz, rfl⟩ := Language.mem_mul.mp h
  obtain ⟨a, ha, o, ho, rfl⟩ := Language.mem_mul.mp hz
  exact comp_append hc (comp_append ha (star_of_repeated ho))

theorem words_announce (h : w ∈ offline.matches') : w ++ [.onlineStart] ∈ announced.matches' := by
  obtain ⟨c, hc, a, ha, rfl⟩ := Language.mem_mul.mp h
  have once : [EventKind.onlineStart] ∈ (char EventKind.onlineStart).matches' := rfl
  have again : a ++ [.onlineStart] ∈ attempts.matches' := by
    rcases (Language.mem_add ..).mp ha with rfl | ha
    · exact repeated_concat nil_mem_star once
    · exact repeated_concat (star_of_repeated ha) once
  rw [List.append_assoc]
  exact comp_append hc again

/-- An announced instance comes online, with or without warm-up. -/
theorem words_online (h : w ∈ announced.matches') {z : List EventKind}
    (hz : z ∈ (1 + char EventKind.warmupStart).matches') :
    w ++ .onlineEnd :: z ∈ online.matches' := by
  obtain ⟨c, hc, a, ha, rfl⟩ := Language.mem_mul.mp h
  have ended : [EventKind.onlineEnd] ∈ (char EventKind.onlineEnd).matches' := rfl
  have arrived : a ++ [.onlineEnd] ++ z ∈ arrival.matches' :=
    comp_append (comp_append ha ended) hz
  have key : c ++ (a ++ [.onlineEnd] ++ z ++ []) ∈ online.matches' :=
    comp_append hc (comp_append arrived nil_mem_star)
  rwa [List.append_nil, List.append_assoc, ← List.append_assoc c] at key

theorem words_retract (h : w ∈ online.matches') : w ++ [.offlineStart] ∈ leaving.matches' := by
  obtain ⟨c, hc, z, hz, rfl⟩ := Language.mem_mul.mp h
  obtain ⟨a, ha, o, ho, rfl⟩ := Language.mem_mul.mp hz
  have once : [EventKind.offlineStart] ∈ (char EventKind.offlineStart).matches' := rfl
  rw [List.append_assoc, List.append_assoc]
  exact comp_append hc (comp_append ha (repeated_concat ho once))

/-- When an instance is gone, a cycle is over. -/
theorem words_gone (h : w ∈ leaving.matches') : w ++ [.threadEnd] ∈ offline.matches' := by
  obtain ⟨c, hc, z, hz, rfl⟩ := Language.mem_mul.mp h
  have ended : [EventKind.threadEnd] ∈ (char EventKind.threadEnd).matches' := rfl
  have whole : z ++ [.threadEnd] ∈ cycle.matches' := comp_append hz ended
  have none : [] ∈ ((1 : RegularExpression EventKind) + attempts).matches' :=
    (Language.mem_add ..).mpr (.inl rfl)
  have key : c ++ (z ++ [.threadEnd]) ++ [] ∈ offline.matches' :=
    comp_append (star_concat hc whole) none
  rwa [List.append_nil, ← List.append_assoc] at key

end Events

/-! ## Online or not -/

/-- How often an instance has come online and not gone since. -/
def balance (w : List EventKind) : Int := w.count .onlineEnd - w.count .threadEnd

theorem balance_append (x y : List EventKind) : balance (x ++ y) = balance x + balance y := by
  unfold balance
  rw [List.count_append, List.count_append]
  omega

section Balance

variable {w : List EventKind}

theorem balance_star {p : RegularExpression EventKind} (h : ∀ x ∈ p.matches', balance x = 0)
    (hw : w ∈ p.star.matches') : balance w = 0 := by
  refine star_induction (P := fun x => balance x = 0) rfl (fun x y hx hy => ?_) h hw
  rw [balance_append, hx, hy]
  rfl

/-- An event that neither brings an instance online nor ends a cycle. -/
theorem balance_char {kind : EventKind} (hs : kind ≠ .onlineEnd) (ht : kind ≠ .threadEnd) :
    ∀ x ∈ (char kind).matches', balance x = 0 := by
  intro x hx
  obtain rfl : x = [kind] := hx
  simp [balance, hs, ht]

theorem balance_attempts (h : w ∈ attempts.matches') : balance w = 0 :=
  balance_star (balance_char (by decide) (by decide)) (star_of_repeated h)

theorem balance_arrival (h : w ∈ arrival.matches') : balance w = 1 := by
  obtain ⟨x, hx, z, hz, rfl⟩ := Language.mem_mul.mp h
  obtain ⟨a, ha, e, he, rfl⟩ := Language.mem_mul.mp hx
  obtain rfl : e = [.onlineEnd] := he
  have warm : balance z = 0 := by
    rcases (Language.mem_add ..).mp hz with rfl | hz
    · rfl
    · exact balance_char (by decide) (by decide) z hz
  rw [balance_append, balance_append, balance_attempts ha, warm]
  rfl

theorem balance_cycle (h : w ∈ cycle.matches') : balance w = 0 := by
  obtain ⟨x, hx, e, he, rfl⟩ := Language.mem_mul.mp h
  obtain ⟨a, ha, o, ho, rfl⟩ := Language.mem_mul.mp hx
  obtain rfl : e = [.threadEnd] := he
  have gone : balance o = 0 :=
    balance_star (balance_char (by decide) (by decide)) (star_of_repeated ho)
  rw [balance_append, balance_append, balance_arrival ha, gone]
  rfl

theorem balance_offline (h : w ∈ offline.matches') : balance w = 0 := by
  obtain ⟨c, hc, a, ha, rfl⟩ := Language.mem_mul.mp h
  have attempted : balance a = 0 := by
    rcases (Language.mem_add ..).mp ha with rfl | ha
    · rfl
    · exact balance_attempts ha
  rw [balance_append, balance_star (fun _ => balance_cycle) hc, attempted]
  rfl

theorem balance_online (h : w ∈ online.matches') : balance w = 1 := by
  obtain ⟨c, hc, z, hz, rfl⟩ := Language.mem_mul.mp h
  obtain ⟨a, ha, o, ho, rfl⟩ := Language.mem_mul.mp hz
  have going : balance o = 0 := balance_star (balance_char (by decide) (by decide)) ho
  rw [balance_append, balance_append, balance_star (fun _ => balance_cycle) hc, balance_arrival ha,
    going]
  rfl

end Balance

/-- No word is one of an instance that is online and one of an instance that is not. -/
theorem not_online_of_offline {w : List EventKind} (h : w ∈ offline.matches') :
    w ∉ online.matches' := by
  intro ho
  have key := (balance_offline h).symm.trans (balance_online ho)
  cases key

end InstanceLifecycle
