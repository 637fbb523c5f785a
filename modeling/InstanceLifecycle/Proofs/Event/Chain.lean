import InstanceLifecycle.Rehearsal.World

/-!
# Chains of reporters

An event is offered to each reporter of a chain in turn. A refusal is logged and swallowed, so the
next reporter is offered the event all the same, and nobody else learns of it: what a reporter
becomes depends on the events alone, and a report leaves the controller as it is.

Results:

* `Chain.report_eq_map`, `Chain.reportAll_eq_map`: each reporter of a chain takes every event once
  and in order, whatever the others answer;
* `World.sinks_performAll`: so do the reporters of a rehearsal when effects are carried out;
* `World.circumstances_report`: a report leaves everything else as it is.
-/

namespace InstanceLifecycle

/-! ## Any reporters -/

namespace Chain

variable {α : Type} (offer : α → Event → α × Except ReportError Unit)

/-- Offers an event to each reporter in turn; whether one accepts or refuses it, the next one is
offered the event. -/
def report (e : Event) : List α → List α
  | [] => []
  | r :: rs =>
    match offer r e with
    | (r, .ok _) => r :: report e rs
    | (r, .error _) => r :: report e rs

/-- Offers some events one after another. -/
def reportAll (es : List Event) (rs : List α) : List α :=
  es.foldl (fun rs e => report offer e rs) rs

/-- A reporter after it was offered an event. -/
def take (r : α) (e : Event) : α := (offer r e).1

/-- Each reporter of a chain takes an event once, whatever the others answer. -/
theorem report_eq_map (e : Event) (rs : List α) :
    report offer e rs = rs.map fun r => take offer r e := by
  induction rs with
  | nil => rfl
  | cons r rs ih =>
    have head : report offer e (r :: rs) = take offer r e :: report offer e rs := by
      simp only [report, take]
      split <;> simp_all
    rw [head, ih, List.map_cons]

/-- Each reporter of a chain takes every event once and in order, whatever the others answer. -/
theorem reportAll_eq_map (es : List Event) (rs : List α) :
    reportAll offer es rs = rs.map fun r => es.foldl (take offer) r := by
  induction es generalizing rs with
  | nil => simp [reportAll]
  | cons e es ih =>
    show reportAll offer es (report offer e rs) = _
    rw [ih, report_eq_map, List.map_map]
    rfl

end Chain

/-! ## The reporters of a rehearsal -/

namespace Rehearsal

/-- A reporter after it was offered an event, and its answer. -/
def Sink.offer (s : Sink) (e : Event) : Sink × Except ReportError Unit :=
  match s with
  | .recorder name refusal =>
    (s, match refusal with
      | none => .ok ()
      | some r => .error (r.error name e.kind))
  | .batching r consumer isAwaited =>
    let (r, outcome) := r.offer e
    (.batching r consumer isAwaited, outcome)

namespace World

/-- What a report leaves as it is. -/
structure Circumstances where
  closing : Traffic.Closing
  tasks : Array Task
  script : Script
  stamp : String

/-- What a report leaves as it is. -/
def circumstances (w : World) : Circumstances :=
  ⟨w.closing, w.tasks, w.script, w.stamp⟩

theorem circumstances_wake (w : World) (n : Nat) : (w.wake n).circumstances = w.circumstances := by
  unfold wake
  split
  · rfl
  · split <;> rfl

theorem sinks_wake (w : World) (n : Nat) : (w.wake n).sinks = w.sinks := by
  unfold wake
  split
  · rfl
  · split <;> rfl

theorem circumstances_offer (w : World) (e : Event) (j : Nat) :
    (w.offer e j).1.circumstances = w.circumstances := by
  unfold offer
  split
  · rfl
  · rfl
  · dsimp only
    split
    · exact circumstances_wake ..
    · rfl

/-- Offering an event to one reporter changes no other one. -/
theorem sinks_offer (w : World) (e : Event) (j m : Nat) :
    (w.offer e j).1.sinks[m]? =
      if m = j then w.sinks[m]?.map fun s => Chain.take Sink.offer s e else w.sinks[m]? := by
  unfold offer
  split
  · next none =>
    split
    · next same => simp [same, none]
    · rfl
  · next name refusal found =>
    show w.sinks[m]? = _
    split
    · next same => simp [same, found, Chain.take, Sink.offer]
    · rfl
  · next r consumer isAwaited found =>
    have hj := (Array.getElem?_eq_some_iff.mp found).1
    dsimp only
    have taken : ∀ u : World,
        u.sinks = w.sinks.setIfInBounds j (.batching (r.offer e).1 consumer isAwaited) →
        u.sinks[m]? = if m = j then w.sinks[m]?.map fun s => Chain.take Sink.offer s e
          else w.sinks[m]? := by
      intro u hu
      rw [hu]
      split
      · next same =>
        subst same
        rw [Array.getElem?_setIfInBounds_self_of_lt hj, found]
        rfl
      · next other => rw [Array.getElem?_setIfInBounds_ne (Ne.symm other)]
    split
    · exact taken _ (sinks_wake ..)
    · exact taken _ rfl

/-- Offers an event to the reporter at a place and logs a refusal. -/
def offerTo (e : Event) (w : World) (j : Nat) : World :=
  match w.offer e j with
  | (w, .ok _) => w
  | (w, .error x) => w.log (x.entry (w.sinkName j) e.kind)

theorem report_eq_foldl (w : World) (e : Event) :
    w.report e = (List.range w.sinks.size).foldl (offerTo e) w := rfl

theorem sinks_offerTo (w : World) (e : Event) (j : Nat) :
    (w.offerTo e j).sinks = (w.offer e j).1.sinks := by
  unfold offerTo
  split <;> simp_all [log]

theorem circumstances_offerTo (w : World) (e : Event) (j : Nat) :
    (w.offerTo e j).circumstances = w.circumstances := by
  rw [← circumstances_offer w e j]
  unfold offerTo
  split <;> simp_all [log, circumstances]

/-- After the first reporters were offered an event, these have taken it and the others have not. -/
theorem sinks_offerTo_range (w : World) (e : Event) (k m : Nat) :
    ((List.range k).foldl (offerTo e) w).sinks[m]? =
      if m < k then w.sinks[m]?.map fun s => Chain.take Sink.offer s e else w.sinks[m]? := by
  induction k with
  | zero => simp
  | succ k ih =>
    rw [List.range_succ, List.foldl_append]
    show (offerTo e _ k).sinks[m]? = _
    rw [sinks_offerTo, sinks_offer, ih]
    rcases Nat.lt_trichotomy m k with hm | hm | hm
    · rw [if_neg (Nat.ne_of_lt hm), if_pos hm, if_pos (Nat.lt_succ_of_lt hm)]
    · subst hm
      simp
    · rw [if_neg (Nat.ne_of_gt hm), if_neg (Nat.lt_asymm hm), if_neg (by omega)]

/-- An event is reported to a chain: each reporter takes it once. -/
theorem sinks_report (w : World) (e : Event) :
    (w.report e).sinks.toList = Chain.report Sink.offer e w.sinks.toList := by
  rw [Chain.report_eq_map]
  apply List.ext_getElem?
  intro m
  rw [List.getElem?_map, Array.getElem?_toList, Array.getElem?_toList, report_eq_foldl,
    sinks_offerTo_range]
  split
  · rfl
  · next hm => simp [Array.getElem?_eq_none (Nat.not_lt.mp hm)]

/-- A report changes nothing but the reporters, what was observed of them, and whose turn
is next. -/
theorem circumstances_report (w : World) (e : Event) :
    (w.report e).circumstances = w.circumstances := by
  rw [report_eq_foldl]
  generalize List.range w.sinks.size = js
  induction js generalizing w with
  | nil => rfl
  | cons j js ih => rw [List.foldl_cons, ih, circumstances_offerTo]

end World

/-! ## Effects -/

/-- The event that an effect reports, with a text for its time. -/
def event? (stamp : String) : Effect → Option Event
  | .event kind i info => some (.ofInstance kind stamp i info)
  | _ => none

namespace World

theorem sinks_perform (w : World) (x : Effect) :
    (w.perform x).sinks.toList =
      Chain.reportAll Sink.offer (event? w.stamp x).toList w.sinks.toList := by
  cases x with
  | event kind i info => exact sinks_report ..
  | _ => rfl

/-- Effects leave everything but the reporters, what was observed, and whose turn is next as
it is. -/
theorem circumstances_perform (w : World) (x : Effect) :
    (w.perform x).circumstances = w.circumstances := by
  cases x with
  | event kind i info => exact circumstances_report ..
  | _ => rfl

/-- When effects are carried out, each reporter takes every event of theirs once and in order,
whatever the others answer, and the controller stays as it is. -/
theorem sinks_performAll (w : World) (fx : List Effect) :
    (w.performAll fx).sinks.toList = w.sinks.toList.map (fun s =>
        (fx.filterMap (event? w.stamp)).foldl (Chain.take Sink.offer) s) ∧
      (w.performAll fx).circumstances = w.circumstances := by
  rw [← Chain.reportAll_eq_map]
  unfold performAll
  induction fx generalizing w with
  | nil => exact ⟨rfl, rfl⟩
  | cons x fx ih =>
    obtain ⟨sinks, same⟩ := ih (w.perform x)
    have here := circumstances_perform w x
    have stamp : (w.perform x).stamp = w.stamp := congrArg Circumstances.stamp here
    refine ⟨?_, same.trans here⟩
    rw [List.foldl_cons, sinks, sinks_perform, stamp]
    unfold Chain.reportAll
    rw [← List.foldl_append]
    cases hx : event? w.stamp x <;> simp [hx]

end World

end Rehearsal

end InstanceLifecycle
