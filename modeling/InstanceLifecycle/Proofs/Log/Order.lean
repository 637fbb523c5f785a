import InstanceLifecycle.Log.Entry
import Mathlib.Data.List.Nodup

/-!
# The order of fields

The line of an entry starts with the fields that say which instance it is about; the other fields
follow, sorted by key. Fields with one key stay as they were recorded, so that the order is fixed by
what each key holds: fields with different keys give one line in whatever order they come.

Results:

* `eq_of_sorted`: fields that are sorted by key are determined by what each key holds;
* `fieldsOf_orderedFields`: ordering keeps what each key holds;
* `inOrder_orderedFields`: the ordered fields are in the order of a line;
* `InOrder.unique`: there is no other such list;
* `foldl_record`: what an entry is after values were recorded;
* `orderedFields_stable`: fields have one order, and the order of recording does not show in a line.
-/

namespace InstanceLifecycle.Log

/-- A field: its key and its value. -/
abbrev Field := String × String

/-! ## What a key holds -/

/-- The fields with this key, as they come. -/
def fieldsOf (k : String) (fs : List Field) : List Field := fs.filter (·.1 = k)

theorem key_of_mem_fieldsOf {k : String} {f : Field} {fs : List Field} (own : f ∈ fieldsOf k fs) :
    f.1 = k := by
  simpa using (List.mem_filter.mp own).2

theorem fieldsOf_cons (k : String) (f : Field) (fs : List Field) :
    fieldsOf k (f :: fs) = if f.1 = k then f :: fieldsOf k fs else fieldsOf k fs := by
  by_cases own : f.1 = k <;> simp [fieldsOf, own]

theorem fieldsOf_append (k : String) (fs gs : List Field) :
    fieldsOf k (fs ++ gs) = fieldsOf k fs ++ fieldsOf k gs := List.filter_append ..

theorem fieldsOf_fieldsOf (j k : String) (fs : List Field) :
    fieldsOf k (fieldsOf j fs) = if j = k then fieldsOf k fs else [] := by
  unfold fieldsOf
  rw [List.filter_filter]
  split
  · next same => simp [same]
  · next other =>
    rw [List.filter_eq_nil_iff]
    intro f _
    simp only [Bool.and_eq_true, decide_eq_true_eq]
    exact fun both => other (both.2.symm.trans both.1)

/-- Where each key holds the same, there are the same fields. -/
theorem perm_of_fieldsOf {fs gs : List Field} (same : ∀ k, fieldsOf k fs = fieldsOf k gs) :
    fs.Perm gs := by
  rw [List.perm_iff_count]
  intro f
  have counts (hs : List Field) : (fieldsOf f.1 hs).count f = hs.count f :=
    List.count_filter (by simp)
  rw [← counts fs, ← counts gs, same]

/-- A key that is there once at most holds the same in whatever order fields come. -/
theorem fieldsOf_eq_of_perm {fs gs : List Field} (perm : fs.Perm gs)
    (distinct : (fs.map Prod.fst).Nodup) (k : String) : fieldsOf k fs = fieldsOf k gs := by
  have held : (fieldsOf k fs).Perm (fieldsOf k gs) := perm.filter _
  have keys : (fieldsOf k fs).map Prod.fst = List.replicate (fieldsOf k fs).length k := by
    rw [List.eq_replicate_iff]
    refine ⟨List.length_map .., fun j member => ?_⟩
    obtain ⟨f, own, rfl⟩ := List.mem_map.mp member
    exact key_of_mem_fieldsOf own
  have single : (fieldsOf k fs).length ≤ 1 := by
    have nodup := distinct.sublist ((List.filter_sublist (p := (·.1 = k))).map Prod.fst)
    rw [← List.nodup_replicate (a := k), ← keys]
    exact nodup
  match h : fieldsOf k fs with
  | [] => rw [h] at held; exact held.nil_eq
  | [f] => rw [h] at held; exact (List.perm_singleton.mp held.symm).symm
  | f :: g :: rest => rw [h] at single; simp at single

/-! ## Sorted fields -/

/-- Whether a key stands before another one in a line, or is the same. -/
def KeyLe (a b : String) : Prop :=
  leadingKeys.idxOf a < leadingKeys.idxOf b ∨ leadingKeys.idxOf a = leadingKeys.idxOf b ∧ a ≤ b

theorem KeyLe.refl (a : String) : KeyLe a a := Or.inr ⟨rfl, String.le_refl a⟩

theorem KeyLe.antisymm {a b : String} (hab : KeyLe a b) (hba : KeyLe b a) : a = b := by
  rcases hab with lt | ⟨eq, le⟩
  · rcases hba with lt' | ⟨eq', -⟩ <;> omega
  · rcases hba with lt' | ⟨-, le'⟩
    · omega
    · exact String.le_antisymm le le'

/-- Whether fields are sorted by key. -/
def Sorted (fs : List Field) : Prop := fs.Pairwise fun f g => KeyLe f.1 g.1

theorem Sorted.keyLe_head {f g : Field} {gs : List Field} (sorted : Sorted (g :: gs))
    (member : f ∈ g :: gs) : KeyLe g.1 f.1 := by
  rcases List.mem_cons.mp member with rfl | member
  · exact KeyLe.refl f.1
  · exact List.rel_of_pairwise_cons sorted member

/-- Fields that are sorted by key are determined by what each key holds. -/
theorem eq_of_sorted {fs gs : List Field} (hf : Sorted fs) (hg : Sorted gs)
    (same : ∀ k, fieldsOf k fs = fieldsOf k gs) : fs = gs := by
  have perm := perm_of_fieldsOf same
  induction fs generalizing gs with
  | nil => exact perm.nil_eq
  | cons f fs ih =>
    cases gs with
    | nil => exact absurd perm.length_eq (by simp)
    | cons g gs =>
      -- Both lists start with the least key, and so with the first field that it holds.
      have key : f.1 = g.1 := KeyLe.antisymm
        (hf.keyLe_head (perm.mem_iff.mpr List.mem_cons_self))
        (hg.keyLe_head (perm.mem_iff.mp List.mem_cons_self))
      have first := same f.1
      rw [fieldsOf_cons, fieldsOf_cons, if_pos rfl, if_pos key.symm] at first
      obtain rfl : f = g := (List.cons.inj first).1
      have rest (k : String) : fieldsOf k fs = fieldsOf k gs := by
        have both := same k
        rw [fieldsOf_cons, fieldsOf_cons] at both
        split at both
        · exact (List.cons.inj both).2
        · exact both
      rw [ih hf.of_cons hg.of_cons rest (perm_of_fieldsOf rest)]

/-! ## The two parts of a line -/

/-- The fields with one of these keys, by key. -/
def fieldsBy (ks : List String) (fs : List Field) : List Field := ks.flatMap fun k => fieldsOf k fs

/-- The fields without a leading key, sorted. -/
def otherFields (fs : List Field) : List Field :=
  (fs.filter fun f => ¬leadingKeys.contains f.1).mergeSort fun a b => a.1 ≤ b.1

theorem orderedFields_eq (fs : List Field) :
    orderedFields fs = fieldsBy leadingKeys fs ++ otherFields fs := rfl

theorem fieldsOf_fieldsBy {ks : List String} (distinct : ks.Nodup) (k : String) (fs : List Field) :
    fieldsOf k (fieldsBy ks fs) = if k ∈ ks then fieldsOf k fs else [] := by
  induction ks with
  | nil => rfl
  | cons j ks ih =>
    rw [List.nodup_cons] at distinct
    rw [fieldsBy, List.flatMap_cons, fieldsOf_append, fieldsOf_fieldsOf]
    change _ ++ fieldsOf k (fieldsBy ks fs) = _
    rw [ih distinct.2]
    by_cases own : j = k
    · subst own
      simp [distinct.1]
    · simp [own, Ne.symm own]

/-- Sorting by key keeps what each key holds. -/
theorem fieldsOf_mergeSort (k : String) (fs : List Field) :
    fieldsOf k (fs.mergeSort fun a b => a.1 ≤ b.1) = fieldsOf k fs := by
  have alike : (fieldsOf k fs).Pairwise fun a b => decide (a.1 ≤ b.1) = true := by
    refine List.pairwise_of_forall_mem_list fun f hf g hg => decide_eq_true ?_
    have key : f.1 = g.1 := (key_of_mem_fieldsOf hf).trans (key_of_mem_fieldsOf hg).symm
    exact key ▸ String.le_refl f.1
  have kept : (fieldsOf k fs).Sublist (fs.mergeSort fun a b => a.1 ≤ b.1) :=
    List.sublist_mergeSort (fun a b c => by simpa using String.le_trans)
      (fun a b => by simpa using String.le_total a.1 b.1) alike List.filter_sublist
  have again := kept.filter (·.1 = k)
  rw [← fieldsOf, ← fieldsOf, fieldsOf_fieldsOf, if_pos rfl] at again
  exact (again.eq_of_length ((List.mergeSort_perm fs _).filter _).length_eq.symm).symm

theorem fieldsOf_otherFields (k : String) (fs : List Field) :
    fieldsOf k (otherFields fs) = if k ∈ leadingKeys then [] else fieldsOf k fs := by
  rw [otherFields, fieldsOf_mergeSort, fieldsOf, List.filter_filter]
  split
  · next leads =>
    rw [List.filter_eq_nil_iff]
    intro f _
    simp only [Bool.and_eq_true, decide_eq_true_eq, List.contains_iff_mem]
    exact fun both => both.2 (both.1 ▸ leads)
  · next other =>
    refine List.filter_congr fun f _ => ?_
    by_cases own : f.1 = k
    · simp [own, other]
    · simp [own]

/-- Ordering keeps what each key holds. -/
theorem fieldsOf_orderedFields (k : String) (fs : List Field) :
    fieldsOf k (orderedFields fs) = fieldsOf k fs := by
  rw [orderedFields_eq, fieldsOf_append, fieldsOf_fieldsBy (by decide), fieldsOf_otherFields]
  split
  · exact List.append_nil _
  · exact List.nil_append _

/-! ## The order of a line -/

/-- Whether these fields are the recorded ones in the order of a line. -/
structure InOrder (recorded fs : List Field) : Prop where
  /-- No field is lost and none comes twice. -/
  perm : fs.Perm recorded
  /-- The fields with a leading key come first, in the order of these keys, then the others sorted by
  key. -/
  parts : ∃ lead rest, fs = lead ++ rest ∧
    (∀ f ∈ lead, f.1 ∈ leadingKeys) ∧
    (lead.Pairwise fun f g => leadingKeys.idxOf f.1 ≤ leadingKeys.idxOf g.1) ∧
    (∀ f ∈ rest, f.1 ∉ leadingKeys) ∧ rest.Pairwise fun f g => f.1 ≤ g.1
  /-- Fields with one key come as they were recorded. -/
  stable : ∀ k, fs.filter (·.1 = k) = recorded.filter (·.1 = k)

theorem pairwise_fieldsBy_leadingKeys (fs : List Field) : (fieldsBy leadingKeys fs).Pairwise
    fun f g => leadingKeys.idxOf f.1 ≤ leadingKeys.idxOf g.1 := by
  have sorted : leadingKeys.Pairwise fun a b => leadingKeys.idxOf a ≤ leadingKeys.idxOf b := by
    decide
  refine List.pairwise_flatMap.mpr ⟨fun k _ => ?_, sorted.imp fun le f hf g hg => ?_⟩
  · exact List.pairwise_of_forall_mem_list fun f hf g hg =>
      Nat.le_of_eq (by rw [key_of_mem_fieldsOf hf, key_of_mem_fieldsOf hg])
  · rwa [key_of_mem_fieldsOf hf, key_of_mem_fieldsOf hg]

/-- The ordered fields are in the order of a line. -/
theorem inOrder_orderedFields (fs : List Field) : InOrder fs (orderedFields fs) where
  perm := perm_of_fieldsOf fun k => fieldsOf_orderedFields k fs
  parts := by
    refine ⟨fieldsBy leadingKeys fs, otherFields fs, orderedFields_eq fs, fun f hf => ?_,
      pairwise_fieldsBy_leadingKeys fs, fun f hf => ?_, ?_⟩
    · obtain ⟨k, leads, own⟩ := List.mem_flatMap.mp hf
      rwa [key_of_mem_fieldsOf own]
    · have other := (List.mem_filter.mp (List.mem_mergeSort.mp hf)).2
      simpa using other
    · have sorted : (otherFields fs).Pairwise fun a b => decide (a.1 ≤ b.1) = true :=
        List.pairwise_mergeSort (fun a b c => by simpa using String.le_trans)
          (fun a b => by simpa using String.le_total a.1 b.1) _
      exact sorted.imp of_decide_eq_true
  stable k := fieldsOf_orderedFields k fs

theorem InOrder.sorted {recorded fs : List Field} (h : InOrder recorded fs) : Sorted fs := by
  obtain ⟨lead, rest, rfl, leads, byIndex, others, byKey⟩ := h.parts
  refine List.pairwise_append.mpr ⟨?_, ?_, fun f hf g hg => ?_⟩
  · refine byIndex.imp_of_mem fun hf _ le => ?_
    rcases Nat.lt_or_eq_of_le le with lt | eq
    · exact Or.inl lt
    · rw [(List.idxOf_inj (leads _ hf)).mp eq]
      exact KeyLe.refl _
  · refine byKey.imp_of_mem fun hf hg le => Or.inr ⟨?_, le⟩
    rw [List.idxOf_eq_length_iff.mpr (others _ hf), List.idxOf_eq_length_iff.mpr (others _ hg)]
  · refine Or.inl ?_
    rw [List.idxOf_eq_length_iff.mpr (others _ hg)]
    exact List.idxOf_lt_length_iff.mpr (leads _ hf)

/-- There is one list of the recorded fields in the order of a line. -/
theorem InOrder.unique {recorded fs gs : List Field} (hf : InOrder recorded fs)
    (hg : InOrder recorded gs) : fs = gs :=
  eq_of_sorted hf.sorted hg.sorted fun k => (hf.stable k).trans (hg.stable k).symm

/-- The ordered fields are determined by what each key holds. -/
theorem orderedFields_congr {fs gs : List Field} (same : ∀ k, fieldsOf k fs = fieldsOf k gs) :
    orderedFields fs = orderedFields gs :=
  eq_of_sorted (inOrder_orderedFields fs).sorted (inOrder_orderedFields gs).sorted fun k => by
    rw [fieldsOf_orderedFields, fieldsOf_orderedFields, same]

/-! ## Recording -/

/-- Whether a recorded value becomes a field. -/
def isField (f : Field) : Bool := f.1 ≠ "" ∧ f.1 ≠ "message"

/-- After values were recorded, an entry has them as fields but for the last message. -/
theorem foldl_record (e : Entry) (fs : List Field) :
    fs.foldl Entry.record e =
      { e with
        message := ((fieldsOf "message" fs).getLast?.map Prod.snd).or e.message
        fields := e.fields ++ fs.filter isField } := by
  induction fs generalizing e with
  | nil => simp [fieldsOf]
  | cons f fs ih =>
    rw [List.foldl_cons, ih, fieldsOf_cons]
    unfold Entry.record
    by_cases unnamed : f.1 = ""
    · simp [unnamed, isField]
    · by_cases message : f.1 = "message"
      · cases last : (fieldsOf "message" fs).getLast? <;>
          simp [message, isField, last, List.getLast?_cons]
      · simp [unnamed, message, isField]

/-- Of values under different names the line of an entry shows the same in whatever order they were
recorded. -/
theorem line_foldl_record {fs gs : List Field} (perm : fs.Perm gs)
    (distinct : (fs.map Prod.fst).Nodup) (e : Entry) (s : Style) :
    (fs.foldl Entry.record e).line s = (gs.foldl Entry.record e).line s := by
  have fields : orderedFields (e.fields ++ fs.filter isField) =
      orderedFields (e.fields ++ gs.filter isField) := by
    refine orderedFields_congr fun k => ?_
    rw [fieldsOf_append, fieldsOf_append]
    congr 1
    exact fieldsOf_eq_of_perm (perm.filter _)
      (distinct.sublist (List.filter_sublist.map Prod.fst)) k
  simp only [foldl_record, Entry.line, fields, fieldsOf_eq_of_perm perm distinct]

/-- The recorded fields have one order in a line: the leading keys, the other keys sorted, and
fields with one key as they were recorded. So the order in which values under different names are
recorded shows neither there nor in the line. -/
theorem orderedFields_stable (fs : List Field) :
    InOrder fs (orderedFields fs) ∧ (∀ gs, InOrder fs gs → gs = orderedFields fs) ∧
      ∀ gs : List Field, (fs.map Prod.fst).Nodup → (gs.map Prod.fst).Nodup →
        (∀ f, f ∈ fs ↔ f ∈ gs) → orderedFields fs = orderedFields gs ∧
          ∀ (e : Entry) (s : Style),
            (fs.foldl Entry.record e).line s = (gs.foldl Entry.record e).line s := by
  refine ⟨inOrder_orderedFields fs, fun gs ordered => ordered.unique (inOrder_orderedFields fs),
    fun gs distinct distinct' same => ?_⟩
  have perm : fs.Perm gs :=
    (List.perm_ext_iff_of_nodup (distinct.of_map _) (distinct'.of_map _)).mpr same
  exact ⟨orderedFields_congr (fieldsOf_eq_of_perm perm distinct), line_foldl_record perm distinct⟩

/-- Recorded the other way round, values under different names give the same line. -/
theorem orderedFields_stable_reversed :
    let fs := [("attempts", "2"), ("port", "8080"), ("message", "gate passed"), ("zone", ""),
      ("event", "gate_passed")]
    let e : Entry := ⟨.info, "lossless::gate", none, [], []⟩
    let s : Style := ⟨"lossless", "*", "event"⟩
    (fs.map Prod.fst).Nodup ∧ orderedFields fs = orderedFields fs.reverse ∧
      (fs.foldl Entry.record e).line s = (fs.reverse.foldl Entry.record e).line s := by
  intro fs e s
  have distinct : (fs.map Prod.fst).Nodup := by decide
  obtain ⟨-, -, anyOrder⟩ := orderedFields_stable fs
  obtain ⟨fields, lines⟩ := anyOrder fs.reverse distinct (by decide) fun _ => List.mem_reverse.symm
  exact ⟨distinct, fields, lines e s⟩

end InstanceLifecycle.Log
