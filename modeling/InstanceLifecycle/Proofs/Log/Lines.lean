import InstanceLifecycle.Log.Entry
import InstanceLifecycle.Proofs.Text.Digits

/-!
# Lines that read back

A key ends where the first equals sign stands, as no key has one. A value without quotes ends at the
next space, as it has no blank; a value between quotes ends at the next quote that is not escaped.
So the pairs of a line are read back one after another, and nothing that a value holds can pass for
another pair or for the end of the line.

Results:

* `foldl_push`: pushing pairs one after another gives their line;
* `readQuoted?_escaped`: the inside of every quoted value reads back;
* `readValue?_valueChars`: every value reads back, up to the space or the end behind it;
* `readPairs?_lineChars`: the pairs of a line read back;
* `splitOn_written`: the lines of a log are those of its entries;
* `lines_unambiguous`: lines are read back, differ for different pairs, and stay single lines.
-/

namespace InstanceLifecycle.Log

open Text

/-! ## Pushing pairs -/

/-- The characters of a line with one more pair; a space parts it from the pairs before it. -/
def push (cs : List Char) (p : String × String) : List Char :=
  if cs.isEmpty then pairChars p else cs ++ ' ' :: pairChars p

theorem pairChars_ne_nil (p : String × String) : pairChars p ≠ [] := by
  simp [pairChars]

/-- Pairs that are pushed to the line of a pair follow it, each behind a space. -/
theorem foldl_push_append (cs : List Char) (p : String × String) (ps : List (String × String)) :
    ps.foldl push (cs ++ pairChars p) = cs ++ lineChars (p :: ps) := by
  induction ps generalizing cs p with
  | nil => rfl
  | cons q ps ih =>
    have next : push (cs ++ pairChars p) q = (cs ++ pairChars p ++ [' ']) ++ pairChars q := by
      simp [push, pairChars_ne_nil]
    rw [List.foldl_cons, next, ih]
    simp [lineChars]

/-- Pushing pairs one after another gives their line. -/
theorem foldl_push (ps : List (String × String)) : ps.foldl push [] = lineChars ps := by
  cases ps with
  | nil => rfl
  | cons p ps => exact foldl_push_append [] p ps

/-! ## Keys -/

/-- Whether a text can be told from what stands behind it as a key: it is not empty, and it has no
blank, no equals sign and no quote. -/
structure IsKey (k : String) : Prop where
  nonempty : k ≠ ""
  bare : ∀ c ∈ k.toList, isBlank c = false ∧ c ≠ '=' ∧ c ≠ '"'

instance (k : String) : Decidable (IsKey k) :=
  decidable_of_iff
    (k ≠ "" ∧ k.toList.all (fun c => !isBlank c && decide (c ≠ '=') && decide (c ≠ '"')) = true)
    ⟨fun h => ⟨h.1, by simpa [and_assoc] using h.2⟩,
      fun h => ⟨h.nonempty, by simpa [and_assoc] using h.bare⟩⟩

/-! ## Values -/

/-- However a character stands between quotes, it is read back before what follows. -/
theorem readQuoted?_escape (c : Char) (r : List Char) :
    readQuoted? (escape c ++ r) = (readQuoted? r).map fun x => (c :: x.1, x.2) := by
  unfold escape
  split
  case h_6 quote backslash _ _ _ =>
    rw [List.singleton_append, readQuoted?]
    · exact quote
    · exact fun _ _ h => absurd h backslash
  all_goals cases h : readQuoted? r <;> simp [readQuoted?, unescape?, h]

/-- The inside of every quoted value reads back, up to the quote that ends it. -/
theorem readQuoted?_escaped (v r : List Char) :
    readQuoted? (v.flatMap escape ++ '"' :: r) = some (v, r) := by
  induction v with
  | nil => rfl
  | cons c v ih =>
    rw [List.flatMap_cons, List.append_assoc, readQuoted?_escape, ih]
    rfl

/-- A value that stands without quotes is not empty and has neither a blank nor a quote. -/
theorem bare_of_needsQuotes {v : List Char} (h : needsQuotes v = false) :
    v ≠ [] ∧ ∀ c ∈ v, isBlank c = false ∧ c ≠ '"' := by
  simp only [needsQuotes, Bool.or_eq_false_iff, List.isEmpty_eq_false_iff, List.any_eq_false] at h
  refine ⟨h.1, fun c hc => ?_⟩
  have plain := h.2 c hc
  simp only [Bool.or_eq_true, not_or, Bool.not_eq_true] at plain
  refine ⟨plain.1, ?_⟩
  rintro rfl
  exact absurd plain.2 (by decide)

/-- Whether a text can follow a pair: it is at its end, or it goes on with a space. -/
def Ends (r : List Char) : Prop := ∀ c ∈ r.head?, c = ' '

/-- Every value reads back, up to the space or the end behind it. -/
theorem readValue?_valueChars (v : List Char) {r : List Char} (h : Ends r) :
    readValue? (valueChars v ++ r) = some (v, r) := by
  unfold valueChars
  split
  · have written : '"' :: v.flatMap escape ++ ['"'] ++ r = '"' :: (v.flatMap escape ++ '"' :: r) := by
      simp
    rw [written, readValue?, readQuoted?_escaped]
  · next bare =>
    obtain ⟨ne, plain⟩ := bare_of_needsQuotes (Bool.not_eq_true _ ▸ bare)
    obtain ⟨c, cs, rfl⟩ := List.exists_cons_of_ne_nil ne
    have quote : c ≠ '"' := (plain c (by simp)).2
    have spaces : ∀ d ∈ c :: cs, decide (d ≠ ' ') = true := by
      intro d hd
      have shown := (plain d hd).1
      refine decide_eq_true ?_
      rintro rfl
      exact absurd shown (by decide)
    have stop : ∀ d ∈ r.head?, decide (d ≠ ' ') = false := fun d hd => by simp [h d hd]
    have value := span_append spaces stop
    rw [readValue?, value]
    exact fun _ same => quote (List.cons.inj same).1

/-! ## Pairs -/

/-- The key of a pair ends at the first equals sign. -/
theorem span_pairChars {p : String × String} (key : IsKey p.1) (r : List Char) :
    (pairChars p ++ r).span (· ≠ '=') = (p.1.toList, '=' :: (valueChars p.2.toList ++ r)) := by
  have written : pairChars p ++ r = p.1.toList ++ '=' :: (valueChars p.2.toList ++ r) := by
    simp [pairChars]
  rw [written]
  exact span_append (fun c hc => decide_eq_true (key.bare c hc).2.1) (by simp)

/-- The last pair reads back. -/
theorem readPairs?_last {p : String × String} (key : IsKey p.1) (fuel : Nat) :
    readPairs? (fuel + 1) (pairChars p) = some [p] := by
  have name := span_pairChars key []
  have value := readValue?_valueChars p.2.toList (r := []) (fun _ hc => by cases hc)
  rw [List.append_nil] at name
  rw [readPairs?, name]
  simp only [List.tail?_cons, Option.bind_eq_bind, Option.bind_some, value, String.ofList_toList]

/-- A pair before a space reads back, and then what stands behind the space. -/
theorem readPairs?_next {p : String × String} (key : IsKey p.1) (fuel : Nat) (r : List Char) :
    readPairs? (fuel + 1) (pairChars p ++ ' ' :: r) = (readPairs? fuel r).map (p :: ·) := by
  have value := readValue?_valueChars p.2.toList (r := ' ' :: r) (by simp [Ends])
  rw [readPairs?, span_pairChars key]
  simp only [List.tail?_cons, Option.bind_eq_bind, Option.bind_some, value, String.ofList_toList]

/-- The pairs of a line read back. -/
theorem readPairs?_lineChars {ps : List (String × String)} (ne : ps ≠ [])
    (keys : ∀ p ∈ ps, IsKey p.1) {fuel : Nat} (enough : ps.length ≤ fuel) :
    readPairs? fuel (lineChars ps) = some ps := by
  induction ps generalizing fuel with
  | nil => exact absurd rfl ne
  | cons p ps ih =>
    obtain ⟨fuel, rfl⟩ : ∃ n, fuel = n + 1 := ⟨fuel - 1, by simp at enough; omega⟩
    have key := keys p (by simp)
    cases ps with
    | nil => exact readPairs?_last key fuel
    | cons q qs =>
      have rest := ih (by simp) (fun x hx => keys x (by simp [hx])) (by simpa using enough)
      rw [lineChars, readPairs?_next key, rest]
      rfl

theorem length_le_lineChars (ps : List (String × String)) : ps.length ≤ (lineChars ps).length := by
  induction ps using lineChars.induct with
  | case1 => exact Nat.le_refl 0
  | case2 p =>
    simp only [lineChars, pairChars, List.length_cons, List.length_append, List.length_nil]
    omega
  | case3 p q ps ih =>
    simp only [lineChars, List.length_cons, List.length_append] at ih ⊢
    omega

/-- A line is read back into its pairs. -/
theorem readLine?_line {ps : List (String × String)} (keys : ∀ p ∈ ps, IsKey p.1) :
    readLine? (line ps) = some ps := by
  cases ps with
  | nil => rfl
  | cons p ps =>
    have enough := length_le_lineChars (p :: ps)
    have filled : lineChars (p :: ps) ≠ [] := by
      intro empty
      rw [empty] at enough
      simp at enough
    rw [readLine?, if_neg (by simpa [line] using filled), line, String.length_ofList,
      String.toList_ofList]
    exact readPairs?_lineChars (by simp) keys (Nat.le_succ_of_le enough)

/-! ## Ends of lines -/

/-- The characters that end a line. -/
def lineEnds : List Char := ['\n', '\r']

theorem isBlank_of_mem_lineEnds {c : Char} (h : c ∈ lineEnds) : isBlank c = true := by
  simp only [lineEnds, List.mem_cons, List.not_mem_nil, or_false] at h
  rcases h with rfl | rfl <;> rfl

/-- No value ends a line. -/
theorem not_mem_valueChars {c : Char} (h : c ∈ lineEnds) (v : List Char) : c ∉ valueChars v := by
  intro hc
  unfold valueChars at hc
  split at hc
  · simp only [lineEnds, List.mem_cons, List.not_mem_nil, or_false] at h
    simp only [List.cons_append, List.mem_cons, List.mem_append, List.mem_flatMap,
      List.not_mem_nil, or_false] at hc
    rcases hc with quote | ⟨d, -, hd⟩ | quote
    · rcases h with rfl | rfl <;> cases quote
    · obtain ⟨lf, cr⟩ := escape_ne_newline d
      rcases h with rfl | rfl
      · exact lf hd
      · exact cr hd
    · rcases h with rfl | rfl <;> cases quote
  · next bare =>
    have shown := ((bare_of_needsQuotes (Bool.not_eq_true _ ▸ bare)).2 c hc).1
    rw [isBlank_of_mem_lineEnds h] at shown
    cases shown

/-- No pair ends a line. -/
theorem not_mem_pairChars {c : Char} (h : c ∈ lineEnds) {p : String × String} (key : IsKey p.1) :
    c ∉ pairChars p := by
  have blank := isBlank_of_mem_lineEnds h
  intro hc
  simp only [pairChars, List.mem_append, List.mem_cons] at hc
  rcases hc with name | rfl | value
  · rw [(key.bare c name).1] at blank
    cases blank
  · cases blank
  · exact not_mem_valueChars h _ value

/-- A line is one line. -/
theorem not_mem_line {c : Char} (h : c ∈ lineEnds) {ps : List (String × String)}
    (keys : ∀ p ∈ ps, IsKey p.1) : c ∉ (line ps).toList := by
  rw [line, String.toList_ofList]
  induction ps using lineChars.induct with
  | case1 => simp [lineChars]
  | case2 p => exact not_mem_pairChars h (keys p (by simp))
  | case3 p q ps ih =>
    have first := not_mem_pairChars h (keys p (by simp))
    have rest := ih fun x hx => keys x (by simp [hx])
    have space : c ≠ ' ' := by
      rintro rfl
      exact absurd h (by decide)
    simp [lineChars, first, rest, space]

/-! ## Entries -/

/-- The pairs of an entry, in the order of its line. -/
def Entry.pairs (e : Entry) (s : Style) : List (String × String) :=
  [("ts", s.time), ("level", e.level.name), ("app", s.app), ("component", e.component)] ++
    (if e.spans.isEmpty then [] else [("span", ".".intercalate e.spans)]) ++
    [("msg", e.message.getD s.unnamed)] ++ orderedFields e.fields

theorem Entry.line_eq (e : Entry) (s : Style) : e.line s = Log.line (e.pairs s) := rfl

/-- If the keys of its fields are keys, all keys of an entry are. -/
theorem Entry.isKey_of_mem_pairs {e : Entry} (fields : ∀ f ∈ e.fields, IsKey f.1) {s : Style} :
    ∀ p ∈ e.pairs s, IsKey p.1 := by
  intro p hp
  simp only [pairs, List.mem_append] at hp
  rcases hp with ((header | span) | message) | field
  · have names : ∀ k ∈ ["ts", "level", "app", "component"], IsKey k := by decide +kernel
    refine names p.1 ?_
    simpa using List.mem_map_of_mem header (f := Prod.fst)
  · split at span
    · cases span
    · obtain rfl := List.mem_singleton.mp span
      show IsKey "span"
      decide +kernel
  · obtain rfl := List.mem_singleton.mp message
    show IsKey "msg"
    decide +kernel
  · exact fields p ((mem_orderedFields e.fields p).mp field)

/-- What entries leave in a log: the line of each, and the end of the line. -/
def written (s : Style) (es : List Entry) : List Char :=
  es.flatMap fun e => (e.line s).toList ++ ['\n']

/-- The lines of a log are those of its entries. -/
theorem splitOn_written {es : List Entry} (fields : ∀ e ∈ es, ∀ f ∈ e.fields, IsKey f.1)
    (s : Style) :
    (written s es).splitOn '\n' = es.map (fun e => (e.line s).toList) ++ [[]] := by
  induction es with
  | nil => rfl
  | cons e es ih =>
    have line : ∀ c ∈ (e.line s).toList, (c == '\n') = false := by
      intro c hc
      refine beq_eq_false_iff_ne.mpr ?_
      rintro rfl
      exact not_mem_line (by decide) (e.isKey_of_mem_pairs (fields e (by simp))) hc
    have rest := ih fun x hx => fields x (by simp [hx])
    have first : written s (e :: es) = (e.line s).toList ++ '\n' :: written s es := by
      simp [written]
    rw [List.splitOn_eq_splitOnP] at rest ⊢
    rw [first, List.splitOnP_append_cons_of_forall_mem line '\n' rfl, rest]
    rfl

/-! ## Unambiguous lines -/

/-- What a line is good for: it is what its pairs give when they are pushed one after another, it is
read back into exactly these pairs, and no character of it ends a line. -/
structure Readable (ps : List (String × String)) : Prop where
  pushed : (line ps).toList = ps.foldl push []
  read : readLine? (line ps) = some ps
  unbroken : ∀ c ∈ lineEnds, c ∉ (line ps).toList

theorem readable {ps : List (String × String)} (keys : ∀ p ∈ ps, IsKey p.1) : Readable ps where
  pushed := by rw [line, String.toList_ofList, foldl_push]
  read := readLine?_line keys
  unbroken _ hc := not_mem_line hc keys

/-- Pairs with proper keys and any values give a line that is read back into them and that holds no
end of a line; so no two sequences of such pairs give the same line. What entries with such fields
leave in a log falls into exactly one line for each, closed by the end that is written behind it,
and each line is read back into the pairs of its entry. -/
theorem lines_unambiguous :
    (∀ ps : List (String × String), (∀ p ∈ ps, IsKey p.1) → Readable ps) ∧
      (∀ ps qs : List (String × String), (∀ p ∈ ps, IsKey p.1) → (∀ q ∈ qs, IsKey q.1) →
        line ps = line qs → ps = qs) ∧
      ∀ (s : Style) (es : List Entry), (∀ e ∈ es, ∀ f ∈ e.fields, IsKey f.1) →
        (written s es).splitOn '\n' = es.map (fun e => (e.line s).toList) ++ [[]] ∧
          ∀ e ∈ es, e.line s = line (e.pairs s) ∧ Readable (e.pairs s) := by
  refine ⟨fun ps keys => readable keys, fun ps qs hps hqs same => ?_, fun s es fields => ?_⟩
  · have read := readLine?_line hps
    rw [same, readLine?_line hqs] at read
    exact (Option.some.inj read).symm
  · exact ⟨splitOn_written fields s,
      fun e he => ⟨e.line_eq s, readable (e.isKey_of_mem_pairs (fields e he))⟩⟩

/-- A value that looks like another entry stays a value. -/
theorem lines_unambiguous_forged :
    let ps := [("msg", "done\nts=* level=ERROR msg=\"lost\""), ("reason", "")]
    let s : Style := ⟨"lossless", "*", "event"⟩
    let e : Entry := ⟨.info, "lossless::gate", some "done\nts=*", [("reason", "a=b \\\r")], []⟩
    (∀ p ∈ ps, IsKey p.1) ∧ (∀ f ∈ e.fields, IsKey f.1) ∧ readLine? (line ps) = some ps ∧
      (written s [e]).splitOn '\n' = [(e.line s).toList, []] ∧
      readLine? (line (e.pairs s)) = some (e.pairs s) := by
  intro ps s e
  have keys : ∀ p ∈ ps, IsKey p.1 := by decide +kernel
  have fields : ∀ f ∈ e.fields, IsKey f.1 := by decide +kernel
  obtain ⟨whole, entries⟩ := lines_unambiguous.2.2 s [e] (by simpa using fields)
  exact ⟨keys, fields, (lines_unambiguous.1 ps keys).read, whole, (entries e (by simp)).2.read⟩

end InstanceLifecycle.Log
