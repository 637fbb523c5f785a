/-!
# Tables

A table maps finitely many keys to values. It is a list of entries without a second entry for a
key; only looking a key up, putting an entry and removing one are used, so the order of the
entries never shows.

Results:

* `get?_insert`: an entry that was put is found, and no other key is affected;
* `get?_erase`: a removed entry is gone, and no other key is affected.
-/

namespace InstanceLifecycle

/-- A finite map from keys to values. -/
structure Table (α β : Type) where
  entries : List (α × β) := []
  deriving Repr

namespace Table

variable {α β : Type} [DecidableEq α]

/-- The table without entries. -/
def empty : Table α β := {}

/-- The value of a key, if the table has one. -/
def get? (t : Table α β) (k : α) : Option β :=
  (t.entries.find? fun e => e.1 = k).map Prod.snd

/-- The table without the entry of a key. -/
def erase (t : Table α β) (k : α) : Table α β :=
  ⟨t.entries.filter fun e => e.1 ≠ k⟩

/-- The table with this entry in place of the one the key had. -/
def insert (t : Table α β) (k : α) (v : β) : Table α β :=
  ⟨(k, v) :: (t.erase k).entries⟩

/-- Whether the key has a value. -/
def contains (t : Table α β) (k : α) : Bool :=
  (t.get? k).isSome

@[simp]
theorem get?_empty (k : α) : (empty : Table α β).get? k = none := rfl

private theorem find?_filter_ne (es : List (α × β)) (j k : α) :
    (es.filter fun e => e.1 ≠ j).find? (fun e => e.1 = k) =
      if k = j then none else es.find? fun e => e.1 = k := by
  induction es with
  | nil => simp
  | cons e r ih => grind

/-- A removed entry is gone, and no other key is affected. -/
theorem get?_erase (t : Table α β) (j k : α) :
    (t.erase j).get? k = if k = j then none else t.get? k := by
  simp only [get?, erase, find?_filter_ne]
  split <;> simp

/-- An entry that was put is found, and no other key is affected. -/
theorem get?_insert (t : Table α β) (j k : α) (v : β) :
    (t.insert j v).get? k = if k = j then some v else t.get? k := by
  by_cases h : k = j
  · simp [get?, insert, h]
  · have h' : ¬j = k := fun e => h e.symm
    simp only [get?, insert, erase, List.find?_cons, h', decide_false, find?_filter_ne, h, if_false]

@[simp]
theorem get?_insert_self (t : Table α β) (k : α) (v : β) : (t.insert k v).get? k = some v := by
  simp [get?_insert]

@[simp]
theorem get?_erase_self (t : Table α β) (k : α) : (t.erase k).get? k = none := by
  simp [get?_erase]

end Table

end InstanceLifecycle
