/-!
# Tables

A table assigns values to names. It is kept as a list of pairs in which no name occurs twice; what
counts is what `get?` finds, and there is one equation for it under every operation.

## Main definitions

* `Table.get?`, `Table.put`, `Table.erase`, `Table.eraseValue`.
-/

namespace StoryScript

/-- Values by name. -/
structure Table (β : Type) where
  pairs : List (String × β) := []
  nodup : (pairs.map (·.1)).Nodup := by simp
deriving Repr, DecidableEq, Inhabited

namespace Table

variable {β : Type}

def get? (t : Table β) (k : String) : Option β :=
  (t.pairs.find? (·.1 == k)).map (·.2)

/-- The pairs of a table that satisfy `p`. -/
def filter (t : Table β) (p : String × β → Bool) : Table β where
  pairs := t.pairs.filter p
  nodup := t.nodup.sublist (List.filter_sublist.map _)

def erase (t : Table β) (k : String) : Table β :=
  t.filter (·.1 != k)

/-- Gives a name a value, in place of the one it had. -/
def put (t : Table β) (k : String) (v : β) : Table β where
  pairs := (k, v) :: (t.erase k).pairs
  nodup := by
    refine List.nodup_cons.2 ⟨fun h => ?_, (t.erase k).nodup⟩
    obtain ⟨q, hq, rfl⟩ := List.mem_map.1 h
    simpa using (List.mem_filter.1 hq).2

def eraseValue [BEq β] (t : Table β) (v : β) : Table β :=
  t.filter (·.2 != v)

@[simp] theorem get?_empty (k : String) : ({} : Table β).get? k = none := rfl

theorem get?_eq_some_iff {t : Table β} {k : String} {v : β} :
    t.get? k = some v ↔ (k, v) ∈ t.pairs := by
  have unique := t.nodup
  unfold get?
  generalize t.pairs = l at unique
  induction l with
  | nil => simp
  | cons q l ih =>
    obtain ⟨k', v'⟩ := q
    simp only [List.map_cons, List.nodup_cons] at unique
    by_cases h : k' = k
    · subst h
      have : (k', v) ∉ l := fun hl => unique.1 (List.mem_map_of_mem (f := (·.1)) hl)
      simp [this, eq_comm]
    · have : ¬k = k' := fun e => h e.symm
      simp [h, this, ih unique.2]

/-- A name keeps its value when the pair passes, and has none otherwise. -/
theorem get?_filter (t : Table β) (p : String × β → Bool) (k : String) :
    (t.filter p).get? k = (t.get? k).filter fun v => p (k, v) := by
  apply Option.ext
  intro v
  rw [Option.filter_eq_some_iff, get?_eq_some_iff, get?_eq_some_iff]
  exact List.mem_filter

theorem get?_erase (t : Table β) (k k' : String) :
    (t.erase k).get? k' = if k' = k then none else t.get? k' := by
  rw [erase, get?_filter]
  by_cases h : k' = k
  · simp [h]
  · cases t.get? k' <;> simp [h]

@[simp] theorem get?_erase_self (t : Table β) (k : String) : (t.erase k).get? k = none := by
  simp [get?_erase]

theorem get?_put (t : Table β) (k k' : String) (v : β) :
    (t.put k v).get? k' = if k' = k then some v else t.get? k' := by
  by_cases h : k' = k
  · simp [get?, put, h]
  · have : ¬k = k' := fun e => h e.symm
    simpa [get?, put, h, this] using get?_erase t k k'

@[simp] theorem get?_put_self (t : Table β) (k : String) (v : β) : (t.put k v).get? k = some v := by
  simp [get?_put]

theorem get?_eraseValue [DecidableEq β] (t : Table β) (v : β) (k : String) :
    (t.eraseValue v).get? k = if t.get? k = some v then none else t.get? k := by
  rw [eraseValue, get?_filter]
  cases t.get? k with
  | none => simp
  | some w => by_cases h : w = v <;> simp [h]

end Table

end StoryScript
