import StoryScript.Editing.Table

/-!
# Edit locks

Several people may edit one script. A participant who opens a statement takes its lock, and while
the lock is live no other participant gets it. Next to the locks a note is kept of who announced to
be editing what.

## Main definitions

* `Participant`, `Lifetime`, `LockTable`.
* `LockTable.holder?` — who holds the live lock of a statement.
* `LockTable.acquire`, `release`, `releaseAll`, `announce`.
-/

namespace StoryScript

abbrev Participant := Nat

/-- How long a lock lives once it was taken. -/
inductive Lifetime where
  /-- Until it is released. -/
  | unlimited
  /-- Not at all: it expires at once. -/
  | zero
deriving Repr, DecidableEq, Inhabited

/-- The locks that were taken and not released, live or not, and the announcements. -/
structure LockTable where
  lifetime : Lifetime := .unlimited
  taken : Table Participant := {}
  editing : Table Participant := {}
deriving Repr, DecidableEq, Inhabited

namespace LockTable

/-- Who holds the live lock of a statement. -/
def holder? (t : LockTable) (node : String) : Option Participant :=
  match t.lifetime with
  | .unlimited => t.taken.get? node
  | .zero => none

/-- Whether somebody announced to be editing a statement. -/
def isEditing (t : LockTable) (node : String) : Bool :=
  (t.editing.get? node).isSome

/-- Tries to take a lock. It is denied while another participant holds it. -/
def acquire (t : LockTable) (p : Participant) (node : String) : Bool × LockTable :=
  match t.holder? node with
  | some q =>
    if q = p then (true, { t with taken := t.taken.put node p }) else (false, t)
  | none => (true, { t with taken := t.taken.put node p })

/-- Removes a name from a table if it has the given participant as value. -/
def dropOwn (t : Table Participant) (p : Participant) (node : String) : Table Participant :=
  if t.get? node = some p then t.erase node else t

/-- Gives a lock back. The locks of others stay. -/
def release (t : LockTable) (p : Participant) (node : String) : LockTable :=
  { t with taken := dropOwn t.taken p node, editing := dropOwn t.editing p node }

def releaseAll (t : LockTable) (p : Participant) : LockTable :=
  { t with taken := t.taken.eraseValue p, editing := t.editing.eraseValue p }

/-- Announces that a participant is editing a statement. -/
def announce (t : LockTable) (p : Participant) (node : String) : LockTable :=
  { t with editing := t.editing.put node p }

/-! ## Who holds a lock after a call -/

variable (t : LockTable) (p : Participant) (node : String)

/-- A lock is granted when nobody else holds it; a denied call changes nothing. -/
theorem acquire_eq : t.acquire p node =
    if t.holder? node = none ∨ t.holder? node = some p then
      (true, { t with taken := t.taken.put node p })
    else (false, t) := by
  unfold acquire
  cases h : t.holder? node with
  | none => simp
  | some q => by_cases hq : q = p <;> simp [hq]

@[simp] theorem lifetime_acquire : (t.acquire p node).2.lifetime = t.lifetime := by
  rw [acquire_eq]
  split <;> rfl

@[simp] theorem lifetime_release : (t.release p node).lifetime = t.lifetime := rfl

@[simp] theorem lifetime_releaseAll : (t.releaseAll p).lifetime = t.lifetime := rfl

@[simp] theorem lifetime_announce : (t.announce p node).lifetime = t.lifetime := rfl

theorem acquire_granted_iff :
    (t.acquire p node).1 = true ↔ t.holder? node = none ∨ t.holder? node = some p := by
  rw [acquire_eq]
  split <;> simp_all

theorem acquire_denied (h : (t.acquire p node).1 = false) : (t.acquire p node).2 = t := by
  rw [acquire_eq] at h ⊢
  split at h
  · cases h
  · next denied => rw [if_neg denied]

/-- A granted lock that lives is the caller's, and all others stay as they were. -/
theorem holder?_acquire (live : t.lifetime = .unlimited) (h : (t.acquire p node).1 = true)
    (n : String) :
    (t.acquire p node).2.holder? n = if n = node then some p else t.holder? n := by
  rw [acquire_granted_iff] at h
  rw [acquire_eq, if_pos h]
  simp [holder?, live, Table.get?_put]

theorem get?_dropOwn (taken : Table Participant) (n : String) :
    (dropOwn taken p node).get? n =
      if n = node ∧ taken.get? n = some p then none else taken.get? n := by
  unfold dropOwn
  by_cases hn : n = node
  · subst hn
    split <;> simp_all
  · split <;> simp [Table.get?_erase, hn]

theorem holder?_release (n : String) :
    (t.release p node).holder? n =
      if n = node ∧ t.holder? n = some p then none else t.holder? n := by
  cases h : t.lifetime <;> simp [holder?, release, h, get?_dropOwn]

theorem holder?_releaseAll (n : String) :
    (t.releaseAll p).holder? n = if t.holder? n = some p then none else t.holder? n := by
  cases h : t.lifetime
  · simp only [holder?, releaseAll, h]
    exact Table.get?_eraseValue _ _ _
  · simp [holder?, releaseAll, h]

@[simp] theorem holder?_announce (n : String) : (t.announce p node).holder? n = t.holder? n := rfl

end LockTable

end StoryScript
