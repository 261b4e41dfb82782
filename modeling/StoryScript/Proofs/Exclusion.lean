import StoryScript.Proofs.Holding

/-!
# One holder at a time

Any number of people call the lock service, each in their own name and in any order. When locks never
expire, the calls alone tell who holds what: a lock that was granted is held until its holder gives
it back, and nothing that others do can change that.

## Main definitions

* `LockCall.GivesBack` — a call that gives back the lock of a statement.
* `LockTable.afterCalls` — the locks after one call after another.

## Main statements

* `holder?_after_iff` — who holds a lock after one call.
* `holder?_afterCalls_iff` — who holds it after many, told from the calls.
* `held_until_given_back` — what that means for those who call.
-/

namespace StoryScript

/-- The call gives back the lock of a statement, if its caller holds it. -/
def LockCall.GivesBack (node : String) : LockCall → Prop
  | .release n => n = node
  | .releaseAll => True
  | .acquire _ | .announce _ => False

namespace LockTable

variable {t : LockTable} {p q : Participant} {node : String}

/-- The locks after one call after another, each in the name of some participant. -/
def afterCalls (t : LockTable) (calls : List (Participant × LockCall)) : LockTable :=
  calls.foldl (fun t c => t.after c.1 c.2) t

theorem afterCalls_append (calls calls' : List (Participant × LockCall)) :
    t.afterCalls (calls ++ calls') = (t.afterCalls calls).afterCalls calls' :=
  List.foldl_append

@[simp] theorem lifetime_afterCalls (calls : List (Participant × LockCall)) :
    (t.afterCalls calls).lifetime = t.lifetime := by
  induction calls generalizing t with
  | nil => rfl
  | cons c calls ih => exact (ih (t := t.after c.1 c.2)).trans (lifetime_after c.2)

/-- A lock is granted when nobody but the caller holds it. -/
theorem acquire_granted_iff_no_other :
    (t.acquire p node).1 = true ↔ ∀ q, t.holder? node = some q → q = p := by
  rw [acquire_granted_iff]
  cases t.holder? node <;> simp

theorem acquire_denied_of_other (holds : t.holder? node = some p) (other : q ≠ p) :
    (t.acquire q node).1 = false := by
  rw [Bool.eq_false_iff, ne_eq, acquire_granted_iff_no_other]
  exact fun alone => other (alone p holds).symm

/-- After a call somebody holds a lock who held it and did not give it back, or to whom it was just
granted. -/
theorem holder?_after_iff (live : t.lifetime = .unlimited) (call : LockCall) :
    (t.after q call).holder? node = some p ↔
      (t.holder? node = some p ∧ ¬ (q = p ∧ call.GivesBack node)) ∨
        (q = p ∧ call = .acquire node ∧ (t.acquire p node).1 = true) := by
  cases call with
  | acquire n =>
    cases granted : (t.acquire q n).1 with
    | false =>
      have denied := acquire_denied t q n granted
      grind [after, LockCall.GivesBack]
    | true =>
      have next := holder?_acquire t q n live granted node
      have alone := acquire_granted_iff_no_other.1 granted
      grind [after, LockCall.GivesBack]
  | release n => grind [after, LockCall.GivesBack, holder?_release]
  | releaseAll => grind [after, LockCall.GivesBack, holder?_releaseAll]
  | announce n => grind [after, LockCall.GivesBack, holder?_announce]

/-- Somebody holds a lock when it was granted at some point and its holder did not give it back
since. -/
theorem holder?_afterCalls_iff (live : t.lifetime = .unlimited) (free : t.holder? node ≠ some p)
    (calls : List (Participant × LockCall)) :
    (t.afterCalls calls).holder? node = some p ↔
      ∃ before since, calls = before ++ (p, .acquire node) :: since ∧
        ((t.afterCalls before).acquire p node).1 = true ∧
        ∀ call, (p, call) ∈ since → ¬ call.GivesBack node := by
  have law (before : List (Participant × LockCall)) (c : Participant × LockCall) :
      (t.afterCalls (before ++ [c])).holder? node = some p ↔
        (c = (p, .acquire node) ∧ ((t.afterCalls before).acquire p node).1 = true) ∨
          ((t.afterCalls before).holder? node = some p ∧ ¬ (c.1 = p ∧ c.2.GivesBack node)) := by
    have last : t.afterCalls (before ++ [c]) = (t.afterCalls before).after c.1 c.2 :=
      afterCalls_append before [c]
    rw [last, holder?_after_iff (by simpa using live), Prod.ext_iff]
    tauto
  rw [history_iff (P := fun calls => (t.afterCalls calls).holder? node = some p) free law]
  constructor
  · rintro ⟨before, c, since, rfl, ⟨rfl, granted⟩, kept⟩
    refine ⟨before, since, rfl, granted, fun call mem gives => ?_⟩
    obtain ⟨part, rest, split⟩ := List.append_of_mem mem
    exact kept part (p, call) rest split ⟨rfl, gives⟩
  · rintro ⟨before, since, rfl, granted, kept⟩
    refine ⟨before, _, since, rfl, ⟨rfl, granted⟩, ?_⟩
    rintro part ⟨q, call⟩ rest rfl ⟨rfl, gives⟩
    exact kept call (by simp) gives

/-- Giving all locks back ends what the caller holds and nothing else. -/
theorem heldBy_releaseAll :
    (t.releaseAll q).heldBy p = if p = q then ∅ else t.heldBy p := by
  ext n
  by_cases own : p = q
  · simp [heldBy, holder?_releaseAll, own]
  · by_cases holds : t.holder? n = some q <;>
      simp [heldBy, holder?_releaseAll, own, holds, Ne.symm own]

/-- Let any participants call a new lock service whose locks never expire, in any order. A lock is
granted when nobody else holds it. Whoever was granted one holds it through all calls that follow,
up to the first of their own that gives it back: until then nobody else is granted it, and no call
of another participant ends that. Nobody holds a lock in another way. And whoever gives back all
locks holds none, while the others keep theirs. -/
theorem held_until_given_back (calls : List (Participant × LockCall)) :
    let t := ({} : LockTable).afterCalls calls
    (∀ p n, (t.acquire p n).1 = true ↔ ∀ q, t.holder? n = some q → q = p) ∧
      (∀ p n since, (t.acquire p n).1 = true →
        (∀ call, (p, call) ∈ since → ¬ call.GivesBack n) →
          let t' := (t.after p (.acquire n)).afterCalls since
          t'.holder? n = some p ∧ ∀ q, q ≠ p →
            (t'.acquire q n).1 = false ∧ ∀ call, (t'.after q call).holder? n = some p) ∧
      (∀ p n, t.holder? n = some p ↔
        ∃ before since, calls = before ++ (p, .acquire n) :: since ∧
          ((({} : LockTable).afterCalls before).acquire p n).1 = true ∧
          ∀ call, (p, call) ∈ since → ¬ call.GivesBack n) ∧
      ∀ p, (t.releaseAll p).heldBy p = ∅ ∧
        ∀ q, q ≠ p → (t.releaseAll p).heldBy q = t.heldBy q := by
  intro t
  have none_held (p : Participant) (n : String) : ({} : LockTable).holder? n ≠ some p := by
    simp [holder?]
  refine ⟨fun p n => acquire_granted_iff_no_other, ?_,
    fun p n => holder?_afterCalls_iff rfl (none_held p n) calls,
    fun p => ⟨by simp [heldBy_releaseAll], fun q other => by simp [heldBy_releaseAll, other]⟩⟩
  intro p n since granted kept t'
  have live : t'.lifetime = .unlimited := by simp [t', t]
  have holds : t'.holder? n = some p := by
    have all : t' = ({} : LockTable).afterCalls (calls ++ (p, .acquire n) :: since) := by
      rw [afterCalls_append]
      rfl
    rw [all, holder?_afterCalls_iff rfl (none_held p n)]
    exact ⟨calls, since, rfl, granted, kept⟩
  refine ⟨holds, fun q other => ⟨acquire_denied_of_other holds other, fun call => ?_⟩⟩
  exact (holder?_after_iff live call).2 (.inl ⟨holds, fun own => other own.1⟩)

/-- The holder of a lock takes it once more and gives another one back; in between two others try to
take it, to give it back in their own name, and to announce that they edit the statement. -/
theorem held_until_given_back_beside_rivals :
    let t := ({} : LockTable).afterCalls [(0, .acquire "b"), (1, .acquire "c"), (1, .acquire "b")]
    let since : List (Participant × LockCall) := [(1, .release "a"), (0, .acquire "a"),
      (2, .acquire "a"), (2, .announce "a"), (0, .release "b"), (1, .releaseAll)]
    (t.acquire 0 "a").1 = true ∧ (∀ call, (0, call) ∈ since → ¬ call.GivesBack "a") ∧
      let t' := (t.after 0 (.acquire "a")).afterCalls since
      t'.holder? "a" = some 0 ∧ (t'.acquire 2 "a").1 = false := by
  intro t since
  have granted : (t.acquire 0 "a").1 = true := by decide +kernel
  have kept : ∀ call, (0, call) ∈ since → ¬ call.GivesBack "a" := by
    simp [since, LockCall.GivesBack]
  obtain ⟨holds, alone⟩ :=
    (held_until_given_back [(0, .acquire "b"), (1, .acquire "c"), (1, .acquire "b")]).2.1
      0 "a" since granted kept
  exact ⟨granted, kept, holds, (alone 2 (by decide)).1⟩

end LockTable

end StoryScript
