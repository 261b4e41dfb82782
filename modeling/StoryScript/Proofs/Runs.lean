import Mathlib.Data.List.Induction
import StoryScript.Proofs.Exits

/-!
# Runs of an editor

An editor is asked for one thing after another. In between, the people around it change the stored
scripts and take and release locks, its parser answers differently, and its user moves the canvas.

## Main definitions

* `LockCall`, `LockTable.after` — what a participant can ask of the locks.
* `Event`, `happen` — what can happen to an editor and to what it shares with others.
* `run` — one event after another.

## Main statements

* `run_induction`, `run_induction_at` — what every event keeps holds after every run.
* `history_iff` — what some steps bring about and others end, told from all that happened.
-/

namespace StoryScript

/-- What a participant can ask of the locks. -/
inductive LockCall where
  | acquire (node : String)
  | release (node : String)
  | releaseAll
  | announce (node : String)
deriving Repr, DecidableEq

/-- The locks after a call of a participant. -/
def LockTable.after (t : LockTable) (p : Participant) : LockCall → LockTable
  | .acquire node => (t.acquire p node).2
  | .release node => t.release p node
  | .releaseAll => t.releaseAll p
  | .announce node => t.announce p node

/-- What can happen to an editor and to what it shares with others. -/
inductive Event where
  /-- The editor is asked for something. -/
  | ask (request : Request)
  /-- From now on the parser answers differently; it may fail. -/
  | parser (parser : Parser)
  /-- The connection to the lock service breaks in some way, or is mended. -/
  | lockFault (fault : LockFault)
  /-- The user moves the canvas. -/
  | pan (viewport : Viewport)
  /-- Somebody changes what is stored. -/
  | store (store : Store)
  /-- Somebody calls the lock service. -/
  | lock (caller : Participant) (call : LockCall)

/-- An editor and what it shares with others, after an event. -/
def happen (x : Editor × Shared) : Event → Editor × Shared
  | .ask request => (x.1.handle x.2 request).2
  | .parser parser => ({ x.1 with parser }, x.2)
  | .lockFault lockFault => ({ x.1 with lockFault }, x.2)
  | .pan viewport => ({ x.1 with canvas := x.1.canvas.restore viewport }, x.2)
  | .store store => (x.1, { x.2 with store })
  | .lock caller call => (x.1, { x.2 with locks := x.2.locks.after caller call })

/-- An editor and what it shares with others, after one event after another. -/
def run (x : Editor × Shared) (events : List Event) : Editor × Shared :=
  events.foldl happen x

section

variable {P : Editor × Shared → Prop} {x : Editor × Shared} {events : List Event}

/-- What every event of a run keeps holds after the run. -/
theorem run_induction (start : P x) (step : ∀ x, P x → ∀ ev ∈ events, P (happen x ev)) :
    P (run x events) :=
  List.foldlRecOn events happen start step

/-- The same, when an event need only keep it at its own place in the run. -/
theorem run_induction_at (start : P x)
    (step : ∀ before ev since, events = before ++ ev :: since →
      P (run x before) → P (happen (run x before) ev)) : P (run x events) := by
  induction events using List.reverseRecOn with
  | nil => exact start
  | append_singleton events ev ih =>
    have last : run x (events ++ [ev]) = happen (run x events) ev := by simp [run]
    rw [last]
    refine step events ev [] rfl (ih fun before ev' since split => ?_)
    exact step before ev' (since ++ [ev]) (by simp [split])

end

/-- A condition that some steps bring about and others end holds when one brought it about and none
since has ended it. -/
theorem history_iff {μ : Type} {P : List μ → Prop} {starts ends : List μ → μ → Prop}
    (none_yet : ¬ P [])
    (law : ∀ before m, P (before ++ [m]) ↔ starts before m ∨ (P before ∧ ¬ ends before m))
    (history : List μ) :
    P history ↔ ∃ before m since, history = before ++ m :: since ∧ starts before m ∧
      ∀ part m' rest, since = part ++ m' :: rest → ¬ ends (before ++ m :: part) m' := by
  induction history using List.reverseRecOn with
  | nil => simp [none_yet]
  | append_singleton history last ih =>
    rw [law, ih]
    constructor
    · rintro (now | ⟨⟨before, m, since, rfl, began, kept⟩, keeps⟩)
      · exact ⟨history, last, [], rfl, now, by simp⟩
      · refine ⟨before, m, since ++ [last], by simp, began, fun part m' rest split => ?_⟩
        rcases List.eq_nil_or_concat rest with rfl | ⟨rest, last', rfl⟩
        · obtain ⟨rfl, same⟩ := List.append_inj' split rfl
          exact (List.cons.inj same).1 ▸ keeps
        · have shorter : since ++ [last] = (part ++ m' :: rest) ++ [last'] := by simpa using split
          exact kept part m' rest (List.append_inj_left' shorter rfl)
    · rintro ⟨before, m, since, split, began, kept⟩
      rcases List.eq_nil_or_concat since with rfl | ⟨since, last', rfl⟩
      · obtain ⟨rfl, same⟩ := List.append_inj' split rfl
        exact .inl ((List.cons.inj same).1 ▸ began)
      · rw [List.concat_eq_append, ← List.cons_append, ← List.append_assoc] at split
        obtain ⟨rfl, same⟩ := List.append_inj' split rfl
        obtain rfl := (List.cons.inj same).1
        refine .inr ⟨⟨before, m, since, rfl, began, fun part m' rest split => ?_⟩, ?_⟩
        · exact kept part m' (rest ++ [last]) (by simp [split])
        · exact kept since last [] (by simp)

end StoryScript
