import StoryScript.Proofs.Fields
import Mathlib.Data.Set.Insert
import Mathlib.Order.BooleanAlgebra.Set

/-!
# Locks follow the session

An editor takes the lock of a statement when it opens it and gives it back when it closes it, and on
the way an operation may fail at many points. As long as others act for themselves only, the locks
of an editor are at any time those that its session needs: one lock while a session may be saved,
none otherwise.

## Main definitions

* `LockTable.heldBy` — the statements that a participant holds.
* `Stage.needs` — the locks that a stage needs.
* `Event.Spares` — an event is no call of others in the name of a given participant.
* `Editor.Holds` — an editor holds what its stage needs.

## Main statements

* `heldBy_after_of_ne` — calls of others leave the locks of a participant alone.
* `Exit.holds` — every way for a request to end leaves an editor with the locks it needs.
* `heldBy_run`, `locks_follow_session` — so does every run of a new editor.
-/

namespace StoryScript

namespace LockTable

variable {t : LockTable} {p q : Participant} {node : String}

/-- The statements that a participant holds. -/
def heldBy (t : LockTable) (p : Participant) : Set String :=
  {n | t.holder? n = some p}

theorem heldBy_acquire (live : t.lifetime = .unlimited) (h : (t.acquire p node).1 = true) :
    (t.acquire p node).2.heldBy p = insert node (t.heldBy p) := by
  ext n
  by_cases hn : n = node <;> simp [heldBy, holder?_acquire t p node live h, hn]

theorem heldBy_release : (t.release p node).heldBy p = t.heldBy p \ {node} := by
  ext n
  by_cases hn : n = node <;> simp [heldBy, holder?_release, hn]

@[simp] theorem heldBy_announce : (t.announce q node).heldBy p = t.heldBy p := rfl

@[simp] theorem lifetime_after (call : LockCall) : (t.after q call).lifetime = t.lifetime := by
  cases call <;> simp [after]

/-- Others can neither give back what a participant holds nor take locks in its name. -/
theorem heldBy_after_of_ne (live : t.lifetime = .unlimited) (h : q ≠ p) (call : LockCall) :
    (t.after q call).heldBy p = t.heldBy p := by
  ext n
  cases call with
  | acquire node =>
    cases granted : (t.acquire q node).1 with
    | false => simp [after, acquire_denied t q node granted]
    | true =>
      have free := (acquire_granted_iff t q node).1 granted
      by_cases hn : n = node
      · subst hn
        rcases free with free | free <;>
          simp [heldBy, after, holder?_acquire t q n live granted, free, h]
      · simp [heldBy, after, holder?_acquire t q node live granted, hn]
  | release node =>
    by_cases hn : n = node <;> by_cases hq : t.holder? n = some q <;>
      simp_all [heldBy, after, holder?_release]
  | releaseAll =>
    by_cases hq : t.holder? n = some q <;> simp_all [heldBy, after, holder?_releaseAll]
  | announce node => simp [after]

end LockTable

/-- The locks that a stage needs: the one of an open statement that may be saved. -/
def Stage.needs (stage : Stage) : Set String :=
  {n | ∃ s, stage.session? = some s ∧ s.readOnly = false ∧ s.nodeId = n}

namespace Stage

variable {stage : Stage} {v : View} {s : Session}

/-- The name of a stage tells whether a statement is open, and which. -/
theorem name_eq_editing_iff (n : String) :
    stage.name = "Editing(" ++ n ++ ")" ↔ ∃ s, stage.session? = some s ∧ s.nodeId = n := by
  cases stage with
  | idle | ready v => simp [name, session?, ← String.toList_inj]
  | editing v s =>
    have name_eq : (editing v s).name = "Editing(" ++ s.nodeId ++ ")" := rfl
    rw [name_eq]
    simp [session?, ← String.toList_inj]

theorem needs_eq_empty (h : stage.session? = none) : stage.needs = ∅ := by
  ext n
  simp [needs, h]

theorem needs_readOnly (h : s.readOnly = true) : (editing v s).needs = ∅ := by
  ext n
  simp [needs, session?, h]

theorem needs_writable (h : s.readOnly = false) : (editing v s).needs = {s.nodeId} := by
  ext n
  constructor
  · rintro ⟨s', open', -, rfl⟩
    cases open'
    rfl
  · rintro rfl
    exact ⟨s, rfl, h, rfl⟩

end Stage

/-- The event is no call of others in the name of `me`, and locks are always given back when asked
for. -/
def Event.Spares (me : Participant) : Event → Prop
  | .lockFault fault => fault ≠ .release
  | .lock caller _ => caller ≠ me
  | _ => True

namespace Editor

/-- Locks never expire, giving them back never fails, and the editor holds just those that it
needs. -/
structure Holds (e : Editor) (w : Shared) : Prop where
  live : w.locks.lifetime = .unlimited
  answers : e.lockFault ≠ .release
  held : w.locks.heldBy e.me = e.stage.needs

variable {e e' : Editor} {w : Shared} {locks : LockTable} {node : String} {s : Session}

/-! ## The calls of an editor to the lock service -/

@[simp] theorem lifetime_tryLock : (e.tryLock locks node).2.lifetime = locks.lifetime := by
  unfold tryLock
  split <;> simp

@[simp] theorem lifetime_unlock : (e.unlock locks node).lifetime = locks.lifetime := by
  unfold unlock
  split <;> rfl

@[simp] theorem lifetime_announce : (e.announce locks node).lifetime = locks.lifetime := by
  unfold announce
  split <;> rfl

@[simp] theorem lifetime_closeSession : (e.closeSession locks s).lifetime = locks.lifetime := by
  unfold closeSession
  split <;> simp

theorem heldBy_tryLock (live : locks.lifetime = .unlimited)
    (granted : (e.tryLock locks node).1 = true) :
    (e.tryLock locks node).2.heldBy e.me = insert node (locks.heldBy e.me) := by
  unfold tryLock at granted ⊢
  split at granted
  · cases granted
  · cases granted
  · exact LockTable.heldBy_acquire live granted

theorem tryLock_denied (denied : (e.tryLock locks node).1 = false) :
    (e.tryLock locks node).2 = locks := by
  unfold tryLock at denied ⊢
  split at denied
  · rfl
  · rfl
  · exact LockTable.acquire_denied locks e.me node denied

theorem heldBy_unlock (answers : e.lockFault ≠ .release) :
    (e.unlock locks node).heldBy e.me = locks.heldBy e.me \ {node} := by
  unfold unlock
  rw [if_neg answers, LockTable.heldBy_release]

@[simp] theorem heldBy_announce : (e.announce locks node).heldBy e.me = locks.heldBy e.me := by
  unfold announce
  split <;> rfl

/-- Closing a session gives back what it needed. -/
theorem heldBy_closeSession {v : View} (h : e.Holds w) (stage : e.stage = .editing v s) :
    (e.closeSession w.locks s).heldBy e.me = ∅ := by
  have held := h.held
  unfold closeSession
  cases readOnly : s.readOnly with
  | true =>
    rw [stage, Stage.needs_readOnly readOnly] at held
    simpa using held
  | false =>
    rw [stage, Stage.needs_writable readOnly] at held
    simp [heldBy_unlock h.answers, held]

/-! ## Every way to end -/

/-- Nothing was done to the locks, and no session was open or is open now. -/
theorem Holds.unlocked (h : e.Holds w) (same : e.SameSetup e') (before : e.stage.session? = none)
    (after : e'.stage.session? = none) {store : Store} : e'.Holds { w with store } where
  live := h.live
  answers := same.lockFault ▸ h.answers
  held := by
    rw [same.me, Stage.needs_eq_empty after, ← Stage.needs_eq_empty before]
    exact h.held

/-- The session was closed. -/
theorem Holds.closed {v : View} (h : e.Holds w) (same : e.SameSetup e')
    (before : e.stage = .editing v s) (after : e'.stage.session? = none) {store : Store} :
    e'.Holds ⟨store, e.closeSession w.locks s⟩ where
  live := by simpa using h.live
  answers := same.lockFault ▸ h.answers
  held := by
    rw [same.me, Stage.needs_eq_empty after]
    exact heldBy_closeSession h before

/-- Wherever a request ends, the editor holds just the locks that it needs. -/
theorem Exit.holds {r : Request} {o : Outcome Answer} (exit : Exit e w r o) (h : e.Holds w) :
    o.2.1.Holds o.2.2 := by
  have same := exit.setup
  cases exit with
  | refused | undrawn | saveBlocked | unwritten | changeIgnored => exact h
  | loadFailed stage refresh =>
    obtain ⟨k, rfl⟩ := refresh_error refresh
    exact ⟨h.live, h.answers, h.held⟩
  | loaded stage refresh => exact h.unlocked same stage rfl
  | filtered stage => exact h.unlocked same (Stage.session?_of_ready stage) rfl
  | beginStale stage stale | insertStale stage stale =>
    obtain ⟨-, v, stage'⟩ := reload_setup (catchUp_error stale).2
    exact h.unlocked same (Stage.session?_of_ready stage) (Stage.session?_of_ready stage')
  | beginUnknown stage fresh | insertUnknown stage fresh | uninserted stage fresh
  | insertedNothing stage fresh =>
    obtain ⟨-, stage', -⟩ := catchUp_setup fresh stage
    exact h.unlocked same (Stage.session?_of_ready stage) (Stage.session?_of_ready stage')
  | @beginUnread v v' node e' entry err stage fresh =>
    obtain ⟨-, stage', -⟩ := catchUp_setup fresh stage
    have idle := Stage.session?_of_ready stage'
    obtain ⟨live, answers, held⟩ : e'.Holds w :=
      h.unlocked same (Stage.session?_of_ready stage) idle
    have none_needed := Stage.needs_eq_empty idle
    refine ⟨?_, answers, ?_⟩
    · split <;> simp [live]
    · split
      · next granted =>
        simp [heldBy_unlock answers, heldBy_tryLock live granted, held, none_needed]
      · next denied => rw [tryLock_denied (by simpa using denied), held]
  | @opened v v' node e' entry excerpt stage fresh known read s session =>
    obtain ⟨setup, stage', -⟩ := catchUp_setup fresh stage
    have idle := Stage.session?_of_ready stage'
    obtain ⟨live, answers, held⟩ : e'.Holds w :=
      h.unlocked setup (Stage.session?_of_ready stage) idle
    rw [Stage.needs_eq_empty idle] at held
    have node_eq : s.nodeId = node := by simp only [session, Session.nodeId_ofExcerpt]
    have readOnly : s.readOnly = !(e'.tryLock w.locks node).1 := by
      simp only [session, Session.readOnly_ofExcerpt]
    refine ⟨?_, answers, ?_⟩
    · split <;> simp [live]
    · split
      · next granted =>
        rw [Stage.needs_writable (by simp [readOnly, granted]), node_eq]
        simpa [held] using heldBy_tryLock live granted
      · next denied =>
        rw [Stage.needs_readOnly (by simp [readOnly, denied]),
          tryLock_denied (by simpa using denied)]
        exact held
  | saveStale stage fault write due reload | saveReloaded stage fault write due reload
  | cancelStale stage due reload | cancelReloaded stage due reload =>
    obtain ⟨-, v, stage'⟩ := reload_setup reload
    exact h.closed same stage (Stage.session?_of_ready stage')
  | savePatched stage => exact h.closed same stage rfl
  | cancelled stage => exact h.closed same stage rfl
  | insertedStale stage fresh known write nonempty reload
  | inserted stage fresh known write nonempty reload =>
    obtain ⟨-, v, stage'⟩ := reload_setup reload
    exact h.unlocked same (Stage.session?_of_ready stage) (Stage.session?_of_ready stage')
  | changeStale stage reload | changeApplied stage reload =>
    obtain ⟨-, v, stage'⟩ := reload_setup reload
    exact h.unlocked same (Stage.session?_of_ready stage) (Stage.session?_of_ready stage')
  | changeDeferred stage => exact ⟨h.live, h.answers, h.held⟩

theorem holds_happen (x : Editor × Shared) (h : x.1.Holds x.2) {ev : Event}
    (spares : ev.Spares x.1.me) : (happen x ev).1.Holds (happen x ev).2 := by
  cases ev with
  | ask request => exact (exit_handle x.1 x.2 request).holds h
  | parser | pan | store => exact ⟨h.live, h.answers, h.held⟩
  | lockFault fault => exact ⟨h.live, spares, h.held⟩
  | lock caller call =>
    refine ⟨by simpa [happen] using h.live, h.answers, ?_⟩
    exact (LockTable.heldBy_after_of_ne h.live spares call).trans h.held

theorem me_happen (x : Editor × Shared) (ev : Event) : (happen x ev).1.me = x.1.me := by
  cases ev with
  | ask request => exact (exit_handle x.1 x.2 request).setup.me
  | _ => rfl

/-- After every run of a new editor that shares locks that never expire, and that alone acts in its
own name, it holds the locks that its stage needs. -/
theorem heldBy_run (script : String) (config : Config) (me : Participant) (parser : Parser)
    (w : Shared) (live : w.locks.lifetime = .unlimited)
    (none_held : ∀ n, w.locks.holder? n ≠ some me) (events : List Event)
    (spares : ∀ ev ∈ events, ev.Spares me) :
    (run (new script config me parser, w) events).2.locks.heldBy me =
      (run (new script config me parser, w) events).1.stage.needs := by
  obtain ⟨me_eq, holds⟩ : (run (new script config me parser, w) events).1.me = me ∧
      (run (new script config me parser, w) events).1.Holds
        (run (new script config me parser, w) events).2 := by
    refine run_induction (P := fun x => x.1.me = me ∧ x.1.Holds x.2) ⟨rfl, live, ?_, ?_⟩ ?_
    · exact LockFault.noConfusion
    · rw [Stage.needs_eq_empty rfl]
      exact Set.eq_empty_of_forall_notMem none_held
    · rintro y ⟨rfl, h⟩ ev mem
      exact ⟨me_happen y ev, holds_happen y h (spares ev mem)⟩
  have held := holds.held
  rwa [me_eq] at held

/-- After every run of a new editor that shares locks that never expire, and that alone acts in its
own name: nothing is open or one statement is, as the name of the stage says, and the editor holds
the lock of that statement if it may be saved, and no lock otherwise. A controller to which the same
happens tells what it is doing by that name, keeps the same session and leaves the same scripts and
locks behind; so its state is never one that an operation goes through on its way, and tells of an
open statement just as long as the session is kept. -/
theorem locks_follow_session (script : String) (config : Config) (me : Participant)
    (parser : Parser) (w : Shared) (live : w.locks.lifetime = .unlimited)
    (none_held : ∀ n, w.locks.holder? n ≠ some me) (events : List Event)
    (spares : ∀ ev ∈ events, ev.Spares me) :
    let x := run (new script config me parser, w) events
    let y := Controller.run (.new script config me parser, w) events
    (x.1.stage.name = "Idle" ∨ x.1.stage.name = "Ready" ∨
        ∃ n, x.1.stage.name = "Editing(" ++ n ++ ")") ∧
      (∀ n, x.1.stage.name = "Editing(" ++ n ++ ")" ↔
        ∃ s, x.1.stage.session? = some s ∧ s.nodeId = n) ∧
      (∀ s, x.1.stage.session? = some s → s.readOnly = false →
        x.2.locks.heldBy me = {s.nodeId}) ∧
      ((∀ s, x.1.stage.session? = some s → s.readOnly = true) → x.2.locks.heldBy me = ∅) ∧
      y.1.state.name = x.1.stage.name ∧
      y.1.session = x.1.stage.session?.map Session.unplaced ∧
      (∀ s, x.1.stage.session? = some s → y.1.seen = some s.viewport) ∧ y.2 = x.2 ∧
      (y.1.state = .idle ∨ y.1.state = .ready ∨ ∃ n, y.1.state = .editing n) ∧
      (∀ n, y.1.state = .editing n ↔ ∃ s, y.1.session = some s ∧ s.nodeId = n) ∧
      (∀ s, y.1.session = some s → s.readOnly = false → y.2.locks.heldBy me = {s.nodeId}) ∧
      ((∀ s, y.1.session = some s → s.readOnly = true) → y.2.locks.heldBy me = ∅) := by
  intro x y
  have held : x.2.locks.heldBy me = x.1.stage.needs :=
    heldBy_run script config me parser w live none_held events spares
  obtain ⟨left, y_eq⟩ : ∃ left, y = (x.1.fields left, x.2) :=
    run_new_fields script config me parser w events
  have session_eq : (x.1.fields left).session = x.1.stage.session?.map Session.unplaced := rfl
  have one_held : ∀ s, x.1.stage.session? = some s → s.readOnly = false →
      x.2.locks.heldBy me = {s.nodeId} := by
    intro s isOpen writable
    obtain ⟨v, stage⟩ := Stage.exists_view_of_session? isOpen
    rw [held, stage, Stage.needs_writable writable]
  have no_held : (∀ s, x.1.stage.session? = some s → s.readOnly = true) →
      x.2.locks.heldBy me = ∅ := by
    intro readOnly
    rw [held]
    refine Set.eq_empty_of_forall_notMem ?_
    rintro n ⟨s, isOpen, writable, -⟩
    simp [readOnly s isOpen] at writable
  rw [y_eq]
  refine ⟨?_, fun n => Stage.name_eq_editing_iff n, one_held, no_held, ?_, session_eq,
    fun s isOpen => seen_fields x.1 left isOpen, rfl, state_fields_cases x.1 left,
    state_fields_eq_editing_iff x.1 left, ?_, ?_⟩
  · cases x.1.stage with
    | idle => exact .inl rfl
    | ready v => exact .inr (.inl rfl)
    | editing v s => exact .inr (.inr ⟨s.nodeId, rfl⟩)
  · rw [state_fields, Stage.name_state]
  · intro s isOpen writable
    rw [session_eq] at isOpen
    obtain ⟨s', isOpen', rfl⟩ := Option.map_eq_some_iff.1 isOpen
    exact one_held s' isOpen' writable
  · intro readOnly
    refine no_held fun s isOpen => ?_
    exact readOnly s.unplaced (by rw [session_eq, isOpen, Option.map_some])

/-- One statement was open read-only while another participant held its lock, and was closed; then
the parser failed and another statement was opened. The editor holds the lock of that one only, and
so does a controller, which tells that this one is open. -/
theorem locks_follow_session_beside_rival :
    let w : Shared := { store := ({} : Store).put "s" "label a:\n    one\n    two\n" }
    let events : List Event := [.ask .load, .lock 1 (.acquire "a-0"), .ask (.beginEdit "a-0"),
      .ask .cancel, .lock 1 .releaseAll, .parser fun _ => .error "down", .ask (.beginEdit "a-1")]
    w.locks.lifetime = .unlimited ∧ (∀ n, w.locks.holder? n ≠ some 0) ∧
      (∀ ev ∈ events, ev.Spares 0) ∧
      (run (new "s" {} 0 outline, w) events).2.locks.heldBy 0 = {"a-1"} ∧
      (Controller.run (.new "s" {} 0 outline, w) events).1.state = .editing "a-1" ∧
      (Controller.run (.new "s" {} 0 outline, w) events).2.locks.heldBy 0 = {"a-1"} := by
  intro w events
  have none_held : ∀ n, w.locks.holder? n ≠ some 0 := fun n h => by cases h
  have spares : ∀ ev ∈ events, ev.Spares 0 := by simp [events, Event.Spares]
  have writable : ((run (new "s" {} 0 outline, w) events).1.stage.session?.map
      fun s => (s.nodeId, s.readOnly)) = some ("a-1", false) := by decide +kernel
  obtain ⟨s, isOpen, fields⟩ := Option.map_eq_some_iff.1 writable
  obtain ⟨node, readOnly⟩ := Prod.mk.inj fields
  obtain ⟨-, -, held, -, -, session, -, shared, -, opened, -⟩ :=
    locks_follow_session "s" {} 0 outline w rfl none_held events spares
  have held := held s isOpen readOnly
  rw [node] at held
  refine ⟨rfl, none_held, spares, held, ?_, ?_⟩
  · refine (opened "a-1").2 ⟨s.unplaced, ?_, node⟩
    rw [session, isOpen, Option.map_some]
  · rw [shared]
    exact held

end Editor

end StoryScript
