import Mathlib.Data.List.Induction
import Mathlib.Logic.Function.Basic
import StoryScript.Proofs.Exits
import StoryScript.Proofs.LineOrigins

/-!
# Editors that share a script

Any number of editors work on the same stored scripts and the same locks. They are asked in any
order, and each request is done before the next one. In between, what is around an editor changes,
its parser for one, and locks expire. What others edited is found in a log.

## Main definitions

* `Editor.edit?` — the edit of the stored script that a request makes.
* `Surroundings`, `Editor.amid` — what is around an editor, and the editor after a change of it.
* `Room` — editors and what they share; `Room.answer`, `Room.call`.
* `Moment`, `Room.pass`, `Room.run` — what happens among editors, at one moment and one after
  another.
* `Room.log` — the edits made in a run, each with its author.
* `Room.Opening` — where in a run a statement was opened that is open at its end.

## Main statements

* `Editor.Exit.edit` — a request changes the stored script by its edit and in no other way.
* `Room.getElem?_run` — every line after a run reads as its origin before the run does.
* `Room.exists_opening` — an open statement was opened somewhere in the run.
-/

namespace StoryScript

open Text (Edit Origin origin)

namespace Editor

/-- The edit of the stored script that a request makes, if it makes one. -/
def edit? (e : Editor) (w : Shared) : Request → Option Edit
  | .save q =>
    match e.stage with
    | .editing _ s =>
      if e.saveFault? s q = none ∧
          (w.store.writeRange e.script s.startLine s.endLine (s.text q)).isOk then
        some ⟨s.startLine, s.endLine + 1 - s.startLine, Text.toLines (s.text q)⟩
      else none
    | _ => none
  | .insertAfter node text =>
    match e.stage with
    | .ready v =>
      match e.catchUp w.store v with
      | (.ok v, _) =>
        match v.lineMap.entry? node with
        | some entry =>
          if (w.store.insertLines e.script (entry.endLine + 1) text).isOk then
            some ⟨entry.endLine + 1, 0, Text.toLines text⟩
          else none
        | none => none
      | _ => none
    | _ => none
  | _ => none

variable {e : Editor} {w : Shared} {r : Request} {o : Outcome Answer}

theorem edit?_refused (stage : e.stage.allows r = false) : e.edit? w r = none := by
  cases r with
  | save q | insertAfter node text => cases h : e.stage <;> simp_all [edit?, Stage.allows]
  | _ => rfl

theorem edit?_saveBlocked {v : View} {s : Session} {q : SaveRequest} {err : SyncError}
    (stage : e.stage = .editing v s) (fault : e.saveFault? s q = some err) :
    e.edit? w (.save q) = none := by
  simp [edit?, stage, fault]

theorem edit?_unwritten {v : View} {s : Session} {q : SaveRequest} {err : StoreError}
    (stage : e.stage = .editing v s)
    (write : w.store.writeRange e.script s.startLine s.endLine (s.text q) = .error err) :
    e.edit? w (.save q) = none := by
  simp [edit?, stage, write, Except.isOk, Except.toBool]

theorem edit?_saved {v : View} {s : Session} {q : SaveRequest} {store : Store}
    {written : Text.Written} (stage : e.stage = .editing v s) (fault : e.saveFault? s q = none)
    (write : w.store.writeRange e.script s.startLine s.endLine (s.text q)
      = .ok (store, written)) :
    e.edit? w (.save q) =
      some ⟨s.startLine, s.endLine + 1 - s.startLine, Text.toLines (s.text q)⟩ := by
  simp [edit?, stage, fault, write, Except.isOk, Except.toBool]

theorem edit?_insertStale {v : View} {node text : String} {err : SyncError} {e' : Editor}
    (stage : e.stage = .ready v) (stale : e.catchUp w.store v = (.error err, e')) :
    e.edit? w (.insertAfter node text) = none := by
  simp [edit?, stage, stale]

section Inserting

variable {v v' : View} {node text : String} {e' : Editor} {entry : Entry}
  (stage : e.stage = .ready v) (fresh : e.catchUp w.store v = (.ok v', e'))

include stage fresh

theorem edit?_insertUnknown (unknown : v'.lineMap.entry? node = none) :
    e.edit? w (.insertAfter node text) = none := by
  simp [edit?, stage, fresh, unknown]

theorem edit?_uninserted {err : StoreError} (known : v'.lineMap.entry? node = some entry)
    (write : w.store.insertLines e'.script (entry.endLine + 1) text = .error err) :
    e.edit? w (.insertAfter node text) = none := by
  rw [(catchUp_setup fresh stage).1.script] at write
  simp [edit?, stage, fresh, known, write, Except.isOk, Except.toBool]

theorem edit?_inserted {store : Store} {written : Text.Written}
    (known : v'.lineMap.entry? node = some entry)
    (write : w.store.insertLines e'.script (entry.endLine + 1) text = .ok (store, written)) :
    e.edit? w (.insertAfter node text) = some ⟨entry.endLine + 1, 0, Text.toLines text⟩ := by
  rw [(catchUp_setup fresh stage).1.script] at write
  simp [edit?, stage, fresh, known, write, Except.isOk, Except.toBool]

end Inserting

/-- Either a request leaves all that is stored as it is, or it makes an edit of the lines of the
script. -/
theorem Exit.edit (exit : Exit e w r o) :
    (e.edit? w r = none ∧ o.2.2.store = w.store) ∨
      ∃ d lines, e.edit? w r = some d ∧ w.store.lines? e.script = some lines ∧ d.Fits lines ∧
        o.2.2.store.lines? e.script = some (d.apply lines) := by
  have saves {v s q store written} (stage : e.stage = .editing v s)
      (fault : e.saveFault? s q = none)
      (write : w.store.writeRange e.script s.startLine s.endLine (s.text q)
        = .ok (store, written)) :
      ∃ d lines, e.edit? w (.save q) = some d ∧ w.store.lines? e.script = some lines ∧
        d.Fits lines ∧ store.lines? e.script = some (d.apply lines) := by
    obtain ⟨lines, before, forward, inside, after, -⟩ := Store.writeRange_ok write
    refine ⟨_, lines, edit?_saved stage fault write, before, ?_, after⟩
    simp only [Edit.Fits]
    omega
  have inserts {v v' node text e' entry store written} (stage : e.stage = .ready v)
      (fresh : e.catchUp w.store v = (.ok v', e')) (known : v'.lineMap.entry? node = some entry)
      (write : w.store.insertLines e'.script (entry.endLine + 1) text = .ok (store, written)) :
      ∃ d lines, e.edit? w (.insertAfter node text) = some d ∧
        w.store.lines? e.script = some lines ∧ d.Fits lines ∧
        store.lines? e.script = some (d.apply lines) := by
    have edit_eq := edit?_inserted stage fresh known write
    rw [(catchUp_setup fresh stage).1.script] at write
    obtain ⟨lines, before, inside, after⟩ := Store.insertLines_ok write
    exact ⟨_, lines, edit_eq, before, inside, after⟩
  cases exit with
  | refused stage => exact .inl ⟨edit?_refused stage, rfl⟩
  | loadFailed | loaded | undrawn | filtered | beginStale | beginUnknown | beginUnread | opened
  | cancelStale | cancelReloaded | cancelled | changeIgnored | changeStale | changeApplied
  | changeDeferred => exact .inl ⟨rfl, rfl⟩
  | saveBlocked stage fault => exact .inl ⟨edit?_saveBlocked stage fault, rfl⟩
  | unwritten stage fault write => exact .inl ⟨edit?_unwritten stage write, rfl⟩
  | saveStale stage fault write | saveReloaded stage fault write
  | savePatched stage fault write => exact .inr (saves stage fault write)
  | insertStale stage stale => exact .inl ⟨edit?_insertStale stage stale, rfl⟩
  | insertUnknown stage fresh unknown => exact .inl ⟨edit?_insertUnknown stage fresh unknown, rfl⟩
  | uninserted stage fresh known write =>
    exact .inl ⟨edit?_uninserted stage fresh known write, rfl⟩
  | insertedNothing stage fresh known write | insertedStale stage fresh known write
  | inserted stage fresh known write => exact .inr (inserts stage fresh known write)

/-- A statement is open after a request if the request opened it, or if it was open before; then
nothing was edited, and only news of a change make a refresh due. -/
theorem Exit.session {s : Session} (exit : Exit e w r o) (isOpen : o.2.1.stage.session? = some s) :
    (e.stage.session? = none ∧ ∃ node, r = .beginEdit node ∧ o.1 = .ok (.opened s)) ∨
      e.stage.session? = some s ∧ e.edit? w r = none ∧
        (o.2.1.pending = true ↔ e.pending = true ∨ r = .scriptChanged) := by
  have closed {v : View} (stage : o.2.1.stage = .ready v) : False := by
    simp [Stage.session?_of_ready stage] at isOpen
  cases exit with
  | @opened v v' node e' entry excerpt stage fresh known read s' session =>
    refine .inl ⟨Stage.session?_of_ready stage, node, rfl, ?_⟩
    rw [Option.some.inj isOpen]
  | refused stage =>
    refine .inr ⟨isOpen, edit?_refused stage, .inl, ?_⟩
    rintro (pending | rfl)
    · exact pending
    · simp [Stage.allows] at stage
  | saveBlocked stage fault => exact .inr ⟨isOpen, edit?_saveBlocked stage fault, by simp⟩
  | unwritten stage fault write => exact .inr ⟨isOpen, edit?_unwritten stage write, by simp⟩
  | changeDeferred => exact .inr ⟨isOpen, rfl, by simp⟩
  | changeIgnored stage => simp [stage, Stage.session?] at isOpen
  | loadFailed stage refresh =>
    obtain ⟨k, rfl⟩ := refresh_error refresh
    simp [stage] at isOpen
  | undrawn stage => exact (closed stage).elim
  | loaded | filtered | savePatched | cancelled => exact (closed rfl).elim
  | beginStale stage stale | insertStale stage stale =>
    obtain ⟨-, v, stage'⟩ := reload_setup (catchUp_error stale).2
    exact (closed stage').elim
  | beginUnknown stage fresh | beginUnread stage fresh | insertUnknown stage fresh
  | uninserted stage fresh | insertedNothing stage fresh =>
    exact (closed (catchUp_setup fresh stage).2.1).elim
  | saveStale stage fault write due reload | saveReloaded stage fault write due reload
  | cancelStale stage due reload | cancelReloaded stage due reload
  | changeStale stage reload | changeApplied stage reload
  | insertedStale stage fresh known write nonempty reload
  | inserted stage fresh known write nonempty reload =>
    obtain ⟨-, v, stage'⟩ := reload_setup reload
    exact (closed stage').elim

/-- A statement that is opened was read from its range, and no refresh is due then. -/
theorem Exit.opening {node : String} {s : Session} (exit : Exit e w (.beginEdit node) o)
    (opened : o.1 = .ok (.opened s)) :
    (∃ entry excerpt viewport, w.store.readRange e.script entry.startLine entry.endLine
          = .ok excerpt ∧
        s = Session.ofExcerpt node entry excerpt s.readOnly viewport) ∧
      o.2.1.stage.session? = some s ∧ o.2.1.pending = false := by
  cases exit with
  | @opened v v' node e' entry excerpt stage fresh known read s' session =>
    obtain ⟨setup, -, up_to_date⟩ := catchUp_setup fresh stage
    cases opened
    refine ⟨⟨entry, excerpt, e'.canvas.viewport, setup.script ▸ read, ?_⟩, rfl, up_to_date⟩
    rw [session, Session.readOnly_ofExcerpt]
  | _ => cases opened

end Editor

/-- What is around an editor, apart from the scripts and the locks. -/
inductive Surroundings where
  /-- The parser, which may fail. -/
  | parser (parser : Parser)
  /-- The connection to the lock service. -/
  | lockFault (fault : LockFault)
  /-- The part of the canvas to which the user has moved. -/
  | pan (viewport : Viewport)

namespace Editor

/-- An editor when its surroundings have changed. -/
def amid (e : Editor) : Surroundings → Editor
  | .parser parser => { e with parser }
  | .lockFault lockFault => { e with lockFault }
  | .pan viewport => { e with canvas := e.canvas.restore viewport }

section

variable (e : Editor) (x : Surroundings)

@[simp] theorem script_amid : (e.amid x).script = e.script := by cases x <;> rfl

@[simp] theorem me_amid : (e.amid x).me = e.me := by cases x <;> rfl

@[simp] theorem stage_amid : (e.amid x).stage = e.stage := by cases x <;> rfl

@[simp] theorem pending_amid : (e.amid x).pending = e.pending := by cases x <;> rfl

end

end Editor

/-- The lock of a statement expires. Nobody can tell it from one that was given back. -/
def LockTable.expire (t : LockTable) (node : String) : LockTable :=
  { t with taken := t.taken.erase node }

/-- What happens among editors: one of them is asked for something, its surroundings change, or the
lock of a statement expires. -/
inductive Moment (ι : Type) where
  | ask (i : ι) (request : Request)
  | change (i : ι) (surroundings : Surroundings)
  | expire (node : String)

/-- A condition that holds at the end of a run and not at its start holds since some step. -/
theorem exists_since {σ μ : Type} (step : σ → μ → σ) (x : σ) (P : σ → Prop) (start : ¬ P x)
    {steps : List μ} (now : P (steps.foldl step x)) :
    ∃ before m since, steps = before ++ m :: since ∧ ¬ P (before.foldl step x) ∧
      ∀ part, part <+: since → P ((before ++ m :: part).foldl step x) := by
  induction steps using List.reverseRecOn with
  | nil => exact (start now).elim
  | append_singleton steps m ih =>
    by_cases last : P (steps.foldl step x)
    · obtain ⟨before, m', since, rfl, not_before, kept⟩ := ih last
      refine ⟨before, m', since ++ [m], by simp, not_before, fun part isPrefix => ?_⟩
      rcases List.prefix_concat_iff.1 isPrefix with rfl | isPrefix
      · simpa using now
      · exact kept part isPrefix
    · refine ⟨steps, m, [], rfl, last, fun part isPrefix => ?_⟩
      rwa [List.prefix_nil.1 isPrefix]

/-- Editors and what they share. -/
structure Room (ι : Type) where
  editor : ι → Editor
  shared : Shared

namespace Room

variable {ι : Type} [DecidableEq ι] {r : Room ι} {script : String} {moments : List (Moment ι)}
  {m : Moment ι} {i : ι} {s : Session}

/-- What an editor answers to a request. -/
def answer (r : Room ι) (i : ι) (request : Request) : Except SyncError Answer :=
  ((r.editor i).handle r.shared request).1

/-- A room after an editor was asked for something. -/
def call (r : Room ι) (c : ι × Request) : Room ι where
  editor := Function.update r.editor c.1 ((r.editor c.1).handle r.shared c.2).2.1
  shared := ((r.editor c.1).handle r.shared c.2).2.2

/-- A room after a moment. -/
def pass (r : Room ι) : Moment ι → Room ι
  | .ask i request => r.call (i, request)
  | .change i x => { r with editor := Function.update r.editor i ((r.editor i).amid x) }
  | .expire node => { r with shared := { r.shared with locks := r.shared.locks.expire node } }

/-- A room after one moment after another. -/
def run (r : Room ι) (moments : List (Moment ι)) : Room ι :=
  moments.foldl pass r

theorem run_append (moments moments' : List (Moment ι)) :
    r.run (moments ++ moments') = (r.run moments).run moments' :=
  List.foldl_append

/-- The session that an editor has open. -/
def session? (r : Room ι) (i : ι) : Option Session :=
  (r.editor i).stage.session?

/-- The stored lines of a script. -/
def lines? (r : Room ι) (script : String) : Option (List String) :=
  r.shared.store.lines? script

/-- The edit made at a moment, with its author. -/
def logged (r : Room ι) : Moment ι → List (ι × Edit)
  | .ask i request => ((r.editor i).edit? r.shared request).toList.map (i, ·)
  | _ => []

/-- The edits made in a run, each with its author. -/
def log (r : Room ι) : List (Moment ι) → List (ι × Edit)
  | [] => []
  | m :: moments => r.logged m ++ (r.pass m).log moments

/-- All editors work on this script. -/
def On (r : Room ι) (script : String) : Prop :=
  ∀ i, (r.editor i).script = script

@[simp] theorem editor_call_self (c : ι × Request) :
    (r.call c).editor c.1 = ((r.editor c.1).handle r.shared c.2).2.1 := by
  simp [call]

theorem editor_call_of_ne {c : ι × Request} (ne : i ≠ c.1) :
    (r.call c).editor i = r.editor i := by
  simp [call, ne]

/-- What a change of surroundings leaves of any editor. -/
theorem editor_change (j : ι) (x : Surroundings) :
    ((r.pass (.change j x)).editor i).script = (r.editor i).script ∧
      ((r.pass (.change j x)).editor i).me = (r.editor i).me ∧
      ((r.pass (.change j x)).editor i).stage = (r.editor i).stage ∧
      ((r.pass (.change j x)).editor i).pending = (r.editor i).pending := by
  by_cases mine : i = j
  · subst mine
    simp [pass]
  · simp [pass, mine]

theorem On.pass (on : r.On script) (m : Moment ι) : (r.pass m).On script := by
  intro i
  cases m with
  | ask j request =>
    by_cases mine : i = j
    · subst mine
      rw [Room.pass, editor_call_self (i, request), ← on i]
      exact (Editor.exit_handle (r.editor i) r.shared request).setup.script
    · rw [Room.pass, editor_call_of_ne mine, on i]
  | change j x => rw [(editor_change j x).1, on i]
  | expire node => exact on i

theorem On.run (on : r.On script) (moments : List (Moment ι)) : (r.run moments).On script :=
  List.foldlRecOn (motive := fun r => r.On script) moments Room.pass on fun _ on m _ => on.pass m

/-- A moment changes the lines of the script by the edit that it logs. -/
theorem lines_pass (on : r.On script) {lines : List String} (before : r.lines? script = some lines)
    (m : Moment ι) :
    (r.logged m = [] ∧ (r.pass m).lines? script = some lines) ∨
      ∃ i d, r.logged m = [(i, d)] ∧ d.Fits lines ∧
        (r.pass m).lines? script = some (d.apply lines) := by
  cases m with
  | change | expire => exact .inl ⟨rfl, before⟩
  | ask i request =>
    have exit := Editor.exit_handle (r.editor i) r.shared request
    rcases exit.edit with ⟨none, same⟩ | ⟨d, lines', some, before', fits, after⟩
    · refine .inl ⟨by simp [logged, none], ?_⟩
      rw [← before]
      exact congrArg (·.lines? script) same
    · rw [on i] at before' after
      obtain rfl : lines = lines' := Option.some.inj (before.symm.trans before')
      exact .inr ⟨i, d, by simp [logged, some], fits, after⟩

/-- Every line after a run reads as its origin did before the run. -/
theorem getElem?_run (on : r.On script) {lines : List String}
    (before : r.lines? script = some lines) (moments : List (Moment ι)) :
    ∃ now, (r.run moments).lines? script = some now ∧
      ∀ k, now[k]? = (origin ((r.log moments).map Prod.snd) k).read lines := by
  induction moments generalizing r lines with
  | nil => exact ⟨lines, before, fun k => rfl⟩
  | cons m moments ih =>
    rcases lines_pass on before m with ⟨none, same⟩ | ⟨i, d, some, fits, after⟩
    · obtain ⟨now, present, reads⟩ := ih (on.pass m) same
      refine ⟨now, present, fun k => ?_⟩
      simpa [log, none] using reads k
    · obtain ⟨now, present, reads⟩ := ih (on.pass m) after
      refine ⟨now, present, fun k => ?_⟩
      rw [reads k, Origin.read_apply fits]
      simp [log, some, origin]

/-! ## Open statements -/

/-- A statement that is open was open before, or it was just opened. -/
theorem session_pass (isOpen : (r.pass m).session? i = some s) :
    r.session? i = some s ∨
      ∃ node, m = .ask i (.beginEdit node) ∧ r.answer i (.beginEdit node) = .ok (.opened s) := by
  cases m with
  | change j x =>
    rw [session?, (editor_change j x).2.2.1] at isOpen
    exact .inl isOpen
  | expire node => exact .inl isOpen
  | ask j request =>
    by_cases mine : i = j
    · subst mine
      rw [pass, session?, editor_call_self (i, request)] at isOpen
      rcases (Editor.exit_handle (r.editor i) r.shared request).session isOpen with
        ⟨-, node, rfl, opened⟩ | ⟨before, -⟩
      · exact .inr ⟨node, rfl, opened⟩
      · exact .inl before
    · rw [pass, session?, editor_call_of_ne mine] at isOpen
      exact .inl isOpen

/-- Where in a run a statement was opened that is open at its end. -/
structure Opening (r : Room ι) (moments : List (Moment ι)) (i : ι) (s : Session) where
  /-- What happened before it was opened. -/
  before : List (Moment ι)
  node : String
  /-- What happened since. -/
  since : List (Moment ι)
  split : moments = before ++ .ask i (.beginEdit node) :: since
  opened : (r.run before).answer i (.beginEdit node) = .ok (.opened s)
  kept : ∀ part, part <+: since →
    (r.run (before ++ .ask i (.beginEdit node) :: part)).session? i = some s

/-- When nothing is open at first, a statement that is open was opened in the run. -/
theorem exists_opening (closed : ∀ i, r.session? i = none)
    (isOpen : (r.run moments).session? i = some s) : Nonempty (r.Opening moments i s) := by
  obtain ⟨before, m, since, split, not_before, kept⟩ :=
    exists_since pass r (fun r => r.session? i = some s) (by simp [closed i]) isOpen
  have next := kept [] List.nil_prefix
  rw [List.foldl_append] at next
  rcases session_pass next with isOpen | ⟨node, rfl, opened⟩
  · exact (not_before isOpen).elim
  · exact ⟨before, node, since, split, opened, kept⟩

namespace Opening

variable (o : r.Opening moments i s)

/-- The room some time after the statement was opened. -/
def after (part : List (Moment ι)) : Room ι :=
  r.run (o.before ++ .ask i (.beginEdit o.node) :: part)

/-- The room right after the statement was opened. -/
def room : Room ι :=
  (r.run o.before).call (i, .beginEdit o.node)

theorem run_room (part : List (Moment ι)) : o.room.run part = o.after part := by
  rw [after, run_append]
  rfl

theorem after_concat (part : List (Moment ι)) (m : Moment ι) :
    o.after (part ++ [m]) = (o.after part).pass m := by
  simp [after, run]

theorem kept_room (part : List (Moment ι)) (isPrefix : part <+: o.since) :
    (o.room.run part).session? i = some s :=
  o.run_room part ▸ o.kept part isPrefix

theorem run_since : o.room.run o.since = r.run moments := by
  rw [run_room, after, ← o.split]

include o in
theorem isOpen : (r.run moments).session? i = some s := by
  rw [← o.run_since, run_room]
  exact o.kept _ List.prefix_rfl

theorem since_subset : o.since ⊆ moments := by
  intro m mem
  rw [o.split]
  exact List.mem_append_right _ (List.mem_cons_of_mem _ mem)

end Opening

/-- While a statement stays open its editor edits nothing, and a refresh becomes due exactly when it
hears of a change. -/
theorem log_of_kept (kept : ∀ part, part <+: moments → (r.run part).session? i = some s) :
    (∀ c ∈ r.log moments, c.1 ≠ i) ∧
      (((r.run moments).editor i).pending = true ↔
        (r.editor i).pending = true ∨ .ask i .scriptChanged ∈ moments) := by
  induction moments generalizing r with
  | nil => simp [log, run]
  | cons m moments ih =>
    have rest := ih (r := r.pass m) fun part isPrefix =>
      kept (m :: part) (List.cons_prefix_cons.2 ⟨rfl, isPrefix⟩)
    obtain ⟨others, pending⟩ := rest
    have now : r.session? i = some s := kept [] List.nil_prefix
    have next : (r.pass m).session? i = some s :=
      kept [m] (List.cons_prefix_cons.2 ⟨rfl, List.nil_prefix⟩)
    cases m with
    | change j x =>
      rw [(editor_change j x).2.2.2] at pending
      refine ⟨others, pending.trans ?_⟩
      simp
    | expire node =>
      refine ⟨others, pending.trans ?_⟩
      simp [pass]
    | ask j request =>
      by_cases mine : i = j
      · subst mine
        have exit := Editor.exit_handle (r.editor i) r.shared request
        rw [pass, session?, editor_call_self (i, request)] at next
        rw [pass, editor_call_self (i, request)] at pending
        rcases exit.session next with ⟨closed, -⟩ | ⟨-, none, due⟩
        · rw [session?, closed] at now
          cases now
        · refine ⟨by simpa [log, logged, none] using others, pending.trans ?_⟩
          rw [due, or_assoc, List.mem_cons, Moment.ask.injEq, eq_comm (b := request)]
          simp
      · rw [pass, editor_call_of_ne mine] at pending
        refine ⟨?_, pending.trans ?_⟩
        · rintro entry mem rfl
          rcases List.mem_append.1 mem with mem | mem
          · obtain ⟨d, -, rfl⟩ := List.mem_map.1 mem
            exact mine rfl
          · exact others entry mem rfl
        · simp [mine]

end Room

end StoryScript
