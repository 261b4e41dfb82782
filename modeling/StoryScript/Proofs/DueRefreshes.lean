import StoryScript.Proofs.Notices

/-!
# When a refresh is due

An editor remembers that what it shows may be out of date, and reads the script anew before it
addresses a line of it. Loading reads the script anew as well, but it does not count: when a refresh
is due, it is still due after the script was loaded.

## Main definitions

* `Text.Edit.shifts` — an edit moves the lines behind it.
* `Editor.reloads` — a request reads the script anew, in another way than by loading it.
* `MakesDue`, `Renews` — an event after which a refresh is due, and one that does it.

## Main statements

* `Exit.pending_iff` — whether a refresh is due after a request.
* `pending_run_iff` — and after a run, told from what happened.
* `refresh_due_iff` — when a refresh is due after the script was read anew, and what that means for
  who opens a statement or inserts behind one.
-/

namespace StoryScript

/-- The lines behind an edit move. -/
def Text.Edit.shifts (d : Text.Edit) : Bool :=
  d.removed != d.new.length

namespace Editor

variable {e e' : Editor} {w : Shared} {r : Request} {o : Outcome Answer} {v v' : View}
  {s : Session} {store : Store} {written : Text.Written} {node text : String} {entry : Entry}

/-- Whether a request reads the script anew, loading aside: for news of a change, after an edit that
moves lines, and when a refresh is due, before it addresses a line or when it closes a statement. -/
def reloads (e : Editor) (w : Shared) (r : Request) : Bool :=
  match e.stage, r with
  | .ready _, .scriptChanged => true
  | .ready _, .beginEdit _ | .editing .., .cancel => e.pending
  | .ready _, .insertAfter .. => e.pending || (e.edit? w r).any (·.shifts)
  | .editing .., .save _ => (e.edit? w r).any fun d => e.pending || d.shifts
  | _, _ => false

theorem reloads_refused (stage : e.stage.allows r = false) : e.reloads w r = false := by
  cases h : e.stage <;> cases r <;> simp_all [reloads, Stage.allows]

theorem reloads_load : e.reloads w .load = false := by
  cases h : e.stage <;> simp [reloads, h]

theorem reloads_save {q : SaveRequest} (stage : e.stage = .editing v s)
    (fault : e.saveFault? s q = none)
    (write : w.store.writeRange e.script s.startLine s.endLine (s.text q) = .ok (store, written)) :
    e.reloads w (.save q) = true ↔ written.lineDelta ≠ 0 ∨ e.pending = true := by
  obtain ⟨lines, -, forward, -, -, delta⟩ := Store.writeRange_ok write
  have moved : s.endLine + 1 - s.startLine ≠ (Text.toLines (s.text q)).length ↔
      written.lineDelta ≠ 0 := by omega
  simp [reloads, stage, edit?_saved stage fault write, Text.Edit.shifts, ← moved, or_comm]

theorem reloads_insertAfter (stage : e.stage = .ready v)
    (fresh : e.catchUp w.store v = (.ok v', e')) (known : v'.lineMap.entry? node = some entry)
    (write : w.store.insertLines e'.script (entry.endLine + 1) text = .ok (store, written)) :
    e.reloads w (.insertAfter node text) = true ↔ e.pending = true ∨ written.lineCount ≠ 0 := by
  obtain ⟨lines, lines', -, inserted, -⟩ := Store.edit_ok write
  obtain ⟨-, -, rfl⟩ := Text.insertAt_eq_ok_iff.1 inserted
  simp [reloads, stage, edit?_inserted stage fresh known write, Text.Edit.shifts, @eq_comm _ 0]

/-- Catching up with a refresh that is due gives what reading the script gives. -/
theorem reads_of_catchUp (due : e.pending = true) (caught : e.catchUp store v = (.ok v', e')) :
    e.Reads store v' := by
  rcases catchUp_ok caught with ⟨fresh, -⟩ | ⟨-, focused, reloaded⟩
  · simp [due] at fresh
  · exact (reload_ok reloaded).1

/-- News was put off, or the script could not be read anew. -/
def MakesDue (e : Editor) (w : Shared) (r : Request) (o : Outcome Answer) : Prop :=
  o.1 = .ok (.noted .deferred) ∨ (e.reloads w r = true ∧ ∀ v, ¬ e.Reads o.2.2.store v)

/-- The script was read anew, in another way than by loading it. -/
def Renews (e : Editor) (w : Shared) (r : Request) (o : Outcome Answer) : Prop :=
  e.reloads w r = true ∧ ∃ v, e.Reads o.2.2.store v

/-- After a request a refresh is due that the request made due, or that was due and was not done. -/
theorem Exit.pending_iff (exit : Exit e w r o) :
    o.2.1.pending = true ↔ e.MakesDue w r o ∨ (e.pending = true ∧ ¬ e.Renews w r o) := by
  -- most requests end with a refresh that was done or tried, or without one
  have done (fresh : o.2.1.pending = false) (news : o.1 ≠ .ok (.noted .deferred))
      (read : e.reloads w r = true → ∃ v, e.Reads o.2.2.store v)
      (left : e.reloads w r = false → e.pending = false) :
      o.2.1.pending = true ↔ e.MakesDue w r o ∨ (e.pending = true ∧ ¬ e.Renews w r o) := by
    grind [MakesDue, Renews]
  have failed (due : o.2.1.pending = true) (tried : e.reloads w r = true)
      (unread : ∀ v, ¬ e.Reads o.2.2.store v) :
      o.2.1.pending = true ↔ e.MakesDue w r o ∨ (e.pending = true ∧ ¬ e.Renews w r o) :=
    iff_of_true due (.inl (.inr ⟨tried, unread⟩))
  have untried (same : o.2.1.pending = e.pending) (news : o.1 ≠ .ok (.noted .deferred))
      (other : e.reloads w r = false) :
      o.2.1.pending = true ↔ e.MakesDue w r o ∨ (e.pending = true ∧ ¬ e.Renews w r o) := by
    grind [MakesDue, Renews]
  cases exit with
  | refused stage => exact untried rfl (by simp) (reloads_refused stage)
  | undrawn stage | filtered stage | changeIgnored stage =>
    exact untried rfl (by simp) (by simp [reloads, stage])
  | changeDeferred stage => exact iff_of_true rfl (.inl (.inl rfl))
  | loadFailed stage refresh =>
    obtain ⟨k, rfl⟩ := refresh_error refresh
    exact untried rfl (by simp) reloads_load
  | loaded stage refresh =>
    obtain ⟨-, rfl⟩ := refresh_ok refresh
    exact untried rfl (by simp) reloads_load
  | beginStale stage stale | insertStale stage stale =>
    obtain ⟨due, reload⟩ := catchUp_error stale
    have unread (v : View) := not_reads_of_reload (v := v) reload
    obtain ⟨k, rfl⟩ := reload_error reload
    exact failed rfl (by simp [reloads, stage, due]) unread
  | beginUnknown stage fresh | beginUnread stage fresh | opened stage fresh =>
    refine done (catchUp_setup fresh stage).2.2 (by simp) ?_ (by simp [reloads, stage])
    intro due
    exact ⟨_, reads_of_catchUp (by simpa [reloads, stage] using due) fresh⟩
  | @insertUnknown v v' node text e' stage fresh unknown =>
    have noEdit : e.edit? w (.insertAfter node text) = none :=
      edit?_insertUnknown stage fresh unknown
    refine done (catchUp_setup fresh stage).2.2 (by simp) ?_ (by simp [reloads, stage, noEdit])
    intro due
    exact ⟨_, reads_of_catchUp (by simpa [reloads, stage, noEdit] using due) fresh⟩
  | uninserted stage fresh known write =>
    have noEdit := edit?_uninserted stage fresh known write
    refine done (catchUp_setup fresh stage).2.2 (by simp) ?_ (by simp [reloads, stage, noEdit])
    intro due
    exact ⟨_, reads_of_catchUp (by simpa [reloads, stage, noEdit] using due) fresh⟩
  | insertedNothing stage fresh known write nothing =>
    have reloads_iff := reloads_insertAfter stage fresh known write
    refine done (catchUp_setup fresh stage).2.2 (by simp) ?_ (by grind)
    intro due
    obtain ⟨source, parsed, read, rest⟩ :=
      reads_of_catchUp (by simpa [nothing] using reloads_iff.1 due) fresh
    rw [← Store.readAll_insertLines_nothing write nothing] at read
    exact ⟨_, source, parsed, read, rest⟩
  | insertedStale stage fresh known write nonempty reload =>
    have reloads := (reloads_insertAfter stage fresh known write).2 (.inr nonempty)
    have unread (v : View) := not_reads_of_reload (v := v) reload
    simp only [(catchUp_setup fresh stage).1.reads_iff (catchUp_kept stage fresh).1] at unread
    obtain ⟨k, rfl⟩ := reload_error reload
    exact failed rfl reloads unread
  | inserted stage fresh known write nonempty reload =>
    have reloads := (reloads_insertAfter stage fresh known write).2 (.inr nonempty)
    obtain ⟨reads, -, rfl⟩ := reload_ok reload
    rw [(catchUp_setup fresh stage).1.reads_iff (catchUp_kept stage fresh).1] at reads
    exact done rfl (by simp) (fun _ => ⟨_, reads⟩) (by simp [reloads])
  | saveBlocked stage fault =>
    exact untried rfl (by simp) (by simp [reloads, stage, edit?_saveBlocked stage fault])
  | unwritten stage fault write =>
    exact untried rfl (by simp) (by simp [reloads, stage, edit?_unwritten stage write])
  | saveStale stage fault write due reload =>
    have unread (v : View) := not_reads_of_reload (v := v) reload
    obtain ⟨k, rfl⟩ := reload_error reload
    exact failed rfl ((reloads_save stage fault write).2 due) unread
  | saveReloaded stage fault write due reload =>
    have reloads := (reloads_save stage fault write).2 due
    obtain ⟨reads, -, rfl⟩ := reload_ok reload
    exact done rfl (by simp) (fun _ => ⟨_, reads⟩) (by simp [reloads])
  | savePatched stage fault write same fresh =>
    have reloads := reloads_save stage fault write
    exact done fresh (by simp) (by simp [reloads, same, fresh]) (fun _ => fresh)
  | cancelStale stage due reload =>
    have unread (v : View) := not_reads_of_reload (v := v) reload
    obtain ⟨k, rfl⟩ := reload_error reload
    exact failed rfl (by simp [reloads, stage, due]) unread
  | cancelReloaded stage due reload =>
    obtain ⟨reads, -, rfl⟩ := reload_ok reload
    exact done rfl (by simp) (fun _ => ⟨_, reads⟩) (by simp [reloads, stage])
  | cancelled stage fresh => exact untried rfl (by simp) (by simp [reloads, stage, fresh])
  | changeStale stage reload =>
    have unread (v : View) := not_reads_of_reload (v := v) reload
    obtain ⟨k, rfl⟩ := reload_error reload
    exact failed rfl (by simp [reloads, stage]) unread
  | changeApplied stage reload =>
    obtain ⟨reads, -, rfl⟩ := reload_ok reload
    exact done rfl (by simp) (fun _ => ⟨_, reads⟩) (by simp [reloads, stage])

/-- News is put off by an editor that does not read the script anew. -/
theorem Exit.of_deferred (exit : Exit e w r o) (deferred : o.1 = .ok (.noted .deferred)) :
    r = .scriptChanged ∧ e.reloads w r = false := by
  cases exit with
  | changeDeferred stage => exact ⟨rfl, by simp [reloads, stage]⟩
  | _ => simp at deferred

/-- Only a request that reads the script anew calls the parser. -/
theorem Exit.parses_of_not_reloads (exit : Exit e w r o) (other : e.reloads w r = false)
    (notLoad : r ≠ .load) : o.2.1.parses = e.parses := by
  have caught {v v' : View} {e' : Editor} (due : e.pending = false)
      (fresh : e.catchUp w.store v = (.ok v', e')) : e'.parses = e.parses := by
    rcases catchUp_ok fresh with ⟨-, -, rfl⟩ | ⟨due', -⟩
    · rfl
    · simp [due] at due'
  cases exit with
  | refused | undrawn | filtered | saveBlocked | unwritten | savePatched | cancelled | changeIgnored
  | changeDeferred => rfl
  | loadFailed | loaded => exact absurd rfl notLoad
  | beginStale stage stale | insertStale stage stale =>
    simp [reloads, stage, (catchUp_error stale).1] at other
  | beginUnknown stage fresh | beginUnread stage fresh | opened stage fresh =>
    have same := caught (by simpa [reloads, stage] using other) fresh
    exact same
  | insertUnknown stage fresh | uninserted stage fresh =>
    simp only [reloads, stage, Bool.or_eq_false_iff] at other
    exact caught other.1 fresh
  | insertedNothing stage fresh known write nothing =>
    have reloads_iff := reloads_insertAfter stage fresh known write
    exact caught (by grind) fresh
  | insertedStale stage fresh known write nonempty reload
  | inserted stage fresh known write nonempty reload =>
    simp [(reloads_insertAfter stage fresh known write).2 (.inr nonempty)] at other
  | saveStale stage fault write due reload | saveReloaded stage fault write due reload =>
    simp [(reloads_save stage fault write).2 due] at other
  | cancelStale stage due reload | cancelReloaded stage due reload =>
    simp [reloads, stage, due] at other
  | changeStale stage reload | changeApplied stage reload => simp [reloads, stage] at other

/-- When a request leaves the script shown as it was read anew, no refresh is due, unless it loaded
the script while one was due. -/
theorem Exit.pending_of_refreshed (exit : Exit e w r o)
    (refreshed : e.Refreshed o.2.1 o.2.2.store) :
    o.2.1.pending = true ↔ r = .load ∧ e.pending = true := by
  obtain ⟨parsed, v, reads, -⟩ := refreshed
  have news (deferred : o.1 = .ok (.noted .deferred)) := exit.of_deferred deferred
  have tried : r = .load ∨ e.reloads w r = true := by
    by_contra neither
    rw [not_or, Bool.not_eq_true] at neither
    simp [exit.parses_of_not_reloads neither.2 neither.1] at parsed
  have notLoad : r = .load → e.reloads w r = false := by
    rintro rfl
    exact reloads_load
  rw [exit.pending_iff]
  grind [MakesDue, Renews]

theorem Exit.refreshed_of_loaded (exit : Exit e w .load o) (loaded : o.1.isOk = true) :
    e.Refreshed o.2.1 o.2.2.store := by
  cases exit with
  | refused | loadFailed => simp [Except.isOk, Except.toBool] at loaded
  | loaded stage refresh =>
    obtain ⟨reads, rfl⟩ := refresh_ok refresh
    exact ⟨Nat.lt_succ_self _, _, reads, rfl⟩

/-- A refresh that is due and fails is what opening and inserting fail with. -/
theorem handle_of_stale {err : SyncError} (stage : e.stage = .ready v) (due : e.pending = true)
    (failed : (e.refresh w.store).1 = .error err) (node text : String) :
    (e.handle w (.beginEdit node)).1 = .error err ∧
      (e.handle w (.insertAfter node text)).1 = .error err := by
  obtain ⟨e', stale⟩ : ∃ e', e.catchUp w.store v = (.error err, e') := by
    rcases refresh : e.refresh w.store with ⟨result, e'⟩
    rw [refresh] at failed
    obtain rfl : result = .error err := failed
    exact ⟨{ e' with stage := .ready v, pending := true }, by simp [catchUp, due, reload, refresh]⟩
  simp [handle, beginEdit, insertAfter, stage, stale, Outcome.map, Except.map]

end Editor

namespace Event

/-- A refresh is due because of the event. -/
def MakesDue (x : Editor × Shared) : Event → Prop
  | .ask r => x.1.MakesDue x.2 r (x.1.handle x.2 r)
  | _ => False

/-- The event does a refresh, in another way than by loading the script. -/
def Renews (x : Editor × Shared) : Event → Prop
  | .ask r => x.1.Renews x.2 r (x.1.handle x.2 r)
  | _ => False

end Event

namespace Editor

theorem pending_happen_iff (x : Editor × Shared) (ev : Event) :
    (happen x ev).1.pending = true ↔ ev.MakesDue x ∨ (x.1.pending = true ∧ ¬ ev.Renews x) := by
  cases ev with
  | ask r => exact (exit_handle x.1 x.2 r).pending_iff
  | parser | lockFault | pan | store | lock => simp [Event.MakesDue, Event.Renews, happen]

/-- After a run a refresh is due when some event made it due and none since has done it. -/
theorem pending_run_iff {x : Editor × Shared} (fresh : x.1.pending = false) (events : List Event) :
    (run x events).1.pending = true ↔
      ∃ before ev since, events = before ++ ev :: since ∧ ev.MakesDue (run x before) ∧
        ∀ part ev' rest, since = part ++ ev' :: rest →
          ¬ ev'.Renews (run x (before ++ ev :: part)) := by
  have law (before : List Event) (ev : Event) : (run x (before ++ [ev])).1.pending = true ↔
      ev.MakesDue (run x before) ∨
        ((run x before).1.pending = true ∧ ¬ ev.Renews (run x before)) := by
    have last : run x (before ++ [ev]) = happen (run x before) ev := by simp [run]
    rw [last]
    exact pending_happen_iff (run x before) ev
  have none_due : ¬ (run x []).1.pending = true := by simp [run, fresh]
  exact history_iff (P := fun events => (run x events).1.pending = true) none_due law events

/-- Let an editor go through any run. A refresh is due after it when some event made it due, by news
that were put off or by reading that failed, and none has done it since. Now let a request leave the
script shown as it was read anew. Then no refresh is due, and none will be until some later event
makes it due; except when the request was to load the script and a refresh was due before, for then
it still is. Opening a statement or inserting behind one tries just those refreshes that are due
before it addresses a line: without one it reads nothing anew, and with one it fails when reading
fails. -/
theorem refresh_due_iff (script : String) (config : Config) (me : Participant) (parser : Parser)
    (w : Shared) (events : List Event) :
    let start := (new script config me parser, w)
    let x := run start events
    (x.1.pending = true ↔
        ∃ before ev since, events = before ++ ev :: since ∧ ev.MakesDue (run start before) ∧
          ∀ part ev' rest, since = part ++ ev' :: rest →
            ¬ ev'.Renews (run start (before ++ ev :: part))) ∧
      (∀ r, let o := x.1.handle x.2 r
        x.1.Refreshed o.2.1 o.2.2.store →
          (o.2.1.pending = true ↔ r = .load ∧ x.1.pending = true) ∧
            (o.2.1.pending = false → ∀ later, (run o.2 later).1.pending = true →
              ∃ part ev rest, later = part ++ ev :: rest ∧ ev.MakesDue (run o.2 part))) ∧
      (x.1.pending = false → ∀ r, ((∃ node, r = .beginEdit node) ∨
          ∃ node text, r = .insertAfter node text ∧ x.1.edit? x.2 r = none) →
        let o := x.1.handle x.2 r
        o.2.1.parses = x.1.parses ∧ o.2.1.pending = false) ∧
      ∀ v err, x.1.pending = true → x.1.stage = .ready v →
        (x.1.refresh x.2.store).1 = .error err → ∀ node text,
          (x.1.handle x.2 (.beginEdit node)).1 = .error err ∧
            (x.1.handle x.2 (.insertAfter node text)).1 = .error err := by
  intro start x
  refine ⟨pending_run_iff rfl events, ?_, ?_, ?_⟩
  · intro r o refreshed
    refine ⟨(exit_handle x.1 x.2 r).pending_of_refreshed refreshed, fun fresh later due => ?_⟩
    obtain ⟨part, ev, rest, split, makesDue, -⟩ := (pending_run_iff fresh later).1 due
    exact ⟨part, ev, rest, split, makesDue⟩
  · intro fresh r addresses o
    have exit : Exit x.1 x.2 r o := exit_handle x.1 x.2 r
    have other : x.1.reloads x.2 r = false := by
      rcases addresses with ⟨node, rfl⟩ | ⟨node, text, rfl, noEdit⟩ <;>
        cases stage : x.1.stage <;> simp_all [reloads]
    have notNews : o.1 ≠ .ok (.noted .deferred) := by
      intro deferred
      rcases addresses with ⟨node, rfl⟩ | ⟨node, text, rfl, -⟩ <;>
        simpa using (exit.of_deferred deferred).1
    refine ⟨exit.parses_of_not_reloads other (by rintro rfl; simp at addresses), ?_⟩
    rw [Bool.eq_false_iff, ne_eq, exit.pending_iff]
    simp [MakesDue, notNews, other, fresh]
  · exact fun v err due stage failed node text => handle_of_stale stage due failed node text

/-- The parser failed on news, and a refresh was done when it answered again. A script that is
loaded after that has no refresh due. -/
theorem refresh_due_iff_behind_outage :
    let w : Shared := { store := ({} : Store).put "s" "label a:\n    one\n" }
    let x := run (new "s" {} 0 outline, w) [.ask .load, .parser fun _ => .error "down",
      .ask .scriptChanged, .parser outline, .ask .scriptChanged]
    let o := x.1.handle x.2 .load
    x.1.Refreshed o.2.1 o.2.2.store ∧ x.1.pending = false ∧ o.2.1.pending = false := by
  intro w x o
  obtain ⟨loaded, fresh⟩ : (x.1.handle x.2 .load).1.isOk = true ∧ x.1.pending = false := by
    decide +kernel
  have settles := (refresh_due_iff "s" {} 0 outline w [.ask .load, .parser fun _ => .error "down",
    .ask .scriptChanged, .parser outline, .ask .scriptChanged]).2.1 .load
  have x_eq : run (new "s" {} 0 outline, w) _ = x := rfl
  rw [x_eq] at settles
  clear_value x
  have refreshed := (exit_handle x.1 x.2 .load).refreshed_of_loaded loaded
  refine ⟨refreshed, fresh, ?_⟩
  rw [Bool.eq_false_iff, ne_eq, (settles refreshed).1]
  simp [fresh]

/-- The parser failed on news, and when it answered again the script was loaded. What is shown is
what the script reads, but a refresh is still due, and no statement can be opened once the parser
fails again. -/
theorem refresh_due_behind_load :
    let w : Shared := { store := ({} : Store).put "s" "label a:\n    one\n" }
    let x := run (new "s" {} 0 outline, w) [.ask .load, .parser fun _ => .error "down",
      .ask .scriptChanged, .parser outline]
    let o := x.1.handle x.2 .load
    let y := happen o.2 (.parser fun _ => .error "down")
    o.1.isOk = true ∧ x.1.Refreshed o.2.1 o.2.2.store ∧ o.2.1.pending = true ∧
      (y.1.handle y.2 (.beginEdit "a-0")).1.isOk = false := by
  intro w x o y
  obtain ⟨loaded, due, failed⟩ : o.1.isOk = true ∧ o.2.1.pending = true ∧
    (y.1.handle y.2 (.beginEdit "a-0")).1.isOk = false := by decide +kernel
  refine ⟨loaded, ?_, due, failed⟩
  clear_value x
  exact (exit_handle x.1 x.2 .load).refreshed_of_loaded loaded

end Editor

end StoryScript
