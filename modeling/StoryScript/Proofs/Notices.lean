import StoryScript.Proofs.Failures

/-!
# News of a change

News that somebody changed the script cannot always be acted on at once: a statement is open, or the
script cannot be read. Then a refresh is due. It stays due whatever is done, until the script was
read anew, and whoever leaves a statement tries that.

## Main definitions

* `Editor.Refreshed` — the script was read anew, and what was read is shown.
* `Editor.Attempted` — the same was tried; it was done or it failed.
* `RefreshedIn` — some event of a run did it.

## Main statements

* `Exit.due_or_refreshed`, `due_or_refreshed_run` — one request, and a whole run, keep a refresh due
  or do it.
* `Exit.stays_or_leaves` — an open statement stays open, or it is left and a refresh that is due is
  tried.
* `news_not_lost` — both, for every run of a new editor that heard of a change.
-/

namespace StoryScript

/-- Inserting nothing leaves the text of every script as it was. -/
theorem Store.readAll_insertLines_nothing {s s' : Store} {script text : String} {line : Nat}
    {written : Text.Written} (write : s.insertLines script line text = .ok (s', written))
    (nothing : written.lineCount = 0) (name : String) : s'.readAll name = s.readAll name := by
  obtain ⟨d, lines, found, inserted, rfl⟩ := Store.edit_eq_ok_iff.1 write
  obtain ⟨-, rfl, rfl⟩ := Text.insertAt_eq_ok_iff.1 inserted
  have same : d.lines.take line ++ Text.toLines text ++ d.lines.drop line = d.lines := by
    rw [List.length_eq_zero_iff.1 nothing, List.append_nil, List.take_append_drop]
  rw [same, readAll, readAll, document, document, Table.get?_put]
  by_cases here : name = script
  · rw [if_pos here, here, found]
  · rw [if_neg here]

namespace Editor

variable {e e' : Editor} {w : Shared} {store : Store} {r : Request} {o : Outcome Answer}
  {old v : View} {s : Session} {err : SyncError} {focus : Focus}

/-! ## Reading anew -/

/-- Between the first editor and the second, the script was read anew as it is stored in `store`,
and what was read is shown. -/
structure Refreshed (e e' : Editor) (store : Store) : Prop where
  parsed : e.parses < e'.parses
  shown : ∃ v, e.Reads store v ∧ e'.stage.view? = some v

/-- It was tried to read the script anew as it is stored in `store`. Either that was done and no
refresh is due any more, or it failed, the answer says why, and one is due. -/
inductive Attempted (e e' : Editor) (store : Store) (answer : Except SyncError Answer) : Prop
  | refreshed (refreshed : e.Refreshed e' store) (fresh : e'.pending = false)
  | failed {err : SyncError} (refresh : (e.refresh store).1 = .error err)
      (parses : e'.parses = (e.refresh store).2.parses) (answered : answer = .error err)
      (due : e'.pending = true)

theorem refreshed_of_reload {focused : Option String}
    (reloaded : e.reload store old focus = (.ok (v, focused), e')) :
    e.Refreshed e' store ∧ e'.pending = false := by
  obtain ⟨reads, -, rfl⟩ := reload_ok reloaded
  exact ⟨⟨Nat.lt_succ_self _, v, reads, rfl⟩, rfl⟩

theorem attempted_of_reload_error (failed : e.reload store old focus = (.error err, e')) :
    e.Attempted e' store (.error err) := by
  unfold reload at failed
  split at failed
  · next refreshed =>
    cases failed
    exact .failed (by rw [refreshed]) (by rw [refreshed]) rfl rfl
  · cases failed

/-- Catching up does the refresh that is due. -/
theorem refreshed_of_catchUp (due : e.pending = true)
    (caught : e.catchUp store old = (.ok v, e')) :
    e.Refreshed e' store ∧ e'.stage = .ready v := by
  obtain ⟨fresh, -⟩ | ⟨-, focused, reloaded⟩ := catchUp_ok caught
  · simp [due] at fresh
  · obtain ⟨-, -, stage⟩ := reload_ok reloaded
    exact ⟨(refreshed_of_reload reloaded).1, by rw [stage]⟩

/-- A request that finds a refresh due does it or leaves it due. -/
theorem Exit.due_or_refreshed (exit : Exit e w r o) (due : e.pending = true) :
    o.2.1.pending = true ∨ e.Refreshed o.2.1 o.2.2.store := by
  cases exit with
  | refused | undrawn | filtered | saveBlocked | unwritten | changeIgnored => exact .inl due
  | changeDeferred => exact .inl rfl
  | loadFailed stage refresh =>
    obtain ⟨k, rfl⟩ := refresh_error refresh
    exact .inl due
  | loaded stage refresh =>
    obtain ⟨-, rfl⟩ := refresh_ok refresh
    exact .inl due
  | savePatched stage fault write same fresh => simp [due] at fresh
  | cancelled stage fresh => simp [due] at fresh
  | beginStale stage stale | insertStale stage stale =>
    obtain ⟨k, rfl⟩ := reload_error (catchUp_error stale).2
    exact .inl rfl
  | saveStale stage fault write due reload | cancelStale stage due reload
  | changeStale stage reload | insertedStale stage fresh known write nonempty reload =>
    obtain ⟨k, rfl⟩ := reload_error reload
    exact .inl rfl
  | beginUnknown stage fresh | beginUnread stage fresh | insertUnknown stage fresh
  | uninserted stage fresh => exact .inr (refreshed_of_catchUp due fresh).1
  | opened stage fresh =>
    obtain ⟨⟨parsed, v, reads, shown⟩, stage'⟩ := refreshed_of_catchUp due fresh
    rw [stage'] at shown
    exact .inr ⟨parsed, v, reads, shown⟩
  | insertedNothing stage fresh known write nothing =>
    obtain ⟨⟨parsed, v, ⟨source, p, read, rest⟩, shown⟩, -⟩ := refreshed_of_catchUp due fresh
    rw [← Store.readAll_insertLines_nothing write nothing] at read
    exact .inr ⟨parsed, v, ⟨source, p, read, rest⟩, shown⟩
  | saveReloaded stage fault write due reload | cancelReloaded stage due reload
  | changeApplied stage reload => exact .inr (refreshed_of_reload reload).1
  | inserted stage fresh known write nonempty reload =>
    obtain ⟨⟨parsed', -⟩, -⟩ := refreshed_of_catchUp due fresh
    obtain ⟨⟨parsed, v, reads, shown⟩, -⟩ := refreshed_of_reload reload
    rw [(catchUp_setup fresh stage).1.reads_iff (catchUp_kept stage fresh).1] at reads
    exact .inr ⟨Nat.lt_trans parsed' parsed, v, reads, shown⟩

/-! ## Leaving a statement -/

/-- A request to an editor with an open statement leaves it open, or it cancels or writes. Then the
statement is closed, and a refresh that is due is tried. -/
theorem Exit.stays_or_leaves (exit : Exit e w r o) (isOpen : e.stage = .editing v s) :
    (o.2.1.stage.session? ≠ none ∧ r ≠ .cancel ∧ e.edit? w r = none) ∨
      (o.2.1.stage.session? = none ∧ (r = .cancel ∨ (e.edit? w r).isSome) ∧
        (e.pending = true → e.Attempted o.2.1 o.2.2.store o.1)) := by
  have ready {v' : View} (stage : e.stage = .ready v') : False := by simp [isOpen] at stage
  have stays : e.stage.session? ≠ none := by simp [isOpen, Stage.session?]
  cases exit with
  | refused stage =>
    refine .inl ⟨stays, ?_, edit?_refused stage⟩
    rintro rfl
    simp [isOpen, Stage.allows] at stage
  | saveBlocked stage fault => exact .inl ⟨stays, by simp, edit?_saveBlocked stage fault⟩
  | unwritten stage fault write => exact .inl ⟨stays, by simp, edit?_unwritten stage write⟩
  | changeDeferred => exact .inl ⟨stays, by simp, rfl⟩
  | saveStale stage fault write due reload =>
    have wrote := edit?_saved stage fault write
    obtain ⟨-, v', stage'⟩ := reload_setup reload
    exact .inr ⟨Stage.session?_of_ready stage', .inr (by simp [wrote]),
      fun _ => attempted_of_reload_error reload⟩
  | saveReloaded stage fault write due reload =>
    have wrote := edit?_saved stage fault write
    obtain ⟨-, v', stage'⟩ := reload_setup reload
    obtain ⟨refreshed, fresh⟩ := refreshed_of_reload reload
    exact .inr ⟨Stage.session?_of_ready stage', .inr (by simp [wrote]),
      fun _ => .refreshed refreshed fresh⟩
  | savePatched stage fault write same fresh =>
    have wrote := edit?_saved stage fault write
    exact .inr ⟨rfl, .inr (by simp [wrote]), fun due => by simp [due] at fresh⟩
  | cancelStale stage due reload =>
    obtain ⟨-, v', stage'⟩ := reload_setup reload
    exact .inr ⟨Stage.session?_of_ready stage', .inl rfl,
      fun _ => attempted_of_reload_error reload⟩
  | cancelReloaded stage due reload =>
    obtain ⟨-, v', stage'⟩ := reload_setup reload
    obtain ⟨refreshed, fresh⟩ := refreshed_of_reload reload
    exact .inr ⟨Stage.session?_of_ready stage', .inl rfl, fun _ => .refreshed refreshed fresh⟩
  | cancelled stage fresh => exact .inr ⟨rfl, .inl rfl, fun due => by simp [due] at fresh⟩
  | loadFailed stage | loaded stage => exact (stays stage).elim
  | changeIgnored stage => simp [isOpen] at stage
  | undrawn stage | filtered stage | beginStale stage | beginUnknown stage | beginUnread stage
  | opened stage | insertStale stage | insertUnknown stage | uninserted stage
  | insertedNothing stage | insertedStale stage | inserted stage | changeStale stage
  | changeApplied stage => exact (ready stage).elim

end Editor

/-- Some event of a run read the script anew, and what it read was shown. -/
def RefreshedIn (x : Editor × Shared) (events : List Event) : Prop :=
  ∃ before ev after, events = before ++ ev :: after ∧
    (run x before).1.Refreshed (run x (before ++ [ev])).1 (run x (before ++ [ev])).2.store

namespace Editor

theorem due_or_refreshed_happen {x : Editor × Shared} (due : x.1.pending = true) (ev : Event) :
    (happen x ev).1.pending = true ∨ x.1.Refreshed (happen x ev).1 (happen x ev).2.store := by
  cases ev with
  | ask request => exact (exit_handle x.1 x.2 request).due_or_refreshed due
  | parser | lockFault | pan | store | lock => exact .inl due

/-- A refresh that is due stays due until some event does it. -/
theorem due_or_refreshed_run {x : Editor × Shared} (due : x.1.pending = true)
    (events : List Event) : (run x events).1.pending = true ∨ RefreshedIn x events := by
  induction events generalizing x with
  | nil => exact .inl due
  | cons ev events ih =>
    rcases due_or_refreshed_happen due ev with due | refreshed
    · rcases ih due with due | ⟨before, ev', after, rfl, refreshed⟩
      · exact .inl due
      · exact .inr ⟨ev :: before, ev', after, rfl, refreshed⟩
    · exact .inr ⟨[], ev, events, rfl, refreshed⟩

/-- News that is put off, or that cannot be acted on, makes a refresh due. -/
theorem Exit.due_of_news (exit : Exit e w .scriptChanged o)
    (putOff : o.1 = .ok (.noted .deferred) ∨ ∃ err, o.1 = .error err) :
    o.2.1.pending = true := by
  cases exit with
  | refused stage => simp [Stage.allows] at stage
  | changeIgnored | changeApplied => simp at putOff
  | changeStale stage reload =>
    obtain ⟨k, rfl⟩ := reload_error reload
    rfl
  | changeDeferred => rfl

/-- At some point of a run a new editor hears that the script was changed, and puts that off or
cannot read the script. Then a refresh is due, and whatever happens it stays due until some later
event has read the script anew. While it is due, an open statement is left by cancelling and by
every save that writes, and each of these tries the refresh, on what is stored then. -/
theorem news_not_lost (script : String) (config : Config) (me : Participant) (parser : Parser)
    (w : Shared) (before after : List Event) :
    let x := run (new script config me parser, w) before
    let y := happen x (.ask .scriptChanged)
    let z := run y after
    ((x.1.handle x.2 .scriptChanged).1 = .ok (.noted .deferred) ∨
        ∃ err, (x.1.handle x.2 .scriptChanged).1 = .error err) →
      y.1.pending = true ∧ (z.1.pending = true ∨ RefreshedIn y after) ∧
        (z.1.pending = true → z.1.stage.session?.isSome → ∀ r,
          let o := z.1.handle z.2 r
          (o.2.1.stage.session? = none ↔ r = .cancel ∨ (z.1.edit? z.2 r).isSome) ∧
            (o.2.1.stage.session? = none → z.1.Attempted o.2.1 o.2.2.store o.1)) := by
  intro x y z putOff
  have due : y.1.pending = true := (exit_handle x.1 x.2 .scriptChanged).due_of_news putOff
  refine ⟨due, due_or_refreshed_run due after, fun due isOpen r => ?_⟩
  cases stage : z.1.stage with
  | idle | ready v => simp [stage, Stage.session?] at isOpen
  | editing v s =>
    rcases (exit_handle z.1 z.2 r).stays_or_leaves stage with
      ⟨stays, other, none⟩ | ⟨left, leaves, tries⟩
    · simp [stays, other, none]
    · simp [left, leaves, tries due]

/-- The other client emptied the script and told so while a statement was open. The save found no
place for its text, and then the parser failed; the refresh stayed due, and leaving tries it. -/
theorem news_not_lost_behind_failed_save :
    let w : Shared := { store := ({} : Store).put "s" "label a:\n    one\n    two\n" }
    let x := run (new "s" {} 0 outline, w) [.ask .load, .ask (.beginEdit "a-1"),
      .store (({} : Store).put "s" "label a:\n")]
    let z := run (happen x (.ask .scriptChanged))
      [.ask (.save { body := "zwei" }), .parser fun _ => .error "down"]
    (x.1.handle x.2 .scriptChanged).1 = .ok (.noted .deferred) ∧ z.1.pending = true ∧
      z.1.stage.session?.isSome ∧
      let o := z.1.handle z.2 .cancel
      o.2.1.stage.session? = none ∧ z.1.Attempted o.2.1 o.2.2.store o.1 ∧
        o.2.1.pending = true := by
  intro w x z
  obtain ⟨isOpen, isOpen', due, failed⟩ : x.1.stage.session?.isSome ∧
      z.1.stage.session?.isSome ∧ z.1.pending = true ∧
      (z.1.handle z.2 .cancel).2.1.pending = true := by decide +kernel
  have tries := news_not_lost "s" {} 0 outline w [.ask .load, .ask (.beginEdit "a-1"),
    .store (({} : Store).put "s" "label a:\n")]
    [.ask (.save { body := "zwei" }), .parser fun _ => .error "down"]
  have x_eq : run (new "s" {} 0 outline, w) _ = x := rfl
  have z_eq : run (happen x (.ask .scriptChanged)) _ = z := rfl
  dsimp only at tries
  rw [x_eq, z_eq] at tries
  clear_value x z
  have putOff : (x.1.handle x.2 .scriptChanged).1 = .ok (.noted .deferred) := by
    cases stage : x.1.stage with
    | idle | ready v => simp [stage, Stage.session?] at isOpen
    | editing v s => simp [handle, scriptChanged, stage, Outcome.map, Except.map]
  obtain ⟨leaves, tries⟩ := (tries (.inl putOff)).2.2 due isOpen' .cancel
  have left := leaves.2 (.inl rfl)
  exact ⟨putOff, due, isOpen', left, tries left, failed⟩

end Editor

end StoryScript
