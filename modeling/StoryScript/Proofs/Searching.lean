import StoryScript.Index.Lemmas
import StoryScript.Proofs.Resaving

/-!
# Searching what is stored

An editor searches the lines that it holds. They are read with the script; a save that keeps their
number changes them in place, and makes the same change to what is stored. At the end of a script
the stored lines may have an empty line that the text has not, or the text may have one that they
have not, so the lines that are held need not be those of the text: an empty last one may be more or
less. Since an empty line is never found, searching them finds what searching the text would.

## Main definitions

* `Parser.Within` — the statements that a parser gives end inside the text.
* `Event.LeavesAlone` — an event leaves a script to the editor, and its parser stays within the
  text.
* `View.Within`, `View.Mirrors` — the index of a view keeps to its lines, and the lines are the
  stored ones.
* `Store.UnbrokenIn` — no line of a script holds a line feed.
* `Editor.InStep` — what an editor holds is in step with what is stored.

## Main statements

* `Text.Mirrors.splice` — lines that stand for stored ones still do after the same change to both.
* `search_of_sameButLast` — such lines are searched alike.
* `Exit.inStep`, `inStep_happen` — every request, and every event, leaves the editor in step.
* `search_stored` — so the lines that are held are those of the text that is stored, but for an empty
  last one, and a search finds what is stored, after every run.
-/

namespace StoryScript

namespace Text

variable {a b a' b' lines lines' : List String} {first last : Nat} {text : String}
  {written written' : Written}

theorem length_splice (done : splice lines first last text = .ok (lines', written)) :
    (lines'.length : Int) = lines.length + written.lineDelta := by
  obtain ⟨⟨forward, inside⟩, rfl, rfl⟩ := splice_eq_ok_iff.1 done
  simp only [List.length_append, List.length_take, List.length_drop]
  omega

/-- An empty line at the end is out of reach of a change in front of it. -/
theorem splice_append_empty (done : splice a first last text = .ok (a', written))
    (done' : splice (a ++ [""]) first last text = .ok (b', written')) : b' = a' ++ [""] := by
  obtain ⟨⟨forward, inside⟩, rfl, -⟩ := splice_eq_ok_iff.1 done
  obtain ⟨-, rfl, -⟩ := splice_eq_ok_iff.1 done'
  have front : first ≤ a.length := by omega
  rw [List.take_append_of_le_length front, List.drop_append_of_le_length inside,
    ← List.append_assoc]

/-- Lines that stand for stored ones still do so when a range of both is replaced. -/
theorem Mirrors.splice (held : Mirrors a b) (done : splice a first last text = .ok (a', written))
    (done' : splice b first last text = .ok (b', written')) : Mirrors a' b' := by
  rcases held with rfl | rfl | ⟨rfl, rfl⟩
  · rw [done] at done'
    cases done'
    exact .inl rfl
  · exact .inr (.inl (splice_append_empty done done'))
  · -- there is no range where no lines are stored
    obtain ⟨⟨-, inside⟩, -⟩ := splice_eq_ok_iff.1 done'
    exact absurd inside (Nat.not_lt_zero _)

end Text

/-- Lines that differ by an empty last one at most are searched alike. -/
theorem search_of_sameButLast {a b : List String} (alike : Text.SameButLast a b) (map : LineMap)
    (query : String) : search a map query = search b map query := by
  rcases alike with rfl | rfl | rfl
  · rfl
  · exact (search_append_empty a map query).symm
  · exact search_append_empty b map query

/-- Statements end inside the text that was parsed. -/
def Parser.Within (parser : Parser) : Prop :=
  ∀ source parsed, parser source = .ok parsed →
    ∀ n ∈ Node.preorderAll parsed.tree.children, n.endLine < (Text.toLines source).length

/-- An event leaves a script as it is in `stored`, unless the editor changes it. A parser that comes
into use stays within the text. -/
def Event.LeavesAlone (script : String) (stored : Store) : Event → Prop
  | .store others => others.scripts.get? script = stored.scripts.get? script
  | .parser p => p.Within
  | _ => True

/-- The statements of the index end inside the lines of a view. -/
def View.Within (v : View) : Prop :=
  ∀ entry ∈ v.lineMap.entries, entry.endLine < v.lines.length

/-- The lines of a view stand for the stored ones. -/
def View.Mirrors (v : View) (store : Store) (script : String) : Prop :=
  ∃ lines, store.lines? script = some lines ∧ Text.Mirrors v.lines lines

namespace Store

variable {s s' : Store} {script text : String} {first last line : Nat} {written : Text.Written}

/-- No line of a script holds a line feed. -/
def UnbrokenIn (s : Store) (script : String) : Prop :=
  ∀ lines, s.lines? script = some lines → ∀ l ∈ lines, Text.Unbroken l

theorem Unbroken.unbrokenIn (h : s.Unbroken) (script : String) : s.UnbrokenIn script := by
  intro lines found
  obtain ⟨d, stored, rfl⟩ := Option.map_eq_some_iff.1 found
  exact h script d stored

/-- An edit that adds no line with a line feed to a script. -/
theorem unbrokenIn_edit {f : List String → Except Text.LineError (List String × Text.Written)}
    (h : s.UnbrokenIn script)
    (added : ∀ lines lines' written, f lines = .ok (lines', written) →
      ∀ l ∈ lines', l ∈ lines ∨ Text.Unbroken l)
    (done : s.edit script f = .ok (s', written)) : s'.UnbrokenIn script := by
  obtain ⟨lines, lines', before, edited, after⟩ := edit_ok done
  intro stored found l mem
  obtain rfl : lines' = stored := Option.some.inj (after.symm.trans found)
  rcases added lines lines' written edited l mem with old | new
  · exact h lines before l old
  · exact new

theorem unbrokenIn_writeRange (h : s.UnbrokenIn script)
    (done : s.writeRange script first last text = .ok (s', written)) : s'.UnbrokenIn script :=
  unbrokenIn_edit h (fun _ _ _ => Text.mem_or_unbroken_of_splice) done

theorem unbrokenIn_insertLines (h : s.UnbrokenIn script)
    (done : s.insertLines script line text = .ok (s', written)) : s'.UnbrokenIn script :=
  unbrokenIn_edit h (fun _ _ _ => Text.mem_or_unbroken_of_insertAt) done

end Store

namespace Editor

/-- What an editor holds is in step with what is stored. -/
structure InStep (e : Editor) (store : Store) : Prop where
  parser : e.parser.Within
  unbroken : store.UnbrokenIn e.script
  index : ∀ v, e.stage.view? = some v → v.Within
  /-- An open statement ends inside the lines that are held. -/
  session : ∀ v s, e.stage = .editing v s → s.endLine < v.lines.length
  mirrors : e.pending = false → ∀ v, e.stage.view? = some v → v.Mirrors store e.script

variable {e e' : Editor} {w : Shared} {store store' : Store} {r : Request} {o : Outcome Answer}
  {old v : View} {focus : Focus}

theorem InStep.of_ready (stage : e.stage = .ready v) (parser : e.parser.Within)
    (unbroken : store.UnbrokenIn e.script) (index : v.Within)
    (mirrors : e.pending = false → v.Mirrors store e.script) : e.InStep store := by
  have this_view {v' : View} (view : e.stage.view? = some v') : v = v' := by
    rw [stage] at view
    exact Option.some.inj view
  refine ⟨parser, unbroken, ?_, ?_, ?_⟩
  · intro v' view
    exact this_view view ▸ index
  · intro v' s editing
    rw [stage] at editing
    cases editing
  · intro fresh v' view
    exact this_view view ▸ mirrors fresh

theorem InStep.of_same (h : e.InStep store)
    (same : store'.lines? e.script = store.lines? e.script) : e.InStep store' := by
  refine ⟨h.parser, ?_, h.index, h.session, ?_⟩
  · rw [Store.UnbrokenIn, same]
    exact h.unbroken
  · intro fresh v view
    obtain ⟨lines, found, held⟩ := h.mirrors fresh v view
    exact ⟨lines, same.trans found, held⟩

/-- A view that was read just now holds the stored lines. -/
theorem Reads.mirrors (h : e.Reads store v) (parser : e.parser.Within)
    (unbroken : store.UnbrokenIn e.script) : v.Within ∧ v.Mirrors store e.script := by
  obtain ⟨source, parsed, read, parse, drawn⟩ := h
  obtain ⟨d, found, rfl⟩ := Store.readAll_eq_ok_iff.1 read
  obtain ⟨tree, -, lineMap, lines⟩ := viewOf_ok drawn
  have stored : store.lines? e.script = some d.lines := by simp [Store.lines?, found]
  constructor
  · intro entry mem
    rw [lineMap] at mem
    obtain ⟨n, inside, -, same⟩ := Tree.exists_of_mem_index mem
    have last : n.endLine = entry.endLine := by
      simp only [Node.listing, Entry.listing, Prod.mk.injEq] at same
      exact same.2.2.2
    rw [lines, ← last]
    exact parser _ parsed parse n (tree ▸ inside)
  · refine ⟨d.lines, stored, ?_⟩
    rw [lines]
    exact Text.Document.mirrors (unbroken d.lines stored)

/-- Reading the script anew leaves the editor in step, even when it fails: then a refresh is due. -/
theorem inStep_of_reload {result : Except SyncError (View × Option String)}
    (reload : e.reload store old focus = (result, e')) (parser : e.parser.Within)
    (unbroken : store.UnbrokenIn e.script) (index : old.Within) : e'.InStep store := by
  cases result with
  | error err =>
    obtain ⟨k, rfl⟩ := reload_error reload
    refine .of_ready rfl parser unbroken index ?_
    intro fresh
    cases fresh
  | ok p =>
    obtain ⟨reads, -, rfl⟩ := reload_ok reload
    obtain ⟨index', mirrors⟩ := reads.mirrors parser unbroken
    exact .of_ready rfl parser unbroken index' fun _ => mirrors

theorem InStep.of_catchUp (h : e.InStep store) (stage : e.stage = .ready old)
    (caught : e.catchUp store old = (.ok v, e')) : e'.InStep store ∧ v.Within := by
  have index : old.Within := h.index old (Stage.view?_of_ready stage)
  obtain ⟨-, rfl, rfl⟩ | ⟨-, focused, reloaded⟩ := catchUp_ok caught
  · exact ⟨h, index⟩
  · have h' := inStep_of_reload reloaded h.parser h.unbroken index
    obtain ⟨-, -, rfl⟩ := reload_ok reloaded
    exact ⟨h', h'.index v rfl⟩

/-- A save that keeps the number of lines makes the same change to the lines that are held as to
those that are stored. -/
theorem patched_mirrors {s : Session} {q : SaveRequest} {lines lines' : List String}
    {written : Text.Written} (inside : s.endLine < v.lines.length)
    (held : Text.Mirrors v.lines lines)
    (done : Text.splice lines s.startLine s.endLine (s.text q) = .ok (lines', written))
    (same : written.lineDelta = 0) :
    (patched v s q).length = v.lines.length ∧ Text.Mirrors (patched v s q) lines' := by
  obtain ⟨⟨forward, -⟩, -, written_eq⟩ := Text.splice_eq_ok_iff.1 done
  obtain ⟨held', done'⟩ : ∃ held',
      Text.splice v.lines s.startLine s.endLine (s.text q) = .ok (held', written) :=
    ⟨_, Text.splice_eq_ok_iff.2 ⟨⟨forward, inside⟩, rfl, written_eq⟩⟩
  have patched_eq : patched v s q = held' := by rw [patched, done']
  rw [patched_eq]
  refine ⟨?_, held.splice done' done⟩
  have count := Text.length_splice done'
  omega

/-- Every request leaves the editor in step. -/
theorem Exit.inStep (exit : Exit e w r o) (h : e.InStep w.store) :
    o.2.1.InStep o.2.2.store := by
  have ready {v : View} (stage : e.stage = .ready v) : v.Within :=
    h.index v (Stage.view?_of_ready stage)
  have editing {v : View} {s : Session} (stage : e.stage = .editing v s) : v.Within :=
    h.index v (Stage.view?_of_editing stage)
  cases exit with
  | refused | undrawn | saveBlocked | unwritten | changeIgnored => exact h
  | loadFailed stage refresh =>
    obtain ⟨k, rfl⟩ := refresh_error refresh
    exact ⟨h.parser, h.unbroken, h.index, h.session, h.mirrors⟩
  | loaded stage refresh =>
    obtain ⟨reads, rfl⟩ := refresh_ok refresh
    obtain ⟨index, mirrors⟩ := reads.mirrors h.parser h.unbroken
    exact .of_ready rfl h.parser h.unbroken index fun _ => mirrors
  | @filtered v filter graph stage layout =>
    refine .of_ready (v := { v with graph }) rfl h.parser h.unbroken (ready (v := v) stage) ?_
    intro fresh
    exact h.mirrors fresh v (Stage.view?_of_ready stage)
  | beginStale stage stale | insertStale stage stale =>
    exact inStep_of_reload (catchUp_error stale).2 h.parser h.unbroken (ready stage)
  | beginUnknown stage fresh | beginUnread stage fresh | insertUnknown stage fresh
  | uninserted stage fresh => exact (h.of_catchUp stage fresh).1
  | @opened v v' node e' entry excerpt stage fresh known read s session =>
    obtain ⟨h', index⟩ := h.of_catchUp stage fresh
    obtain ⟨-, stage', -⟩ := catchUp_setup fresh stage
    have inside : s.endLine < v'.lines.length := by
      rw [session, Session.endLine_ofExcerpt]
      exact index entry (List.mem_of_find?_eq_some known)
    refine ⟨h'.parser, h'.unbroken, ?_, ?_, ?_⟩
    · rintro _ ⟨⟩
      exact index
    · rintro _ _ ⟨⟩
      exact inside
    · rintro caught _ ⟨⟩
      exact h'.mirrors caught v' (Stage.view?_of_ready stage')
  | saveStale stage fault write due reload | saveReloaded stage fault write due reload =>
    have unbroken := Store.unbrokenIn_writeRange h.unbroken write
    exact inStep_of_reload reload h.parser unbroken (editing stage)
  | @savePatched v s q store written stage fault write same fresh =>
    obtain ⟨lines, found, held⟩ := h.mirrors fresh v (Stage.view?_of_editing stage)
    obtain ⟨before, after, found', done, stored⟩ := Store.edit_ok write
    obtain rfl : lines = before := Option.some.inj (found.symm.trans found')
    obtain ⟨count, held'⟩ := patched_mirrors (h.session v s stage) held done same
    have unbroken := Store.unbrokenIn_writeRange h.unbroken write
    refine .of_ready (v := { v with lines := patched v s q }) rfl h.parser unbroken ?_ ?_
    · -- there are as many lines as before, so the index still fits
      intro entry mem
      exact count ▸ editing stage entry mem
    · intro _
      exact ⟨after, stored, held'⟩
  | cancelStale stage due reload | cancelReloaded stage due reload =>
    exact inStep_of_reload reload h.parser h.unbroken (editing stage)
  | @cancelled v s stage fresh =>
    refine .of_ready (v := v) rfl h.parser h.unbroken (editing stage) ?_
    intro _
    exact h.mirrors fresh v (Stage.view?_of_editing stage)
  | insertedNothing stage fresh known write nothing =>
    obtain ⟨before, after, found, done, stored⟩ := Store.edit_ok write
    obtain ⟨-, rfl, rfl⟩ := Text.insertAt_eq_ok_iff.1 done
    rw [List.length_eq_zero_iff.1 nothing, List.append_nil, List.take_append_drop] at stored
    exact (h.of_catchUp stage fresh).1.of_same (stored.trans found.symm)
  | insertedStale stage fresh known write nonempty reload
  | inserted stage fresh known write nonempty reload =>
    obtain ⟨h', index⟩ := h.of_catchUp stage fresh
    have unbroken := Store.unbrokenIn_insertLines h'.unbroken write
    exact inStep_of_reload reload h'.parser unbroken index
  | changeStale stage reload | changeApplied stage reload =>
    exact inStep_of_reload reload h.parser h.unbroken (ready stage)
  | changeDeferred stage =>
    refine ⟨h.parser, h.unbroken, h.index, h.session, ?_⟩
    intro fresh
    cases fresh

/-- An event that leaves the script of an editor alone leaves the editor in step. -/
theorem inStep_happen {x : Editor × Shared} {ev : Event} (h : x.1.InStep x.2.store)
    (alone : ev.LeavesAlone x.1.script x.2.store) :
    (happen x ev).1.InStep (happen x ev).2.store := by
  cases ev with
  | ask request => exact (exit_handle x.1 x.2 request).inStep h
  | parser parser => exact ⟨alone, h.unbroken, h.index, h.session, h.mirrors⟩
  | store others =>
    have same : others.scripts.get? x.1.script = x.2.store.scripts.get? x.1.script := alone
    exact h.of_same (by simp only [happen, Store.lines?, same])
  | lockFault | pan => exact ⟨h.parser, h.unbroken, h.index, h.session, h.mirrors⟩
  | lock => exact h

/-- Nobody but the editor changes its script, and every parser stays within the text it is given; it
may fail at any time. Whenever a script is held and no refresh is due, the script can be read, and
the lines that are held are those of its text, but for an empty last one. So a search finds the same
as a search of the text, with the index that is held. -/
theorem search_stored (script : String) (config : Config) (me : Participant) (parser : Parser)
    (within : parser.Within) (w : Shared) (unbroken : w.store.Unbroken) (events : List Event)
    (alone : ∀ before ev since, events = before ++ ev :: since →
      ev.LeavesAlone script (run (new script config me parser, w) before).2.store) :
    let x := run (new script config me parser, w) events
    x.1.tree?.isSome → x.1.pending = false →
      ∃ content, x.2.store.readAll script = .ok content ∧
        (∃ v, x.1.stage.view? = some v ∧ Text.SameButLast v.lines (Text.toLines content)) ∧
        ∀ query, x.1.search query =
          StoryScript.search (Text.toLines content) x.1.lineMap query := by
  intro x loaded fresh
  have start : (new script config me parser).InStep w.store := by
    refine ⟨within, unbroken.unbrokenIn script, fun v view => ?_, fun v s stage => ?_,
      fun _ v view => ?_⟩
    · cases view
    · cases stage
    · cases view
  have h : x.1.InStep x.2.store := by
    refine run_induction_at (P := fun x => x.1.InStep x.2.store) start ?_
    intro before ev since split h
    refine inStep_happen h ?_
    rw [script_run]
    exact alone before ev since split
  have script_eq : x.1.script = script := script_run _ _
  obtain ⟨v, view⟩ : ∃ v, x.1.stage.view? = some v := by
    obtain ⟨t, held⟩ := Option.isSome_iff_exists.1 loaded
    obtain ⟨v, view, -⟩ := Option.map_eq_some_iff.1 held
    exact ⟨v, view⟩
  obtain ⟨lines, found, held⟩ := h.mirrors fresh v view
  have unbroken' := h.unbroken lines found
  rw [script_eq] at found
  obtain ⟨d, stored, rfl⟩ := Option.map_eq_some_iff.1 found
  have alike : Text.SameButLast v.lines (Text.toLines d.toString) :=
    held.alike (Text.Document.mirrors unbroken')
  refine ⟨d.toString, Store.readAll_eq_ok_iff.2 ⟨d, stored, rfl⟩, ⟨v, view, alike⟩, ?_⟩
  intro query
  have map : x.1.lineMap = v.lineMap := by simp [lineMap, view]
  calc x.1.search query = StoryScript.search v.lines v.lineMap query := by
        simp only [Editor.search, view]
    _ = StoryScript.search (Text.toLines d.toString) v.lineMap query :=
        search_of_sameButLast alike _ _
    _ = StoryScript.search (Text.toLines d.toString) x.1.lineMap query := by rw [map]

/-- Every line is a label of its own. The last one of two is emptied, in a script without final line
feed: the editor then holds an empty line that the text has not. After that the parser fails, and so
does loading the script again. -/
theorem search_stored_emptied_line :
    let parser : Parser := fun source =>
      let count := (Text.toLines source).length
      .ok ⟨⟨(List.range count).map fun i => ⟨s!"l{i}", .labelBlock, "", i, i, .leaf⟩⟩, count⟩
    let w : Shared := { store := ({} : Store).put "s" "a
b" }
    let events : List Event := [.ask .load, .ask (.beginEdit "l1"), .ask (.save { body := "
" }),
      .parser fun _ => .error "down", .ask .load]
    let x := run (new "s" {} 0 parser, w) events
    parser.Within ∧ w.store.Unbroken ∧
      (∀ before ev since, events = before ++ ev :: since →
        ev.LeavesAlone "s" (run (new "s" {} 0 parser, w) before).2.store) ∧
      x.1.tree?.isSome ∧ x.1.pending = false ∧
      x.1.stage.view?.map (·.lines) = some ["a", ""] ∧ x.2.store.readAll "s" = .ok "a
" ∧
      ∀ query, x.1.search query = StoryScript.search ["a"] x.1.lineMap query := by
  intro parser w events x
  have within : parser.Within := by
    intro source parsed parse n mem
    cases parse
    obtain ⟨label, isLabel, below⟩ := Node.mem_preorderAll.1 mem
    obtain ⟨i, inside, rfl⟩ := List.mem_map.1 isLabel
    rcases Node.mem_preorder.1 below with rfl | ⟨c, child, -⟩
    · exact List.mem_range.1 inside
    · cases child
  have unbroken : w.store.Unbroken := Store.unbroken_put Store.unbroken_empty
  have alone : ∀ before ev since, events = before ++ ev :: since →
      ev.LeavesAlone "s" (run (new "s" {} 0 parser, w) before).2.store := by
    intro before ev since split
    have mem : ev ∈ events := by simp [split]
    simp only [events, List.mem_cons, List.not_mem_nil, or_false] at mem
    rcases mem with rfl | rfl | rfl | rfl | rfl
    · trivial
    · trivial
    · trivial
    · intro source parsed parse
      cases parse
    · trivial
  obtain ⟨loaded, fresh, held, content⟩ : x.1.tree?.isSome = true ∧ x.1.pending = false ∧
      x.1.stage.view?.map (·.lines) = some ["a", ""] ∧ x.2.store.readAll "s" = .ok "a
" := by
    decide +kernel
  obtain ⟨content', read, -, same⟩ :=
    search_stored "s" {} 0 parser within w unbroken events alone loaded fresh
  obtain rfl : "a
" = content' := Except.ok.inj (content.symm.trans read)
  have lines : Text.toLines "a
" = ["a"] := by decide +kernel
  exact ⟨within, unbroken, alone, loaded, fresh, held, content, lines ▸ same⟩

end Editor

end StoryScript
