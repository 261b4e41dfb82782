import StoryScript.Proofs.Holding
import StoryScript.Proofs.Rooms

/-!
# Locks that expire

Whoever opens a statement takes its lock if nobody else holds it, and may save it later without
being asked for the lock again. Locks may live for ever, expire at any time, or expire at once. As
long as the lock of an open statement did not expire nobody else takes it, so no other editor has
the same statement open to save it.

## Main definitions

* `Editor.taken?` — the statement whose lock a request takes.
* `Room.heldBy` — the locks that an editor holds.
* `Room.Expires` — the lock of a statement lives for no time, or expires meanwhile.

## Main statements

* `Editor.Exit.lock_calls` — all that a request does to the locks is done in the name of its editor.
* `Room.holds_pass`, `Room.Opening.holds` — the lock of an open statement is kept until it expires.
* `Room.save_behind_live_lock` — what that means for the editors that save.
-/

namespace StoryScript

namespace LockTable

variable {t : LockTable} {p q : Participant} {node : String}

theorem heldBy_expire : (t.expire node).heldBy p = t.heldBy p \ {node} := by
  ext n
  cases h : t.lifetime <;> by_cases hn : n = node <;>
    simp [heldBy, holder?, expire, h, hn, Table.get?_erase]

/-- The locks after one call of a participant after another. -/
def afterAll (t : LockTable) (p : Participant) (calls : List LockCall) : LockTable :=
  calls.foldl (fun t call => t.after p call) t

theorem afterAll_append (calls calls' : List LockCall) :
    t.afterAll p (calls ++ calls') = (t.afterAll p calls).afterAll p calls' :=
  List.foldl_append

@[simp] theorem lifetime_afterAll (calls : List LockCall) :
    (t.afterAll p calls).lifetime = t.lifetime := by
  induction calls generalizing t with
  | nil => rfl
  | cons call calls ih => exact (ih (t := t.after p call)).trans (lifetime_after call)

theorem heldBy_afterAll_of_ne (live : t.lifetime = .unlimited) (h : q ≠ p)
    (calls : List LockCall) : (t.afterAll q calls).heldBy p = t.heldBy p := by
  induction calls generalizing t with
  | nil => rfl
  | cons call calls ih =>
    exact (ih ((lifetime_after call).trans live)).trans (heldBy_after_of_ne live h call)

end LockTable

namespace Editor

variable {e e' : Editor} {w : Shared} {r : Request} {o : Outcome Answer} {node : String}
  {s : Session} {locks : LockTable}

/-- The statement whose lock a request takes, if it takes one. It may give it back at once. -/
def taken? (e : Editor) (w : Shared) : Request → Option String
  | .beginEdit node =>
    match e.stage with
    | .ready v =>
      match e.catchUp w.store v with
      | (.ok v, e) =>
        if (v.lineMap.entry? node).isSome ∧ (e.tryLock w.locks node).1 then some node else none
      | _ => none
    | _ => none
  | _ => none

/-- Only a free lock is taken, or one's own. -/
theorem taken?_free (taken : e.taken? w r = some node) :
    w.locks.holder? node = none ∨ w.locks.holder? node = some e.me := by
  obtain ⟨v, v', e', stage, caught, granted⟩ : ∃ v v' e', e.stage = .ready v ∧
      e.catchUp w.store v = (.ok v', e') ∧ (e'.tryLock w.locks node).1 = true := by
    unfold taken? at taken
    grind
  rw [← (catchUp_setup caught stage).1.me]
  unfold tryLock at granted
  split at granted
  · cases granted
  · cases granted
  · exact (LockTable.acquire_granted_iff _ _ _).1 granted

/-- Only a session that was opened to save it writes. -/
theorem writable_of_edit? {q : SaveRequest} (writes : (e.edit? w (.save q)).isSome) :
    ∃ s, e.stage.session? = some s ∧ s.readOnly = false := by
  cases stage : e.stage with
  | idle | ready v => simp [edit?, stage] at writes
  | editing v s =>
    refine ⟨s, rfl, ?_⟩
    by_contra readOnly
    have blocked : e.saveFault? s q = some (.readOnly s.nodeId) := by
      simp only [saveFault?, if_pos (Bool.eq_true_of_not_eq_false readOnly)]
    simp [edit?_saveBlocked stage blocked] at writes

section

variable (e : Editor) (locks : LockTable) (node : String)

theorem tryLock_calls : ∃ calls, (e.tryLock locks node).2 = locks.afterAll e.me calls := by
  unfold tryLock
  split
  · exact ⟨[], rfl⟩
  · exact ⟨[], rfl⟩
  · exact ⟨[.acquire node], rfl⟩

theorem unlock_calls : ∃ calls, e.unlock locks node = locks.afterAll e.me calls := by
  unfold unlock
  split
  · exact ⟨[], rfl⟩
  · exact ⟨[.release node], rfl⟩

theorem announce_calls : ∃ calls, e.announce locks node = locks.afterAll e.me calls := by
  unfold announce
  split
  · exact ⟨[], rfl⟩
  · exact ⟨[.announce node], rfl⟩

theorem closeSession_calls (s : Session) :
    ∃ calls, e.closeSession locks s = locks.afterAll e.me calls := by
  unfold closeSession
  split
  · exact ⟨[], rfl⟩
  · exact unlock_calls e locks s.nodeId

end

/-- All that a request does to the locks are calls in the name of its editor. -/
theorem Exit.lock_calls (exit : Exit e w r o) :
    ∃ calls, o.2.2.locks = w.locks.afterAll e.me calls := by
  -- opening a statement tries its lock first
  have more {e' : Editor} {node : String} (setup : e.SameSetup e') (calls : List LockCall) :
      ∃ calls',
        (e'.tryLock w.locks node).2.afterAll e'.me calls = w.locks.afterAll e.me calls' := by
    obtain ⟨tried, tryLock_eq⟩ := tryLock_calls e' w.locks node
    exact ⟨tried ++ calls, by rw [tryLock_eq, setup.me, LockTable.afterAll_append]⟩
  cases exit with
  | @beginUnread v v' node e' entry err stage fresh =>
    have setup := (catchUp_setup fresh stage).1
    dsimp only
    split
    · obtain ⟨calls, given_back⟩ := unlock_calls e' (e'.tryLock w.locks node).2 node
      rw [given_back]
      exact more setup calls
    · exact more setup []
  | @opened v v' node e' entry excerpt stage fresh =>
    have setup := (catchUp_setup fresh stage).1
    dsimp only
    split
    · obtain ⟨calls, announced⟩ := announce_calls e' (e'.tryLock w.locks node).2 node
      rw [announced]
      exact more setup calls
    · exact more setup []
  | saveStale | saveReloaded | savePatched | cancelStale | cancelReloaded | cancelled =>
    exact closeSession_calls e w.locks _
  | _ => exact ⟨[], rfl⟩

/-- A request that leaves an open statement open leaves the locks alone. -/
theorem Exit.locks_of_open {s s' : Session} (exit : Exit e w r o)
    (before : e.stage.session? = some s) (after : o.2.1.stage.session? = some s') :
    o.2.2.locks = w.locks := by
  cases stage : e.stage with
  | idle | ready v => simp [stage, Stage.session?] at before
  | editing v s =>
    cases exit with
    | refused | loadFailed | loaded | saveBlocked | unwritten | changeDeferred => rfl
    | saveStale stage fault write due reload | saveReloaded stage fault write due reload
    | cancelStale stage due reload | cancelReloaded stage due reload =>
      obtain ⟨-, v, stage⟩ := reload_setup reload
      simp [stage, Stage.session?] at after
    | savePatched | cancelled => simp [Stage.session?] at after
    | beginUnread stage' | opened stage' => simp [stage] at stage'
    | _ => rfl

/-- Who opens a statement to save it takes its lock, and holds it then if it lives. -/
theorem Exit.opened_holds (exit : Exit e w (.beginEdit node) o) (opened : o.1 = .ok (.opened s))
    (writable : s.readOnly = false) :
    e.taken? w (.beginEdit node) = some s.nodeId ∧
      (w.locks.lifetime = .unlimited → s.nodeId ∈ o.2.2.locks.heldBy e.me) := by
  cases exit with
  | @opened v v' node e' entry excerpt stage fresh known read s' session =>
    obtain ⟨setup, -, -⟩ := catchUp_setup fresh stage
    cases opened
    have node_eq : s.nodeId = node := by simp only [session, Session.nodeId_ofExcerpt]
    have granted : (e'.tryLock w.locks node).1 = true := by
      simpa [session] using writable
    refine ⟨?_, fun live => ?_⟩
    · simp [taken?, stage, fresh, known, granted, node_eq]
    · rw [if_pos granted, ← setup.me, heldBy_announce, heldBy_tryLock live granted, node_eq]
      exact Set.mem_insert _ _
  | _ => cases opened

end Editor

namespace Room

variable {ι : Type} [DecidableEq ι] {r : Room ι} {moments : List (Moment ι)} {m : Moment ι}
  {i j : ι} {s : Session}

/-- The locks that an editor holds. -/
def heldBy (r : Room ι) (i : ι) : Set String :=
  r.shared.locks.heldBy (r.editor i).me

/-! ## One moment after another -/

@[simp] theorem lifetime_pass : (r.pass m).shared.locks.lifetime = r.shared.locks.lifetime := by
  cases m with
  | change | expire => rfl
  | ask i request =>
    obtain ⟨calls, locks_eq⟩ := (Editor.exit_handle (r.editor i) r.shared request).lock_calls
    exact (congrArg LockTable.lifetime locks_eq).trans (LockTable.lifetime_afterAll calls)

@[simp] theorem me_pass : ((r.pass m).editor j).me = (r.editor j).me := by
  cases m with
  | change i x => exact (editor_change i x).2.1
  | expire node => rfl
  | ask i request =>
    by_cases mine : j = i
    · subst mine
      simp only [pass, editor_call_self (j, request)]
      exact (Editor.exit_handle (r.editor j) r.shared request).setup.me
    · rw [pass, editor_call_of_ne mine]

@[simp] theorem lifetime_run :
    (r.run moments).shared.locks.lifetime = r.shared.locks.lifetime := by
  induction moments generalizing r with
  | nil => rfl
  | cons m moments ih => exact ih.trans lifetime_pass

@[simp] theorem me_run : ((r.run moments).editor j).me = (r.editor j).me := by
  induction moments generalizing r with
  | nil => rfl
  | cons m moments ih => exact ih.trans me_pass

/-- While a statement stays open its editor keeps the lock, unless it expires: others can neither
take it nor give it back. -/
theorem holds_pass (distinct : Function.Injective fun i => (r.editor i).me)
    (live : r.shared.locks.lifetime = .unlimited) (before : r.session? i = some s)
    (after : (r.pass m).session? i = some s) (spared : m ≠ .expire s.nodeId)
    (holds : s.nodeId ∈ r.heldBy i) : s.nodeId ∈ (r.pass m).heldBy i := by
  rw [heldBy, me_pass]
  cases m with
  | change j x => exact holds
  | expire node =>
    rw [pass, LockTable.heldBy_expire]
    refine ⟨holds, ?_⟩
    rintro rfl
    exact spared rfl
  | ask j request =>
    have exit := Editor.exit_handle (r.editor j) r.shared request
    by_cases mine : i = j
    · subst mine
      rw [pass, session?, editor_call_self (i, request)] at after
      have same : (r.call (i, request)).shared.locks = r.shared.locks :=
        exit.locks_of_open before after
      rwa [pass, same]
    · obtain ⟨calls, locks_eq⟩ := exit.lock_calls
      have locks_eq : (r.call (j, request)).shared.locks = _ := locks_eq
      rw [pass, locks_eq, LockTable.heldBy_afterAll_of_ne live]
      · exact holds
      · exact fun same => mine (distinct same).symm

/-- Locks live for no time, or the lock of the statement expires at some of the moments. -/
def Expires (r : Room ι) (node : String) (moments : List (Moment ι)) : Prop :=
  r.shared.locks.lifetime = .zero ∨ .expire node ∈ moments

omit [DecidableEq ι] in
theorem live_of_not_expires {node : String} (lives : ¬ r.Expires node moments) :
    r.shared.locks.lifetime = .unlimited := by
  cases lifetime : r.shared.locks.lifetime with
  | unlimited => rfl
  | zero => exact (lives (.inl lifetime)).elim

/-- The statement whose lock an editor takes by a request. -/
def taken? (r : Room ι) (i : ι) (request : Request) : Option String :=
  (r.editor i).taken? r.shared request

section

variable (distinct : Function.Injective fun i => (r.editor i).me) (o : r.Opening moments i s)
  (writable : s.readOnly = false)

include distinct writable

/-- Who opened a statement to save it holds its lock as long as it does not expire. -/
theorem Opening.holds {part : List (Moment ι)} (isPrefix : part <+: o.since)
    (lives : ¬ r.Expires s.nodeId part) : s.nodeId ∈ (o.after part).heldBy i := by
  have live := live_of_not_expires lives
  induction part using List.reverseRecOn with
  | nil =>
    have exit := Editor.exit_handle ((r.run o.before).editor i) (r.run o.before).shared
      (.beginEdit o.node)
    obtain ⟨-, holds⟩ := exit.opened_holds o.opened writable
    have opened : o.after [] = (r.run o.before).pass (.ask i (.beginEdit o.node)) :=
      (o.run_room []).symm
    rw [opened, heldBy, me_pass]
    exact holds (lifetime_run.trans live)
  | append_singleton part m ih =>
    have earlier : part <+: o.since := (List.prefix_append part [m]).trans isPrefix
    rw [o.after_concat]
    refine holds_pass ?_ (lifetime_run.trans live) (o.kept part earlier) ?_ ?_ (ih earlier ?_)
    · simpa [after] using distinct
    · rw [← o.after_concat]
      exact o.kept _ isPrefix
    · rintro rfl
      exact lives (.inr (by simp))
    · exact fun expires => lives (expires.imp id fun mem => List.mem_append_left _ mem)

/-- Another editor takes the lock of a statement that stays open only after it expired. -/
theorem Opening.expires_of_taken {part rest : List (Moment ι)} {request : Request}
    (split : o.since = part ++ .ask j request :: rest) (other : j ≠ i)
    (taken : (o.after part).taken? j request = some s.nodeId) : r.Expires s.nodeId part := by
  by_contra lives
  have holds := o.holds distinct writable (split ▸ List.prefix_append _ _) lives
  have holder : (o.after part).shared.locks.holder? s.nodeId = some ((o.after part).editor i).me :=
    holds
  rcases Editor.taken?_free taken with free | own
  · simp [holder] at free
  · rw [holder, after, me_run, me_run] at own
    exact other (distinct (Option.some.inj own)).symm

end

/-- Of two statements that are open, one was opened while the other was open. -/
theorem Opening.later {s' : Session} (o : r.Opening moments i s) (o' : r.Opening moments j s')
    (other : j ≠ i) :
    (∃ part, o'.before = o.before ++ .ask i (.beginEdit o.node) :: part ∧
        o.since = part ++ .ask j (.beginEdit o'.node) :: o'.since) ∨
      ∃ part, o.before = o'.before ++ .ask j (.beginEdit o'.node) :: part ∧
        o'.since = part ++ .ask i (.beginEdit o.node) :: o.since := by
  have both := o.split.symm.trans o'.split
  rcases List.append_eq_append_iff.1 both with ⟨between, before, since⟩ | ⟨between, before, since⟩
  · cases between with
    | nil => simp [other.symm] at since
    | cons m part =>
      obtain ⟨rfl, rest⟩ := List.cons.inj since
      exact .inl ⟨part, before, rest⟩
  · cases between with
    | nil => simp [other] at since
    | cons m part =>
      obtain ⟨rfl, rest⟩ := List.cons.inj since
      exact .inr ⟨part, before, rest⟩

/-- Who opens to save it a statement that another editor has open to save it finds its lock
expired. -/
theorem Opening.expires_of_later {s' : Session}
    (distinct : Function.Injective fun i => (r.editor i).me) (o : r.Opening moments i s)
    (o' : r.Opening moments j s') (other : j ≠ i)
    (writable : s.readOnly = false) (writable' : s'.readOnly = false)
    (same : s'.nodeId = s.nodeId) {part : List (Moment ι)}
    (before : o'.before = o.before ++ .ask i (.beginEdit o.node) :: part)
    (since : o.since = part ++ .ask j (.beginEdit o'.node) :: o'.since) :
    r.Expires s.nodeId o.since := by
  have exit := Editor.exit_handle ((r.run o'.before).editor j) (r.run o'.before).shared
    (.beginEdit o'.node)
  obtain ⟨taken, -⟩ := exit.opened_holds o'.opened writable'
  rw [before, same] at taken
  have expires := o.expires_of_taken distinct writable since other taken
  rw [since]
  exact expires.imp id fun mem => List.mem_append_left _ mem

/-- Let any editors, each in its own name and none with a statement open, be asked for anything in
any order while their surroundings change and locks expire, and let the save of one of them write.
It has a statement open to save it, which was opened at some moment. Whenever another editor has
taken the lock of the statement since, the lock had expired in between. And when another editor has
the same statement open to save it as well, the lock expired while one of the two had it open. -/
theorem save_behind_live_lock (r : Room ι) (distinct : Function.Injective fun i => (r.editor i).me)
    (closed : ∀ i, r.session? i = none) (moments : List (Moment ι)) (i : ι) (q : SaveRequest)
    (writes : (((r.run moments).editor i).edit? (r.run moments).shared (.save q)).isSome) :
    ∃ s, (r.run moments).session? i = some s ∧ s.readOnly = false ∧
      ∃ o : r.Opening moments i s,
        (∀ part j request rest, o.since = part ++ .ask j request :: rest → j ≠ i →
          (o.after part).taken? j request = some s.nodeId → r.Expires s.nodeId part) ∧
        ∀ j s', j ≠ i → (r.run moments).session? j = some s' → s'.readOnly = false →
          s'.nodeId = s.nodeId →
          ∃ o' : r.Opening moments j s',
            r.Expires s.nodeId o.since ∨ r.Expires s.nodeId o'.since := by
  obtain ⟨s, isOpen, writable⟩ := Editor.writable_of_edit? writes
  obtain ⟨o⟩ := exists_opening closed isOpen
  refine ⟨s, isOpen, writable, o, fun part j request rest split other taken =>
    o.expires_of_taken distinct writable split other taken, ?_⟩
  intro j s' other isOpen' writable' same
  obtain ⟨o'⟩ := exists_opening closed isOpen'
  refine ⟨o', ?_⟩
  rcases o.later o' other with ⟨part, before, since⟩ | ⟨part, before, since⟩
  · exact .inl (o.expires_of_later distinct o' other writable writable' same before since)
  · rw [← same]
    exact .inr (o'.expires_of_later distinct o other.symm writable' writable same.symm before since)

/-- Two editors open the same statement; before the second does so the lock of another statement
expires and its parser starts to fail. Only the first may save. -/
theorem save_behind_live_lock_alone :
    let r : Room Bool := ⟨fun b => .new "s" {} b.toNat outline,
      { store := ({} : Store).put "s" "label a:\n    one\n    two\n" }⟩
    let moments : List (Moment Bool) := [.ask false .load, .ask true .load,
      .ask false (.beginEdit "a-0"), .expire "a-1", .change true (.parser fun _ => .error "down"),
      .ask true (.beginEdit "a-0")]
    let x := r.run moments
    ((x.editor false).edit? x.shared (.save { body := "eins" })).isSome ∧
      ∃ s s', x.session? false = some s ∧ x.session? true = some s' ∧ s'.nodeId = s.nodeId ∧
        s.readOnly = false ∧ s'.readOnly = true := by
  intro r moments x
  obtain ⟨writes, node, node'⟩ :
      ((x.editor false).edit? x.shared (.save { body := "eins" })).isSome ∧
      (x.session? false).map (·.nodeId) = some "a-0" ∧
      (x.session? true).map (·.nodeId) = some "a-0" := by decide +kernel
  have distinct : Function.Injective fun b => (r.editor b).me := by
    simp [Function.Injective, r, Editor.new]
  obtain ⟨s, isOpen, writable, o, -, alone⟩ :=
    save_behind_live_lock r distinct (fun b => rfl) moments false { body := "eins" } writes
  have x_eq : r.run moments = x := rfl
  rw [x_eq] at isOpen alone
  clear_value x
  obtain ⟨s', isOpen', node'⟩ := Option.map_eq_some_iff.1 node'
  have node : s.nodeId = "a-0" := by simpa [isOpen] using node
  refine ⟨writes, s, s', isOpen, isOpen', node'.trans node.symm, writable, ?_⟩
  by_contra writable'
  have spared : ¬ r.Expires "a-0" moments := by simp [Expires, r, moments]
  obtain ⟨o', expires⟩ := alone true s' (by decide) isOpen' (by simpa using writable')
    (node'.trans node.symm)
  rw [node] at expires
  rcases expires with expires | expires
  · exact spared (expires.imp id (o.since_subset ·))
  · exact spared (expires.imp id (o'.since_subset ·))

/-- With locks that expire at once both editors open the same statement to save it: the second takes
its lock while the first has it open, and both write. -/
theorem both_save_behind_expired_lock :
    let r : Room Bool := ⟨fun b => .new "s" {} b.toNat outline,
      { store := ({} : Store).put "s" "label a:\n    one\n    two\n"
        locks := { lifetime := .zero } }⟩
    let x := r.run [.ask false .load, .ask true .load, .ask false (.beginEdit "a-0")]
    let y := x.pass (.ask true (.beginEdit "a-0"))
    let z := y.pass (.ask false (.save { body := "eins" }))
    x.taken? true (.beginEdit "a-0") = some "a-0" ∧
      (y.session? false).map (fun s => (s.nodeId, s.readOnly)) = some ("a-0", false) ∧
      (y.session? true).map (fun s => (s.nodeId, s.readOnly)) = some ("a-0", false) ∧
      ((y.editor false).edit? y.shared (.save { body := "eins" })).isSome ∧
      ((z.editor true).edit? z.shared (.save { body := "zwei" })).isSome := by
  decide +kernel

end Room

end StoryScript
