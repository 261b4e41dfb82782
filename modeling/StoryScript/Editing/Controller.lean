import StoryScript.Editing.Editor

/-!
# An editor, field by field

What an editor is doing is kept in several fields: the state that is shown, the open session, what
was seen before the session began, and what was last read. An operation sets them one after the
other. On the way the state tells that a script is being loaded, saved or read anew, and wherever
an operation fails it has to see to it that the fields belong together again. `Stage` is what they
amount to between two operations; here each of them is set on its own.

## Main definitions

* `SyncState` — the states that are shown.
* `Controller` — an editor with all its fields.
* `Controller.load`, `setFilter`, `beginEdit`, `save`, `cancel`, `insertAfter`,
  `scriptChanged` — the operations.
* `Controller.handle` — the operations as data.
-/

namespace StoryScript

/-- What an editor tells that it is doing. -/
inductive SyncState where
  | idle
  | loading
  | ready
  | editing (node : String)
  | saving
  | reloading
deriving Repr, DecidableEq, Inhabited

def SyncState.name : SyncState → String
  | idle => "Idle"
  | loading => "Loading"
  | ready => "Ready"
  | editing node => s!"Editing({node})"
  | saving => "Saving"
  | reloading => "Reloading"

/-- One who edits a script, with a field for everything that is kept. -/
structure Controller where
  script : String
  config : Config := {}
  me : Participant := 0
  parser : Parser := outline
  parses : Nat := 0
  lockFault : LockFault := .none
  canvas : Canvas := {}
  state : SyncState := .idle
  filter : LabelFilter := .all
  tree : Option Tree := none
  lineCount : Nat := 0
  lines : List String := []
  lineMap : LineMap := {}
  graph : Graph Float := {}
  /-- The open session. What was seen when it began is not kept there. -/
  session : Option Session := none
  /-- What was seen before a session began, until it is taken out to go back there. -/
  seen : Option Viewport := none
  pending : Bool := false

namespace Controller

def new (script : String) (config : Config) (me : Participant) (parser : Parser) : Controller :=
  { script, config, me, parser }

/-- What an operation comes to: its result, the controller, and what others see. -/
abbrev Ending (α : Type) := Except SyncError α × Controller × Shared

def Ending.map (f : α → β) (x : Ending α) : Ending β :=
  (x.1.map f, x.2)

def refuse (c : Controller) (w : Shared) : Ending α :=
  (.error (.invalidState c.state.name), c, w)

/-! ## Reading the script anew -/

/-- Takes over a tree with all that is made of it, but only if it can be drawn. -/
def rebuild (c : Controller) (p : Parsed) (lines : List String) :
    Except SyncError Unit × Controller :=
  match p.tree.layout c.config.layout c.filter with
  | .error err => (.error (.layout err), c)
  | .ok graph =>
    (.ok (), { c with
      graph, lineMap := .ofTree p.tree, tree := some p.tree, lineCount := p.lineCount, lines
      canvas := c.canvas.render graph })

/-- Reads, parses and draws the script. -/
def fetch (c : Controller) (store : Store) : Except SyncError Unit × Controller :=
  match store.readAll c.script with
  | .error err => (.error (.store err), c)
  | .ok source =>
    let c := { c with parses := c.parses + 1 }
    match c.parser source with
    | .error reason => (.error (.parser reason), c)
    | .ok parsed => c.rebuild parsed (Text.toLines source)

/-- Where the canvas goes after a refresh; nowhere when nothing was kept to go back to. -/
def follow (c : Controller) : Option Editor.Focus → Option String × Canvas
  | none => (none, c.canvas)
  | some (.keep viewport) => (none, c.canvas.restore viewport)
  | some (.node id) => Editor.focusNode c.graph (some id) c.canvas
  | some (.line n) => Editor.focusNode c.graph ((c.lineMap.owner? n).map (·.nodeId)) c.canvas

/-- Reads the script anew. When it fails all that was read stays, and the refresh remains due. -/
def reload (c : Controller) (store : Store) (focus : Option Editor.Focus) :
    Except SyncError (Option String) × Controller :=
  match { c with state := .reloading, pending := false }.fetch store with
  | (.error err, c) => (.error err, { c with pending := true, state := .ready })
  | (.ok (), c) =>
    let c := { c with state := .ready }
    ((.ok (c.follow focus).1), { c with canvas := (c.follow focus).2 })

/-- Does the refresh that is due, if one is. -/
def retry (c : Controller) (store : Store) : Except SyncError Unit × Controller :=
  if c.pending then
    match c.reload store (some (.keep c.canvas.viewport)) with
    | (.error err, c) => (.error err, c)
    | (.ok _, c) => (.ok (), c)
  else (.ok (), c)

/-! ## Locks -/

/-- Tries to take the lock of a statement. A service that fails or never answers denies it. -/
def tryLock (c : Controller) (locks : LockTable) (node : String) : Bool × LockTable :=
  match c.lockFault with
  | .acquire | .stall => (false, locks)
  | _ => locks.acquire c.me node

/-- Gives the lock of a statement back, if the service answers. -/
def unlock (c : Controller) (locks : LockTable) (node : String) : LockTable :=
  if c.lockFault = .release then locks else locks.release c.me node

def announce (c : Controller) (locks : LockTable) (node : String) : LockTable :=
  if c.lockFault = .announce then locks else locks.announce c.me node

/-- Closes a session, and gives its lock back if it had it. -/
def closeSession (c : Controller) (locks : LockTable) (s : Session) : Controller × LockTable :=
  ({ c with session := none }, if s.readOnly then locks else c.unlock locks s.nodeId)

/-! ## Operations -/

/-- Reads the script and shows all of it. -/
def load (c : Controller) (w : Shared) : Ending (Graph Float) :=
  if c.state = .idle ∨ c.state = .ready then
    match { c with state := .loading }.fetch w.store with
    | (.error err, c') => (.error err, { c' with state := c.state }, w)
    | (.ok (), c') => (.ok c'.graph, { c' with state := .ready, canvas := c'.canvas.fitAll }, w)
  else c.refuse w

/-- Draws one label, or all of them. -/
def setFilter (c : Controller) (w : Shared) (filter : LabelFilter) : Ending (Graph Float) :=
  if c.state = .ready then
    match c.tree with
    | none => (.ok c.graph, { c with filter }, w)
    | some tree =>
      match tree.layout c.config.layout filter with
      | .error err => (.error (.layout err), c, w)
      | .ok graph =>
        (.ok graph, { c with graph, filter, canvas := (c.canvas.render graph).fitAll }, w)
  else c.refuse w

/-- Opens a statement. Without its lock the session is read-only. -/
def beginEdit (c : Controller) (w : Shared) (node : String) : Ending Session :=
  if c.state = .ready then
    match c.retry w.store with
    | (.error err, c) => (.error err, c, w)
    | (.ok (), c) =>
      match c.lineMap.entry? node with
      | none => (.error (.nodeNotFound node), c, w)
      | some entry =>
        let (locked, locks) := c.tryLock w.locks node
        match w.store.readRange c.script entry.startLine entry.endLine with
        | .error err =>
          let locks := if locked then c.unlock locks node else locks
          (.error (.store err), c, { w with locks })
        | .ok excerpt =>
          let locks := if locked then c.announce locks node else locks
          let s := Session.ofExcerpt node entry excerpt (!locked) {}
          (.ok s, { c with
            seen := some c.canvas.viewport, state := .editing node, session := some s },
            { w with locks })
  else c.refuse w

/-- Why a session may not be saved. -/
def saveFault? (c : Controller) (s : Session) (r : SaveRequest) : Option SyncError :=
  if s.readOnly then some (.readOnly s.nodeId)
  else
    match s.indent.error with
    | some problem =>
      if c.config.indentPolicy.permits s.indent r.overrideIndent then none
      else some (.indentationBlocked problem)
    | none => none

/-- Ends a save after its text was written. While the number of lines stays the same only the lines
that are held are brought up to date; otherwise, or when a refresh is due, all is read anew. -/
def afterWrite (c : Controller) (store : Store) (s : Session) (r : SaveRequest)
    (write : Text.Written) : Except SyncError Editor.SaveOutcome × Controller :=
  let seen := c.seen
  let c := { c with seen := none }
  if write.lineDelta ≠ 0 ∨ c.pending then
    let focus := match r.focus with
      | some id => some (.node id)
      | none => seen.map .keep
    match c.reload store focus with
    | (.error err, c) => (.error err, c)
    | (.ok focused, c) => (.ok ⟨write, true, focused⟩, c)
  else
    let lines := match Text.splice c.lines s.startLine s.endLine (s.text r) with
      | .ok (lines, _) => lines
      | .error _ => c.lines
    let c := { c with lines, state := .ready }
    match r.focus with
    | none => (.ok ⟨write, false, none⟩, c)
    | some id =>
      let (moved, canvas) := c.canvas.focus id
      (.ok ⟨write, false, if moved then some id else none⟩, { c with canvas })

/-- Writes the open statement back. -/
def save (c : Controller) (w : Shared) (r : SaveRequest) : Ending Editor.SaveOutcome :=
  match c.state, c.session with
  | .editing _, some s =>
    match c.saveFault? s r with
    | some err => (.error err, c, w)
    | none =>
      let c := { c with state := .saving }
      match w.store.writeRange c.script s.startLine s.endLine (s.text r) with
      | .error err => (.error (.store err), { c with state := .editing s.nodeId }, w)
      | .ok (store, write) =>
        let (c, locks) := c.closeSession w.locks s
        let (result, c) := c.afterWrite store s r write
        (result, c, ⟨store, locks⟩)
  | _, _ => c.refuse w

/-- Closes the open statement without writing. -/
def cancel (c : Controller) (w : Shared) : Ending Unit :=
  match c.state, c.session with
  | .editing _, some s =>
    let (c, locks) := c.closeSession w.locks s
    let c := { c with state := .ready }
    if c.pending then
      let seen := c.seen
      match { c with seen := none }.reload w.store (seen.map .keep) with
      | (.error err, c) => (.error err, c, { w with locks })
      | (.ok _, c) => (.ok (), c, { w with locks })
    else (.ok (), c, { w with locks })
  | _, _ => c.refuse w

/-- Inserts lines right behind a statement and goes to the new statement. -/
def insertAfter (c : Controller) (w : Shared) (node text : String) : Ending Editor.SaveOutcome :=
  if c.state = .ready then
    match c.retry w.store with
    | (.error err, c) => (.error err, c, w)
    | (.ok (), c) =>
      match c.lineMap.entry? node with
      | none => (.error (.nodeNotFound node), c, w)
      | some entry =>
        match w.store.insertLines c.script (entry.endLine + 1) text with
        | .error err => (.error (.store err), c, w)
        | .ok (store, write) =>
          let w := { w with store }
          if write.lineCount = 0 then (.ok ⟨write, false, none⟩, c, w)
          else
            match c.reload store (some (.line (entry.endLine + 1))) with
            | (.error err, c) => (.error err, c, w)
            | (.ok focused, c) => (.ok ⟨write, true, focused⟩, c, w)
  else c.refuse w

/-- Takes note that somebody changed the script. -/
def scriptChanged (c : Controller) (w : Shared) : Ending Editor.ChangeResponse :=
  match c.state with
  | .idle => (.ok .ignored, c, w)
  | .ready =>
    match c.reload w.store (some (.keep c.canvas.viewport)) with
    | (.error err, c) => (.error err, c, w)
    | (.ok _, c) => (.ok .applied, c, w)
  | _ => (.ok .deferred, { c with pending := true }, w)

/-- Does what is asked. -/
def handle (c : Controller) (w : Shared) : Request → Ending Answer
  | .load => (c.load w).map .drawn
  | .setFilter filter => (c.setFilter w filter).map .drawn
  | .beginEdit node => (c.beginEdit w node).map .opened
  | .save request => (c.save w request).map .saved
  | .cancel => (c.cancel w).map fun _ => .closed
  | .insertAfter node text => (c.insertAfter w node text).map .saved
  | .scriptChanged => (c.scriptChanged w).map .noted

end Controller

end StoryScript
