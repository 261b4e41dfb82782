import Mathlib.Data.List.Forall2
import StoryScript.Proofs.WireForm

/-!
# Which statements are read

Reading enters a statement, reads what stands below it, and leaves it again. Entering looks at the
statement alone, and leaving at what stands right below it. A statement is read when no step finds
anything wrong with it or below it, and otherwise refused for what the first such step finds.

## Main definitions

* `WireNode.preorder` — a statement on the wire and all below it.
* `WireNode.Lawful` — the rules for a statement and what stands right below it.
* `Step`, `WireNode.steps` — entering and leaving statements, in the order of the reading.
* `Step.Finds` — what a step finds wrong.
* `Clean`, `FirstFinds` — steps that find nothing wrong, and what the first of them finds that does.
* `Follows` — a reading that is refused for what the first such step finds, and for nothing else.
* `Closed` — steps that leave no statement before all that stands below it.

## Main statements

* `Follows.bind` — one reading after another follows the steps of both.
* `follows_toNode` — the reading of a statement follows its steps.
* `closed_of_prefix` — by the time a statement is left, so are all below it.
* `toNode_verdict` — which statements are read, and for what the others are refused.
-/

namespace StoryScript

namespace WireNode

/-- What stands right below a statement: its children, and then its false branch. -/
def parts (w : WireNode) : List WireNode :=
  w.children ++ w.falseBranch.getD []

mutual

/-- A statement on the wire and all below it. -/
def preorder (w : WireNode) : List WireNode :=
  match w with
  | ⟨id, kind, caption, first, last, children, falseBranch⟩ =>
    ⟨id, kind, caption, first, last, children, falseBranch⟩ ::
      (preorderAll children ++
        match falseBranch with
        | some fs => preorderAll fs
        | none => [])

def preorderAll : List WireNode → List WireNode
  | [] => []
  | w :: ws => w.preorder ++ preorderAll ws

end

/-- The rules for a statement: its lines are in order and none is negative, only a condition has a
false branch, below a menu there are options and nothing else, and below an end there is nothing. -/
structure Lawful (w : WireNode) : Prop where
  lines : 0 ≤ w.startLine ∧ w.startLine ≤ w.endLine
  condition : w.falseBranch.isSome → w.kind = .ifBlock
  menu : w.kind = .menuBlock → ∀ c ∈ w.children, c.kind = .menuOption
  ending : w.kind = .ending → w.children = []

/-- A step of the reading. -/
inductive Step where
  | enter (w : WireNode)
  | leave (w : WireNode)

/-- The statement that a step enters or leaves. -/
def Step.node : Step → WireNode
  | .enter w => w
  | .leave w => w

/-- What a step finds wrong. On entering, the lines come first; on leaving, the first child counts
that does not belong. -/
inductive Step.Finds : Step → TreeError → Prop
  | range {w : WireNode} (bad : w.startLine < 0 ∨ w.endLine < w.startLine) :
    Finds (.enter w) (.range w.id w.startLine w.endLine)
  | falseBranch {w : WireNode} (lines : 0 ≤ w.startLine ∧ w.startLine ≤ w.endLine)
    (present : w.falseBranch.isSome) (other : w.kind ≠ .ifBlock) :
    Finds (.enter w) (.falseBranch w.id w.kind)
  | menuChild {w : WireNode} {elder younger : List WireNode} {c : WireNode}
    (menu : w.kind = .menuBlock) (children : w.children = elder ++ c :: younger)
    (options : ∀ o ∈ elder, o.kind = .menuOption) (other : c.kind ≠ .menuOption) :
    Finds (.leave w) (.menuChild w.id c.id c.kind)
  | ending {w : WireNode} (ending : w.kind = .ending) (children : w.children ≠ []) :
    Finds (.leave w) (.endWithChildren w.id)

mutual

/-- The steps of reading a statement: it is entered, then its children are read, then its false
branch, and last it is left. -/
def steps (w : WireNode) : List Step :=
  match w with
  | ⟨id, kind, caption, first, last, children, falseBranch⟩ =>
    .enter ⟨id, kind, caption, first, last, children, falseBranch⟩ ::
      (stepsAll children ++
        match falseBranch with
        | some fs => stepsAll fs
        | none => []) ++ [.leave ⟨id, kind, caption, first, last, children, falseBranch⟩]

def stepsAll : List WireNode → List Step
  | [] => []
  | w :: ws => w.steps ++ stepsAll ws

end

/-- With a statement some steps have also entered and left all below it. -/
def Closed (ss : List Step) : Prop :=
  ∀ v, .leave v ∈ ss → ∀ u ∈ v.preorder, .enter u ∈ ss ∧ .leave u ∈ ss

/-- No step finds anything wrong. -/
def Clean (ss : List Step) : Prop :=
  ∀ s ∈ ss, ∀ e, ¬ s.Finds e

/-- The first step that finds anything wrong finds `e`. -/
def FirstFinds (ss : List Step) (e : TreeError) : Prop :=
  ∃ before s behind, ss = before ++ s :: behind ∧ Clean before ∧ s.Finds e

/-- A reading is refused just for what its steps find first. -/
def Follows {α : Type} (x : Except TreeError α) (ss : List Step) : Prop :=
  ∀ e, x = .error e ↔ FirstFinds ss e

/-! ## Steps -/

theorem preorderAll_eq (ws : List WireNode) : preorderAll ws = ws.flatMap preorder := by
  induction ws with
  | nil => rfl
  | cons w ws ih => rw [preorderAll, ih, List.flatMap_cons]

theorem preorder_eq (w : WireNode) : w.preorder = w :: w.parts.flatMap preorder := by
  obtain ⟨id, kind, caption, first, last, children, _ | fs⟩ := w <;>
    simp [preorder, preorderAll_eq, parts]

theorem stepsAll_eq (ws : List WireNode) : stepsAll ws = ws.flatMap steps := by
  induction ws with
  | nil => rfl
  | cons w ws ih => rw [stepsAll, ih, List.flatMap_cons]

theorem steps_eq (w : WireNode) :
    w.steps = .enter w :: (w.parts.flatMap steps ++ [.leave w]) := by
  obtain ⟨id, kind, caption, first, last, children, _ | fs⟩ := w <;>
    simp [steps, stepsAll_eq, parts]

/-- A property holds of all wire forms when it passes on from what stands right below. -/
theorem parts_induction {motive : WireNode → Prop}
    (step : ∀ w : WireNode, (∀ c ∈ w.parts, motive c) → motive w) (w : WireNode) : motive w := by
  induction w using WireNode.induction with
  | step w children falseBranch =>
    refine step w fun c mem => ?_
    rcases List.mem_append.1 mem with mem | mem
    · exact children c mem
    · exact falseBranch c mem

theorem mem_preorder {v w : WireNode} :
    v ∈ w.preorder ↔ v = w ∨ ∃ c ∈ w.parts, v ∈ c.preorder := by
  rw [preorder_eq, List.mem_cons, List.mem_flatMap]

theorem mem_steps {s : Step} {w : WireNode} :
    s ∈ w.steps ↔ s = .enter w ∨ (∃ c ∈ w.parts, s ∈ c.steps) ∨ s = .leave w := by
  rw [steps_eq, List.mem_cons, List.mem_append, List.mem_flatMap, List.mem_singleton]

/-- The steps enter and leave the statement and all below it, and no other. -/
theorem mem_steps_iff {s : Step} {w : WireNode} : s ∈ w.steps ↔ s.node ∈ w.preorder := by
  induction w using parts_induction with
  | step w ih =>
    rw [mem_steps, mem_preorder]
    have inside : (∃ c ∈ w.parts, s ∈ c.steps) ↔ ∃ c ∈ w.parts, s.node ∈ c.preorder := by grind
    cases s <;> grind [Step.node]

/-- On leaving a menu its first child is reported that is no option. -/
theorem finds_leave_menu {w : WireNode} (menu : w.kind = .menuBlock) {e : TreeError} :
    (Step.leave w).Finds e ↔
      ∃ c, w.children.find? (·.kind != .menuOption) = some c ∧ e = .menuChild w.id c.id c.kind := by
  simp only [List.find?_eq_some_iff_append]
  constructor
  · intro found
    cases found with
    | menuChild _ children options other =>
      exact ⟨_, ⟨by simpa using other, _, _, children, by simpa using options⟩, rfl⟩
    | ending ending _ => simp [menu] at ending
  · rintro ⟨c, ⟨other, elder, younger, children, options⟩, rfl⟩
    exact .menuChild menu children (by simpa using options) (by simpa using other)

/-- A statement obeys the rules when nothing is found wrong on entering or on leaving it. -/
theorem lawful_iff {w : WireNode} :
    w.Lawful ↔ (∀ e, ¬ (Step.enter w).Finds e) ∧ ∀ e, ¬ (Step.leave w).Finds e := by
  constructor
  · intro lawful
    constructor
    · intro e found
      cases found with
      | range bad =>
        obtain ⟨nonneg, forward⟩ := lawful.lines
        grind
      | falseBranch _ present other => exact other (lawful.condition present)
    · intro e found
      cases found with
      | menuChild menu children _ other => exact other (lawful.menu menu _ (by simp [children]))
      | ending ending children => exact children (lawful.ending ending)
  · rintro ⟨entered, left⟩
    have lines : 0 ≤ w.startLine ∧ w.startLine ≤ w.endLine := by
      by_contra bad
      exact entered _ (.range (by grind))
    refine ⟨lines, ?_, ?_, ?_⟩
    · intro present
      by_contra other
      exact entered _ (.falseBranch lines present other)
    · intro menu
      have options : w.children.find? (·.kind != .menuOption) = none := by
        by_contra others
        obtain ⟨c, found⟩ := Option.ne_none_iff_exists'.1 others
        exact left _ ((finds_leave_menu menu).2 ⟨c, found, rfl⟩)
      simpa using options
    · intro ending
      by_contra children
      exact left _ (.ending ending children)

/-! ## Statements that were left -/

theorem mem_preorder_trans {u v w : WireNode} (hv : v ∈ w.preorder) (hu : u ∈ v.preorder) :
    u ∈ w.preorder := by
  induction w using parts_induction with
  | step w ih =>
    rcases mem_preorder.1 hv with rfl | ⟨c, child, inside⟩
    · exact hu
    · exact mem_preorder.2 (.inr ⟨c, child, ih c child inside⟩)

theorem closed_nil : Closed [] := by
  intro v left
  cases left

theorem Closed.append {a b : List Step} (ha : Closed a) (hb : Closed b) : Closed (a ++ b) := by
  intro v left u inside
  rcases List.mem_append.1 left with left | left
  · obtain ⟨entered, left⟩ := ha v left u inside
    exact ⟨List.mem_append_left _ entered, List.mem_append_left _ left⟩
  · obtain ⟨entered, left⟩ := hb v left u inside
    exact ⟨List.mem_append_right _ entered, List.mem_append_right _ left⟩

theorem closed_steps (w : WireNode) : Closed w.steps := by
  intro v left u inside
  have inside' : u ∈ w.preorder := mem_preorder_trans (mem_steps_iff.1 left) inside
  exact ⟨mem_steps_iff.2 inside', mem_steps_iff.2 inside'⟩

/-- The reading of one statement after another may stop anywhere. -/
theorem closed_of_prefix_flatMap {ws : List WireNode}
    (each : ∀ w ∈ ws, ∀ before, before <+: w.steps → Closed before) {before : List Step}
    (start : before <+: ws.flatMap steps) : Closed before := by
  induction ws generalizing before with
  | nil =>
    rw [List.prefix_nil.1 start]
    exact closed_nil
  | cons w ws ih =>
    rw [List.forall_mem_cons] at each
    rw [List.flatMap_cons] at start
    rcases List.prefix_or_prefix_of_prefix start (List.prefix_append _ _) with inside | ⟨rest, rfl⟩
    · exact each.1 before inside
    · exact (closed_steps w).append (ih each.2 ((List.prefix_append_right_inj _).1 start))

/-- Wherever the reading stops, what was left by then was left with all below it. -/
theorem closed_of_prefix {w : WireNode} {before : List Step} (start : before <+: w.steps) :
    Closed before := by
  induction w using parts_induction generalizing before with
  | step w ih =>
    rw [steps_eq] at start
    rcases List.prefix_cons_iff.1 start with rfl | ⟨rest, rfl, start'⟩
    · exact closed_nil
    rcases List.prefix_concat_iff.1 start' with rfl | inside
    · rw [← steps_eq]
      exact closed_steps w
    · have rest_closed := closed_of_prefix_flatMap (fun c mem before => ih c mem) inside
      intro v left u mem
      have left' : .leave v ∈ rest := by simpa using left
      obtain ⟨entered, left⟩ := rest_closed v left' u mem
      exact ⟨List.mem_cons_of_mem _ entered, List.mem_cons_of_mem _ left⟩

/-! ## The first fault -/

section

variable {α β : Type} {x : Except TreeError α} {a b : List Step} {e : TreeError}

theorem firstFinds_singleton {s : Step} : FirstFinds [s] e ↔ s.Finds e := by
  constructor
  · rintro ⟨before, t, behind, split, -, found⟩
    cases before <;> simp_all
  · intro found
    exact ⟨[], s, [], rfl, by simp [Clean], found⟩

/-- The first fault of some steps after others is theirs only if the others find none. -/
theorem firstFinds_append : FirstFinds (a ++ b) e ↔ FirstFinds a e ∨ Clean a ∧ FirstFinds b e := by
  constructor
  · rintro ⟨before, s, behind, split, clean, found⟩
    rcases List.append_eq_append_iff.1 split with ⟨before', rfl, rest⟩ | ⟨rest, rfl, split'⟩
    · have clean_a : Clean a := fun t mem => clean t (List.mem_append_left _ mem)
      have clean' : Clean before' := fun t mem => clean t (List.mem_append_right _ mem)
      exact .inr ⟨clean_a, before', s, behind, rest, clean', found⟩
    · cases rest with
      | nil =>
        have clean' : Clean (before ++ []) := by simpa using clean
        have nothing_before : Clean [] := by simp [Clean]
        exact .inr ⟨clean', [], s, behind, by simpa using split'.symm, nothing_before, found⟩
      | cons t rest =>
        obtain ⟨rfl, -⟩ := List.cons.inj split'
        exact .inl ⟨before, s, rest, rfl, clean, found⟩
  · rintro (⟨before, s, behind, rfl, clean, found⟩ | ⟨clean, before, s, behind, rfl, clean', found⟩)
    · exact ⟨before, s, behind ++ b, by simp, clean, found⟩
    · refine ⟨a ++ before, s, behind, by simp, ?_, found⟩
      intro t mem
      exact (List.mem_append.1 mem).elim (clean t) (clean' t)

/-- Some step finds something wrong, or none does. -/
theorem clean_iff : Clean a ↔ ∀ e, ¬ FirstFinds a e := by
  induction a with
  | nil => simp [Clean, FirstFinds]
  | cons s ss ih =>
    have cons_eq : s :: ss = [s] ++ ss := rfl
    simp only [cons_eq, firstFinds_append, firstFinds_singleton]
    unfold Clean at *
    grind

theorem Follows.exists_ok_iff (h : Follows x a) : (∃ v, x = .ok v) ↔ Clean a := by
  rw [clean_iff]
  cases x with
  | ok v => simpa using fun e found => by simpa using (h e).2 found
  | error e => simpa using ⟨e, (h e).1 rfl⟩

theorem follows_ok (v : α) : Follows (.ok v) [] := by
  intro e
  simp [FirstFinds]

/-- A reading that goes on after another one follows the steps of both. -/
theorem Follows.bind {f : α → Except TreeError β} (h : Follows x a)
    (next : ∀ v, x = .ok v → Follows (f v) b) : Follows (x >>= f) (a ++ b) := by
  intro e
  rw [firstFinds_append, ← h e, ← h.exists_ok_iff]
  cases x with
  | ok v =>
    rw [← next v rfl e]
    simp [Bind.bind, Except.bind]
  | error e' => simp [Bind.bind, Except.bind]

end

/-! ## The reading follows the steps -/

theorem follows_check (w : WireNode) : Follows w.check [.enter w] := by
  intro e
  rw [firstFinds_singleton]
  unfold check
  constructor
  · intro refused
    split at refused
    · next bad =>
      cases refused
      exact .range bad
    · next good =>
      split at refused
      · next misplaced =>
        cases refused
        exact .falseBranch (by grind) misplaced.1 misplaced.2
      · cases refused
  · intro found
    cases found with
    | range bad => rw [if_pos bad]
    | falseBranch lines present other =>
      have good : ¬ (w.startLine < 0 ∨ w.endLine < w.startLine) := by grind
      rw [if_neg good, if_pos ⟨present, other⟩]

/-- Children that were read have the ids and kinds they were sent with. -/
theorem find?_of_toNodes {ws : List WireNode} {ns : List Node} (read : toNodes ws = .ok ns)
    (p : NodeKind → Bool) :
    (ns.find? (p ·.kind)).map (fun n => (n.id, n.kind)) =
      (ws.find? (p ·.kind)).map fun w => (w.id, w.kind) := by
  rw [toNodes_eq_ok_iff] at read
  induction read with
  | nil => rfl
  | cons head _ ih =>
    obtain ⟨-, cs, fs, body, -, -, -, rfl⟩ := (toNode_eq_ok_iff _ _).1 head
    rw [List.find?_cons, List.find?_cons]
    split <;> simp_all

theorem follows_bodyOf {w : WireNode} {cs : List Node} (read : toNodes w.children = .ok cs)
    (fs : List Node) : Follows (bodyOf w.id w.kind cs fs) [.leave w] := by
  intro e
  rw [firstFinds_singleton]
  cases kind : w.kind with
  | menuBlock =>
    have heads := find?_of_toNodes read (· != .menuOption)
    rw [finds_leave_menu kind]
    unfold bodyOf
    cases found : cs.find? (·.kind != .menuOption) with
    | none =>
      rw [found, Option.map_none] at heads
      simp [Option.map_eq_none_iff.1 heads.symm]
    | some n =>
      rw [found, Option.map_some] at heads
      obtain ⟨c, found', same⟩ := Option.map_eq_some_iff.1 heads.symm
      obtain ⟨same_id, same_kind⟩ := Prod.mk.inj same
      simp [found', same_id, same_kind, eq_comm]
  | ending =>
    have size := ((toNodes_eq_ok_iff _ _).1 read).length_eq
    have made : bodyOf w.id .ending cs fs =
        if cs.isEmpty then .ok .leaf else .error (.endWithChildren w.id) := rfl
    rw [made]
    have empty : cs.isEmpty = true ↔ w.children = [] := by
      rw [List.isEmpty_iff, ← List.length_eq_zero_iff, ← size, List.length_eq_zero_iff]
    constructor
    · intro refused
      split at refused
      · cases refused
      · next some_there =>
        cases refused
        exact .ending kind (mt empty.2 some_there)
    · intro found
      cases found with
      | menuChild menu => simp [kind] at menu
      | ending _ children => rw [if_neg (mt empty.1 children)]
  | labelBlock | action | ifBlock | elseBlock | menuOption =>
    -- such a statement is never refused when it is left
    constructor
    · intro refused
      cases refused
    · intro found
      cases found <;> simp_all

theorem follows_toNodes {ws : List WireNode} (each : ∀ w ∈ ws, Follows (toNode w) w.steps) :
    Follows (toNodes ws) (ws.flatMap steps) := by
  induction ws with
  | nil => exact follows_ok []
  | cons w ws ih =>
    rw [List.forall_mem_cons] at each
    rw [toNodes, List.flatMap_cons]
    refine each.1.bind fun n _ => ?_
    have rest := (ih each.2).bind fun ns _ => follows_ok (n :: ns)
    rwa [List.append_nil] at rest

/-- The reading of a statement follows its steps. -/
theorem follows_toNode (w : WireNode) : Follows (toNode w) w.steps := by
  induction w using parts_induction with
  | step w ih =>
    have children := follows_toNodes fun c mem => ih c (List.mem_append_left _ mem)
    have falseBranch := follows_toNodes fun c mem => ih c (List.mem_append_right w.children mem)
    have all : w.steps = [.enter w] ++ (w.children.flatMap steps ++
        ((w.falseBranch.getD []).flatMap steps ++ ([.leave w] ++ []))) := by
      rw [steps_eq, parts, List.flatMap_append]
      simp
    rw [all]
    obtain ⟨id, kind, caption, first, last, sent, _ | fs⟩ := w
    · unfold toNode
      refine (follows_check _).bind fun _ _ => children.bind fun cs read => ?_
      refine Follows.bind (follows_ok _) fun fs _ => ?_
      exact (follows_bodyOf read fs).bind fun body _ => follows_ok _
    · unfold toNode
      refine (follows_check _).bind fun _ _ => children.bind fun cs read => ?_
      refine falseBranch.bind fun fs _ => ?_
      exact (follows_bodyOf read fs).bind fun body _ => follows_ok _

/-- A statement is read just when it and all below it obey the rules. Otherwise it is refused for
what the first step finds that finds anything, and this is about a statement that breaks the rule
it is refused for, with the lines, the kind or the first child at fault. What had been read by then,
that is, every statement left before, obeys the rules with all below it. -/
theorem toNode_verdict (w : WireNode) :
    ((∃ n, toNode w = .ok n) ↔ ∀ v ∈ w.preorder, v.Lawful) ∧
      ∀ e, toNode w = .error e ↔ ∃ before s behind, w.steps = before ++ s :: behind ∧
        s.Finds e ∧ (∀ t ∈ before, ∀ e', ¬ t.Finds e') ∧
        s.node ∈ w.preorder ∧ ¬ s.node.Lawful ∧
        ∀ v, .leave v ∈ before → ∀ u ∈ v.preorder, u.Lawful := by
  constructor
  · rw [(follows_toNode w).exists_ok_iff]
    constructor
    · intro clean v mem
      exact lawful_iff.2 ⟨clean _ (mem_steps_iff.2 mem), clean _ (mem_steps_iff.2 mem)⟩
    · intro lawful s mem
      have rules := lawful_iff.1 (lawful _ (mem_steps_iff.1 mem))
      cases s with
      | enter v => exact rules.1
      | leave v => exact rules.2
  · intro e
    rw [follows_toNode w e]
    constructor
    · rintro ⟨before, s, behind, split, clean, found⟩
      have mem : s ∈ w.steps := by simp [split]
      refine ⟨before, s, behind, split, found, clean, mem_steps_iff.1 mem, ?_, ?_⟩
      · intro lawful
        obtain ⟨entered, left⟩ := lawful_iff.1 lawful
        cases s with
        | enter v => exact entered e found
        | leave v => exact left e found
      · intro v left u inside
        have start : before <+: w.steps := ⟨s :: behind, split.symm⟩
        obtain ⟨entered, left⟩ := closed_of_prefix start v left u inside
        exact lawful_iff.2 ⟨clean _ entered, clean _ left⟩
    · rintro ⟨before, s, behind, split, found, clean, -⟩
      exact ⟨before, s, behind, split, clean, found⟩

/-- A menu is left after its children were read, so the reversed lines of one are reported and not
that another one is no option. -/
example :
    let stray : WireNode := { id := "s", kind := .action, startLine := 2, endLine := 2 }
    let reversed : WireNode := { id := "r", kind := .menuOption, startLine := 9, endLine := 5 }
    let menu (children : List WireNode) : WireNode := ⟨"m", .menuBlock, "", 1, 9, children, none⟩
    toNode (menu [stray, reversed]) = .error (.range "r" 9 5) ∧
      toNode (menu [stray]) = .error (.menuChild "m" "s" .action) :=
  ⟨rfl, rfl⟩

end WireNode

end StoryScript
