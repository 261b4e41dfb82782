import Mathlib.Algebra.Group.Nat.Defs
import Mathlib.Data.List.Forall2
import StoryScript.Script.Lemmas
import StoryScript.Script.Wire

/-!
# Reading and writing statements

A statement that was read can be written again, and one that was written can be read. The wire form
leaves one choice, which reading forgets: a condition without a false branch may say so or leave it
out. Apart from that the two forms carry the same.

## Main definitions

* `Body.branches`, `Body.Suits` — what a body is sent as, and the bodies of each kind of statement.
* `Node.Sound`, `Node.Sendable` — a statement alone, and with all that stands below it.
* `WireNode.explicit` — the wire form in which no condition leaves its false branch out.

## Main statements

* `toNode_eq_ok_iff`, `ofNode_eq` — reading and writing in one equation each.
* `ofNode_of_toNode`, `toNode_ofNode` — either way and back.
* `wire_form_faithful` — both, and which statements can be read at all.
-/

namespace StoryScript

/-- The lists that a body is sent as: what stands below a statement, and a false branch. -/
def Body.branches : Body ν → List ν × Option (List ν)
  | .sequence cs => (cs, none)
  | .conditional ts fs => (ts, some fs)
  | .choice os => (os, none)
  | .leaf => ([], none)

/-- The bodies that a kind of statement can have. -/
def Body.Suits : NodeKind → Body Node → Prop
  | .ifBlock, .conditional .. => True
  | .menuBlock, .choice os => ∀ o ∈ os, o.kind = .menuOption
  | .ending, .leaf | .action, .leaf => True
  | .action, .sequence cs => cs ≠ []
  | .labelBlock, .sequence _ | .elseBlock, .sequence _ | .menuOption, .sequence _ => True
  | _, _ => False

namespace Body

variable {kind : NodeKind} {body : Body Node}

theorem toList_eq_branches : body.toList = body.branches.1 ++ body.branches.2.getD [] := by
  cases body <;> simp [toList, branches]

/-- Only conditions have a false branch, and all of them have one. -/
theorem Suits.branches_snd (h : Suits kind body) :
    body.branches.2 = if kind = .ifBlock then some (body.branches.2.getD []) else none := by
  cases kind <;> cases body <;> simp_all [Suits, branches]

end Body

namespace Node

/-- The lines of a statement are in order and fit in 63 bits, and its body is of its kind. -/
structure Sound (n : Node) : Prop where
  forward : n.startLine ≤ n.endLine
  bounded : n.endLine ≤ 2 ^ 63 - 1
  suits : n.body.Suits n.kind

/-- A statement and all that stand below it are sound. -/
def Sendable (n : Node) : Prop :=
  ∀ m ∈ n.preorder, m.Sound

theorem sendable_iff {n : Node} : n.Sendable ↔ n.Sound ∧ ∀ c ∈ n.children, c.Sendable := by
  constructor
  · intro h
    refine ⟨h n n.mem_preorder_self, fun c child m below => ?_⟩
    exact h m (mem_preorder.2 (.inr ⟨c, child, below⟩))
  · rintro ⟨sound, below⟩ m mem
    rcases mem_preorder.1 mem with rfl | ⟨c, child, mem⟩
    · exact sound
    · exact below c child m mem

end Node

namespace WireNode

mutual

/-- The wire form of the same statement in which every condition has a false branch. -/
def explicit (w : WireNode) : WireNode :=
  match w with
  | ⟨id, kind, caption, first, last, children, falseBranch⟩ =>
    ⟨id, kind, caption, first, last, explicitAll children,
      match falseBranch with
      | some fs => some (explicitAll fs)
      | none => if kind = .ifBlock then some [] else none⟩

def explicitAll : List WireNode → List WireNode
  | [] => []
  | w :: ws => explicit w :: explicitAll ws

end

/-- A property holds of all wire forms when it passes on from the children and the false branch. -/
theorem induction {motive : WireNode → Prop}
    (step : ∀ w : WireNode, (∀ c ∈ w.children, motive c) →
      (∀ c ∈ w.falseBranch.getD [], motive c) → motive w) (w : WireNode) : motive w := by
  refine @WireNode.rec motive (fun ws => ∀ c ∈ ws, motive c)
    (fun fs => ∀ c ∈ fs.getD [], motive c) ?_ ?_ ?_ ?_ ?_ w
  · exact fun id kind caption first last children falseBranch hc hf =>
      step ⟨id, kind, caption, first, last, children, falseBranch⟩ hc hf
  · exact fun c mem => (List.not_mem_nil mem).elim
  · exact fun w ws hw hws => List.forall_mem_cons.2 ⟨hw, hws⟩
  · exact fun c mem => (List.not_mem_nil mem).elim
  · exact fun fs hfs => hfs

/-! ## One equation for each way -/

theorem explicitAll_eq (ws : List WireNode) : explicitAll ws = ws.map explicit := by
  induction ws with
  | nil => rfl
  | cons w ws ih => rw [explicitAll, ih, List.map_cons]

theorem explicit_eq (w : WireNode) : w.explicit = { w with
    children := w.children.map explicit
    falseBranch := match w.falseBranch with
      | some fs => some (fs.map explicit)
      | none => if w.kind = .ifBlock then some [] else none } := by
  obtain ⟨id, kind, caption, first, last, children, _ | fs⟩ := w <;>
    simp only [explicit, explicitAll_eq]

theorem ofNodes_eq (ns : List Node) : ofNodes ns = ns.map ofNode := by
  induction ns with
  | nil => rfl
  | cons n ns ih => rw [ofNodes, ih, List.map_cons]

/-- A statement is written as its fields and the lists of its body. -/
theorem ofNode_eq (n : Node) : ofNode n =
    ⟨n.id, n.kind, n.caption, .ofNat n.startLine, .ofNat n.endLine,
      n.body.branches.1.map ofNode, n.body.branches.2.map (·.map ofNode)⟩ := by
  obtain ⟨id, kind, caption, first, last, body⟩ := n
  cases body <;> simp [ofNode, ofNodes_eq, Body.branches]

/-- A statement passes alone if its lines are in order and only a condition has a false branch. -/
theorem check_eq_ok_iff (w : WireNode) : w.check = .ok () ↔
    0 ≤ w.startLine ∧ w.startLine ≤ w.endLine ∧ (w.falseBranch.isSome → w.kind = .ifBlock) := by
  unfold check
  split
  · next bad => simp only [reduceCtorEq, false_iff]; grind
  · next good => split <;> grind

/-- A body is made of the lists that it is sent as. -/
theorem bodyOf_eq_ok_iff (id : String) (kind : NodeKind) (cs fs : List Node) (body : Body Node) :
    bodyOf id kind cs fs = .ok body ↔
      body.Suits kind ∧ body.branches = (cs, if kind = .ifBlock then some fs else none) := by
  cases kind with
  | menuBlock =>
    simp only [bodyOf]
    split
    · next bad found =>
      have other : bad.kind ≠ .menuOption := by simpa using List.find?_some found
      have member := List.mem_of_find?_eq_some found
      cases body <;> simp [Body.Suits, Body.branches]
      rintro options rfl
      exact other (options bad member)
    · next options =>
      have options : ∀ c ∈ cs, c.kind = .menuOption := by simpa using options
      cases body <;> grind [Body.Suits, Body.branches]
  | ending | action => cases cs <;> cases body <;> grind [bodyOf, Body.Suits, Body.branches]
  | labelBlock | ifBlock | elseBlock | menuOption =>
    cases body <;> grind [bodyOf, Body.Suits, Body.branches]

theorem toNodes_eq_ok_iff (ws : List WireNode) (ns : List Node) :
    toNodes ws = .ok ns ↔ List.Forall₂ (fun w n => toNode w = .ok n) ws ns := by
  induction ws generalizing ns with
  | nil => simp [toNodes, @eq_comm _ _ ns]
  | cons w ws ih =>
    simp [toNodes, List.forall₂_cons_left_iff, bind_eq_ok_iff, pure, Except.pure, ih,
      @eq_comm _ _ ns]

/-- A statement is read when it passes alone, its lists are read, and they make a body. -/
theorem toNode_eq_ok_iff (w : WireNode) (n : Node) : toNode w = .ok n ↔
    w.check = .ok () ∧ ∃ cs fs body, toNodes w.children = .ok cs ∧
      toNodes (w.falseBranch.getD []) = .ok fs ∧ bodyOf w.id w.kind cs fs = .ok body ∧
      n = ⟨w.id, w.kind, w.caption, w.startLine.toNatClampNeg, w.endLine.toNatClampNeg, body⟩ := by
  obtain ⟨id, kind, caption, first, last, children, _ | fs⟩ := w <;>
    simp [toNode, bind_eq_ok_iff, pure, Except.pure, toNodes, Unique.exists_iff, @eq_comm _ _ n]

/-! ## Either way and back -/

/-- What holds of each statement that was read holds of a list of them. -/
theorem ofNode_of_toNodes {ws : List WireNode} {ns : List Node}
    (each : ∀ w ∈ ws, ∀ {n}, toNode w = .ok n → ofNode n = w.explicit ∧ n.Sendable)
    (read : toNodes ws = .ok ns) : ns.map ofNode = ws.map explicit ∧ ∀ n ∈ ns, n.Sendable := by
  rw [toNodes_eq_ok_iff] at read
  induction read with
  | nil => simp
  | cons head tail ih =>
    rw [List.forall_mem_cons] at each
    obtain ⟨back, sendable⟩ := each.1 head
    obtain ⟨backs, sendables⟩ := ih each.2
    exact ⟨by simp [back, backs], List.forall_mem_cons.2 ⟨sendable, sendables⟩⟩

/-- What was read is written as it was sent, with no false branch left out, and is sound. -/
theorem ofNode_of_toNode {w : WireNode} {n : Node} (read : toNode w = .ok n) :
    ofNode n = w.explicit ∧ n.Sendable := by
  induction w using WireNode.induction generalizing n with
  | step w children_ih falseBranch_ih =>
    obtain ⟨checked, cs, fs, body, children, falseBranch, made, rfl⟩ :=
      (toNode_eq_ok_iff w n).1 read
    obtain ⟨nonneg, forward, condition⟩ := (check_eq_ok_iff w).1 checked
    obtain ⟨suits, branches⟩ := (bodyOf_eq_ok_iff _ _ _ _ _).1 made
    obtain ⟨children_back, children_sendable⟩ := ofNode_of_toNodes children_ih children
    obtain ⟨false_back, false_sendable⟩ := ofNode_of_toNodes falseBranch_ih falseBranch
    have end_nonneg : 0 ≤ w.endLine := Int64.le_trans nonneg forward
    constructor
    · rw [ofNode_eq, explicit_eq]
      simp only [branches, Int64.ofNat_toNatClampNeg _ nonneg,
        Int64.ofNat_toNatClampNeg _ end_nonneg, children_back]
      cases sent : w.falseBranch with
      | none =>
        rw [sent] at false_back
        split <;> simp_all
      | some sent_fs =>
        simp_all
    · refine Node.sendable_iff.2 ⟨⟨?_, ?_, suits⟩, ?_⟩
      · have first := Int64.toInt_eq_toNatClampNeg nonneg
        have last := Int64.toInt_eq_toNatClampNeg end_nonneg
        have in_order := Int64.le_iff_toInt_le.1 forward
        dsimp only
        omega
      · exact Nat.le_sub_one_of_lt w.endLine.toNatClampNeg_lt
      · intro c child
        rw [Node.children, Body.toList_eq_branches, branches] at child
        grind

/-- What is sendable is read as it was. -/
theorem toNode_ofNode {n : Node} (sendable : n.Sendable) : toNode (ofNode n) = .ok n := by
  induction n using Node.induction with
  | step n ih =>
    obtain ⟨⟨forward, bounded, suits⟩, below⟩ := Node.sendable_iff.1 sendable
    have parts : n.children = n.body.branches.1 ++ n.body.branches.2.getD [] :=
      Body.toList_eq_branches
    have lists (ns : List Node) (part : ∀ c ∈ ns, c ∈ n.children) :
        toNodes (ns.map ofNode) = .ok ns := by
      rw [toNodes_eq_ok_iff, List.forall₂_map_left_iff, List.forall₂_same]
      exact fun c mem => ih c (part c mem) (below c (part c mem))
    have children := lists n.body.branches.1 fun c mem => by
      rw [parts]
      exact List.mem_append_left _ mem
    have falseBranch := lists (n.body.branches.2.getD []) fun c mem => by
      rw [parts]
      exact List.mem_append_right _ mem
    have falseBranch_sent : (n.body.branches.2.map (·.map ofNode)).getD [] =
        (n.body.branches.2.getD []).map ofNode := by
      cases n.body.branches.2 <;> rfl
    have first : n.startLine < 2 ^ 63 := by omega
    have last : n.endLine < 2 ^ 63 := by omega
    rw [toNode_eq_ok_iff, check_eq_ok_iff, ofNode_eq]
    refine ⟨⟨?_, ?_, ?_⟩, n.body.branches.1, n.body.branches.2.getD [], n.body, children, ?_, ?_, ?_⟩
    · rw [Int64.le_iff_toInt_le, Int64.toInt_ofNat_of_lt first]
      exact Int.natCast_nonneg _
    · rw [Int64.le_iff_toInt_le, Int64.toInt_ofNat_of_lt first, Int64.toInt_ofNat_of_lt last]
      exact Int.ofNat_le.2 forward
    · rw [Option.isSome_map, suits.branches_snd]
      split <;> simp_all
    · rw [falseBranch_sent]
      exact falseBranch
    · rw [bodyOf_eq_ok_iff, ← suits.branches_snd]
      exact ⟨suits, rfl⟩
    · simp only [Int64.toNatClampNeg_ofNat_of_lt first, Int64.toNatClampNeg_ofNat_of_lt last]
      cases n
      rfl

/-- A wire form that can be read is got back by writing, up to the false branches that were left
out. A statement is got back from its wire form when it and all below it have their lines in order,
none beyond 63 bits, and bodies of their kind; these are just the statements that are ever read. -/
theorem wire_form_faithful (w : WireNode) (n : Node) :
    (toNode w = .ok n → ofNode n = w.explicit) ∧ (n.Sendable → toNode (ofNode n) = .ok n) ∧
      ((∃ w, toNode w = .ok n) ↔ n.Sendable) := by
  refine ⟨fun read => (ofNode_of_toNode read).1, toNode_ofNode, ?_, ?_⟩
  · rintro ⟨w, read⟩
    exact (ofNode_of_toNode read).2
  · intro sendable
    exact ⟨ofNode n, toNode_ofNode sendable⟩

/-- A condition without a false branch, in an option of a menu, in a label whose last line is the
largest that can be sent. -/
theorem wire_form_faithful_nested :
    let leaf : WireNode := ⟨"d", .action, "say", 3, 3, [], none⟩
    let condition : WireNode := ⟨"c", .ifBlock, "if x", 2, 4, [leaf], none⟩
    let menu (condition : WireNode) : WireNode :=
      ⟨"a", .menuBlock, "menu", 1, 4, [⟨"b", .menuOption, "yes", 1, 4, [condition], none⟩], none⟩
    let label (condition : WireNode) : WireNode :=
      ⟨"l", .labelBlock, "l", 0, .ofNat (2 ^ 63 - 1), [menu condition], none⟩
    ∃ n, toNode (label condition) = .ok n ∧ n.Sendable ∧ toNode (ofNode n) = .ok n ∧
      ofNode n = label { condition with falseBranch := some [] } := by
  intro leaf condition menu label
  obtain ⟨n, read⟩ : ∃ n, toNode (label condition) = .ok n := ⟨_, rfl⟩
  obtain ⟨back, again, readable⟩ := wire_form_faithful (label condition) n
  have sendable := readable.1 ⟨_, read⟩
  refine ⟨n, read, sendable, again sendable, ?_⟩
  rw [back read]
  rfl

end WireNode

end StoryScript
