import Mathlib.Data.List.Pairwise
import StoryScript.Proofs.Owners

/-!
# The innermost statement owns a line

In a script as it is written the range of a statement lies within the range above it, and ranges
side by side do not meet. A line then belongs to the statement where going down stops: from top
level, each time to the one statement below whose range holds the line. The index knows nothing of
the tree, but its entries around a line are those on this way, and they get narrower all along it.

## Main definitions

* `Node.holds`, `Node.Separate` — a line in the range of a statement, and ranges that do not meet.
* `Node.Nested` — ranges of statements, and of all below them, that enclose one another.
* `Node.Innermost` — going down to the line, and where this stops.
* `Node.around` — the entries around a line.

## Main statements

* `LineMap.owner?_of_last_narrowest` — the last entry around a line owns it, if those before are
  wider.
* `Node.Innermost.around_eq` — where going down stops is the last and narrowest entry around a line.
* `Node.Innermost.deepest` — all statements around a line are above the one where going down stops.
* `Tree.owner?_innermost` — the owner of a line of a nested script.
-/

namespace StoryScript

namespace LineMap

theorem mem_of_getElem?_of_ne {entries behind : List Entry} {e f : Entry} {j : Nat}
    (present : (entries ++ e :: behind)[j]? = some f) (other : j ≠ entries.length) :
    f ∈ entries ∨ f ∈ behind := by
  rw [List.getElem?_append] at present
  split at present
  · exact .inl (List.mem_of_getElem? present)
  · obtain ⟨k, k_eq⟩ : ∃ k, j - entries.length = k + 1 := ⟨j - entries.length - 1, by omega⟩
    rw [k_eq, List.getElem?_cons_succ] at present
    exact .inr (List.mem_of_getElem? present)

/-- Of the entries that contain a line the last one owns it, if each before it is wider. -/
theorem owner?_of_last_narrowest {entries before : List Entry} {line : Nat} {e : Entry}
    (around : entries.filter (·.contains line) = before ++ [e])
    (wider : ∀ f ∈ before, e.span < f.span) : (ofEntries entries).owner? line = some e := by
  obtain ⟨front, back, rfl, front_eq, back_eq⟩ := List.filter_eq_append_iff.1 around
  obtain ⟨passed, rest, rfl, skipped, inside, rest_eq⟩ := List.filter_eq_cons_iff.1 back_eq
  rw [← List.append_assoc]
  have place : (front ++ passed ++ e :: rest)[(front ++ passed).length]? = some e := by simp
  refine owner?_eq_some_iff.2 ⟨_, place, owners_eq_some_iff.2 ⟨e, place, inside, ?_⟩⟩
  intro j f present inside' other
  -- what contains the line is in front, since `e` is the last to do so
  rcases mem_of_getElem?_of_ne present other with mem | mem
  · rcases List.mem_append.1 mem with mem | mem
    · exact .inl (wider f (front_eq ▸ List.mem_filter.2 ⟨mem, inside'⟩))
    · exact absurd inside' (skipped f mem)
  · exact absurd inside' (List.filter_eq_nil_iff.1 rest_eq f mem)

end LineMap

namespace Node

/-- Whether a line lies in the range of a statement. -/
def holds (line : Nat) (n : Node) : Bool :=
  n.startLine ≤ line && line ≤ n.endLine

/-- No line lies in both ranges. -/
def Separate (m n : Node) : Prop :=
  ∀ line, m.holds line = true → n.holds line = false

theorem separate_of_lt {m n : Node} (lt : m.endLine < n.startLine) : m.Separate n := by
  intro line inside
  grind [holds]

instance : Std.Symm Separate where
  symm m n apart line inside := by
    by_contra inside'
    simp [apart line (by simpa using inside')] at inside

/-- The ranges of some statements do not meet, and those below a statement, in both branches of a
condition together, lie in its range, do not meet and are shorter. -/
structure Nested (ns : List Node) : Prop where
  apart : ns.Pairwise Separate
  forward : ∀ n ∈ preorderAll ns, n.startLine ≤ n.endLine
  siblings : ∀ n ∈ preorderAll ns, n.children.Pairwise Separate
  inside : ∀ n ∈ preorderAll ns, ∀ c ∈ n.children,
    n.startLine ≤ c.startLine ∧ c.endLine ≤ n.endLine ∧ c.span < n.span

/-- Going down from some statements to a line: to the one of them that holds it, and further as long
as one right below does. `Innermost line outer ns label n` says that this stops at `n`, which stands
under `label`, when `ns` stand under `outer`. -/
inductive Innermost (line : Nat) : LabelRef → List Node → LabelRef → Node → Prop
  | stop {outer ns n} (mem : n ∈ ns) (inside : n.holds line = true)
      (bottom : ∀ c ∈ n.children, c.holds line = false) :
      Innermost line outer ns (n.labelRef outer) n
  | down {outer ns n label m} (mem : n ∈ ns) (inside : n.holds line = true)
      (below : Innermost line (n.labelRef outer) n.children label m) :
      Innermost line outer ns label m

/-- The entries of some statements and of all below them that are around a line. -/
def around (line : Nat) (outer : LabelRef) (ns : List Node) : List Entry :=
  (indexAll outer ns).filter (·.contains line)

variable {line : Nat} {outer label : LabelRef} {ns : List Node} {m n : Node}

/-! ## Ranges below a statement -/

theorem mem_preorderAll_of_mem_children {c : Node} (mem : n ∈ preorderAll ns)
    (child : c ∈ n.children) : c ∈ preorderAll ns := by
  obtain ⟨k, top, below⟩ := mem_preorderAll.1 mem
  exact mem_preorderAll.2 ⟨k, top, mem_preorder_trans below (mem_preorder_of_mem_children child)⟩

namespace Nested

/-- Statements that do not meet are nested when they are among nested ones or below them. -/
theorem mono {ms : List Node} (h : Nested ns) (apart : ms.Pairwise Separate)
    (among : ∀ m ∈ preorderAll ms, m ∈ preorderAll ns) : Nested ms :=
  ⟨apart, fun m mem => h.forward m (among m mem), fun m mem => h.siblings m (among m mem),
    fun m mem => h.inside m (among m mem)⟩

theorem below (h : Nested ns) (mem : n ∈ preorderAll ns) : Nested n.children :=
  h.mono (h.siblings n mem) fun m below => by
    obtain ⟨k, top, inside⟩ := mem_preorderAll.1 mem
    obtain ⟨c, child, below⟩ := mem_preorderAll.1 below
    refine mem_preorderAll.2 ⟨k, top, mem_preorder_trans inside ?_⟩
    exact mem_preorder.2 (.inr ⟨c, child, below⟩)

theorem sublist {ms : List Node} (h : Nested ns) (sub : ms.Sublist ns) : Nested ms :=
  h.mono (h.apart.sublist sub) fun m mem => by
    obtain ⟨n, top, below⟩ := mem_preorderAll.1 mem
    exact mem_preorderAll.2 ⟨n, sub.subset top, below⟩

/-- What stands below a statement, however far, lies in its range and is shorter. -/
theorem range_below (h : Nested ns) (mem : n ∈ preorderAll ns)
    (below : m ∈ preorderAll n.children) :
    n.startLine ≤ m.startLine ∧ m.endLine ≤ n.endLine ∧ m.span < n.span := by
  induction n using Node.induction with
  | step n ih =>
    obtain ⟨c, child, below⟩ := mem_preorderAll.1 below
    have step := h.inside n mem c child
    rcases mem_preorder.1 below with rfl | further
    · exact step
    · have rest := ih c child (mem_preorderAll_of_mem_children mem child)
        (mem_preorderAll.2 further)
      omega

theorem holds_of_below (h : Nested ns) (mem : n ∈ preorderAll ns) (below : m ∈ n.preorder)
    (inside : m.holds line = true) : n.holds line = true := by
  rw [preorder_eq, List.mem_cons] at below
  rcases below with rfl | below
  · exact inside
  · have range := h.range_below mem below
    grind [holds]

/-- Of statements side by side only one holds a line. -/
theorem eq_of_holds (h : Nested ns) (hm : m ∈ ns) (hn : n ∈ ns) (inside : m.holds line = true)
    (inside' : n.holds line = true) : m = n := by
  by_contra other
  have apart := h.apart.forall hm hn other
  simp [apart line inside] at inside'

/-- All statements that hold a line are at or below the one of these side by side that does. -/
theorem mem_preorder_of_holds (h : Nested ns) (mem : n ∈ ns) (inside : n.holds line = true)
    (mem' : m ∈ preorderAll ns) (inside' : m.holds line = true) : m ∈ n.preorder := by
  obtain ⟨k, top, below⟩ := mem_preorderAll.1 mem'
  have held := h.holds_of_below (mem_preorderAll.2 ⟨k, top, k.mem_preorder_self⟩) below inside'
  exact h.eq_of_holds top mem held inside ▸ below

end Nested

/-! ## The entries around a line -/

theorem contains_of_mem_entry {e : Entry} (mem : e ∈ n.entry label) :
    e.contains line = n.holds line := by
  unfold entry at mem
  split at mem
  · rw [List.mem_singleton.1 mem]
    rfl
  · cases mem

/-- An entry is as wide as its statement, and its range is the same. -/
theorem exists_of_mem_indexAll {e : Entry} (line : Nat) (mem : e ∈ indexAll outer ns) :
    ∃ m ∈ preorderAll ns, e.span = m.span ∧ e.contains line = m.holds line := by
  have listed : e.listing ∈ (indexAll outer ns).map Entry.listing := List.mem_map_of_mem mem
  rw [map_listing_indexAll, List.mem_map] at listed
  obtain ⟨m, mem', same⟩ := listed
  simp only [listing, Entry.listing, Prod.mk.injEq] at same
  obtain ⟨-, -, first, last⟩ := same
  refine ⟨m, (List.mem_filter.1 mem').1, ?_, ?_⟩
  · rw [Entry.span, span, first, last]
  · rw [Entry.contains, holds, first, last]

theorem around_cons (line : Nat) (outer : LabelRef) (n : Node) (ns : List Node) :
    around line outer (n :: ns) = around line outer [n] ++ around line outer ns := by
  simp [around, indexAll]

/-- No entry is around a line that no statement holds. -/
theorem around_eq_nil (h : Nested ns) (outside : ∀ n ∈ ns, n.holds line = false) :
    around line outer ns = [] := by
  refine List.filter_eq_nil_iff.2 fun e mem inside => ?_
  obtain ⟨m, below, -, same⟩ := exists_of_mem_indexAll line mem
  obtain ⟨n, top, below⟩ := mem_preorderAll.1 below
  have held := h.holds_of_below (mem_preorderAll.2 ⟨n, top, n.mem_preorder_self⟩) below
    (same ▸ inside)
  simp [outside n top] at held

/-- Of statements side by side, all entries around a line are those of the one that holds it. -/
theorem around_of_mem (h : Nested ns) (mem : n ∈ ns) (inside : n.holds line = true) :
    around line outer ns = around line outer [n] := by
  induction ns with
  | nil => cases mem
  | cons m ns ih =>
    have apart : ∀ k ∈ ns, m.Separate k := (List.pairwise_cons.1 h.apart).1
    have rest : Nested ns := h.sublist (List.sublist_cons_self _ _)
    rw [around_cons]
    rcases List.mem_cons.1 mem with rfl | mem
    · rw [around_eq_nil rest fun k other => apart k other line inside, List.append_nil]
    · have outside : m.holds line = false := symm (apart n mem) line inside
      have first : Nested [m] := h.sublist (List.singleton_sublist.2 List.mem_cons_self)
      rw [around_eq_nil first (List.forall_mem_singleton.2 outside), List.nil_append, ih rest mem]

/-- A statement that holds a line has the first entry around it, and those below have the others. -/
theorem around_singleton (forward : n.startLine ≤ n.endLine) (inside : n.holds line = true) :
    ∃ e, n.entry (n.labelRef outer) = [e] ∧ e.span = n.span ∧
      around line outer [n] = e :: around line (n.labelRef outer) n.children := by
  obtain ⟨e, alone⟩ : ∃ e, n.entry (n.labelRef outer) = [e] := ⟨_, if_pos forward⟩
  have mem : e ∈ n.entry (n.labelRef outer) := by simp [alone]
  have width : e.span = n.span := by
    rw [entry, if_pos forward, List.mem_singleton] at mem
    rw [mem]
    rfl
  refine ⟨e, alone, width, ?_⟩
  have held : e.contains line = true := contains_of_mem_entry mem ▸ inside
  simp [around, indexAll, index_eq, alone, held]

/-! ## Going down -/

/-- Where going down stops is the last entry around the line, and the narrowest. -/
theorem Innermost.around_eq (h : Nested ns) (found : Innermost line outer ns label n) :
    ∃ before e, n.entry label = [e] ∧ around line outer ns = before ++ [e] ∧
      ∀ f ∈ before, e.span < f.span := by
  induction found with
  | @stop outer ns n mem inside bottom =>
    have mem' : n ∈ preorderAll ns := mem_preorderAll.2 ⟨n, mem, n.mem_preorder_self⟩
    obtain ⟨e, alone, -, entries⟩ := around_singleton (h.forward n mem') inside
    refine ⟨[], e, alone, ?_, by simp⟩
    rw [around_of_mem h mem inside, entries, around_eq_nil (h.below mem') bottom, List.nil_append]
  | @down outer ns n label m mem inside further ih =>
    have mem' : n ∈ preorderAll ns := mem_preorderAll.2 ⟨n, mem, n.mem_preorder_self⟩
    obtain ⟨e, -, width, entries⟩ := around_singleton (h.forward n mem') inside
    obtain ⟨before, last, alone, below, wider⟩ := ih (h.below mem')
    refine ⟨e :: before, last, alone, ?_, List.forall_mem_cons.2 ⟨?_, wider⟩⟩
    · rw [around_of_mem h mem inside, entries, below, List.cons_append]
    · have listed : last ∈ indexAll (n.labelRef _) n.children :=
        List.mem_of_mem_filter (p := (·.contains line)) (by rw [← around, below]; simp)
      obtain ⟨m, deeper, same, -⟩ := exists_of_mem_indexAll line listed
      rw [same, width]
      exact (h.range_below mem' deeper).2.2

/-- Where going down stops holds the line, and all statements that do so are above it. -/
theorem Innermost.deepest (h : Nested ns) (found : Innermost line outer ns label n) :
    n ∈ preorderAll ns ∧ n.holds line = true ∧
      ∀ m ∈ preorderAll ns, m.holds line = true → n ∈ m.preorder := by
  induction found with
  | @stop outer ns n mem inside bottom =>
    have mem' : n ∈ preorderAll ns := mem_preorderAll.2 ⟨n, mem, n.mem_preorder_self⟩
    refine ⟨mem', inside, fun m other held => ?_⟩
    have under := h.mem_preorder_of_holds mem inside other held
    rcases mem_preorder.1 under with rfl | ⟨c, child, below⟩
    · exact m.mem_preorder_self
    · have here : c ∈ preorderAll n.children := mem_preorderAll.2 ⟨c, child, c.mem_preorder_self⟩
      have held' := (h.below mem').holds_of_below here below held
      simp [bottom c child] at held'
  | @down outer ns n label k mem inside further ih =>
    have mem' : n ∈ preorderAll ns := mem_preorderAll.2 ⟨n, mem, n.mem_preorder_self⟩
    obtain ⟨deeper, inside', highest⟩ := ih (h.below mem')
    have below : k ∈ n.preorder := by
      rw [preorder_eq]
      exact List.mem_cons_of_mem _ deeper
    refine ⟨mem_preorderAll.2 ⟨n, mem, below⟩, inside', fun m other held => ?_⟩
    rcases mem_preorder.1 (h.mem_preorder_of_holds mem inside other held) with rfl | deeper'
    · exact below
    · exact highest m (mem_preorderAll.2 deeper') held

/-- A line that some statement holds leads down to one. -/
theorem exists_innermost (outer : LabelRef) (mem : n ∈ ns) (inside : n.holds line = true) :
    ∃ label m, Innermost line outer ns label m := by
  induction n using Node.induction generalizing outer ns with
  | step n ih =>
    by_cases further : ∃ c ∈ n.children, c.holds line = true
    · obtain ⟨c, child, inside'⟩ := further
      obtain ⟨label, m, found⟩ := ih c child _ child inside'
      exact ⟨label, m, .down mem inside found⟩
    · exact ⟨_, n, .stop mem inside (by simpa using further)⟩

end Node

namespace Tree

/-- In a nested script a line has no owner when no statement at top level holds it. Any other line
belongs to the statement where going down to it stops, as the index lists that. This statement holds
the line, and all others that do so are above it. -/
theorem owner?_innermost {t : Tree} (nested : Node.Nested t.children) (line : Nat) :
    ((LineMap.ofTree t).owner? line = none ↔ ∀ n ∈ t.children, n.holds line = false) ∧
      (∀ e, (LineMap.ofTree t).owner? line = some e ↔
        ∃ label n, Node.Innermost line none t.children label n ∧ n.entry label = [e]) ∧
      ∀ label n, Node.Innermost line none t.children label n →
        n ∈ t.preorder ∧ n.holds line = true ∧
          ∀ m ∈ t.preorder, m.holds line = true → n ∈ m.preorder := by
  have owned {label : LabelRef} {n : Node} (found : Node.Innermost line none t.children label n) :
      ∃ e, n.entry label = [e] ∧ (LineMap.ofTree t).owner? line = some e := by
    obtain ⟨before, e, alone, around, wider⟩ := found.around_eq nested
    exact ⟨e, alone, LineMap.owner?_of_last_narrowest around wider⟩
  have unowned (outside : ∀ n ∈ t.children, n.holds line = false) :
      (LineMap.ofTree t).owner? line = none := by
    have none_there : t.index.filter (·.contains line) = [] :=
      Node.around_eq_nil nested outside
    rw [LineMap.ofTree, LineMap.owner?, LineMap.owners_eq_none_iff.2, Option.bind_none]
    simpa using List.filter_eq_nil_iff.1 none_there
  refine ⟨⟨?_, unowned⟩, ?_, fun label n found => found.deepest nested⟩
  · intro none_there n mem
    by_contra inside
    obtain ⟨label, m, found⟩ := Node.exists_innermost none mem (by simpa using inside)
    obtain ⟨e, -, own⟩ := owned found
    simp [none_there] at own
  · intro e
    constructor
    · intro own
      by_cases outside : ∀ n ∈ t.children, n.holds line = false
      · simp [unowned outside] at own
      · obtain ⟨n, mem, inside⟩ : ∃ n ∈ t.children, n.holds line = true := by simpa using outside
        obtain ⟨label, m, found⟩ := Node.exists_innermost none mem inside
        obtain ⟨e', alone, own'⟩ := owned found
        obtain rfl : e' = e := Option.some.inj (own'.symm.trans own)
        exact ⟨label, m, found, alone⟩
    · rintro ⟨label, n, found, alone⟩
      obtain ⟨e', alone', own⟩ := owned found
      obtain rfl : e' = e := List.singleton_inj.1 (alone'.symm.trans alone)
      exact own

/-- A menu in the false branch of a condition. A line between its options is its own, a line of an
option that option's, and the line behind the label belongs to nobody. -/
theorem owner?_innermost_menu :
    let say (id : String) (first last : Nat) : Node := ⟨id, .action, id, first, last, .leaf⟩
    let option (id : String) (line : Nat) : Node :=
      ⟨id, .menuOption, id, line, line + 1, .sequence [say "x" (line + 1) (line + 1)]⟩
    let menu : Node := ⟨"m", .menuBlock, "menu", 4, 9, .choice [option "o" 5, option "p" 8]⟩
    let test : Node := ⟨"i", .ifBlock, "if x", 1, 9, .conditional [say "y" 2 3] [menu]⟩
    let t : Tree := ⟨[⟨"a", .labelBlock, "a", 0, 10, .sequence [test]⟩]⟩
    Node.Nested t.children ∧
      (LineMap.ofTree t).owner? 7 = some ⟨"m", .menuBlock, some "a", some "a", 4, 9⟩ ∧
      (LineMap.ofTree t).owner? 8 = some ⟨"p", .menuOption, some "a", some "a", 8, 9⟩ ∧
      (LineMap.ofTree t).owner? 11 = none := by
  intro say option menu test t
  have nested : Node.Nested t.children := by
    refine ⟨List.pairwise_singleton _ _, by decide, fun n mem => ?_, by decide⟩
    have apart : ∀ n ∈ Node.preorderAll t.children,
        n.children.Pairwise fun m k => m.endLine < k.startLine := by decide
    exact (apart n mem).imp Node.separate_of_lt
  have top : t.children[0] ∈ t.children := List.mem_cons_self
  refine ⟨nested, ?_, ?_, ?_⟩
  · refine ((owner?_innermost nested 7).2.1 _).2 ⟨some ("a", "a"), menu, ?_, rfl⟩
    refine .down top (by decide) (.down (n := test) List.mem_cons_self (by decide) ?_)
    exact .stop (List.mem_cons_of_mem _ List.mem_cons_self) (by decide) (by decide)
  · refine ((owner?_innermost nested 8).2.1 _).2 ⟨some ("a", "a"), option "p" 8, ?_, rfl⟩
    refine .down top (by decide) (.down (n := test) List.mem_cons_self (by decide) ?_)
    refine .down (n := menu) (List.mem_cons_of_mem _ List.mem_cons_self) (by decide) ?_
    exact .stop (List.mem_cons_of_mem _ List.mem_cons_self) (by decide) (by decide)
  · exact (owner?_innermost nested 11).1.2 (by decide)

end Tree

end StoryScript
