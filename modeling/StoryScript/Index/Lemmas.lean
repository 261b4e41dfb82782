import StoryScript.Index.LineMap
import StoryScript.Script.Lemmas

/-!
# Laws of the index

The index lists the statements in the order of the text, less those whose range is reversed. Of the
entries that take lines one after the other, each line goes to the first one that contains it.

## Main definitions

* `Node.listing`, `Entry.listing` — the id, the kind and the lines of a statement, and of what the
  index says about one.

## Main statements

* `Node.index_eq` — the index of a statement and those below it in one equation.
* `Node.map_listing_index` — the statements that are listed, in order.
* `Tree.exists_of_mem_index` — every entry is about a statement.
* `Tree.forward_of_mem_index` — no entry has its lines reversed.
* `Owners.getElem?_fill`, `Owners.getElem?_foldl_claim` — who owns a line after a range was filled,
  and after many were.
-/

namespace StoryScript

/-- The id, the kind and the lines of an entry. -/
def Entry.listing (e : Entry) : String × NodeKind × Nat × Nat :=
  (e.nodeId, e.kind, e.startLine, e.endLine)

namespace Node

/-- The id, the kind and the lines of a statement. -/
def listing (n : Node) : String × NodeKind × Nat × Nat :=
  (n.id, n.kind, n.startLine, n.endLine)

/-- Whether the lines of a statement are in order. -/
def isForward (n : Node) : Bool :=
  n.startLine ≤ n.endLine

theorem indexAll_eq (outer : LabelRef) (ns : List Node) :
    indexAll outer ns = ns.flatMap (index outer) := by
  induction ns with
  | nil => rfl
  | cons n ns ih => rw [indexAll, ih, List.flatMap_cons]

theorem indexAll_append (outer : LabelRef) (ns ms : List Node) :
    indexAll outer (ns ++ ms) = indexAll outer ns ++ indexAll outer ms := by
  simp only [indexAll_eq, List.flatMap_append]

/-- A statement is listed first, then what is right below it, under the same label. -/
theorem index_eq (outer : LabelRef) (n : Node) :
    n.index outer = entry (labelRef outer n) n ++ indexAll (labelRef outer n) n.children := by
  obtain ⟨id, kind, caption, s, e, body⟩ := n
  cases body <;> simp [index, children, Body.toList, indexAll_append, indexAll]

theorem map_listing_entry (label : LabelRef) (n : Node) :
    (entry label n).map Entry.listing = ([n].filter isForward).map listing := by
  unfold entry
  split
  · next forward => simp [isForward, forward, Entry.listing, listing]
  · next reversed => simp [isForward, reversed]

/-- The index of a list is in order when that of each statement in it is. -/
theorem map_listing_indexAll_of {ns : List Node}
    (each : ∀ n ∈ ns, ∀ outer,
      (n.index outer).map Entry.listing = (n.preorder.filter isForward).map listing)
    (outer : LabelRef) :
    (indexAll outer ns).map Entry.listing = ((preorderAll ns).filter isForward).map listing := by
  induction ns with
  | nil => rfl
  | cons n ns ih =>
    rw [List.forall_mem_cons] at each
    rw [indexAll, preorderAll, List.map_append, each.1, ih each.2, List.filter_append,
      List.map_append]

/-- The index lists the statements whose lines are in order, as they come in the text. -/
theorem map_listing_index (n : Node) (outer : LabelRef) :
    (n.index outer).map Entry.listing = (n.preorder.filter isForward).map listing := by
  induction n using Node.induction generalizing outer with
  | step n ih =>
    rw [index_eq, List.map_append, map_listing_entry, map_listing_indexAll_of ih, preorder_eq,
      ← List.map_append, ← List.filter_append, List.singleton_append]

theorem map_listing_indexAll (outer : LabelRef) (ns : List Node) :
    (indexAll outer ns).map Entry.listing = ((preorderAll ns).filter isForward).map listing :=
  map_listing_indexAll_of (fun n _ => n.map_listing_index) outer

end Node

/-- An entry is about a statement whose lines are in order. -/
theorem Tree.exists_of_mem_index {t : Tree} {e : Entry} (mem : e ∈ t.index) :
    ∃ n ∈ Node.preorderAll t.children, n.startLine ≤ n.endLine ∧ n.listing = e.listing := by
  have listed : e.listing ∈ t.index.map Entry.listing := List.mem_map_of_mem mem
  rw [index, Node.map_listing_indexAll, List.mem_map] at listed
  obtain ⟨n, mem', same⟩ := listed
  obtain ⟨inside, forward⟩ := List.mem_filter.1 mem'
  exact ⟨n, inside, of_decide_eq_true forward, same⟩

/-- The entries of a script have their lines in order. -/
theorem Tree.forward_of_mem_index {t : Tree} {e : Entry} (mem : e ∈ t.index) :
    e.startLine ≤ e.endLine := by
  obtain ⟨n, -, forward, same⟩ := Tree.exists_of_mem_index mem
  simp only [Node.listing, Entry.listing, Prod.mk.injEq] at same
  omega

namespace Owners

variable {owners : Owners} {line : Nat}

/-- A filled range leaves the lines that were taken to their owners. -/
theorem getElem?_fill (first count i : Nat) :
    (owners.fill first count i)[line]? =
      owners[line]?.or (if first ≤ line ∧ line < first + count then some i else none) := by
  induction count generalizing owners first with
  | zero =>
    have outside : ¬ (first ≤ line ∧ line < first + 0) := by omega
    rw [fill, if_neg outside, Option.or_none]
  | succ count ih =>
    rw [fill, ih, Std.TreeMap.getElem?_insertIfNew]
    grind

/-- An entry takes the lines that it contains and nobody owns. -/
theorem getElem?_claim (e : Entry × Nat) :
    (owners.claim e)[line]? = owners[line]?.or (if e.1.contains line then some e.2 else none) := by
  have inside : e.1.contains line = true ↔
      e.1.startLine ≤ line ∧ line < e.1.startLine + (e.1.endLine + 1 - e.1.startLine) := by
    simp only [Entry.contains, Bool.and_eq_true, decide_eq_true_eq]
    omega
  rw [claim, getElem?_fill]
  simp only [inside]

/-- Of entries that take lines in turn, the first one that contains a line owns it. -/
theorem getElem?_foldl_claim (order : List (Entry × Nat)) :
    (order.foldl claim owners)[line]? =
      owners[line]?.or ((order.find? (·.1.contains line)).map (·.2)) := by
  induction order generalizing owners with
  | nil => simp
  | cons e order ih =>
    rw [List.foldl_cons, ih, getElem?_claim, Option.or_assoc, List.find?_cons]
    cases e.1.contains line <;> simp

end Owners

end StoryScript
