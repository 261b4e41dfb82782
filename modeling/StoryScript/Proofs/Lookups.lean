import StoryScript.Exchange.Script
import StoryScript.Proofs.InnerLabels

/-!
# Looking a statement up by its id

The tree is searched on the way down and the search ends at the first statement that has the id. The
index is searched from its beginning; it was made on another way down, which goes on to the end and
leaves out the statements whose lines are reversed. Both ways lead through the same places in the
same order, so the two lookups differ over reversed lines only, and a script that was received has
none.

## Main definitions

* `Tree.places` — the statements of a script, each with those it stands below.
* `Tree.Received` — all that a script consists of was read from its wire form.

## Main statements

* `Tree.find?_eq_places`, `LineMap.entry?_eq_places` — the two lookups as searches of the places.
* `Tree.received_of_ofJson` — what is read from JSON is received.
* `Tree.Received.isForward` — a script that was received has no reversed lines.
* `Tree.lookups_agree` — what the two lookups find.
-/

namespace StoryScript

namespace Tree

/-- The statements of a script where they stand, in the order of its text. -/
def places (t : Tree) : List Place :=
  Node.placesAll [] t.children

/-- Every statement at top level was read from its wire form, and so were all below it. -/
def Received (t : Tree) : Prop :=
  ∀ n ∈ t.children, ∃ w : WireNode, w.toNode = .ok n

variable {t : Tree}

theorem map_node_places (t : Tree) : t.places.map Place.node = t.preorder := by
  rw [places, Node.placesAll_eq, preorder, Node.preorderAll_eq, List.map_flatMap]
  exact List.flatMap_congr fun n _ => n.map_node_places []

/-! ## The two lookups -/

/-- Looking a statement up in the tree is a search of the places. -/
theorem find?_eq_places (t : Tree) (id : String) :
    t.find? id = (t.places.find? (·.node.id == id)).map Place.node := by
  rw [find?, Node.findIn?_eq, ← preorder, ← map_node_places, List.find?_map]
  rfl

/-- The index lists the places whose lines are in order. -/
theorem index_eq_listed (t : Tree) :
    t.index = (t.places.filter (·.node.isForward)).map Place.listed := by
  rw [index_eq_places, ← places]
  induction t.places with
  | nil => rfl
  | cons p ps ih =>
    rw [List.flatMap_cons, ih, List.filter_cons, Place.entry_eq]
    split <;> rfl

end Tree

/-- So is looking one up in the index, but reversed lines are passed over. -/
theorem LineMap.entry?_eq_places (t : Tree) (id : String) :
    LineMap.entry? (LineMap.ofTree t) id =
      (t.places.find? fun p => p.node.isForward && p.node.id == id).map Place.listed := by
  change t.index.find? (·.nodeId == id) = _
  have fits : (fun p : Place => decide (p.node.isForward = true ∧
      ((·.nodeId == id) ∘ Place.listed) p = true)) =
      fun p => p.node.isForward && p.node.id == id := by
    funext p
    rw [Bool.eq_iff_iff]
    simp [Place.listed]
  rw [Tree.index_eq_listed, List.find?_map, List.find?_filter, fits]

namespace Tree

variable {t : Tree}

/-! ## Scripts that were received -/

/-- The items of a list that was read were read one by one. -/
theorem exists_of_mapM_eq_ok {ε α β : Type} {f : α → Except ε β} {items : List α} {bs : List β}
    (read : items.mapM f = .ok bs) : ∀ b ∈ bs, ∃ a ∈ items, f a = .ok b := by
  induction items generalizing bs with
  | nil =>
    rw [List.mapM_nil] at read
    cases read
    simp
  | cons a items ih =>
    rw [List.mapM_cons, bind_eq_ok_iff] at read
    obtain ⟨b, first, read⟩ := read
    obtain ⟨bs', rest, same⟩ := bind_eq_ok_iff.1 read
    cases same
    intro b' mem
    rcases List.mem_cons.1 mem with rfl | mem
    · exact ⟨a, List.mem_cons_self, first⟩
    · obtain ⟨a', mem', read'⟩ := ih rest b' mem
      exact ⟨a', List.mem_cons_of_mem a mem', read'⟩

/-- A field that may be left out has its default, or a value that was read. -/
theorem exists_of_getD_slot {α : Type} {r : Json.Record} {position : Nat} {key : String}
    {presence : Json.Presence} {decode : Json → Except DecodeError α} {default a : α}
    (got : (r.slot position key presence decode).getD default = .ok a) :
    a = default ∨ ∃ j, decode j = .ok a := by
  have found : (r.slot position key presence decode).found = none ∨
      (∃ err, (r.slot position key presence decode).found = some (.error err)) ∨
      ∃ j, (r.slot position key presence decode).found = some (decode j) := by
    unfold Json.Record.slot
    cases r with
    | byPosition items => cases present : items[position]? <;> simp [present]
    | byName fields =>
      dsimp only
      split <;> simp
  unfold Json.Slot.getD at got
  rcases found with absent | ⟨err, refused⟩ | ⟨j, value⟩
  · rw [absent] at got
    cases got
    exact .inl rfl
  · rw [refused] at got
    cases got
  · rw [value] at got
    exact .inr ⟨j, got⟩

/-- What is read from JSON is received. -/
theorem received_of_ofJson {j : Json} (read : ofJson j = .ok t) : t.Received := by
  unfold ofJson at read
  obtain ⟨r, -, read⟩ := bind_eq_ok_iff.1 read
  obtain ⟨-, -, read⟩ := bind_eq_ok_iff.1 read
  obtain ⟨children, got, same⟩ := bind_eq_ok_iff.1 read
  cases same
  rcases exists_of_getD_slot got with rfl | ⟨j', listed⟩
  · intro n mem
    cases mem
  · cases j' with
    | array items =>
      intro n mem
      obtain ⟨item, -, read⟩ := exists_of_mapM_eq_ok listed n mem
      obtain ⟨w, -, read⟩ := bind_eq_ok_iff.1 read
      refine ⟨w, ?_⟩
      split at read
      · next m converted =>
        cases read
        exact converted
      · cases read
    | _ => cases listed

/-- A script that was received has no reversed lines. -/
theorem Received.isForward (received : t.Received) {p : Place} (mem : p ∈ t.places) :
    p.node.isForward = true := by
  have inside : p.node ∈ t.preorder := by
    rw [← map_node_places]
    exact List.mem_map_of_mem mem
  obtain ⟨n, top, below⟩ := Node.mem_preorderAll.1 inside
  obtain ⟨w, read⟩ := received n top
  exact decide_eq_true ((WireNode.ofNode_of_toNode read).2 p.node below).forward

/-- In a script that was received nothing is passed over. -/
theorem Received.entry?_eq_places (received : t.Received) (id : String) :
    LineMap.entry? (LineMap.ofTree t) id = (t.places.find? (·.node.id == id)).map Place.listed := by
  have all : t.places.filter (·.node.isForward) = t.places :=
    List.filter_eq_self.2 fun p mem => received.isForward mem
  change t.index.find? (·.nodeId == id) = _
  rw [index_eq_listed, all, List.find?_map]
  rfl

/-- Looking an id up in the tree of a script finds the first statement that has it, in the order of
the text, where the true branch of a condition comes before the false one. The index has the first
of those whose lines are in order, under the nearest label around it, which may be itself. In a
script that was received, from JSON or statement by statement, both find the same statement in the
same place, or neither finds one. Ids may come up more than once. -/
theorem lookups_agree (t : Tree) (id : String) :
    t.places.map Place.node = t.preorder ∧
      t.find? id = t.preorder.find? (·.id == id) ∧
      LineMap.entry? (LineMap.ofTree t) id =
        (t.places.find? fun p => p.node.isForward && p.node.id == id).map Place.listed ∧
      (∀ j, ofJson j = .ok t → t.Received) ∧
      (t.Received →
        (t.find? id = none ∧ LineMap.entry? (LineMap.ofTree t) id = none) ∨
          ∃ p ∈ t.places, t.find? id = some p.node ∧
            LineMap.entry? (LineMap.ofTree t) id = some p.listed) := by
  refine ⟨map_node_places t, Node.findIn?_eq id t.children, LineMap.entry?_eq_places t id,
    fun j => received_of_ofJson, fun received => ?_⟩
  rw [find?_eq_places, Received.entry?_eq_places received]
  cases found : t.places.find? (·.node.id == id) with
  | none => exact .inl ⟨rfl, rfl⟩
  | some p => exact .inr ⟨p, List.mem_of_find?_eq_some found, rfl, rfl⟩

/-- One id stands in both branches of a condition, in the false one under a label of its own, where
another id stands alone. The first is found in the true branch, under the outer label; the other one
under the inner label. -/
theorem lookups_agree_branches :
    let say (id : String) (line : Nat) : Node := ⟨id, .action, "say", line, line, .leaf⟩
    let inner : Node := ⟨"n", .labelBlock, "inner", 3, 5, .sequence [say "x" 4, say "y" 5]⟩
    let test : Node := ⟨"i", .ifBlock, "if x", 1, 5, .conditional [say "x" 2] [inner]⟩
    let outer : Node := ⟨"l", .labelBlock, "outer", 0, 5, .sequence [test]⟩
    let t : Tree := ⟨[outer]⟩
    t.Received ∧
      (∃ p ∈ t.places, t.find? "x" = some p.node ∧
        LineMap.entry? (LineMap.ofTree t) "x" = some p.listed ∧
        p.listed = ⟨"x", .action, some "l", some "outer", 2, 2⟩) ∧
      ∃ p ∈ t.places, t.find? "y" = some p.node ∧
        LineMap.entry? (LineMap.ofTree t) "y" = some p.listed ∧
        p.listed = ⟨"y", .action, some "n", some "inner", 5, 5⟩ := by
  intro say inner test outer t
  have received : t.Received := List.forall_mem_singleton.2 ⟨.ofNode outer, rfl⟩
  have found (id : String) (e : Entry) (listed : LineMap.entry? (LineMap.ofTree t) id = some e) :
      ∃ p ∈ t.places, t.find? id = some p.node ∧
        LineMap.entry? (LineMap.ofTree t) id = some p.listed ∧ p.listed = e := by
    rcases (lookups_agree t id).2.2.2.2 received with ⟨-, missing⟩ | ⟨p, mem, node, entry⟩
    · rw [missing] at listed
      cases listed
    · exact ⟨p, mem, node, entry, Option.some.inj (entry.symm.trans listed)⟩
  exact ⟨received, found "x" _ rfl, found "y" _ rfl⟩

end Tree

end StoryScript
