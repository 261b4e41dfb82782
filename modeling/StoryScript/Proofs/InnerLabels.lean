import Mathlib.Data.List.Nodup
import StoryScript.Proofs.BoxOrder
import StoryScript.Proofs.Refusals

/-!
# Labels inside labels

The picture and the index each say under which label a statement stands. On the way down the picture
holds on to the label at top level, and the index changes to every label that it comes to. They say
the same of a statement unless another label stands between it and the one at top level, itself
included.

## Main definitions

* `Node.nearestLabel` — the first label among some statements, as the index has it.
* `Place.label?`, `Place.entry` — the nearest label around a place, and what is listed there.
* `Place.listed` — the entry of a statement whose lines are in order.

## Main statements

* `Node.index_eq_places`, `Tree.index_eq_places` — the index goes through the places.
* `Node.exists_between` — who stands above a place below a statement.
* `LineMap.entry?_of_mem` — with distinct ids every entry is found by its id.
* `Tree.boxes_listed` — what a box says and what the index says of its statement.
-/

namespace StoryScript

namespace Node

/-- The first label among some statements: its id and its name. -/
def nearestLabel (ns : List Node) : LabelRef :=
  (ns.find? (·.isLabel)).map fun label => (label.id, label.caption)

/-- Going down to a statement, it is the nearest label from there on if it is one. -/
theorem nearestLabel_cons (n : Node) (above : List Node) :
    nearestLabel (n :: above) = n.labelRef (nearestLabel above) := by
  grind [nearestLabel, labelRef]

end Node

namespace Place

/-- The nearest label around a statement, which may be itself. -/
def label? (p : Place) : Option Node :=
  (p.node :: p.above).find? (·.isLabel)

/-- What the index says of a statement where it stands. -/
def entry (p : Place) : List Entry :=
  p.node.entry (Node.nearestLabel (p.node :: p.above))

/-- The one entry of a statement whose lines are in order, under the nearest label around it. -/
def listed (p : Place) : Entry :=
  ⟨p.node.id, p.node.kind, p.label?.map (·.id), p.label?.map (·.caption), p.node.startLine,
    p.node.endLine⟩

/-- A statement is listed where it stands, unless its lines are reversed. -/
theorem entry_eq (p : Place) : p.entry = if p.node.isForward then [p.listed] else [] := by
  simp [entry, Node.entry, Node.isForward, Node.nearestLabel, listed, label?, Function.comp_def]

end Place

namespace Node

variable {above : List Node} {m n : Node} {p : Place}

/-- The index of a statement goes through its places. -/
theorem index_eq_places (above : List Node) (n : Node) :
    n.index (nearestLabel above) = (n.places above).flatMap Place.entry := by
  induction n using Node.induction generalizing above with
  | step n ih =>
    rw [index_eq, places_eq, List.flatMap_cons, List.flatMap_assoc, ← nearestLabel_cons,
      indexAll_eq, List.flatMap_congr fun c child => ih c child (n :: above)]
    rfl

theorem mem_preorder_of_below (below : m.Below n) : m ∈ n.preorder := by
  obtain ⟨c, child, inside⟩ := below
  exact mem_preorder.2 (.inr ⟨c, child, inside⟩)

theorem mem_preorder_iff_place : m ∈ n.preorder ↔ ∃ p ∈ n.places above, p.node = m := by
  rw [← map_node_places above, List.mem_map]

/-- From a place the way up leads to the statement it is below, and over nothing else that is not
below that one too. -/
theorem exists_between (mem : p ∈ n.places above) :
    ∃ between, p.node :: p.above = between ++ n :: above ∧ ∀ m ∈ between, m.Below n := by
  induction n using Node.induction generalizing above with
  | step n ih =>
    rw [places_eq, List.mem_cons, List.mem_flatMap] at mem
    rcases mem with rfl | ⟨c, child, mem⟩
    · exact ⟨[], rfl, by simp⟩
    · obtain ⟨between, way, below⟩ := ih c child mem
      refine ⟨between ++ [c], by simp [way], fun m mem => ?_⟩
      rcases List.mem_append.1 mem with mem | mem
      · exact ⟨c, child, mem_preorder_of_below (below m mem)⟩
      · rw [List.mem_singleton.1 mem]
        exact ⟨c, child, c.mem_preorder_self⟩

section Label

variable {label : Node} (isLabel : label.isLabel = true) (mem : p ∈ label.places [])

include isLabel mem

/-- In a label the nearest label is never missing: it is one below, or the label itself. -/
theorem exists_label?_eq : ∃ l ∈ label.preorder, p.label? = some l := by
  obtain ⟨between, way, below⟩ := exists_between mem
  have found : p.label?.isSome = true := by
    rw [Place.label?, way, List.find?_isSome]
    exact ⟨label, by simp, isLabel⟩
  obtain ⟨l, found⟩ := Option.isSome_iff_exists.1 found
  refine ⟨l, ?_, found⟩
  have onWay : l ∈ between ++ [label] := way ▸ List.mem_of_find?_eq_some found
  rcases List.mem_append.1 onWay with between | top
  · exact mem_preorder_of_below (below l between)
  · rw [List.mem_singleton.1 top]
    exact label.mem_preorder_self

/-- The label at top level is the nearest one if there is no other on the way up to it. -/
theorem label?_eq_top_iff (distinct : (label.preorder.map (·.id)).Nodup) :
    p.label? = some label ↔ ∀ m ∈ p.node :: p.above, m.isLabel = true → m = label := by
  obtain ⟨between, way, below⟩ := exists_between mem
  constructor
  · intro nearest m onWay inner
    rw [Place.label?, way, List.find?_append] at nearest
    rw [way] at onWay
    rcases List.mem_append.1 onWay with inside | top
    · -- the first label in between would be found, and it is not the one that it is below
      obtain ⟨l, found⟩ := Option.isSome_iff_exists.1 (List.find?_isSome.2 ⟨m, inside, inner⟩)
      rw [found, Option.some_or, Option.some.injEq] at nearest
      have itself := below l (List.mem_of_find?_eq_some found)
      rw [nearest] at itself
      exact absurd rfl (id_ne_of_below distinct itself)
    · exact List.mem_singleton.1 top
  · intro alone
    obtain ⟨l, -, found⟩ := exists_label?_eq isLabel mem
    rw [found, alone l (List.mem_of_find?_eq_some found) (List.find?_some found)]

end Label

end Node

variable {t : Tree}

/-- The index of a script goes through its places. -/
theorem Tree.index_eq_places (t : Tree) :
    t.index = (Node.placesAll [] t.children).flatMap Place.entry := by
  rw [index, Node.indexAll_eq, Node.placesAll_eq, List.flatMap_assoc]
  exact List.flatMap_congr fun n _ => n.index_eq_places []

/-- With distinct ids no two entries of a script are about the same id. -/
theorem Tree.nodup_index (distinct : (t.preorder.map (·.id)).Nodup) :
    (t.index.map (·.nodeId)).Nodup := by
  have ids : t.index.map (·.nodeId) = (t.index.map Entry.listing).map (·.1) := by
    rw [List.map_map]
    rfl
  rw [ids, index, Node.map_listing_indexAll, List.map_map]
  exact distinct.sublist (List.filter_sublist.map _)

/-- With distinct ids every entry of a script is found by its id. -/
theorem LineMap.entry?_of_mem (distinct : (t.preorder.map (·.id)).Nodup) {e : Entry}
    (mem : e ∈ t.index) : LineMap.entry? (LineMap.ofTree t) e.nodeId = some e := by
  change t.index.find? (·.nodeId == e.nodeId) = some e
  obtain ⟨f, found⟩ : ∃ f, t.index.find? (·.nodeId == e.nodeId) = some f := by
    rw [← Option.isSome_iff_exists, List.find?_isSome]
    exact ⟨e, mem, beq_self_eq_true _⟩
  have same : f.nodeId = e.nodeId := by simpa using List.find?_some found
  rw [found, List.inj_on_of_nodup_map (Tree.nodup_index distinct)
    (List.mem_of_find?_eq_some found) mem same]

namespace Tree

variable {α : Type} [Coordinate α] {spacing : Spacing α} {filter : LabelFilter} {g : Graph α}

/-- A box with a summary stands for a statement at some place of a label that is drawn. -/
theorem exists_place_of_box (drawn : t.layout spacing filter = .ok g) {b : Box α}
    {s : NodeSummary} (mem : b ∈ g.nodes) (told : b.summary = some s) :
    ∃ label ∈ t.drawn filter, ∃ p ∈ label.places [], b.id = p.node.id ∧
      s = .ofNode label.id p.node := by
  have shown : (b.id, some s) ∈ (t.drawn filter).flatMap Node.legend := by
    rw [← shown_layout drawn, ← told]
    exact List.mem_map_of_mem mem
  obtain ⟨label, isDrawn, shown⟩ := List.mem_flatMap.1 shown
  refine ⟨label, isDrawn, ?_⟩
  rcases List.mem_append.1 shown with statement | ending
  · obtain ⟨n, inside, same⟩ := List.mem_map.1 statement
    obtain ⟨p, place, rfl⟩ := Node.mem_preorder_iff_place.1 inside
    simp only [Node.shownUnder, Prod.mk.injEq, Option.some.injEq] at same
    exact ⟨p, place, same.1.symm, same.2.symm⟩
  · simp at ending

/-- At every place of a label that is drawn there is a box for the statement. -/
theorem exists_box_of_place (drawn : t.layout spacing filter = .ok g) {label : Node} {p : Place}
    (isDrawn : label ∈ t.drawn filter) (place : p ∈ label.places []) :
    ∃ b ∈ g.nodes, b.id = p.node.id ∧ b.summary = some (.ofNode label.id p.node) := by
  have inside : p.node ∈ label.preorder := Node.mem_preorder_iff_place.2 ⟨p, place, rfl⟩
  have shown : p.node.shownUnder label.id ∈ g.nodes.map Box.shown := by
    rw [shown_layout drawn]
    exact List.mem_flatMap.2 ⟨label, isDrawn, List.mem_append_left _ (List.mem_map_of_mem inside)⟩
  obtain ⟨b, mem, same⟩ := List.mem_map.1 shown
  exact ⟨b, mem, Prod.mk.inj same⟩

section Drawn

variable (distinct : (t.preorder.map (·.id)).Nodup) {label : Node}
  (isDrawn : label ∈ t.drawn filter)

include distinct isDrawn

theorem nodup_label : (label.preorder.map (·.id)).Nodup :=
  distinct.sublist ((Node.preorder_sublist_preorderAll (mem_drawn_iff.1 isDrawn).1).map _)

variable {p : Place} (place : p ∈ label.places [])

include place

/-- Every place of a label that is drawn is found in the index by its id. -/
theorem entry?_of_place (drawn : t.layout spacing filter = .ok g) :
    LineMap.entry? (LineMap.ofTree t) p.node.id = some p.listed := by
  have below : p.node ∈ label.preorder := Node.mem_preorder_iff_place.2 ⟨p, place, rfl⟩
  have forward := forward_of_layout drawn _ (Node.mem_preorderAll.2 ⟨label, isDrawn, below⟩)
  have mem : p.listed ∈ t.index := by
    rw [index_eq_places, List.mem_flatMap, Node.placesAll_eq]
    refine ⟨p, List.mem_flatMap.2 ⟨label, (mem_drawn_iff.1 isDrawn).1, place⟩, ?_⟩
    rw [Place.entry_eq, if_pos forward, List.mem_singleton]
  exact LineMap.entry?_of_mem distinct mem

/-- The index names the label at top level if there is no other on the way up to it. -/
theorem labelId_listed_iff :
    p.listed.labelId = some label.id ↔ ∀ m ∈ p.node :: p.above, m.isLabel = true → m = label := by
  have isLabel := (mem_drawn_iff.1 isDrawn).2.1
  have nodup := nodup_label distinct isDrawn
  rw [← Node.label?_eq_top_iff isLabel place nodup]
  obtain ⟨l, inside, nearest⟩ := Node.exists_label?_eq isLabel place
  simp only [Place.listed, nearest, Option.map_some, Option.some.injEq]
  exact ⟨List.inj_on_of_nodup_map nodup inside label.mem_preorder_self, congrArg _⟩

end Drawn

/-- Let a script with distinct ids be drawn. A box with a summary stands for a statement at some
place of a label at top level, and the index has an entry of its id, of the same kind and with the
same lines. The summary names the label at top level, the entry the nearest one around the
statement, and so they name the same one just if from the statement up there is no label but that at
top level. All boxes agree with the index just if no label is below one that is drawn. -/
theorem boxes_listed (distinct : (t.preorder.map (·.id)).Nodup)
    (drawn : t.layout spacing filter = .ok g) :
    (∀ b ∈ g.nodes, ∀ s, b.summary = some s →
        ∃ label ∈ t.drawn filter, ∃ p ∈ label.places [], ∃ e,
          p.node.id = b.id ∧ LineMap.entry? (LineMap.ofTree t) b.id = some e ∧
          e.kind = s.kind ∧ e.startLine = s.startLine ∧ e.endLine = s.endLine ∧
          s.labelId = label.id ∧ e.labelId = p.label?.map (·.id) ∧
          (e.labelId = some s.labelId ↔
            ∀ m ∈ p.node :: p.above, m.isLabel = true → m = label)) ∧
      ((∀ b ∈ g.nodes, ∀ s, b.summary = some s →
          ∃ e, LineMap.entry? (LineMap.ofTree t) b.id = some e ∧ e.labelId = some s.labelId) ↔
        ∀ label ∈ t.drawn filter, ∀ m : Node, m.Below label → m.isLabel = false) := by
  refine ⟨?_, ?_, ?_⟩
  · intro b mem s told
    obtain ⟨label, isDrawn, p, place, id_eq, rfl⟩ := exists_place_of_box drawn mem told
    refine ⟨label, isDrawn, p, place, p.listed, id_eq.symm, ?_, rfl, rfl, rfl, rfl, rfl, ?_⟩
    · rw [id_eq]
      exact entry?_of_place distinct isDrawn place drawn
    · exact labelId_listed_iff distinct isDrawn place
  · intro agree label isDrawn m below
    obtain ⟨p, place, rfl⟩ := Node.mem_preorder_iff_place.1 (Node.mem_preorder_of_below below)
    obtain ⟨b, mem, id_eq, told⟩ := exists_box_of_place drawn isDrawn place
    obtain ⟨e, found, same⟩ := agree b mem _ told
    rw [id_eq, entry?_of_place distinct isDrawn place drawn, Option.some.injEq] at found
    subst found
    have alone := (labelId_listed_iff distinct isDrawn place).1 same
    by_contra inner
    have top := alone p.node (by simp) (by simpa using inner)
    exact Node.id_ne_of_below (nodup_label distinct isDrawn) below (congrArg _ top)
  · intro plain b mem s told
    obtain ⟨label, isDrawn, p, place, id_eq, rfl⟩ := exists_place_of_box drawn mem told
    refine ⟨p.listed, id_eq ▸ entry?_of_place distinct isDrawn place drawn,
      (labelId_listed_iff distinct isDrawn place).2 fun m onWay isLabel => ?_⟩
    obtain ⟨between, way, below⟩ := Node.exists_between place
    rw [way, List.mem_append, List.mem_singleton] at onWay
    rcases onWay with inside | top
    · simp [plain label isDrawn m (below m inside)] at isLabel
    · exact top

/-- Without labels inside labels the boxes agree with the index, also those in the branches of a
condition and under the options of a menu, and with a statement outside of labels in between. -/
theorem boxes_listed_branches :
    let say (id : String) (line : Nat) : Node := ⟨id, .action, id, line, line, .leaf⟩
    let option : Node := ⟨"o", .menuOption, "go", 5, 6, .sequence [say "y" 6]⟩
    let menu : Node := ⟨"m", .menuBlock, "menu", 4, 6, .choice [option]⟩
    let test : Node := ⟨"i", .ifBlock, "if x", 1, 6, .conditional [say "x" 2] [menu]⟩
    let t : Tree := ⟨[⟨"a", .labelBlock, "a", 0, 6, .sequence [test]⟩, say "z" 7,
      ⟨"b", .labelBlock, "b", 8, 9, .sequence [say "w" 9]⟩]⟩
    (t.preorder.map (·.id)).Nodup ∧ ∃ g, t.layout Spacing.standard .all = .ok g ∧
      ∀ b ∈ g.nodes, ∀ s, b.summary = some s →
        ∃ e, LineMap.entry? (LineMap.ofTree t) b.id = some e ∧ e.labelId = some s.labelId := by
  intro say option menu test t
  have distinct : (t.preorder.map (·.id)).Nodup := by decide +kernel
  obtain ⟨g, drawn⟩ : ∃ g, t.layout Spacing.standard .all = .ok g := ⟨_, rfl⟩
  have plain : ∀ label ∈ t.drawn .all, ∀ c ∈ label.children, ∀ m ∈ c.preorder,
      m.isLabel = false := by decide +kernel
  refine ⟨distinct, g, drawn, (boxes_listed distinct drawn).2.2 ?_⟩
  rintro label isDrawn m ⟨c, child, inside⟩
  exact plain label isDrawn c child m inside

/-- Below a label inside a label the two disagree, and on the inner label itself. -/
theorem boxes_listed_inner :
    let t : Tree := ⟨[⟨"L", .labelBlock, "L", 0, 2, .sequence
      [⟨"N", .labelBlock, "N", 1, 2, .sequence [⟨"a", .action, "a", 2, 2, .leaf⟩]⟩]⟩]⟩
    (t.preorder.map (·.id)).Nodup ∧
      (∀ n ∈ t.preorder, ∀ label ∈ t.preorder, n.id ≠ endBlockId label.id) ∧
      ∃ g, t.layout Spacing.standard .all = .ok g ∧
        ∀ id ∈ ["N", "a"], ∃ b ∈ g.nodes, b.id = id ∧ b.summary.map (·.labelId) = some "L" ∧
          ∃ e, LineMap.entry? (LineMap.ofTree t) id = some e ∧ e.labelId = some "N" := by
  intro t
  obtain ⟨g, drawn⟩ : ∃ g, t.layout Spacing.standard .all = .ok g := ⟨_, rfl⟩
  have boxes : ∀ id ∈ ["N", "a"], (id, some "L") ∈
      ((t.drawn .all).flatMap Node.legend).map fun s => (s.1, s.2.map (·.labelId)) := by
    decide +kernel
  have entries : ∀ id ∈ ["N", "a"],
      ∃ e, LineMap.entry? (LineMap.ofTree t) id = some e ∧ e.labelId = some "N" := by
    rw [List.forall_mem_cons, List.forall_mem_singleton]
    exact ⟨⟨_, rfl, rfl⟩, ⟨_, rfl, rfl⟩⟩
  refine ⟨by decide +kernel, by decide +kernel, g, drawn, fun id isId => ?_⟩
  have box := boxes id isId
  rw [← shown_layout drawn, List.map_map] at box
  obtain ⟨b, mem, same⟩ := List.mem_map.1 box
  exact ⟨b, mem, congrArg Prod.fst same, congrArg Prod.snd same, entries id isId⟩

end Tree

end StoryScript
