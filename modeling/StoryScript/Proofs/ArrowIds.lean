import StoryScript.Proofs.ControlFlow
import Mathlib.Data.List.Pairwise

/-!
# Arrows with the same id

The id of an arrow is made of its ends and its label with dashes between them, and a picture keeps
one arrow of every id. Ids of statements may hold dashes themselves, so arrows that differ can have
the same id, and then all but the first are lost.

## Main definitions

* `arrowId` — the id that an arrow gets from its ends and its label.
* `Tree.Draws` — the arrows of the pictures of single labels.
* `Node.passages` — the statements of several labels with what comes behind them.
* `Node.Apart` — the dashes in the ids of statements do not make two arrows alike.

## Main statements

* `layout_ok` — the picture of a script is made of those of its labels.
* `arrow_mem_dedup_iff` — what is kept when ids occur more than once.
* `Apart.arrow_eq` — arrows between statements whose ids are apart have ids of their own.
* `layout_arrows_iff` — a picture has all arrows of its labels exactly when those that differ have
  ids that differ.
* `layout_drops_arrow` — a picture in which nothing leaves a statement.
-/

namespace StoryScript

/-- The id of an arrow, from its ends and its label. -/
def arrowId (a : String × String × Option String) : String :=
  Edge.idOf a.1 a.2.1 a.2.2

theorem toList_arrowId (a : String × String × Option String) :
    (arrowId a).toList = "e-".toList ++ (a.1.toList ++ '-' :: (a.2.1.toList ++
      (a.2.2.map fun l => '-' :: l.toList).getD [])) := by
  obtain ⟨source, target, label⟩ := a
  cases label <;> simp [arrowId, Edge.idOf, toString]

namespace Edge

/-! ## Of every id the first arrow is kept -/

theorem dedup_sublist (es : List Edge) : (dedup es).Sublist es := by
  induction es with
  | nil => exact .refl _
  | cons e es ih => exact (List.filter_sublist.trans ih).cons_cons e

/-- No two arrows that are kept have the same id. -/
theorem eq_of_mem_dedup {es : List Edge} {d e : Edge} (hd : d ∈ dedup es) (he : e ∈ dedup es)
    (same : d.id = e.id) : d = e := by
  induction es with
  | nil => cases hd
  | cons x es ih =>
    simp only [dedup, List.mem_cons, List.mem_filter, bne_iff_ne] at hd he
    rcases hd with rfl | ⟨hd, nd⟩ <;> rcases he with rfl | ⟨he, ne⟩
    · rfl
    · exact absurd same.symm ne
    · exact absurd same nd
    · exact ih hd he

/-- Of every id an arrow is kept. -/
theorem exists_mem_dedup {es : List Edge} {e : Edge} (he : e ∈ es) :
    ∃ d ∈ dedup es, d.id = e.id := by
  induction es with
  | nil => cases he
  | cons x es ih =>
    by_cases same : e.id = x.id
    · exact ⟨x, by simp [dedup], same.symm⟩
    · cases he with
      | head => exact absurd rfl same
      | tail _ he =>
        obtain ⟨d, hd, id⟩ := ih he
        refine ⟨d, ?_, id⟩
        simp [dedup, hd, id, same]

/-- Arrows whose ids come from their ends and labels are all kept just when those that differ have
ids that differ. -/
theorem arrow_mem_dedup_iff {es : List Edge} (ids : ∀ e ∈ es, e.id = arrowId e.arrow) :
    (∀ a ∈ es.map arrow, a ∈ (dedup es).map arrow) ↔
      ∀ a b, a ∈ es.map arrow → b ∈ es.map arrow → arrowId a = arrowId b → a = b := by
  have inside {e : Edge} (he : e ∈ dedup es) : e ∈ es := (dedup_sublist es).subset he
  constructor
  · intro kept a b ha hb same
    obtain ⟨d, hd, rfl⟩ := List.mem_map.1 (kept a ha)
    obtain ⟨e, he, rfl⟩ := List.mem_map.1 (kept b hb)
    have id_eq : d.id = e.id := by rw [ids d (inside hd), ids e (inside he), same]
    rw [eq_of_mem_dedup hd he id_eq]
  · intro apart a ha
    obtain ⟨e, he, rfl⟩ := List.mem_map.1 ha
    obtain ⟨d, hd, id_eq⟩ := exists_mem_dedup he
    have same : arrowId d.arrow = arrowId e.arrow := by rw [← ids d (inside hd), ← ids e he, id_eq]
    exact List.mem_map.2 ⟨d, hd,
      apart _ _ (List.mem_map_of_mem (inside hd)) (List.mem_map_of_mem he) same⟩

end Edge

namespace Node

/-! ## The ids of the arrows of a label -/

theorem id_of_mem_leave {id next : String} {kind : NodeKind} {e : Edge}
    (h : e ∈ leave id kind next) : e.id = arrowId e.arrow := by
  unfold leave at h
  split at h
  · cases h
  · rw [List.mem_singleton.1 h]
    rfl

/-- The arrows found on the way down have the ids that belong to them. -/
theorem id_of_mem_flow {n : Node} {next : String} {e : Edge} (h : e ∈ n.flow next) :
    e.id = arrowId e.arrow := by
  induction n using Node.induction generalizing next with
  | step n ih =>
    have row (next : String) (ns : List Node) (below : ∀ m ∈ ns, m ∈ n.children) :
        e ∈ flowAll next ns → e.id = arrowId e.arrow := by
      induction ns with
      | nil => simp [flowAll]
      | cons m ns ihRow =>
        rw [List.forall_mem_cons] at below
        rw [flowAll, List.mem_append]
        exact fun h => h.elim (ih m below.1) (ihRow below.2)
    have options (menu next : String) (os : List Node) (below : ∀ m ∈ os, m ∈ n.children) :
        e ∈ flowOptions menu next os → e.id = arrowId e.arrow := by
      induction os with
      | nil => simp [flowOptions]
      | cons o os ihOptions =>
        rw [List.forall_mem_cons] at below
        rw [flowOptions, List.mem_cons, List.mem_append]
        rintro (rfl | h | h)
        · rfl
        · exact ih o below.1 h
        · exact ihOptions below.2 h
    obtain ⟨id, kind, caption, s, l, body⟩ := n
    rcases body with (_ | ⟨c, cs⟩) | ⟨ts, fs⟩ | (_ | ⟨o, os⟩) | _
    · exact id_of_mem_leave h
    · rw [flow, List.mem_cons] at h
      rcases h with rfl | h
      · rfl
      · exact row next _ (fun m mem => mem) h
    · rw [flow, List.mem_cons, List.mem_cons, List.mem_append] at h
      rcases h with rfl | rfl | h | h
      · rfl
      · rfl
      · exact row next ts (fun m mem => List.mem_append_left _ mem) h
      · exact row next fs (fun m mem => List.mem_append_right _ mem) h
    · exact id_of_mem_leave h
    · exact options id next (o :: os) (fun m mem => mem) h
    · exact id_of_mem_leave h

theorem id_of_mem_flowEdges {label : Node} {e : Edge} (h : e ∈ label.flowEdges) :
    e.id = arrowId e.arrow := by
  rcases List.mem_append.1 h with h | h
  · exact id_of_mem_flow h
  · obtain ⟨n, -, rfl⟩ := List.mem_map.1 h
    rfl

/-- A statement of a label, with the end block of the label and with what comes behind the
statement. -/
structure Passage where
  final : String
  node : Node
  next : String

/-- The arrows that are to leave a statement. -/
def Passage.arrows (x : Passage) : List (String × String × Option String) :=
  x.node.departures x.final x.next

/-- The statements of labels. -/
def passages (labels : List Node) : List Passage :=
  labels.flatMap fun label =>
    (label.followed (endBlockId label.id)).map fun x => ⟨endBlockId label.id, x.1, x.2⟩

theorem map_passages (labels : List Node) :
    (passages labels).map (·.node) = preorderAll labels := by
  rw [passages, List.map_flatMap, preorderAll_eq]
  congr 1
  funext label
  rw [List.map_map, ← map_fst_followed (endBlockId label.id)]
  rfl

theorem passages_eq_of_id_eq {labels : List Node}
    (distinct : ((preorderAll labels).map (·.id)).Nodup) {x y : Passage}
    (hx : x ∈ passages labels) (hy : y ∈ passages labels) (same : x.node.id = y.node.id) :
    x = y := by
  rw [← map_passages, List.map_map] at distinct
  exact List.inj_on_of_nodup_map distinct hx hy same

theorem mem_preorderAll_of_passages {labels : List Node} {x : Passage}
    (hx : x ∈ passages labels) : x.node ∈ preorderAll labels := by
  rw [← map_passages]
  exact List.mem_map_of_mem hx

/-- The arrows of labels are those that are to leave their statements. -/
theorem mem_arrows_flowEdges {labels : List Node}
    (kind : ∀ label ∈ labels, label.kind = .labelBlock)
    (distinct : ((preorderAll labels).map (·.id)).Nodup) {a : String × String × Option String} :
    a ∈ (labels.flatMap flowEdges).map Edge.arrow ↔
      ∃ x ∈ passages labels, a ∈ x.arrows := by
  have of_label (label : Node) (mem : label ∈ labels) :
      a ∈ label.flowEdges.map Edge.arrow ↔ ∃ x ∈ label.followed (endBlockId label.id),
        a ∈ x.1.departures (endBlockId label.id) x.2 := by
    have inside : (label.preorder.map (·.id)).Nodup :=
      distinct.sublist ((preorder_sublist_preorderAll mem).map _)
    rw [(flowEdges_perm (kind label mem) inside).mem_iff, List.mem_flatMap]
  rw [List.map_flatMap, List.mem_flatMap]
  constructor
  · rintro ⟨label, mem, leaves⟩
    obtain ⟨x, hx, leaves⟩ := (of_label label mem).1 leaves
    exact ⟨_, List.mem_flatMap.2 ⟨label, mem, List.mem_map_of_mem hx⟩, leaves⟩
  · rintro ⟨_, passage, leaves⟩
    obtain ⟨label, mem, passage⟩ := List.mem_flatMap.1 passage
    obtain ⟨x, hx, rfl⟩ := List.mem_map.1 passage
    exact ⟨label, mem, (of_label label mem).2 ⟨x, hx, leaves⟩⟩

/-! ## Where arrows lead -/

/-- The ids of the blocks of labels: their statements and their end blocks. -/
def blockIds (labels : List Node) : List String :=
  (preorderAll labels).map (·.id) ++ labels.map fun label => endBlockId label.id

/-- Behind a statement comes a statement or the end block. -/
theorem Continues.mem_blocks {label n : Node} {next : String} (h : label.Continues n next) :
    next = endBlockId label.id ∨ next ∈ label.preorder.map (·.id) := by
  induction h with
  | label => exact .inl rfl
  | next inside row =>
    have child := mem_children_of_row (List.append_cons _ _ _ ▸ row)
    exact .inr (List.mem_map_of_mem
      (mem_preorder_trans inside (mem_preorder_of_mem_children child)))
  | last _ _ _ ih => exact ih

theorem target_of_mem_departures {n : Node} {final next : String}
    {a : String × String × Option String} (h : a ∈ n.departures final next) :
    a.2.1 = final ∨ a.2.1 = next ∨ a.2.1 ∈ n.children.map (·.id) := by
  have entrance_mem (ns : List Node) :
      (ns.head?.map (·.id)).getD next = next ∨
        (ns.head?.map (·.id)).getD next ∈ ns.map (·.id) := by
    cases ns <;> simp
  obtain ⟨id, kind, caption, s, e, body⟩ := n
  rcases body with (_ | ⟨c, cs⟩) | ⟨ts, fs⟩ | (_ | ⟨o, os⟩) | _
  · simp only [departures, List.mem_singleton] at h
    grind
  · simp only [departures, List.mem_singleton] at h
    subst h
    exact .inr (.inr List.mem_cons_self)
  · simp only [departures, List.mem_cons, List.not_mem_nil, or_false] at h
    simp only [children, Body.toList, List.map_append, List.mem_append]
    rcases h with rfl | rfl
    · exact .inr ((entrance_mem ts).imp_right .inl)
    · exact .inr ((entrance_mem fs).imp_right .inr)
  · simp only [departures, List.mem_singleton] at h
    grind
  · obtain ⟨p, hp, rfl⟩ := List.mem_map.1 h
    exact .inr (.inr (List.mem_map_of_mem hp))
  · simp only [departures, List.mem_singleton] at h
    grind

theorem id_mem_blockIds {labels : List Node} {label n : Node} (mem : label ∈ labels)
    (hn : n ∈ label.preorder) : n.id ∈ blockIds labels :=
  List.mem_append_left _ (List.mem_map_of_mem (mem_preorderAll.2 ⟨label, mem, hn⟩))

theorem endBlockId_mem_blockIds {labels : List Node} {label : Node} (mem : label ∈ labels) :
    endBlockId label.id ∈ blockIds labels :=
  List.mem_append_right _ (List.mem_map_of_mem mem)

/-- Arrows lead to the blocks of their labels. -/
theorem target_mem_blockIds {labels : List Node} {x : Passage}
    (hx : x ∈ passages labels) {a : String × String × Option String}
    (h : a ∈ x.arrows) : a.2.1 ∈ blockIds labels := by
  obtain ⟨label, mem, hx⟩ := List.mem_flatMap.1 hx
  obtain ⟨⟨n, next⟩, below, rfl⟩ := List.mem_map.1 hx
  rcases target_of_mem_departures h with final | behind | child
  · rw [final]
    exact endBlockId_mem_blockIds mem
  · rw [behind]
    rcases (continues_iff.2 below).mem_blocks with rfl | inside
    · exact endBlockId_mem_blockIds mem
    · obtain ⟨m, hm, rfl⟩ := List.mem_map.1 inside
      exact id_mem_blockIds mem hm
  · obtain ⟨c, hc, c_id⟩ := List.mem_map.1 child
    rw [← c_id]
    have inside := (mem_preorder_iff_followed _).2 ⟨next, below⟩
    exact id_mem_blockIds mem (mem_preorder_trans inside (mem_preorder_of_mem_children hc))

/-! ## Ids that are apart -/

/-- The options of a menu. -/
def options (n : Node) : List Node :=
  match n.body with
  | .choice os => os
  | _ => []

/-- What the second id has behind the first one and a dash. -/
def rest (id longer : String) : List Char :=
  longer.toList.drop (id.toList.length + 1)

/-- Where dashes stand in ids, they do not make two arrows alike. -/
structure Apart (labels : List Node) : Prop where
  /-- When the id of a statement goes on, behind a dash, where that of another one ends, then none
  of the rest and the id of a block begins with the other. -/
  rest : ∀ m ∈ preorderAll labels, ∀ n ∈ preorderAll labels,
    (m.id.toList ++ ['-']) <+: n.id.toList → ∀ id ∈ blockIds labels,
      ¬ rest m.id n.id <+: id.toList ∧ ¬ id.toList <+: rest m.id n.id
  /-- Among the options of a menu no id goes on, behind a dash, where another one ends. -/
  options : ∀ n ∈ preorderAll labels, ∀ o ∈ n.options, ∀ p ∈ n.options,
    ¬ (o.id.toList ++ ['-']) <+: p.id.toList

instance (labels : List Node) : Decidable (Apart labels) :=
  decidable_of_iff (_ ∧ _) ⟨fun h => ⟨h.1, h.2⟩, fun h => ⟨h.rest, h.options⟩⟩

/-- Where two texts with a dash in them agree, they begin alike up to the dash, or one goes on
behind it. -/
theorem eq_or_longer {s t u v : List Char} (same : s ++ '-' :: u = t ++ '-' :: v) :
    s = t ∨ (∃ rest, t = s ++ '-' :: rest ∧ u = rest ++ '-' :: v) ∨
      ∃ rest, s = t ++ '-' :: rest ∧ v = rest ++ '-' :: u := by
  rcases List.append_eq_append_iff.1 same with ⟨more, t_eq, behind⟩ | ⟨more, s_eq, behind⟩
  · cases more with
    | nil => exact .inl (by simpa using t_eq.symm)
    | cons c rest =>
      obtain ⟨rfl, tail⟩ := List.cons.inj behind
      exact .inr (.inl ⟨rest, t_eq, tail⟩)
  · cases more with
    | nil => exact .inl (by simpa using s_eq)
    | cons c rest =>
      obtain ⟨rfl, tail⟩ := List.cons.inj behind
      exact .inr (.inr ⟨rest, s_eq, tail⟩)

section Apart

variable {labels : List Node} (apart : Apart labels) {x y : Passage} (hx : x ∈ passages labels)
  {a b : String × String × Option String} (ha : a ∈ x.arrows)

include apart hx ha

/-- No arrow that leaves a statement goes on like the id of a longer one. -/
theorem Apart.target_ne (hy : y ∈ passages labels) {rest : List Char}
    (longer : y.node.id.toList = x.node.id.toList ++ '-' :: rest) (ends tail : List Char) :
    a.2.1.toList ++ ends ≠ rest ++ '-' :: tail := by
  intro same
  have rest_eq : Node.rest x.node.id y.node.id = rest := by
    rw [Node.rest, longer, List.append_cons, List.drop_left' (by simp)]
  obtain ⟨shorter, shorter'⟩ := apart.rest _ (mem_preorderAll_of_passages hx) _
    (mem_preorderAll_of_passages hy) ⟨rest, by simp [longer]⟩ _ (target_mem_blockIds hx ha)
  rw [rest_eq] at shorter shorter'
  rcases List.append_eq_append_iff.1 same with ⟨more, eq, -⟩ | ⟨more, eq, -⟩
  · exact shorter' ⟨more, eq.symm⟩
  · exact shorter ⟨more, eq.symm⟩

/-- Arrows with the same id leave statements with the same id. -/
theorem Apart.source_eq (hy : y ∈ passages labels) (hb : b ∈ y.arrows)
    (same : arrowId a = arrowId b) : x.node.id = y.node.id := by
  rw [← String.toList_inj, toList_arrowId, toList_arrowId, source_of_mem_departures ha,
    source_of_mem_departures hb] at same
  rcases eq_or_longer (List.append_cancel_left same) with
    eq | ⟨rest, longer, eq⟩ | ⟨rest, longer, eq⟩
  · exact String.toList_inj.1 eq
  · exact absurd eq (apart.target_ne hx ha hy longer _ _)
  · exact absurd eq (apart.target_ne hy hb hx longer _ _)

end Apart

/-- Arrows with the same id that leave one statement are the same. -/
theorem Apart.departures_inj {labels : List Node} (apart : Apart labels) {n : Node}
    (inside : n ∈ preorderAll labels) (distinct : (n.children.map (·.id)).Nodup)
    {final next : String} {a b : String × String × Option String}
    (ha : a ∈ n.departures final next) (hb : b ∈ n.departures final next)
    (same : arrowId a = arrowId b) : a = b := by
  have options := apart.options n inside
  have source : a.1 = b.1 :=
    (source_of_mem_departures ha).trans (source_of_mem_departures hb).symm
  rw [← String.toList_inj, toList_arrowId, toList_arrowId, source] at same
  have behind := (List.cons.inj (List.append_cancel_left (List.append_cancel_left same))).2
  obtain ⟨id, kind, caption, s, e, body⟩ := n
  rcases body with (_ | ⟨c, cs⟩) | ⟨ts, fs⟩ | (_ | ⟨o, os⟩) | _
  · simp_all [departures]
  · simp_all [departures]
  · -- the labels end differently
    have ends := congrArg List.reverse behind
    simp only [departures, List.mem_cons, List.not_mem_nil, or_false] at ha hb
    rcases ha with rfl | rfl <;> rcases hb with rfl | rfl <;> simp at ends ⊢
  · simp_all [departures]
  · obtain ⟨p, hp, rfl⟩ := List.mem_map.1 ha
    obtain ⟨q, hq, rfl⟩ := List.mem_map.1 hb
    have id_eq : p.id = q.id := by
      rcases eq_or_longer behind with eq | ⟨rest, longer, -⟩ | ⟨rest, longer, -⟩
      · exact String.toList_inj.1 eq
      · exact absurd ⟨rest, by simp [longer]⟩ (options p hp q hq)
      · exact absurd ⟨rest, by simp [longer]⟩ (options q hq p hp)
    have eq : p = q := List.inj_on_of_nodup_map distinct hp hq id_eq
    rw [eq]
  · simp_all [departures]

section Labels

variable {labels : List Node} (kind : ∀ label ∈ labels, label.kind = .labelBlock)
  (distinct : ((preorderAll labels).map (·.id)).Nodup)

include kind distinct

/-- Between statements whose ids are apart, arrows that differ have ids that differ. -/
theorem Apart.arrow_eq (apart : Apart labels) {a b : String × String × Option String}
    (ha : a ∈ (labels.flatMap flowEdges).map Edge.arrow)
    (hb : b ∈ (labels.flatMap flowEdges).map Edge.arrow) (same : arrowId a = arrowId b) :
    a = b := by
  obtain ⟨x, hx, leaves⟩ := (mem_arrows_flowEdges kind distinct).1 ha
  obtain ⟨y, hy, leaves'⟩ := (mem_arrows_flowEdges kind distinct).1 hb
  obtain rfl : x = y :=
    passages_eq_of_id_eq distinct hx hy (apart.source_eq hx leaves hy leaves' same)
  obtain ⟨label, mem, below⟩ := mem_preorderAll.1 (mem_preorderAll_of_passages hx)
  have children : x.node.children.Sublist (preorderAll labels) :=
    (children_sublist _).trans ((preorder_sublist below).trans (preorder_sublist_preorderAll mem))
  exact apart.departures_inj (mem_preorderAll_of_passages hx) (distinct.sublist (children.map _))
    leaves leaves' same

theorem exists_arrow_from {n : Node} (hn : n ∈ preorderAll labels) :
    ∃ a ∈ (labels.flatMap flowEdges).map Edge.arrow, a.1 = n.id := by
  rw [← map_passages] at hn
  obtain ⟨x, hx, rfl⟩ := List.mem_map.1 hn
  obtain ⟨a, leaves⟩ := List.exists_mem_of_ne_nil _ (departures_ne_nil x.node x.final x.next)
  exact ⟨a, (mem_arrows_flowEdges kind distinct).2 ⟨x, hx, leaves⟩, source_of_mem_departures leaves⟩

end Labels

end Node

namespace Tree

/-! ## All labels in one picture -/

variable {α : Type} [Coordinate α] {spacing : Spacing α} {filter : LabelFilter} {t : Tree}

/-- The picture of a label that is drawn has this arrow. -/
def Draws (spacing : Spacing α) (filter : LabelFilter) (t : Tree)
    (a : String × String × Option String) : Prop :=
  ∃ label ∈ t.drawn filter, ∃ y part, label.layoutLabel spacing y = .ok part ∧
    a ∈ part.edges.map Edge.arrow

theorem edges_layoutLabels {labels : List Node} {y : α} {g : Graph α}
    (drawn : layoutLabels spacing y labels = .ok g) :
    g.edges = labels.flatMap Node.flowEdges := by
  induction labels generalizing y g with
  | nil =>
    obtain rfl := layoutLabels_nil_eq_ok_iff.1 drawn
    rfl
  | cons label labels ih =>
    obtain ⟨part, below, first, others, rfl⟩ := layoutLabels_cons_eq_ok_iff.1 drawn
    rw [List.flatMap_cons, ← ih others, ← Node.edges_layoutLabel first]

/-- The picture of a script is made of those of its labels, one arrow of every id being kept. -/
theorem layout_ok {g : Graph α} (drawn : t.layout spacing filter = .ok g) :
    g.edges = Edge.dedup ((t.drawn filter).flatMap Node.flowEdges) ∧
      ∀ a, t.Draws spacing filter a ↔
        a ∈ ((t.drawn filter).flatMap Node.flowEdges).map Edge.arrow := by
  obtain ⟨whole, laid, rfl⟩ := layout_eq_ok_iff.1 drawn
  refine ⟨congrArg Edge.dedup (edges_layoutLabels laid), fun a => ?_⟩
  rw [List.map_flatMap, List.mem_flatMap]
  constructor
  · rintro ⟨label, mem, y, part, ok, drawn⟩
    exact ⟨label, mem, Node.edges_layoutLabel ok ▸ drawn⟩
  · rintro ⟨label, mem, leaves⟩
    obtain ⟨y, part, ok⟩ := exists_layoutLabel laid label mem
    exact ⟨label, mem, y, part, ok, by rwa [Node.edges_layoutLabel ok]⟩

theorem kind_of_mem_drawn {label : Node} (mem : label ∈ t.drawn filter) :
    label.kind = .labelBlock := by
  simpa [Node.isLabel] using (mem_drawn_iff.1 mem).2.1

theorem nodup_drawn (distinct : (t.preorder.map (·.id)).Nodup) :
    ((Node.preorderAll (t.drawn filter)).map (·.id)).Nodup := by
  refine distinct.sublist (List.Sublist.map _ ?_)
  rw [preorder, Node.preorderAll_eq, Node.preorderAll_eq, List.flatMap_def, List.flatMap_def]
  exact ((List.filter_sublist.trans List.filter_sublist).map _).flatten

/-- Let all statements have different ids, and let the script be drawn. What the picture shows is
drawn for a label, and every arrow drawn for one has the id of an arrow in the picture. The picture
has all of them exactly when those that differ have ids that differ. That is so when the ids of
statements are apart. When it is so, an arrow leaves every statement. -/
theorem layout_arrows_iff (distinct : (t.preorder.map (·.id)).Nodup) {g : Graph α}
    (drawn : t.layout spacing filter = .ok g) :
    (∀ a ∈ g.edges.map Edge.arrow, t.Draws spacing filter a) ∧
      (∀ a, t.Draws spacing filter a → ∃ e ∈ g.edges, e.id = arrowId a) ∧
      ((∀ a, t.Draws spacing filter a → a ∈ g.edges.map Edge.arrow) ↔
        ∀ a b, t.Draws spacing filter a → t.Draws spacing filter b →
          arrowId a = arrowId b → a = b) ∧
      (Node.Apart (t.drawn filter) →
        ∀ a, t.Draws spacing filter a → a ∈ g.edges.map Edge.arrow) ∧
      ((∀ a, t.Draws spacing filter a → a ∈ g.edges.map Edge.arrow) →
        ∀ n ∈ Node.preorderAll (t.drawn filter), g.edgesFrom n.id ≠ []) := by
  obtain ⟨edges, draws⟩ := layout_ok drawn
  have kind : ∀ label ∈ t.drawn filter, label.kind = .labelBlock := fun _ => kind_of_mem_drawn
  have ids : ∀ e ∈ (t.drawn filter).flatMap Node.flowEdges, e.id = arrowId e.arrow := by
    intro e he
    obtain ⟨label, -, below⟩ := List.mem_flatMap.1 he
    exact Node.id_of_mem_flowEdges below
  have all_iff := Edge.arrow_mem_dedup_iff ids
  simp only [draws, edges, Graph.edgesFrom]
  refine ⟨fun a h => ((Edge.dedup_sublist _).map _).subset h, ?_, ?_, ?_, ?_⟩
  · intro a ha
    obtain ⟨e, he, rfl⟩ := List.mem_map.1 ha
    obtain ⟨d, hd, same⟩ := Edge.exists_mem_dedup he
    exact ⟨d, hd, same.trans (ids e he)⟩
  · exact all_iff
  · intro apart
    exact all_iff.2 fun a b => apart.arrow_eq kind (nodup_drawn distinct)
  · intro all n hn none
    obtain ⟨a, ha, source⟩ := Node.exists_arrow_from kind (nodup_drawn distinct) hn
    obtain ⟨e, he, rfl⟩ := List.mem_map.1 (all a ha)
    exact List.filter_eq_nil_iff.1 none e he (by simpa [Edge.arrow] using source)

/-- The statements of a label have ids with dashes: the place under the label, and under the menu.
All arrows are in the picture. -/
theorem layout_arrows_iff_places :
    let stay : Node := ⟨"a-0-0", .menuOption, "stay", 2, 2, .sequence []⟩
    let go : Node := ⟨"a-0-1", .menuOption, "go", 3, 4,
      .sequence [⟨"a-0-1-0", .ending, "return", 4, 4, .leaf⟩]⟩
    let menu : Node := ⟨"a-0", .menuBlock, "menu", 1, 4, .choice [stay, go]⟩
    let t : Tree := ⟨[⟨"a", .labelBlock, "a", 0, 4, .sequence [menu]⟩]⟩
    (t.preorder.map (·.id)).Nodup ∧ ∃ g, t.layout Spacing.standard .all = .ok g ∧
      Node.Apart (t.drawn .all) ∧
      ∀ a, t.Draws Spacing.standard .all a → a ∈ g.edges.map Edge.arrow := by
  intro stay go menu t
  have distinct : (t.preorder.map (·.id)).Nodup := by decide +kernel
  obtain ⟨g, drawn⟩ : ∃ g, t.layout Spacing.standard .all = .ok g := ⟨_, rfl⟩
  have apart : Node.Apart (t.drawn .all) := by decide +kernel
  exact ⟨distinct, g, drawn, apart, (layout_arrows_iff distinct drawn).2.2.2.1 apart⟩

/-- Two arrows have the id made of `a`, `b` and `c`. The second of them is lost, and nothing leaves
the statement that it should have left. -/
theorem layout_drops_arrow :
    let say (id : String) (line : Nat) : Node := ⟨id, .action, id, line, line, .leaf⟩
    let t : Tree := ⟨[⟨"L", .labelBlock, "L", 0, 4,
      .sequence [say "a" 1, say "b-c" 2, say "a-b" 3, say "c" 4]⟩]⟩
    (t.preorder.map (·.id)).Nodup ∧
      (∀ n ∈ t.preorder, ∀ label ∈ t.labels, n.id ≠ endBlockId label.id) ∧
      ∃ g, t.layout Spacing.standard .all = .ok g ∧
        t.Draws Spacing.standard .all ("a-b", "c", none) ∧
        ("a-b", "c", none) ∉ g.edges.map Edge.arrow ∧ g.edgesFrom "a-b" = [] := by
  intro say t
  obtain ⟨g, drawn⟩ : ∃ g, t.layout Spacing.standard .all = .ok g := ⟨_, rfl⟩
  obtain ⟨edges, draws⟩ := layout_ok drawn
  refine ⟨by decide +kernel, by decide +kernel, g, drawn, (draws _).2 (by decide +kernel), ?_, ?_⟩
  · rw [edges]
    decide +kernel
  · rw [Graph.edgesFrom, edges]
    decide +kernel

end Tree

end StoryScript
