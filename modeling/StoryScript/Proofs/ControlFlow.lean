import StoryScript.Graph.Lemmas
import Mathlib.Data.List.DropRight
import Mathlib.Data.List.Flatten
import Mathlib.Data.List.Nodup
import Mathlib.Data.List.Perm.Basic

/-!
# The arrows are the flow of control

The arrows of a label are found from the top: on the way down every statement is told what follows
it, and the statements that nothing leaves are led to the end block afterwards. What they mean is
said from the bottom: behind the last statement of a row comes whatever comes behind the statement
around it. Both give the same arrows.

## Main definitions

* `Edge.arrow` — the ends and the label of an arrow.
* `bareCaption`, `IsBare` — a caption without what stands around it, and what that is.
* `Node.rows` — the statements right below one, in rows that are passed one after the other.
* `Node.Continues` — what comes behind a statement, found by looking up.
* `Node.departures` — the arrows that are to leave a statement.
* `Node.followed` — statements with what comes behind them, found on the way down.

## Main statements

* `isBare_iff` — a caption is shown bare.
* `continues_iff` — both ways find the same.
* `flowEdges_perm` — the arrows of a label are those that are to leave its statements.
* `layoutLabel_edges` — so are the arrows of its picture, each drawn once.
-/

namespace StoryScript

/-- The ends and the label of an arrow. -/
def Edge.arrow (e : Edge) : String × String × Option String :=
  (e.source, e.target, e.label)

@[simp] theorem Edge.arrow_between (source target : String) (label : Option String) :
    (between source target label).arrow = (source, target, label) := rfl

/-- A caption without the white space on either end, and then without the double quotes there. -/
def bareCaption (caption : String) : String :=
  let text := (caption.toList.dropWhile Text.isSpace).rdropWhile Text.isSpace
  .ofList ((text.dropWhile (· == '"')).rdropWhile (· == '"'))

/-- `bare` is what stands between white space, and in that between double quotes. -/
def IsBare (caption bare : String) : Prop :=
  ∃ text, Text.Trims Text.isSpace caption.toList text ∧ Text.Trims (· == '"') text bare.toList

theorem optionCaption_eq (caption : String) : optionCaption caption = bareCaption caption := rfl

/-- There is one such text only. -/
theorem isBare_iff {caption bare : String} : IsBare caption bare ↔ bareCaption caption = bare := by
  rw [IsBare, ← optionCaption_eq, optionCaption, ← String.toList_inj, String.toList_ofList]
  simp only [← Text.stripBoth_eq_iff]
  constructor
  · rintro ⟨text, rfl, same⟩
    exact same
  · exact fun same => ⟨_, rfl, same⟩

namespace Node

/-- The statements right below one, in rows that are passed one after the other. Of the options of
a menu only one is passed, so each is a row of its own. -/
def rows (n : Node) : List (List Node) :=
  match n.body with
  | .sequence cs => [cs]
  | .conditional ts fs => [ts, fs]
  | .choice os => os.map fun o => [o]
  | .leaf => []

/-- Behind statement `n` of a label comes the statement with this id: the next one in its row, or
what comes behind the statement around the row. -/
inductive Continues (label : Node) : Node → String → Prop where
  | label : Continues label label (endBlockId label.id)
  | next {p n m : Node} {before behind : List Node} (inside : p ∈ label.preorder)
      (row : before ++ n :: m :: behind ∈ p.rows) : Continues label n m.id
  | last {p n : Node} {before : List Node} {id : String} (inside : p ∈ label.preorder)
      (row : before ++ [n] ∈ p.rows) (around : Continues label p id) : Continues label n id

/-- The arrows that are to leave a statement, `next` coming behind it and `final` being the end
block. -/
def departures (final next : String) (n : Node) : List (String × String × Option String) :=
  match n.body with
  | .sequence (c :: _) => [(n.id, c.id, none)]
  | .conditional ts fs =>
    [(n.id, (ts.head?.map (·.id)).getD next, some "True"),
      (n.id, (fs.head?.map (·.id)).getD next, some "False")]
  | .choice (o :: os) =>
    (o :: os).map fun o => (n.id, o.id, some (bareCaption o.caption))
  | _ => [(n.id, if n.kind = .ending then final else next, none)]

mutual

/-- A statement and those below it, each with what comes behind it. -/
def followed (next : String) (n : Node) : List (Node × String) :=
  match n with
  | ⟨id, kind, caption, s, e, body⟩ => (⟨id, kind, caption, s, e, body⟩, next) ::
    match body with
    | .sequence cs => followedAll next cs
    | .conditional ts fs => followedAll next ts ++ followedAll next fs
    | .choice os => followedEach next os
    | .leaf => []

/-- The statements of a row and those below them, each with what comes behind it. -/
def followedAll (next : String) : List Node → List (Node × String)
  | [] => []
  | n :: ns => n.followed (entrance next ns) ++ followedAll next ns

/-- Options and the statements below them, each with what comes behind it. -/
def followedEach (next : String) : List Node → List (Node × String)
  | [] => []
  | o :: os => o.followed next ++ followedEach next os

end

/-! ## What comes behind a statement -/

theorem followedEach_eq (next : String) (os : List Node) :
    followedEach next os = os.flatMap fun o => followedAll next [o] := by
  induction os with
  | nil => rfl
  | cons o os ih => simp [followedEach, followedAll, entrance, ih]

/-- A statement comes first, then its rows. -/
theorem followed_eq (next : String) (n : Node) :
    n.followed next = (n, next) :: n.rows.flatMap (followedAll next) := by
  obtain ⟨id, kind, caption, s, e, body⟩ := n
  cases body <;> simp [followed, rows, followedEach_eq, List.flatMap_map]

theorem flatten_rows (n : Node) : n.rows.flatten = n.children := by
  obtain ⟨id, kind, caption, s, e, body⟩ := n
  cases body <;> simp [rows, children, Body.toList, ← List.flatMap_def]

theorem mem_followedAll {next : String} {row : List Node} {x : Node × String} :
    x ∈ followedAll next row ↔ ∃ before n behind, before ++ n :: behind = row ∧
      x ∈ n.followed (entrance next behind) := by
  induction row with
  | nil => simp [followedAll]
  | cons n ns ih =>
    rw [followedAll, List.mem_append, ih]
    constructor
    · rintro (here | ⟨before, m, behind, rfl, there⟩)
      · exact ⟨[], n, ns, rfl, here⟩
      · exact ⟨n :: before, m, behind, rfl, there⟩
    · rintro ⟨before, m, behind, split, there⟩
      cases before with
      | nil =>
        cases split
        exact .inl there
      | cons _ before =>
        cases split
        exact .inr ⟨before, m, behind, rfl, there⟩

theorem mem_followed {next : String} {n : Node} {x : Node × String} :
    x ∈ n.followed next ↔ x = (n, next) ∨ ∃ row ∈ n.rows, ∃ before m behind,
      before ++ m :: behind = row ∧ x ∈ m.followed (entrance next behind) := by
  rw [followed_eq, List.mem_cons, List.mem_flatMap]
  simp only [mem_followedAll]

theorem mem_children_of_row {p n : Node} {before behind : List Node}
    (row : before ++ n :: behind ∈ p.rows) : n ∈ p.children := by
  rw [← flatten_rows]
  exact List.mem_flatten.2 ⟨_, row, by simp⟩

/-- What follows below a statement, when that is entered from above. -/
theorem followed_trans {next id : String} {m n : Node} {x : Node × String}
    (hm : (m, id) ∈ n.followed next) (hx : x ∈ m.followed id) : x ∈ n.followed next := by
  induction n using Node.induction generalizing next with
  | step n ih =>
    rcases mem_followed.1 hm with here | ⟨row, hrow, before, c, behind, rfl, below⟩
    · cases here
      exact hx
    · have child := mem_children_of_row hrow
      exact mem_followed.2 (.inr ⟨_, hrow, before, c, behind, rfl, ih c child below⟩)

/-- On the way down every statement is met once, in the order of the text. -/
theorem map_fst_followed (next : String) (n : Node) :
    (n.followed next).map Prod.fst = n.preorder := by
  induction n using Node.induction generalizing next with
  | step n ih =>
    have row_eq (row : List Node) (below : ∀ m ∈ row, m ∈ n.children) :
        (followedAll next row).map Prod.fst = preorderAll row := by
      induction row with
      | nil => rfl
      | cons m row ihRow =>
        rw [List.forall_mem_cons] at below
        rw [followedAll, preorderAll, List.map_append, ih m below.1, ihRow below.2]
    have rows_eq (rows : List (List Node)) (below : ∀ m ∈ rows.flatten, m ∈ n.children) :
        (rows.flatMap (followedAll next)).map Prod.fst = preorderAll rows.flatten := by
      induction rows with
      | nil => rfl
      | cons row rows ihRows =>
        rw [List.flatten_cons, List.forall_mem_append] at below
        rw [List.flatMap_cons, List.flatten_cons, List.map_append, preorderAll_append,
          row_eq row below.1, ihRows below.2]
    rw [followed_eq, List.map_cons, preorder_eq, ← flatten_rows,
      rows_eq n.rows fun m hm => by rwa [flatten_rows] at hm]

theorem mem_preorder_iff_followed (next : String) {m n : Node} :
    m ∈ n.preorder ↔ ∃ id, (m, id) ∈ n.followed next := by
  rw [← map_fst_followed next, List.mem_map]
  constructor
  · rintro ⟨⟨_, id⟩, mem, rfl⟩
    exact ⟨id, mem⟩
  · rintro ⟨id, mem⟩
    exact ⟨(m, id), mem, rfl⟩

/-- Looking up and going down find the same behind a statement. -/
theorem continues_iff {label m : Node} {id : String} :
    label.Continues m id ↔ (m, id) ∈ label.followed (endBlockId label.id) := by
  constructor
  · intro h
    induction h with
    | label => exact mem_followed.2 (.inl rfl)
    | next inside row =>
      obtain ⟨id, mem⟩ := (mem_preorder_iff_followed _).1 inside
      refine followed_trans mem (mem_followed.2 (.inr ⟨_, row, _, _, _, rfl, ?_⟩))
      exact mem_followed.2 (.inl rfl)
    | last inside row around ih =>
      refine followed_trans ih (mem_followed.2 (.inr ⟨_, row, _, _, _, rfl, ?_⟩))
      exact mem_followed.2 (.inl rfl)
  · -- every statement on the way down is known to come behind what it was told
    have down (n : Node) (next : String) (inside : n ∈ label.preorder)
        (known : label.Continues n next) : ∀ x ∈ n.followed next, label.Continues x.1 x.2 := by
      induction n using Node.induction generalizing next with
      | step n ih =>
        intro x hx
        rcases mem_followed.1 hx with rfl | ⟨row, hrow, before, c, behind, rfl, below⟩
        · exact known
        · have child := mem_children_of_row hrow
          have inside' := mem_preorder_trans inside (mem_preorder_of_mem_children child)
          refine ih c child _ inside' ?_ x below
          cases behind with
          | nil => exact .last inside hrow known
          | cons m behind => exact .next inside hrow
    exact down label _ label.mem_preorder_self .label (m, id)

/-! ## The arrows that leave a statement -/

/-- Control ends here, and nothing stands below: no arrow is found on the way down. -/
def stuck (n : Node) : Bool :=
  match n.body with
  | .conditional _ _ => false
  | body => body.toList.isEmpty && n.isTerminal

theorem entrance_eq (next : String) (ns : List Node) :
    entrance next ns = (ns.head?.map (·.id)).getD next := by
  cases ns <;> rfl

theorem departures_stuck {n : Node} (h : n.stuck) (final next : String) :
    n.departures final next = [(n.id, final, none)] := by
  obtain ⟨id, kind, caption, s, e, body⟩ := n
  rcases body with (_ | ⟨c, cs⟩) | ⟨ts, fs⟩ | (_ | ⟨o, os⟩) | _ <;>
    simp_all [stuck, departures, Body.toList, isTerminal]

theorem departures_ne_nil (n : Node) (final next : String) : n.departures final next ≠ [] := by
  obtain ⟨id, kind, caption, s, e, body⟩ := n
  rcases body with (_ | ⟨c, cs⟩) | ⟨ts, fs⟩ | (_ | ⟨o, os⟩) | _ <;> simp [departures]

theorem source_of_mem_departures {n : Node} {final next : String}
    {a : String × String × Option String} (h : a ∈ n.departures final next) : a.1 = n.id := by
  obtain ⟨id, kind, caption, s, e, body⟩ := n
  rcases body with (_ | ⟨c, cs⟩) | ⟨ts, fs⟩ | (_ | ⟨o, os⟩) | _ <;>
    simp_all [departures] <;> grind

/-- The arrows found on the way down that leave a statement, with what comes behind it. -/
def found (final : String) (x : Node × String) : List (String × String × Option String) :=
  if x.1.stuck then [] else x.1.departures final x.2

/-- The arrows added at the end that leave a statement. -/
def added (final : String) (x : Node × String) : List (String × String × Option String) :=
  if x.1.stuck then x.1.departures final x.2 else []

theorem found_append_added (final : String) (x : Node × String) :
    found final x ++ added final x = x.1.departures final x.2 := by
  cases stuck_x : x.1.stuck <;> simp [found, added, stuck_x]

theorem flatMap_added (final : String) (xs : List (Node × String)) :
    ((xs.map Prod.fst).filter stuck).map (fun n => (n.id, final, none)) =
      xs.flatMap (added final) := by
  induction xs with
  | nil => rfl
  | cons x xs ih =>
    cases stuck_x : x.1.stuck with
    | false => simpa [added, stuck_x] using ih
    | true => simpa [added, stuck_x, departures_stuck] using ih

theorem arrow_leave (final next caption : String) (id : String) (kind : NodeKind) (s e : Nat)
    {body : Body Node} (bare : body = .sequence [] ∨ body = .choice [] ∨ body = .leaf) :
    (leave id kind next).map Edge.arrow = found final (⟨id, kind, caption, s, e, body⟩, next) := by
  rcases bare with rfl | rfl | rfl <;> by_cases ending : kind = .ending <;>
    simp [leave, found, stuck, departures, isTerminal, Body.toList, ending]

theorem flowOptions_perm (final menu next : String) (os : List Node)
    (below : ∀ o ∈ os,
      ((o.flow next).map Edge.arrow).Perm ((o.followed next).flatMap (found final))) :
    ((flowOptions menu next os).map Edge.arrow).Perm
      (os.map (fun o => (menu, o.id, some (bareCaption o.caption))) ++
        (followedEach next os).flatMap (found final)) := by
  induction os with
  | nil => simp [flowOptions, followedEach]
  | cons o os ih =>
    rw [List.forall_mem_cons] at below
    simp only [flowOptions, followedEach, List.map_cons, List.map_append, List.flatMap_append,
      Edge.arrow_between, optionCaption_eq, List.cons_append]
    refine .cons _ ?_
    refine (below.1.append (ih below.2)).trans ?_
    exact List.perm_append_comm_assoc _ _ _

theorem flowAll_perm (final next : String) (row : List Node)
    (below : ∀ n ∈ row, ∀ next,
      ((n.flow next).map Edge.arrow).Perm ((n.followed next).flatMap (found final))) :
    ((flowAll next row).map Edge.arrow).Perm ((followedAll next row).flatMap (found final)) := by
  induction row with
  | nil => simp [flowAll, followedAll]
  | cons n row ih =>
    rw [List.forall_mem_cons] at below
    simp only [flowAll, followedAll, List.map_append, List.flatMap_append]
    exact (below.1 _).append (ih below.2)

/-- The arrows found on the way down leave the statements that were met there. -/
theorem flow_perm (final next : String) (n : Node) :
    ((n.flow next).map Edge.arrow).Perm ((n.followed next).flatMap (found final)) := by
  induction n using Node.induction generalizing next with
  | step n ih =>
    obtain ⟨id, kind, caption, s, e, body⟩ := n
    rcases body with (_ | ⟨c, cs⟩) | ⟨ts, fs⟩ | (_ | ⟨o, os⟩) | _
    · simp [flow, followed, followedAll, arrow_leave final next caption id kind s e (.inl rfl)]
    · have row := flowAll_perm final next (c :: cs) fun m mem => ih m mem
      simpa [flow, followed, found, stuck, departures, Body.toList] using row.cons (id, c.id, none)
    · have onTrue := flowAll_perm final next ts fun m mem =>
        ih m (List.mem_append_left _ mem)
      have onFalse := flowAll_perm final next fs fun m mem =>
        ih m (List.mem_append_right _ mem)
      simpa [flow, followed, found, stuck, departures, entrance_eq, trueLabel, falseLabel] using
        onTrue.append onFalse
    · simp [flow, followed, followedEach,
        arrow_leave final next caption id kind s e (.inr (.inl rfl))]
    · have options := flowOptions_perm final id next (o :: os) fun m mem => ih m mem next
      simpa [flow, followed, found, stuck, departures, Body.toList] using options
    · simp [flow, followed, arrow_leave final next caption id kind s e (.inr (.inr rfl))]

theorem mem_arrows_flow (final : String) {next : String} {n : Node}
    {a : String × String × Option String} :
    a ∈ (n.flow next).map Edge.arrow ↔
      ∃ m id, (m, id) ∈ n.followed next ∧ m.stuck = false ∧ a ∈ m.departures final id := by
  rw [(flow_perm final next n).mem_iff, List.mem_flatMap, Prod.exists]
  refine exists_congr fun m => exists_congr fun id => and_congr_right fun _ => ?_
  cases stuck_m : m.stuck <;> simp [found, stuck_m]

/-! ## All arrows of a label -/

/-- A label always leads on. -/
theorem stuck_of_labelBlock {label : Node} (kind : label.kind = .labelBlock) :
    label.stuck = false := by
  unfold stuck isTerminal
  split <;> simp [kind]

/-- On the way down an arrow is found for every statement that is not stuck. -/
theorem exists_flow_from {label n : Node} (hn : n ∈ label.preorder) (free : n.stuck = false)
    (next : String) : ∃ e ∈ label.flow next, e.source = n.id := by
  obtain ⟨id, mem⟩ := (mem_preorder_iff_followed next).1 hn
  obtain ⟨a, leaves⟩ := List.exists_mem_of_ne_nil _ (departures_ne_nil n next id)
  have here := (mem_arrows_flow next).2 ⟨n, id, mem, free, leaves⟩
  obtain ⟨e, he, rfl⟩ := List.mem_map.1 here
  exact ⟨e, he, source_of_mem_departures leaves⟩

section Label

variable {label : Node} (kind : label.kind = .labelBlock)
  (distinct : (label.preorder.map (·.id)).Nodup)

include distinct

theorem eq_of_id_eq {m n : Node} (hm : m ∈ label.preorder) (hn : n ∈ label.preorder)
    (same : m.id = n.id) : m = n :=
  List.inj_on_of_nodup_map distinct hm hn same

/-- On the way down an arrow is found for a statement just when it is not stuck. -/
theorem any_source_eq {n : Node} (hn : n ∈ label.preorder) (next : String) :
    (label.flow next).any (·.source == n.id) = !n.stuck := by
  cases stuck_n : n.stuck with
  | true =>
    refine List.any_eq_false.2 fun e he same => ?_
    obtain ⟨m, id, mem, free, leaves⟩ := (mem_arrows_flow next).1 (List.mem_map_of_mem he)
    have source : e.source = m.id := source_of_mem_departures leaves
    have inside : m ∈ label.preorder := (mem_preorder_iff_followed next).2 ⟨id, mem⟩
    have m_eq : m = n := eq_of_id_eq distinct inside hn (source.symm.trans (by simpa using same))
    simp [m_eq, stuck_n] at free
  | false =>
    obtain ⟨e, he, source⟩ := exists_flow_from hn stuck_n next
    exact List.any_eq_true.2 ⟨e, he, by simpa using source⟩

/-- An arrow leaves a statement at most once. -/
theorem nodup_departures {n : Node} (hn : n ∈ label.preorder) (final next : String) :
    (n.departures final next).Nodup := by
  have children_distinct : (n.children.map (·.id)).Nodup :=
    distinct.sublist (((children_sublist n).trans (preorder_sublist hn)).map _)
  obtain ⟨id, kind, caption, s, e, body⟩ := n
  rcases body with (_ | ⟨c, cs⟩) | ⟨ts, fs⟩ | (_ | ⟨o, os⟩) | _
  · simp [departures]
  · simp [departures]
  · simp [departures]
  · simp [departures]
  · have target : ((o :: os).map (·.id)).Nodup := children_distinct
    refine List.Nodup.of_map (fun a : String × String × Option String => a.2.1) ?_
    simpa [departures, Function.comp_def] using target
  · simp [departures]

/-- No arrow leaves two statements, and none leaves the same one twice. -/
theorem nodup_flatMap_departures (final next : String) :
    ((label.followed next).flatMap fun x => x.1.departures final x.2).Nodup := by
  have inside {x : Node × String} (hx : x ∈ label.followed next) : x.1 ∈ label.preorder :=
    (mem_preorder_iff_followed next).2 ⟨x.2, hx⟩
  have sources : (label.followed next).Pairwise fun x y => x.1.id ≠ y.1.id := by
    rw [← map_fst_followed next, List.map_map] at distinct
    exact List.pairwise_map.1 distinct
  refine List.nodup_flatMap.2 ⟨fun x hx => nodup_departures distinct (inside hx) final x.2, ?_⟩
  refine sources.imp fun {x y} ne a hx hy => ne ?_
  rw [← source_of_mem_departures hx, ← source_of_mem_departures hy]

/-- Something comes behind every statement, and just one thing. -/
theorem exists_unique_continues {n : Node} (hn : n ∈ label.preorder) :
    ∃! id, label.Continues n id := by
  simp only [continues_iff]
  obtain ⟨id, mem⟩ := (mem_preorder_iff_followed (endBlockId label.id)).1 hn
  refine ⟨id, mem, fun id' mem' => ?_⟩
  rw [← map_fst_followed (endBlockId label.id), List.map_map] at distinct
  have same := List.inj_on_of_nodup_map distinct mem' mem rfl
  exact congrArg Prod.snd same

include kind

/-- The arrows added at the end leave the statements that are stuck. -/
theorem danglingEdges_eq (next : String) :
    label.danglingEdges (label.flow next) =
      (label.preorder.filter stuck).map fun n => .between n.id (endBlockId label.id) := by
  unfold danglingEdges
  congr 1
  refine List.filter_congr fun n hn => ?_
  rw [any_source_eq distinct hn, Bool.not_not]
  -- the label itself is never stuck, so it need not be left out
  cases stuck_n : n.stuck with
  | false => simp
  | true =>
    have ne : n.id ≠ label.id := by
      intro same
      have n_eq : n = label := eq_of_id_eq distinct hn label.mem_preorder_self same
      rw [n_eq, stuck_of_labelBlock kind] at stuck_n
      cases stuck_n
    simpa using ne

/-- The arrows of a label are those that are to leave its statements. -/
theorem flowEdges_perm :
    (label.flowEdges.map Edge.arrow).Perm
      ((label.followed (endBlockId label.id)).flatMap fun x =>
        x.1.departures (endBlockId label.id) x.2) := by
  have added : (label.danglingEdges (label.flow (endBlockId label.id))).map Edge.arrow =
      (label.followed (endBlockId label.id)).flatMap (added (endBlockId label.id)) := by
    rw [danglingEdges_eq kind distinct, ← flatMap_added, map_fst_followed, List.map_map]
    rfl
  simp only [flowEdges, List.map_append]
  rw [added]
  refine ((flow_perm (endBlockId label.id) _ label).append_right _).trans ?_
  refine (List.flatMap_append_perm _ _ _).trans ?_
  simp only [found_append_added]
  rfl

end Label

/-- An arrow leads from a menu to each of its options, and no other arrow leaves it. -/
theorem departures_choice {n : Node} {os : List Node} (body : n.body = .choice os)
    (some_there : os ≠ []) (final next : String) :
    n.departures final next = os.map fun o => (n.id, o.id, some (bareCaption o.caption)) := by
  obtain ⟨o, os, rfl⟩ := List.exists_cons_of_ne_nil some_there
  simp only [departures, body]

/-- Let the statements of a label have different ids. When the label can be drawn, its arrows are
those that are to leave its statements, with what comes behind each of them, and every arrow is
drawn once. At the arrow to an option of a menu stands the caption of the option, without the white
space around it and then without the double quotes around it. -/
theorem layoutLabel_edges {α : Type} [Coordinate α] {spacing : Spacing α} {label : Node} {y : α}
    {part : LabelLayout α} (kind : label.kind = .labelBlock)
    (distinct : (label.preorder.map (·.id)).Nodup)
    (drawn : label.layoutLabel spacing y = .ok part) :
    (part.edges.map Edge.arrow).Nodup ∧
      (∀ n ∈ label.preorder, ∃! next, label.Continues n next) ∧
      (∀ a, a ∈ part.edges.map Edge.arrow ↔ ∃ n ∈ label.preorder, ∃ next,
        label.Continues n next ∧ a ∈ n.departures (endBlockId label.id) next) ∧
      ∀ menu ∈ label.preorder, ∀ os, menu.body = .choice os → ∀ o ∈ os, ∀ bare,
        IsBare o.caption bare ↔ (menu.id, o.id, some bare) ∈ part.edges.map Edge.arrow := by
  have perm := flowEdges_perm kind distinct
  rw [← edges_layoutLabel drawn] at perm
  have arrows (a : String × String × Option String) :
      a ∈ part.edges.map Edge.arrow ↔ ∃ n ∈ label.preorder, ∃ next,
        label.Continues n next ∧ a ∈ n.departures (endBlockId label.id) next := by
    rw [perm.mem_iff, List.mem_flatMap]
    simp only [continues_iff]
    constructor
    · rintro ⟨⟨n, next⟩, mem, leaves⟩
      exact ⟨n, (mem_preorder_iff_followed _).2 ⟨next, mem⟩, next, mem, leaves⟩
    · rintro ⟨n, -, next, mem, leaves⟩
      exact ⟨(n, next), mem, leaves⟩
  refine ⟨perm.nodup_iff.2 (nodup_flatMap_departures distinct _ _),
    fun n hn => exists_unique_continues distinct hn, arrows, ?_⟩
  intro menu inside os body o option bare
  have leave_menu := departures_choice body (List.ne_nil_of_mem option) (endBlockId label.id)
  rw [isBare_iff, arrows]
  constructor
  · rintro rfl
    obtain ⟨next, behind, -⟩ := exists_unique_continues distinct inside
    refine ⟨menu, inside, next, behind, ?_⟩
    rw [leave_menu]
    exact List.mem_map_of_mem option
  · rintro ⟨n, inside', next, -, leaves⟩
    obtain rfl : menu = n := eq_of_id_eq distinct inside inside' (source_of_mem_departures leaves)
    rw [leave_menu] at leaves
    obtain ⟨o', option', same⟩ := List.mem_map.1 leaves
    obtain ⟨same_id, same_caption⟩ : o'.id = o.id ∧ bareCaption o'.caption = bare := by
      simpa using same
    have below {c : Node} (mem : c ∈ os) : c ∈ label.preorder := by
      refine mem_preorder_trans inside (mem_preorder_of_mem_children ?_)
      rwa [children, body]
    rw [← eq_of_id_eq distinct (below option') (below option) same_id, same_caption]

/-- A condition without false branch leads on to the next statement, and the end of a script leads
to the end block, whatever comes behind it. At the arrow to an option stands its caption without the
tab and the spaces around it and then without the double quotes, but with the space inside these. -/
theorem layoutLabel_edges_branch_and_menu :
    let stop : Node := ⟨"r", .ending, "return", 2, 2, .leaf⟩
    let test : Node := ⟨"i", .ifBlock, "if x", 1, 2, .conditional [stop] []⟩
    let say : Node := ⟨"z", .action, "say", 3, 3, .leaf⟩
    let option : Node := ⟨"o", .menuOption, "\t \"\"Go \"on\" \"  ", 5, 5, .sequence []⟩
    let menu : Node := ⟨"m", .menuBlock, "menu", 4, 5, .choice [option]⟩
    let label : Node := ⟨"a", .labelBlock, "a", 0, 5, .sequence [test, say, menu]⟩
    label.kind = .labelBlock ∧ (label.preorder.map (·.id)).Nodup ∧
      ∃ part, label.layoutLabel Spacing.standard 0 = .ok part ∧
        (part.edges.map Edge.arrow).Nodup ∧
        ("i", "z", some "False") ∈ part.edges.map Edge.arrow ∧
        ("r", "end-a", none) ∈ part.edges.map Edge.arrow ∧
        ∀ shown, ("m", "o", some shown) ∈ part.edges.map Edge.arrow ↔
          shown = "Go \"on\" " := by
  intro stop test say option menu label
  have distinct : (label.preorder.map (·.id)).Nodup := by decide +kernel
  obtain ⟨part, drawn⟩ : ∃ part, label.layoutLabel Spacing.standard 0 = .ok part := ⟨_, rfl⟩
  obtain ⟨once, -, arrows, captions⟩ := layoutLabel_edges rfl distinct drawn
  have below {n : Node} (mem : n ∈ label.children) : n ∈ label.preorder :=
    mem_preorder_of_mem_children mem
  have test_inside : test ∈ label.preorder := below List.mem_cons_self
  have menu_inside : menu ∈ label.preorder :=
    below (List.mem_cons_of_mem _ (List.mem_cons_of_mem _ List.mem_cons_self))
  have stop_inside : stop ∈ label.preorder :=
    mem_preorder_trans test_inside (mem_preorder_of_mem_children List.mem_cons_self)
  have behind_test : label.Continues test "z" :=
    @Continues.next label label test say [] [menu] label.mem_preorder_self List.mem_cons_self
  have behind_stop : label.Continues stop "z" :=
    @Continues.last label test stop [] "z" test_inside List.mem_cons_self behind_test
  refine ⟨rfl, distinct, part, drawn, once, (arrows _).2 ?_, (arrows _).2 ?_, fun shown => ?_⟩
  · exact ⟨test, test_inside, "z", behind_test, by simp [departures, test]⟩
  · exact ⟨stop, stop_inside, "z", behind_stop, by simp [departures, stop, label, endBlockId]⟩
  · have bare : bareCaption option.caption = "Go \"on\" " := by decide +kernel
    rw [← captions menu menu_inside [option] rfl option List.mem_cons_self, isBare_iff, bare,
      eq_comm]

end Node

end StoryScript
