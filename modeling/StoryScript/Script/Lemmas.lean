import StoryScript.Script.Basic

/-!
# Laws of the order of statements

The statements of a script come in the order of its text: a statement first, then what stands right
below it, each with all that stands below. Looking a statement up by its id goes through them in
that order.

## Main statements

* `bind_eq_ok_iff` — when steps that can fail succeed one after another.
* `Node.induction` — what passes from the statements right below one to it holds of all.
* `Node.preorder_eq` — the order of a statement and those below it in one equation.
* `Node.mem_preorder_trans` — what stands below a statement below another stands below that one.
* `Node.find?_eq`, `Node.findIn?_eq` — a lookup finds the first statement of its id in that order.
-/

namespace StoryScript

/-- One step after another succeeds when both do. -/
theorem bind_eq_ok_iff {ε α β : Type} {x : Except ε α} {f : α → Except ε β} {b : β} :
    (x >>= f) = .ok b ↔ ∃ a, x = .ok a ∧ f a = .ok b := by
  cases x <;> simp [bind, Except.bind]

theorem check_bind_eq_ok_iff {ε β : Type} {x : Except ε Unit} {f : Unit → Except ε β} {b : β} :
    (x >>= f) = .ok b ↔ x = .ok () ∧ f () = .ok b := by
  cases x <;> simp [bind, Except.bind]

namespace Node

/-- A property holds of all statements when it passes from the statements right below one to it. -/
theorem induction {motive : Node → Prop}
    (step : ∀ n : Node, (∀ c ∈ n.children, motive c) → motive n) (n : Node) : motive n := by
  refine @Node.rec motive (fun b => ∀ c ∈ b.toList, motive c) (fun ns => ∀ c ∈ ns, motive c)
    ?_ ?_ ?_ ?_ ?_ ?_ ?_ n
  · exact fun id kind caption s e body ih => step ⟨id, kind, caption, s, e, body⟩ ih
  · exact fun cs ih => ih
  · intro ts fs ht hf c hc
    exact (List.mem_append.1 hc).elim (ht c) (hf c)
  · exact fun os ih => ih
  · intro c hc
    cases hc
  · intro c hc
    cases hc
  · intro n ns hn hns c hc
    cases hc with
    | head => exact hn
    | tail _ h => exact hns c h

theorem preorderAll_append (ns ms : List Node) :
    preorderAll (ns ++ ms) = preorderAll ns ++ preorderAll ms := by
  induction ns with
  | nil => simp [preorderAll]
  | cons n ns ih => simp [preorderAll, ih]

/-- A statement comes first, then what is right below it with all below that. -/
theorem preorder_eq (n : Node) : n.preorder = n :: preorderAll n.children := by
  obtain ⟨id, kind, caption, s, e, body⟩ := n
  cases body <;> simp [preorder, children, Body.toList, preorderAll_append, preorderAll]

theorem mem_preorderAll {m : Node} {ns : List Node} :
    m ∈ preorderAll ns ↔ ∃ n ∈ ns, m ∈ n.preorder := by
  induction ns with
  | nil => simp [preorderAll]
  | cons n ns ih => simp [preorderAll, ih]

theorem mem_preorder {m n : Node} :
    m ∈ n.preorder ↔ m = n ∨ ∃ c ∈ n.children, m ∈ c.preorder := by
  rw [preorder_eq, List.mem_cons, mem_preorderAll]

@[simp] theorem mem_preorder_self (n : Node) : n ∈ n.preorder :=
  mem_preorder.2 (.inl rfl)

theorem mem_preorder_of_mem_children {c n : Node} (h : c ∈ n.children) : c ∈ n.preorder :=
  mem_preorder.2 (.inr ⟨c, h, c.mem_preorder_self⟩)

theorem mem_preorder_trans {k m n : Node} (hm : m ∈ n.preorder) (hk : k ∈ m.preorder) :
    k ∈ n.preorder := by
  induction n using Node.induction with
  | step n ih =>
    rcases mem_preorder.1 hm with rfl | ⟨c, child, below⟩
    · exact hk
    · exact mem_preorder.2 (.inr ⟨c, child, ih c child below⟩)

theorem preorderAll_eq (ns : List Node) : preorderAll ns = ns.flatMap preorder := by
  induction ns with
  | nil => rfl
  | cons n ns ih => rw [preorderAll, ih, List.flatMap_cons]

theorem preorder_sublist_preorderAll {n : Node} {ns : List Node} (h : n ∈ ns) :
    n.preorder.Sublist (preorderAll ns) := by
  rw [preorderAll_eq, List.flatMap_def]
  exact List.sublist_flatten_of_mem (List.mem_map_of_mem h)

/-- What stands below a statement comes in the same order wherever that statement stands. -/
theorem preorder_sublist {m n : Node} (h : m ∈ n.preorder) : m.preorder.Sublist n.preorder := by
  induction n using Node.induction with
  | step n ih =>
    rcases mem_preorder.1 h with rfl | ⟨c, child, below⟩
    · exact .refl _
    · rw [preorder_eq n]
      exact (ih c child below).trans ((preorder_sublist_preorderAll child).cons n)

theorem children_sublist (n : Node) : n.children.Sublist n.preorder := by
  have heads (ns : List Node) : ns.Sublist (preorderAll ns) := by
    induction ns with
    | nil => exact .refl _
    | cons n ns ih =>
      rw [preorderAll, preorder_eq, List.cons_append]
      exact (ih.trans (List.sublist_append_right _ _)).cons_cons n
  rw [preorder_eq]
  exact (heads n.children).cons n

theorem findIn?_append (id : String) (ns ms : List Node) :
    findIn? id (ns ++ ms) = (findIn? id ns <|> findIn? id ms) := by
  induction ns with
  | nil => simp [findIn?]
  | cons n ns ih => simp [findIn?, ih, Option.or_assoc]

/-- A lookup in a list goes by the order of the text when it does so in each statement of it. -/
theorem findIn?_eq_of {id : String} {ns : List Node}
    (each : ∀ n ∈ ns, n.find? id = n.preorder.find? (·.id == id)) :
    findIn? id ns = (preorderAll ns).find? (·.id == id) := by
  induction ns with
  | nil => simp [findIn?, preorderAll]
  | cons n ns ih =>
    rw [List.forall_mem_cons] at each
    simp [findIn?, preorderAll, each.1, ih each.2]

/-- Looking a statement up finds the first one in the order of the text. -/
theorem find?_eq (id : String) (n : Node) :
    n.find? id = n.preorder.find? (·.id == id) := by
  induction n using Node.induction with
  | step n ih =>
    rw [preorder_eq, List.find?_cons, ← findIn?_eq_of ih]
    obtain ⟨id', kind, caption, s, e, body⟩ := n
    by_cases h : id' = id
    · cases body <;> simp [find?, h]
    · have h' : (id' == id) = false := by simpa using h
      cases body <;> simp [find?, h, h', children, Body.toList, findIn?_append, findIn?]

theorem findIn?_eq (id : String) (ns : List Node) :
    findIn? id ns = (preorderAll ns).find? (·.id == id) :=
  findIn?_eq_of fun n _ => n.find?_eq id

end Node

end StoryScript
