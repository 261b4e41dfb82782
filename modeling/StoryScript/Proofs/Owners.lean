import Mathlib.Data.List.Basic
import StoryScript.Index.Lemmas

/-!
# The narrowest range owns a line

The entries of an index take their lines one after the other, from narrow to wide, and a line that
is taken stays taken. The sort is stable, so among equally wide entries the first of the list goes
first. Whatever way the ranges overlap, a line ends up with the least entry around it: the
narrowest, and of these the first.

## Main definitions

* `Entry.Precedes` — an entry is narrower than another one, or as wide and earlier in the list.

## Main statements

* `LineMap.filter_narrowFirst` — the sort keeps the order of equally wide entries.
* `LineMap.pairwise_narrowFirst` — it lists entries as they precede one another.
* `LineMap.owners_eq_some_iff` — which place of the list owns a line.
* `LineMap.owner?_narrowest` — the owner of a line.
-/

namespace StoryScript

/-- Entries with their places in a list: the first is narrower, or as wide and earlier. -/
def Entry.Precedes (a b : Entry × Nat) : Prop :=
  a.1.endLine - a.1.startLine < b.1.endLine - b.1.startLine ∨
    a.1.endLine - a.1.startLine = b.1.endLine - b.1.startLine ∧ a.2 < b.2

namespace LineMap

variable {entries : List Entry} {line : Nat}

/-! ## The order in which lines are taken -/

theorem mem_narrowFirst {e : Entry} {i : Nat} :
    (e, i) ∈ narrowFirst entries ↔ entries[i]? = some e := by
  rw [narrowFirst, List.mem_mergeSort, List.mem_zipIdx_iff_getElem?]

theorem span_trans (a b c : Entry × Nat) (hab : decide (a.1.span ≤ b.1.span) = true)
    (hbc : decide (b.1.span ≤ c.1.span) = true) : decide (a.1.span ≤ c.1.span) = true := by
  simp only [decide_eq_true_eq] at *
  omega

theorem span_total (a b : Entry × Nat) :
    (decide (a.1.span ≤ b.1.span) || decide (b.1.span ≤ a.1.span)) = true := by
  simp only [Bool.or_eq_true, decide_eq_true_eq]
  omega

/-- Sorting from narrow to wide keeps the order of the entries of any one width. -/
theorem filter_narrowFirst (entries : List Entry) (width : Nat) :
    (narrowFirst entries).filter (·.1.span == width) =
      entries.zipIdx.filter (·.1.span == width) := by
  have equal : (entries.zipIdx.filter (·.1.span == width)).Pairwise
      fun a b => decide (a.1.span ≤ b.1.span) = true := by
    rw [List.pairwise_iff_forall_sublist]
    intro a b both
    have ha : a ∈ entries.zipIdx.filter (·.1.span == width) := both.subset (by simp)
    have hb : b ∈ entries.zipIdx.filter (·.1.span == width) := both.subset (by simp)
    simp only [List.mem_filter, beq_iff_eq] at ha hb
    exact decide_eq_true (by omega)
  have kept : (entries.zipIdx.filter (·.1.span == width)).Sublist (narrowFirst entries) :=
    List.sublist_mergeSort span_trans span_total equal List.filter_sublist
  have kept' := kept.filter (·.1.span == width)
  rw [List.filter_filter] at kept'
  simp only [Bool.and_self] at kept'
  refine (kept'.eq_of_length ?_).symm
  exact (((List.mergeSort_perm _ _).filter _).length_eq).symm

/-- Lines are taken by the entries in the order in which these precede one another. -/
theorem pairwise_narrowFirst (entries : List Entry) :
    (narrowFirst entries).Pairwise Entry.Precedes := by
  have sorted : (narrowFirst entries).Pairwise fun a b => decide (a.1.span ≤ b.1.span) = true :=
    List.pairwise_mergeSort span_trans span_total _
  rw [List.pairwise_iff_forall_sublist] at sorted ⊢
  intro a b both
  have wide : a.1.span ≤ b.1.span := of_decide_eq_true (sorted both)
  rcases Nat.lt_or_eq_of_le wide with narrower | same
  · exact .inl narrower
  · -- of one width, the two stand as they do in the list, where places increase
    have both' := both.filter (·.1.span == b.1.span)
    rw [filter_narrowFirst, List.filter_cons_of_pos (by simp [same]),
      List.filter_cons_of_pos (by simp), List.filter_nil] at both'
    have places := List.pairwise_lt_range' (s := 0) (n := entries.length)
    rw [← List.zipIdx_map_snd, List.pairwise_map] at places
    exact .inr ⟨same, List.pairwise_iff_forall_sublist.1 places (both'.trans List.filter_sublist)⟩

/-- In a list that is in order, the first entry that is fit is the one that precedes all others. -/
theorem find?_eq_some_of_pairwise {es : List (Entry × Nat)} (sorted : es.Pairwise Entry.Precedes)
    {p : Entry × Nat → Bool} {e : Entry × Nat} :
    es.find? p = some e ↔
      e ∈ es ∧ p e = true ∧ ∀ f ∈ es, p f = true → f ≠ e → Entry.Precedes e f := by
  constructor
  · intro found
    obtain ⟨fit, before, behind, rfl, unfit⟩ := List.find?_eq_some_iff_append.1 found
    refine ⟨by simp, fit, ?_⟩
    intro f mem fit' other
    rcases List.mem_append.1 mem with mem | mem
    · simpa [fit'] using unfit f mem
    · have mem' : f ∈ behind := (List.mem_cons.1 mem).resolve_left other
      exact List.rel_of_pairwise_cons (List.pairwise_append.1 sorted).2.1 mem'
  · rintro ⟨mem, fit, least⟩
    cases found : es.find? p with
    | none => exact absurd fit (List.find?_eq_none.1 found e mem)
    | some f =>
      obtain ⟨fit', before, behind, rfl, unfit⟩ := List.find?_eq_some_iff_append.1 found
      by_contra differ
      have other : f ≠ e := fun same => differ (congrArg some same)
      -- `e` stands behind `f`, and so each of the two precedes the other one
      have behind_f : e ∈ behind := by
        rcases List.mem_append.1 mem with mem | mem
        · simpa [fit] using unfit e mem
        · exact (List.mem_cons.1 mem).resolve_left other.symm
      have first : Entry.Precedes f e :=
        List.rel_of_pairwise_cons (List.pairwise_append.1 sorted).2.1 behind_f
      have second := least f (by simp) fit' other
      unfold Entry.Precedes at first second
      omega

/-! ## The owner of a line -/

/-- The first entry from narrow to wide that contains a line owns it. -/
theorem owners_eq_find? : (ofEntries entries).owners[line]? =
    ((narrowFirst entries).find? (·.1.contains line)).map (·.2) := by
  rw [ofEntries, Owners.getElem?_foldl_claim, Std.TreeMap.getElem?_emptyc, Option.none_or]

/-- A line belongs to the place of the list whose entry contains it and precedes all others that
do. -/
theorem owners_eq_some_iff {i : Nat} :
    (ofEntries entries).owners[line]? = some i ↔ ∃ e, entries[i]? = some e ∧
      e.contains line = true ∧ ∀ j f, entries[j]? = some f → f.contains line = true → j ≠ i →
        Entry.Precedes (e, i) (f, j) := by
  rw [owners_eq_find?, Option.map_eq_some_iff]
  simp only [find?_eq_some_of_pairwise (pairwise_narrowFirst entries), Prod.exists,
    Prod.forall, mem_narrowFirst]
  constructor
  · rintro ⟨e, i, ⟨present, inside, least⟩, rfl⟩
    exact ⟨e, present, inside, fun j f present' inside' other =>
      least f j present' inside' fun same => other (congrArg Prod.snd same)⟩
  · rintro ⟨e, present, inside, least⟩
    refine ⟨e, i, ⟨present, inside, fun f j present' inside' other => ?_⟩, rfl⟩
    refine least j f present' inside' fun same => other ?_
    subst same
    rw [Option.some.inj (present'.symm.trans present)]

/-- A line has no owner just when no entry contains it. -/
theorem owners_eq_none_iff :
    (ofEntries entries).owners[line]? = none ↔ ∀ e ∈ entries, e.contains line = false := by
  rw [owners_eq_find?, Option.map_eq_none_iff, List.find?_eq_none]
  simp only [Prod.forall, mem_narrowFirst, Bool.not_eq_true]
  constructor
  · intro outside e mem
    obtain ⟨i, present⟩ := List.mem_iff_getElem?.1 mem
    exact outside e i present
  · intro outside e i present
    exact outside e (List.mem_of_getElem? present)

/-- The owner of a line is the entry at the place that owns it. -/
theorem owner?_eq_some_iff {e : Entry} : (ofEntries entries).owner? line = some e ↔
    ∃ i, entries[i]? = some e ∧ (ofEntries entries).owners[line]? = some i := by
  have listed : (ofEntries entries).entries = entries := rfl
  rw [owner?, Option.bind_eq_some_iff, listed]
  simp only [and_comm]

/-- A line that no entry contains has no owner. Any other line belongs to an entry that contains it,
the narrowest of these, and of equally narrow ones the first in the list, whatever way the ranges
overlap. In the index of a script all entries have their lines in order. -/
theorem owner?_narrowest (entries : List Entry) (line : Nat) :
    ((ofEntries entries).owner? line = none ↔ ∀ e ∈ entries, e.contains line = false) ∧
      (∀ e, (ofEntries entries).owner? line = some e ↔ ∃ i, entries[i]? = some e ∧
        e.contains line = true ∧ ∀ j f, entries[j]? = some f → f.contains line = true → j ≠ i →
          Entry.Precedes (e, i) (f, j)) ∧
      ∀ t : Tree, ∀ e ∈ t.index, e.startLine ≤ e.endLine := by
  refine ⟨?_, ?_, fun t e => Tree.forward_of_mem_index⟩
  · rw [← owners_eq_none_iff]
    constructor
    · intro unowned
      by_contra owned
      obtain ⟨i, place⟩ := Option.ne_none_iff_exists'.1 owned
      obtain ⟨e, present, -⟩ := owners_eq_some_iff.1 place
      simp [owner?_eq_some_iff.2 ⟨i, present, place⟩] at unowned
    · intro unowned
      rw [owner?, unowned, Option.bind_none]
  · intro e
    rw [owner?_eq_some_iff]
    constructor
    · rintro ⟨i, present, place⟩
      obtain ⟨e', present', inside, least⟩ := owners_eq_some_iff.1 place
      obtain rfl : e' = e := Option.some.inj (present'.symm.trans present)
      exact ⟨i, present, inside, least⟩
    · rintro ⟨i, present, inside, least⟩
      exact ⟨i, present, owners_eq_some_iff.2 ⟨e, present, inside, least⟩⟩

end LineMap

end StoryScript
