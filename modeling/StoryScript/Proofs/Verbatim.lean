import Mathlib.Data.List.Basic
import StoryScript.Index.Search

/-!
# Finding a text as it is written

Line and query are put into lowercase each on its own, and then the one is looked for in the other.
Of all characters only the capital sigma has a lowercase form that depends on what stands around it,
and in a line more may stand around it than in the query. So a query is found wherever it is written
if it settles the form of each of its capital sigmas by itself, and only then.

## Main definitions

* `Text.nextCased?` — whether the next character that counts is a cased letter.
* `Text.lowerAmid` — the lowercase form of a part of a text.
* `Text.SigmaFixed`, `Text.Settled` — the form of one sigma, and of all in a text, does not depend on
  what else is around.

## Main statements

* `Text.lowerFrom_append` — the lowercase form of a text, part by part.
* `Text.SigmaFixed.lowerSigma_append`, `Text.lowerSigma_of_not_fixed` — a fixed sigma keeps its form,
  any other one changes it next to some letter.
* `Text.settled_iff_infix` — which texts keep their lowercase form inside every text.
* `search_written` — what a search finds, and which queries are found wherever they are written.
-/

namespace StoryScript

namespace Text

variable {before after cs a b q : List Char}

/-! ## The letters around a sigma -/

/-- Whether the next character that counts is a cased letter, if there is such a character. -/
def nextCased? (cs : List Char) : Option Bool :=
  (cs.find? fun c => !inRanges caseIgnorableRanges c.toNat).map fun c =>
    inRanges casedRanges c.toNat

theorem meetsCased_eq (cs : List Char) : meetsCased cs = (nextCased? cs).getD false := by
  induction cs with
  | nil => rfl
  | cons c cs ih =>
    unfold meetsCased nextCased? at *
    cases skipped : inRanges caseIgnorableRanges c.toNat <;> simp [skipped, ih]

theorem nextCased?_append (cs ds : List Char) :
    nextCased? (cs ++ ds) = (nextCased? cs).or (nextCased? ds) := by
  simp [nextCased?, Option.map_or]

@[simp] theorem nextCased?_sigma (cs : List Char) : nextCased? ('Σ' :: cs) = some true := by
  have here : nextCased? ['Σ'] = some true := by decide +kernel
  rw [← List.singleton_append, nextCased?_append, here, Option.some_or]

/-- A sigma counts, so it is not among characters of which none does. -/
theorem sigma_not_mem (none : nextCased? cs = none) : 'Σ' ∉ cs := by
  intro mem
  obtain ⟨a, b, rfl⟩ := List.append_of_mem mem
  rw [nextCased?_append, nextCased?_sigma] at none
  cases front : nextCased? a <;> simp [front] at none

/-- A cased letter behind a sigma, or something else that counts before it, or both sides with
something that counts: more text around that changes nothing. -/
def SigmaFixed (before after : List Char) : Prop :=
  nextCased? after = some true ∨ nextCased? before = some false ∨
    (nextCased? before).isSome ∧ (nextCased? after).isSome

instance (before after : List Char) : Decidable (SigmaFixed before after) :=
  inferInstanceAs (Decidable (_ ∨ _ ∨ _))

theorem SigmaFixed.lowerSigma_append (fixed : SigmaFixed before after) (further beyond : List Char) :
    lowerSigma (before ++ further) (after ++ beyond) = lowerSigma before after := by
  simp only [lowerSigma, meetsCased_eq, nextCased?_append]
  rcases fixed with cased | uncased | ⟨front, back⟩
  · simp [cased]
  · simp [uncased]
  · obtain ⟨_, front⟩ := Option.isSome_iff_exists.1 front
    obtain ⟨_, back⟩ := Option.isSome_iff_exists.1 back
    simp [front, back]

/-- A sigma whose form is not fixed becomes final behind a letter, or is no longer so before one. -/
theorem lowerSigma_of_not_fixed (loose : ¬ SigmaFixed before after) :
    (nextCased? before = none ∧ lowerSigma before after = 'σ' ∧
        lowerSigma (before ++ ['A']) after = 'ς') ∨
      (nextCased? after = none ∧ lowerSigma before after = 'ς' ∧
        lowerSigma before (after ++ ['A']) = 'σ') := by
  have letter : nextCased? ['A'] = some true := by decide +kernel
  unfold SigmaFixed at loose
  simp only [lowerSigma, meetsCased_eq, nextCased?_append, letter]
  cases front : nextCased? before <;> cases back : nextCased? after <;> simp_all

/-! ## Lowercase in parts -/

/-- The lowercase form of a part of a text, with `before`, read backwards, and `after` around it. -/
def lowerAmid (before after : List Char) : List Char → List Char
  | [] => []
  | c :: rest =>
    (if c = 'Σ' then [lowerSigma before (rest ++ after)] else lowerChar c) ++
      lowerAmid (c :: before) after rest

theorem lowerAmid_letter (before after : List Char) : lowerAmid before after ['A'] = ['a'] := rfl

theorem lowerFrom_append (before cs after : List Char) :
    lowerFrom before (cs ++ after) =
      lowerAmid before after cs ++ lowerFrom (cs.reverse ++ before) after := by
  induction cs generalizing before with
  | nil => rfl
  | cons c cs ih => simp [lowerFrom, lowerAmid, ih]

theorem lowerFrom_eq_lowerAmid (before cs : List Char) :
    lowerFrom before cs = lowerAmid before [] cs := by
  have parts := lowerFrom_append before cs []
  rwa [lowerFrom, List.append_nil, List.append_nil] at parts

theorem lowerAmid_append (before after cs ds : List Char) :
    lowerAmid before after (cs ++ ds) =
      lowerAmid before (ds ++ after) cs ++ lowerAmid (cs.reverse ++ before) after ds := by
  induction cs generalizing before with
  | nil => rfl
  | cons c cs ih => simp [lowerAmid, ih]

/-- A part has the same lowercase form wherever its sigmas have. -/
theorem lowerAmid_congr {before' after' : List Char}
    (same : ∀ a b, cs = a ++ 'Σ' :: b → lowerSigma (a.reverse ++ before) (b ++ after) =
      lowerSigma (a.reverse ++ before') (b ++ after')) :
    lowerAmid before after cs = lowerAmid before' after' cs := by
  induction cs generalizing before before' with
  | nil => rfl
  | cons c cs ih =>
    have rest : lowerAmid (c :: before) after cs = lowerAmid (c :: before') after' cs := by
      refine ih fun a b split => ?_
      simpa using same (c :: a) b (by rw [split, List.cons_append])
    unfold lowerAmid
    rw [rest]
    split
    · next sigma =>
      subst sigma
      rw [show lowerSigma before _ = _ from same [] cs rfl, List.reverse_nil, List.nil_append]
    · rfl

theorem lowerAmid_of_not_mem {before' after' : List Char} (none : 'Σ' ∉ cs) :
    lowerAmid before after cs = lowerAmid before' after' cs :=
  lowerAmid_congr fun a b split => absurd (split ▸ by simp : 'Σ' ∈ cs) none

/-- A sigma hides what is behind it from the part before it, and what is before it from the part
behind it. -/
theorem lowerAmid_sigma (before after a b : List Char) :
    lowerAmid before after (a ++ 'Σ' :: b) = lowerAmid before ['Σ'] a ++
      lowerSigma (a.reverse ++ before) (b ++ after) :: lowerAmid ['Σ'] after b := by
  have front : lowerAmid before ('Σ' :: b ++ after) a = lowerAmid before ['Σ'] a :=
    lowerAmid_congr fun x y _ => by simp [lowerSigma, meetsCased_eq, nextCased?_append]
  have back : lowerAmid ('Σ' :: (a.reverse ++ before)) after b = lowerAmid ['Σ'] after b :=
    lowerAmid_congr fun x y _ => by simp [lowerSigma, meetsCased_eq, nextCased?_append]
  rw [lowerAmid_append, front, lowerAmid, back, if_pos rfl, List.singleton_append]

/-! ## Texts that settle the form of their sigmas -/

/-- The form of every capital sigma in a text is fixed by the text. -/
def Settled (cs : List Char) : Prop :=
  ∀ i < cs.length, cs[i]? = some 'Σ' → SigmaFixed (cs.take i).reverse (cs.drop (i + 1))

instance (cs : List Char) : Decidable (Settled cs) :=
  inferInstanceAs (Decidable (∀ i < _, _))

theorem settled_iff :
    Settled cs ↔ ∀ a b, cs = a ++ 'Σ' :: b → SigmaFixed a.reverse b := by
  constructor
  · rintro settled a b rfl
    simpa using settled a.length (by simp) (by simp)
  · intro fixed i inside sigma
    obtain ⟨_, sigma⟩ := List.getElem?_eq_some_iff.1 sigma
    refine fixed _ _ ?_
    rw [← sigma, List.getElem_cons_drop, List.take_append_drop]

/-- A text that settles its sigmas has one lowercase form, whatever stands around it. -/
theorem Settled.lowerAmid_eq (settled : Settled q) (before after : List Char) :
    lowerAmid before after q = lowerFrom [] q := by
  rw [lowerFrom_eq_lowerAmid]
  refine lowerAmid_congr fun a b split => ?_
  rw [List.append_nil, List.append_nil]
  exact (settled_iff.1 settled a b split).lowerSigma_append before after

/-- The lowercase form of a text with a sigma in it and some text around. -/
theorem lowerFrom_sigma (front a b back : List Char) :
    lowerFrom [] (front ++ (a ++ 'Σ' :: b) ++ back) =
      lowerAmid [] (a ++ 'Σ' :: b ++ back) front ++
        (lowerAmid front.reverse ['Σ'] a ++
          lowerSigma (a.reverse ++ front.reverse) (b ++ back) :: lowerAmid ['Σ'] back b) ++
        lowerFrom ((a ++ 'Σ' :: b).reverse ++ front.reverse) back := by
  rw [List.append_assoc, lowerFrom_append, lowerFrom_append, lowerAmid_sigma, List.append_nil]
  simp only [List.append_assoc]

/-- With another character in one place, and none of the old ones around, a list is not found. -/
theorem not_infix_of_changed {s s' : Char} (other : s' ≠ s) (outside : s ∉ before ∧ s ∉ after) :
    ¬ (a ++ s :: b) <:+: (before ++ (a ++ s' :: b) ++ after) := by
  intro found
  have counts := found.sublist.count_le s
  simp only [List.count_append, List.count_cons_self, List.count_cons_of_ne other,
    List.count_eq_zero_of_not_mem outside.1, List.count_eq_zero_of_not_mem outside.2] at counts
  omega

/-- The texts that settle their sigmas are those whose lowercase form is in that of every text that
they are in. -/
theorem settled_iff_infix :
    Settled q ↔ ∀ cs, q <:+: cs → lowerFrom [] q <:+: lowerFrom [] cs := by
  constructor
  · rintro settled _ ⟨front, back, rfl⟩
    rw [List.append_assoc, lowerFrom_append, lowerFrom_append, settled.lowerAmid_eq]
    exact ⟨_, _, List.append_assoc ..⟩
  · refine fun kept => settled_iff.2 fun a b split => ?_
    by_contra loose
    subst split
    have alone : lowerFrom [] (a ++ 'Σ' :: b) =
        lowerAmid [] ['Σ'] a ++ lowerSigma a.reverse b :: lowerAmid ['Σ'] [] b := by
      simpa [lowerAmid, lowerFrom] using lowerFrom_sigma [] a b []
    -- a letter before the text, or behind it, gives this sigma its other form and no other one
    rcases lowerSigma_of_not_fixed loose with ⟨none, form, changed⟩ | ⟨none, form, changed⟩
    · have noSigma : 'Σ' ∉ a := fun mem => sigma_not_mem none (List.mem_reverse.2 mem)
      have same : lowerAmid ['A'] ['Σ'] a = lowerAmid [] ['Σ'] a := lowerAmid_of_not_mem noSigma
      have found := kept (['A'] ++ (a ++ 'Σ' :: b) ++ []) ⟨['A'], [], rfl⟩
      rw [alone, lowerFrom_sigma, List.reverse_singleton, List.append_nil b, form, changed, same,
        lowerAmid_letter, lowerFrom] at found
      exact not_infix_of_changed (by decide) ⟨by decide, by decide⟩ found
    · have same : lowerAmid ['Σ'] ['A'] b = lowerAmid ['Σ'] [] b :=
        lowerAmid_of_not_mem (sigma_not_mem none)
      have found := kept ([] ++ (a ++ 'Σ' :: b) ++ ['A']) ⟨[], ['A'], rfl⟩
      rw [alone, lowerFrom_sigma, List.reverse_nil, List.append_nil a.reverse, form, changed, same,
        lowerAmid, lowerFrom_eq_lowerAmid, lowerAmid_letter] at found
      exact not_infix_of_changed (by decide) ⟨by decide, by decide⟩ found

end Text

variable {lines : List String} {map : LineMap} {query text : String} {hit : Hit}

theorem holdsQuery_iff : holdsQuery text query = true ↔
    Text.lowerFrom [] query.toList <:+: Text.lowerFrom [] text.toList := by
  rw [holdsQuery, occursIn_iff, Text.lowercase, Text.lowercase, String.toList_ofList,
    String.toList_ofList]

/-- What a search makes of a single line. -/
theorem hit_eq_some_iff {line : Nat} :
    (if holdsQuery text query then (map.owner? line).map fun entry => Hit.mk line text entry
      else none) = some hit ↔
      hit.line = line ∧ hit.text = text ∧ map.owner? line = some hit.entry ∧
        holdsQuery text query = true := by
  obtain ⟨line', text', entry⟩ := hit
  cases holdsQuery text query <;> cases map.owner? line <;> grind

theorem mem_search_iff (text : Text.isBlank query = false) :
    hit ∈ search lines map query ↔ lines[hit.line]? = some hit.text ∧
      map.owner? hit.line = some hit.entry ∧ holdsQuery hit.text query = true := by
  rw [search, text, if_neg Bool.false_ne_true, List.mem_filterMap]
  simp only [Prod.exists, List.mem_zipIdx_iff_getElem?, hit_eq_some_iff]
  constructor
  · rintro ⟨_, _, present, rfl, rfl, owner, held⟩
    exact ⟨present, owner, held⟩
  · rintro ⟨present, owner, held⟩
    exact ⟨hit.text, hit.line, present, rfl, rfl, owner, held⟩

/-- What is found is found in the order of the lines, and at most once in each. -/
theorem pairwise_search (lines : List String) (map : LineMap) (query : String) :
    (search lines map query).Pairwise (·.line < ·.line) := by
  unfold search
  split
  · exact .nil
  · have places := List.pairwise_lt_range' (s := 0) (n := lines.length)
    rw [← List.zipIdx_map_snd, List.pairwise_map] at places
    refine places.filterMap _ fun a a' lt hit found hit' found' => ?_
    rw [(hit_eq_some_iff.1 found).1, (hit_eq_some_iff.1 found').1]
    exact lt

/-- A search for a text that is not blank finds just the lines that have an owner and hold the query
with letter case aside, each once with its text and its owner, in the order of the lines. It finds
the query in every line with an owner where it is written, whatever the script, just if the form of
every capital sigma in the query is settled by the query; so any query without capital sigmas. -/
theorem search_written (text : Text.isBlank query = false) :
    (∀ lines map, (search lines map query).Pairwise (·.line < ·.line) ∧
        ∀ hit, hit ∈ search lines map query ↔ lines[hit.line]? = some hit.text ∧
          map.owner? hit.line = some hit.entry ∧ holdsQuery hit.text query = true) ∧
      ((∀ (lines : List String) (map : LineMap) (hit : Hit), lines[hit.line]? = some hit.text →
          map.owner? hit.line = some hit.entry → query.toList <:+: hit.text.toList →
          hit ∈ search lines map query) ↔
        Text.Settled query.toList) := by
  refine ⟨fun lines map => ⟨pairwise_search lines map query, fun hit => mem_search_iff text⟩, ?_⟩
  rw [Text.settled_iff_infix]
  constructor
  · intro all cs written
    let map : LineMap := ⟨[default], ({} : Owners).insert 0 0⟩
    have found : Hit.mk 0 (.ofList cs) default ∈ search [.ofList cs] map query :=
      all _ _ _ rfl (by simp [LineMap.owner?, map]) (by rwa [String.toList_ofList])
    have held := ((mem_search_iff text).1 found).2.2
    rwa [holdsQuery_iff, String.toList_ofList] at held
  · intro kept lines map hit present owner written
    exact (mem_search_iff text).2 ⟨present, owner, holdsQuery_iff.2 (kept _ written)⟩

/-- One sigma has a letter behind it in the query, the other one stands between a letter and a space,
so the query is found although both are inside of words in the line. -/
theorem search_written_inside_words :
    let query := "ΣΟΔΟΣ Α"
    let t : Tree := ⟨[⟨"a", .labelBlock, "a", 0, 1, .sequence []⟩]⟩
    let lines := ["label a:", "    ΜΕΣΟΔΟΣ ΑΛΛΗ"]
    Text.isBlank query = false ∧
      ∃ entry, Hit.mk 1 "    ΜΕΣΟΔΟΣ ΑΛΛΗ" entry ∈ search lines (LineMap.ofTree t) query := by
  intro query t lines
  have text : Text.isBlank query = false := by decide +kernel
  have settled : Text.Settled query.toList := by decide +kernel
  have owned : ((LineMap.ofTree t).owner? 1).isSome = true := by decide +kernel
  have written : query.toList <:+: "    ΜΕΣΟΔΟΣ ΑΛΛΗ".toList := occursIn_iff.1 (by decide +kernel)
  obtain ⟨entry, owner⟩ := Option.isSome_iff_exists.1 owned
  exact ⟨text, entry, (search_written text).2.2 settled lines _ _ rfl owner written⟩

/-- At the end of the query the sigma is final, and in the line it is not. -/
theorem search_written_final_sigma :
    let query := "ΟΔΟΣ"
    let t : Tree := ⟨[⟨"a", .labelBlock, "a", 0, 0, .sequence []⟩]⟩
    let line := "ΟΔΟΣΗΜΑ"
    Text.isBlank query = false ∧ ((LineMap.ofTree t).owner? 0).isSome = true ∧
      query.toList <:+: line.toList ∧ search [line] (LineMap.ofTree t) query = [] := by
  intro query t line
  refine ⟨by decide +kernel, by decide +kernel, occursIn_iff.1 (by decide +kernel), ?_⟩
  decide +kernel

end StoryScript
