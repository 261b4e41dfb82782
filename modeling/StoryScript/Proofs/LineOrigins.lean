import StoryScript.Editing.Store
import StoryScript.Text.Lemmas

/-!
# Where the lines of a script come from

An edit takes some lines out of a script and puts others in their place, and so the lines behind
them move. Looking back, every line of the edited script either was written by the edit or stood in
the script before, perhaps elsewhere.

## Main definitions

* `Edit`, `Edit.apply` — an edit, and the lines after it.
* `Origin`, `Edit.origin`, `origin` — where a line comes from, before one edit and before many.
* `Edit.Clear` — an edit leaves a range of lines in its place.
* `Store.lines?` — the lines of a stored script.

## Main statements

* `getElem?_apply` — a line reads as its origin does.
* `origin_of_clear` — edits that are clear of a range leave its lines where they are.
* `writeRange_ok`, `insertLines_ok` — what changing a stored script comes to.
-/

namespace StoryScript

namespace Text

/-- Some lines give way to new ones. -/
structure Edit where
  first : Nat
  /-- How many lines are taken out. -/
  removed : Nat
  new : List String
deriving Repr, DecidableEq

/-- Where a line comes from. -/
inductive Origin where
  /-- From a line of the script before. -/
  | kept (line : Nat)
  | written (text : String)
deriving Repr, DecidableEq

/-- The text that a line of this origin has, `lines` being the script before. -/
def Origin.read (lines : List String) : Origin → Option String
  | kept k => lines[k]?
  | written text => some text

namespace Edit

/-- The lines after an edit. -/
def apply (d : Edit) (lines : List String) : List String :=
  lines.take d.first ++ d.new ++ lines.drop (d.first + d.removed)

/-- The lines to be taken out are there. -/
def Fits (d : Edit) (lines : List String) : Prop :=
  d.first + d.removed ≤ lines.length

/-- Where line `k` of the edited script comes from. -/
def origin (d : Edit) (k : Nat) : Origin :=
  if k < d.first then .kept k
  else match d.new[k - d.first]? with
    | some text => .written text
    | none => .kept (k - d.new.length + d.removed)

/-- Lines `first` to `last` stay where they are: the edit lies behind them, or in front of them with
as many lines out as in. -/
def Clear (d : Edit) (first last : Nat) : Prop :=
  last < d.first ∨ d.first + d.removed ≤ first ∧ d.removed = d.new.length

instance (d : Edit) (first last : Nat) : Decidable (d.Clear first last) :=
  inferInstanceAs (Decidable (_ ∨ _))

variable {d : Edit} {lines : List String}

/-- A line of the edited script reads as its origin does. -/
theorem getElem?_apply (fits : d.Fits lines) (k : Nat) :
    (d.apply lines)[k]? = (d.origin k).read lines := by
  have length_take : (lines.take d.first).length = d.first := by
    unfold Fits at fits
    simp only [List.length_take]
    omega
  unfold apply origin
  rw [List.append_assoc]
  by_cases front : k < d.first
  · rw [if_pos front, List.getElem?_append_left (by omega), List.getElem?_take_of_lt front]
    rfl
  rw [if_neg front, List.getElem?_append_right (by omega), length_take]
  by_cases inside : k - d.first < d.new.length
  · rw [List.getElem?_append_left inside, List.getElem?_eq_getElem inside]
    rfl
  · have behind : d.first + d.removed + (k - d.first - d.new.length) =
        k - d.new.length + d.removed := by omega
    have no_new : d.new[k - d.first]? = none := List.getElem?_eq_none (by omega)
    rw [List.getElem?_append_right (by omega), List.getElem?_drop, behind, no_new]
    rfl

theorem origin_of_clear {first last k : Nat} (clear : d.Clear first last) (from_first : first ≤ k)
    (to_last : k ≤ last) : d.origin k = .kept k := by
  unfold origin
  rcases clear with behind | ⟨front, same⟩
  · rw [if_pos (by omega)]
  · have back : k - d.new.length + d.removed = k := by omega
    rw [if_neg (by omega), List.getElem?_eq_none (by omega), back]

end Edit

namespace Origin

/-- The origin of a line before one more edit, which came first. -/
def back (d : Edit) : Origin → Origin
  | kept k => d.origin k
  | written text => written text

theorem read_apply {d : Edit} {lines : List String} (fits : d.Fits lines) (o : Origin) :
    o.read (d.apply lines) = (o.back d).read lines := by
  cases o with
  | kept k => exact Edit.getElem?_apply fits k
  | written text => rfl

end Origin

/-- Where line `k` comes from after edits, of which the first was made first. -/
def origin (edits : List Edit) (k : Nat) : Origin :=
  edits.foldr Origin.back (.kept k)

theorem origin_of_clear {edits : List Edit} {first last k : Nat}
    (clear : ∀ d ∈ edits, d.Clear first last) (from_first : first ≤ k) (to_last : k ≤ last) :
    origin edits k = .kept k := by
  induction edits with
  | nil => rfl
  | cons d edits ih =>
    have rest : origin edits k = .kept k := ih fun d mem => clear d (List.mem_cons_of_mem _ mem)
    calc origin (d :: edits) k = (origin edits k).back d := rfl
      _ = d.origin k := by rw [rest]; rfl
      _ = .kept k := Edit.origin_of_clear (clear d List.mem_cons_self) from_first to_last

end Text

namespace Store

open Text (Edit)

variable {s s' : Store} {script text : String} {written : Text.Written}

/-- The lines of a stored script. -/
def lines? (s : Store) (script : String) : Option (List String) :=
  (s.scripts.get? script).map (·.lines)

/-- An edit of a stored script concerns its lines only. -/
theorem edit_ok {f : List String → Except Text.LineError (List String × Text.Written)}
    (h : s.edit script f = .ok (s', written)) :
    ∃ lines lines', s.lines? script = some lines ∧ f lines = .ok (lines', written) ∧
      s'.lines? script = some lines' := by
  obtain ⟨d, lines, found, edited, rfl⟩ := edit_eq_ok_iff.1 h
  exact ⟨d.lines, lines, by simp [lines?, found], edited, by simp [lines?]⟩

theorem readRange_ok {first last : Nat} (h : s.readRange script first last = .ok text) :
    ∃ lines, s.lines? script = some lines ∧
      text = Text.unlines (lines.extract first (last + 1)) := by
  obtain ⟨d, found, extracted⟩ := readRange_eq_ok_iff.1 h
  exact ⟨d.lines, by simp [lines?, found], (Text.extract_eq_ok_iff.1 extracted).2⟩

theorem writeRange_ok {first last : Nat}
    (h : s.writeRange script first last text = .ok (s', written)) :
    ∃ lines, s.lines? script = some lines ∧ first ≤ last ∧ last < lines.length ∧
      s'.lines? script = some ((Edit.mk first (last + 1 - first) (Text.toLines text)).apply lines)
        ∧ written.lineDelta = (Text.toLines text).length - (last + 1 - first : Nat) := by
  obtain ⟨lines, lines', before, spliced, after⟩ := edit_ok h
  obtain ⟨⟨forward, inside⟩, rfl, rfl⟩ := Text.splice_eq_ok_iff.1 spliced
  have behind : first + (last + 1 - first) = last + 1 := by omega
  refine ⟨lines, before, forward, inside, ?_, rfl⟩
  rw [after, Edit.apply, behind]

theorem insertLines_ok {line : Nat} (h : s.insertLines script line text = .ok (s', written)) :
    ∃ lines, s.lines? script = some lines ∧ line ≤ lines.length ∧
      s'.lines? script = some ((Edit.mk line 0 (Text.toLines text)).apply lines) := by
  obtain ⟨lines, lines', before, inserted, after⟩ := edit_ok h
  obtain ⟨inside, rfl, -⟩ := Text.insertAt_eq_ok_iff.1 inserted
  exact ⟨lines, before, inside, after⟩

end Store

end StoryScript
