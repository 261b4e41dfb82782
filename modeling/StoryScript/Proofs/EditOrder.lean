import StoryScript.Proofs.LineOrigins

/-!
# The order of edits

Edits of lines that do not overlap can be made in either order. Only the one behind has to be made
where its lines are by then, and how far they have moved is part of the outcome of the other one.

## Main definitions

* `Edit.movedBy` — an edit at the place to which another one, in front of it, has moved its lines.

## Main statements

* `exists_parts`, `Edit.apply_parts` — an edit replaces the middle one of three parts.
* `Edit.apply_comm` — edits that do not overlap come to the same in either order.
* `edits_commute` — so do replacing a range and replacing, or inserting, lines behind it.
-/

namespace StoryScript.Text

/-- The lines in front of some lines, these lines, and the lines behind them. -/
theorem exists_parts (lines : List String) (first count : Nat)
    (inside : first + count ≤ lines.length) : ∃ front middle back,
      lines = front ++ middle ++ back ∧ front.length = first ∧ middle.length = count := by
  refine ⟨lines.take first, (lines.drop first).take count, lines.drop (first + count), ?_, ?_, ?_⟩
  · rw [← List.drop_drop, List.append_assoc, List.take_append_drop, List.take_append_drop]
  · rw [List.length_take]
    omega
  · rw [List.length_take, List.length_drop]
    omega

namespace Edit

/-- Lines `first` to `last` give way to those of a text. -/
def replacing (first last : Nat) (text : String) : Edit :=
  ⟨first, last + 1 - first, toLines text⟩

/-- The lines of a text come in front of a line, and nothing is taken out. -/
def inserting (line : Nat) (text : String) : Edit :=
  ⟨line, 0, toLines text⟩

/-- The outcome of an edit. -/
def written (d : Edit) : Written :=
  ⟨d.first, d.new.length, d.new.length - d.removed⟩

/-- The edit `f`, where its lines are once the edit `d` in front of it is made. -/
def movedBy (f d : Edit) : Edit :=
  { f with first := f.first - d.removed + d.new.length }

variable {d f : Edit} {lines : List String}

theorem apply_parts {front out : List String} (front_eq : front.length = d.first)
    (out_eq : out.length = d.removed) (back : List String) :
    d.apply (front ++ out ++ back) = front ++ d.new ++ back := by
  have upTo : (front ++ out).length = d.first + d.removed := by
    rw [List.length_append, front_eq, out_eq]
  unfold apply
  rw [← upTo, List.drop_left, List.append_assoc front, ← front_eq, List.take_left]

theorem length_apply (fits : d.Fits lines) :
    (d.apply lines).length + d.removed = lines.length + d.new.length := by
  obtain ⟨front, out, back, rfl, front_eq, out_eq⟩ := exists_parts _ _ _ fits
  rw [apply_parts front_eq out_eq]
  simp only [List.length_append]
  omega

/-- Edits that do not overlap come to the same in either order, when the one behind is made where
its lines are by then. -/
theorem apply_comm (apart : d.first + d.removed ≤ f.first) (fits : f.Fits lines) :
    d.apply (f.apply lines) = (f.movedBy d).apply (d.apply lines) := by
  unfold Fits at fits
  have inside : d.first + d.removed ≤ lines.length := by omega
  obtain ⟨front, out, rest, rfl, front_eq, out_eq⟩ := exists_parts _ _ _ inside
  -- behind the lines of `d` there are some in between, then those of `f`
  have inside' : f.first - (d.first + d.removed) + f.removed ≤ rest.length := by
    simp only [List.length_append] at fits
    omega
  obtain ⟨between, out', back, rfl, between_eq, out_eq'⟩ := exists_parts _ _ _ inside'
  have place : (front ++ out ++ between).length = f.first := by
    simp only [List.length_append]
    omega
  have place' : (front ++ d.new ++ between).length = (f.movedBy d).first := by
    simp only [List.length_append, movedBy]
    omega
  calc d.apply (f.apply (front ++ out ++ (between ++ out' ++ back)))
      = d.apply (f.apply (front ++ out ++ between ++ out' ++ back)) := by simp
    _ = d.apply (front ++ out ++ between ++ f.new ++ back) := by rw [apply_parts place out_eq']
    _ = d.apply (front ++ out ++ (between ++ f.new ++ back)) := by simp
    _ = front ++ d.new ++ (between ++ f.new ++ back) := apply_parts front_eq out_eq _
    _ = front ++ d.new ++ between ++ (f.movedBy d).new ++ back := by simp [movedBy]
    _ = (f.movedBy d).apply (front ++ d.new ++ between ++ out' ++ back) :=
        (apply_parts place' out_eq' back).symm
    _ = (f.movedBy d).apply (front ++ d.new ++ (between ++ out' ++ back)) := by simp
    _ = (f.movedBy d).apply (d.apply (front ++ out ++ (between ++ out' ++ back))) := by
        rw [apply_parts front_eq out_eq]

/-- An edit in front moves another one by its line delta. -/
theorem first_movedBy (apart : d.first + d.removed ≤ f.first) :
    ((f.movedBy d).first : Int) = f.first + d.written.lineDelta := by
  simp only [movedBy, written]
  omega

theorem Fits.movedBy (fits : f.Fits lines) (apart : d.first + d.removed ≤ f.first) :
    (f.movedBy d).Fits (d.apply lines) := by
  unfold Fits at fits
  have fits_front : d.Fits lines := by
    unfold Fits
    omega
  have size := length_apply fits_front
  unfold Fits
  simp only [Edit.movedBy]
  omega

/-- The lines in front of an edit are there still when it is made. -/
theorem Fits.first_le (fits : d.Fits lines) : d.first ≤ (d.apply lines).length := by
  have size := length_apply fits
  unfold Fits at fits
  omega

end Edit

section

variable {lines : List String} {first last line : Nat}

/-- Replacing a range of the script succeeds. -/
theorem splice_inside (forward : first ≤ last) (inside : last < lines.length) (text : String) :
    splice lines first last text =
      .ok ((Edit.replacing first last text).apply lines, (Edit.replacing first last text).written)
      := by
  have behind : first + (last + 1 - first) = last + 1 := by omega
  rw [splice_eq_ok_iff, Edit.replacing, Edit.apply, behind]
  exact ⟨⟨forward, inside⟩, rfl, rfl⟩

/-- So does inserting at a line of the script or at its end. -/
theorem insertAt_inside (inside : line ≤ lines.length) (text : String) :
    insertAt lines line text =
      .ok ((Edit.inserting line text).apply lines, (Edit.inserting line text).written) := by
  rw [insertAt_eq_ok_iff, Edit.inserting]
  exact ⟨inside, rfl, by simp [Edit.written]⟩

end

/-- Lines `a` to `b` are replaced, and lines `c` to `d` behind them too, or others are inserted in
front of a line `c` behind them. Whichever is done first, both succeed with the same lines in the
end. The edit of `a` to `b` has the same outcome either way; the other one has to be made farther
on by the line delta of that outcome if it comes second, and then differs in its place alone. -/
theorem edits_commute (lines : List String) {a b c : Nat} (forward : a ≤ b) (behind : b < c)
    (text₁ text₂ : String) :
    (∀ d, c ≤ d → d < lines.length → ∃ lines₁ lines₂ both w₁ w₂, ∃ c' d' : Nat,
      splice lines c d text₂ = .ok (lines₂, w₂) ∧ splice lines₂ a b text₁ = .ok (both, w₁) ∧
        splice lines a b text₁ = .ok (lines₁, w₁) ∧
        c' = c + w₁.lineDelta ∧ d' = d + w₁.lineDelta ∧
        splice lines₁ c' d' text₂ = .ok (both, { w₂ with startLine := c' })) ∧
      (c ≤ lines.length → ∃ lines₁ lines₂ both w₁ w₂, ∃ c' : Nat,
        insertAt lines c text₂ = .ok (lines₂, w₂) ∧ splice lines₂ a b text₁ = .ok (both, w₁) ∧
          splice lines a b text₁ = .ok (lines₁, w₁) ∧ c' = c + w₁.lineDelta ∧
          insertAt lines₁ c' text₂ = .ok (both, { w₂ with startLine := c' })) := by
  let front := Edit.replacing a b text₁
  have apart : front.first + front.removed ≤ c := by
    simp only [front, Edit.replacing]
    omega
  -- whatever is done behind, the edit in front still succeeds, and comes to the same
  have around (f : Edit) (place : f.first = c) (fits : f.Fits lines) :
      splice (f.apply lines) a b text₁ =
        .ok ((f.movedBy front).apply (front.apply lines), front.written) := by
    have inside : b < (f.apply lines).length := by
      have first_le := fits.first_le
      omega
    have apart' : front.first + front.removed ≤ f.first := place ▸ apart
    rw [splice_inside forward inside, Edit.apply_comm apart' fits]
  constructor
  · intro d c_le inside
    let back := Edit.replacing c d text₂
    have fits : back.Fits lines := by
      simp only [back, Edit.Fits, Edit.replacing]
      omega
    let c' := (back.movedBy front).first
    have moved : (c' : Int) = c + front.written.lineDelta := Edit.first_movedBy (f := back) apart
    have same : Edit.replacing c' (c' + (d - c)) text₂ = back.movedBy front := by
      have count : c' + (d - c) + 1 - c' = d + 1 - c := by omega
      simp only [Edit.replacing, count]
      rfl
    have inside' : c' + (d - c) < (front.apply lines).length := by
      have fits' := fits.movedBy apart
      unfold Edit.Fits at fits'
      simp only [← same, Edit.replacing] at fits'
      omega
    refine ⟨front.apply lines, back.apply lines, (back.movedBy front).apply (front.apply lines),
      front.written, back.written, c', c' + (d - c), splice_inside c_le inside text₂,
      around back rfl fits, splice_inside forward (by omega) text₁, moved, ?_, ?_⟩
    · push_cast
      omega
    · rw [splice_inside (by omega) inside', same]
      rfl
  · intro inside
    let back := Edit.inserting c text₂
    have fits : back.Fits lines := inside
    let c' := (back.movedBy front).first
    have moved : (c' : Int) = c + front.written.lineDelta := Edit.first_movedBy (f := back) apart
    refine ⟨front.apply lines, back.apply lines, (back.movedBy front).apply (front.apply lines),
      front.written, back.written, c', insertAt_inside inside text₂, around back rfl fits,
      splice_inside forward (by omega) text₁, moved, ?_⟩
    exact insertAt_inside (fits.movedBy apart) text₂

/-- The first two of four lines give way to none, so what is done to the other two, or behind them
at the end of the script, is done two lines higher if it comes second. -/
theorem edits_commute_emptied :
    let lines := ["a", "b", "c", "d"]
    let w₁ : Written := ⟨0, 0, -2⟩
    (∃ lines₂ w₂, splice lines 2 3 "x\n\n" = .ok (lines₂, w₂) ∧
        splice lines₂ 0 1 "" = .ok (["x", ""], w₁) ∧ splice lines 0 1 "" = .ok (["c", "d"], w₁) ∧
        splice ["c", "d"] 0 1 "x\n\n" = .ok (["x", ""], { w₂ with startLine := 0 })) ∧
      ∃ lines₂ w₂, insertAt lines 4 "x" = .ok (lines₂, w₂) ∧
        splice lines₂ 0 1 "" = .ok (["c", "d", "x"], w₁) ∧
        insertAt ["c", "d"] 2 "x" = .ok (["c", "d", "x"], { w₂ with startLine := 2 }) := by
  intro lines w₁
  have emptied : splice lines 0 1 "" = .ok (["c", "d"], w₁) := rfl
  constructor
  · obtain ⟨lines₁, lines₂, both, w, w₂, c', d', behind, front, front', place, place', behind'⟩ :=
      (edits_commute lines (by decide : 0 ≤ 1) (by decide : 1 < 2) "" "x\n\n").1 3
        (by decide) (by decide)
    obtain ⟨rfl, rfl⟩ := Prod.mk.inj (Except.ok.inj (emptied.symm.trans front'))
    obtain rfl : c' = 0 := by
      simp only [w₁] at place
      omega
    obtain rfl : d' = 1 := by
      simp only [w₁] at place'
      omega
    have written : splice ["c", "d"] 0 1 "x\n\n" = .ok (["x", ""], ⟨0, 2, 0⟩) := rfl
    obtain ⟨rfl, -⟩ := Prod.mk.inj (Except.ok.inj (written.symm.trans behind'))
    exact ⟨lines₂, w₂, behind, front, emptied, behind'⟩
  · obtain ⟨lines₁, lines₂, both, w, w₂, c', behind, front, front', place, behind'⟩ :=
      (edits_commute lines (by decide : 0 ≤ 1) (by decide : 1 < 4) "" "x").2 (by decide)
    obtain ⟨rfl, rfl⟩ := Prod.mk.inj (Except.ok.inj (emptied.symm.trans front'))
    obtain rfl : c' = 2 := by
      simp only [w₁] at place
      omega
    have written : insertAt ["c", "d"] 2 "x" = .ok (["c", "d", "x"], ⟨2, 1, 1⟩) := rfl
    obtain ⟨rfl, -⟩ := Prod.mk.inj (Except.ok.inj (written.symm.trans behind'))
    exact ⟨lines₂, w₂, behind, front, behind'⟩

end StoryScript.Text
