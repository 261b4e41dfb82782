import Mathlib.Data.List.Forall2
import StoryScript.Text.Lemmas

/-!
# Excerpts without their indent

The base indent of an excerpt comes off all of its lines or off none. It comes off when every line
that is not blank begins with it, and whatever was done can be undone from what was found out.

## Main definitions

* `Leads`, `IsBase` — the indent of a line, and the base indent of some lines.
* `Outdents` — what happens to a single line when an indent comes off.

## Main statements

* `isBase_baseIndent` — the base indent that is found is the one of the excerpt.
* `error_isSome_iff` — an excerpt is at fault when some line does not begin with its base indent.
* `forall_outdents` — all lines of an excerpt without a fault lose the indent and nothing else.
* `stripIndent_lossless` — nothing of an excerpt is lost, and when what comes off.
* `stripIndent_further` — an excerpt that is put further in loses both indents together, and has
  its fault, if it has one, where it had it before.
-/

namespace StoryScript.Text

/-- The spaces and tabs in front of a line: behind them the line goes on with another character, or
not at all. -/
def Leads (indent line : String) : Prop :=
  (∀ c ∈ indent.toList, c = ' ' ∨ c = '\t') ∧
    ∃ rest, line = indent ++ rest ∧ ∀ c ∈ rest.toList.head?, c ≠ ' ' ∧ c ≠ '\t'

/-- The base indent of some lines is in front of the first one that is not blank. Blank lines have an
empty one. -/
inductive IsBase : List String → String → Prop where
  | blank {lines : List String} (all : ∀ line ∈ lines, isBlank line = true) : IsBase lines ""
  | first {before behind : List String} {line indent : String}
      (blank : ∀ line ∈ before, isBlank line = true) (text : isBlank line = false)
      (leads : Leads indent line) : IsBase (before ++ line :: behind) indent

theorem leads_leadingIndent (line : String) : Leads (leadingIndent line) line := by
  constructor
  · intro c mem
    simpa [isIndentChar] using isIndentChar_of_mem_leadingIndent mem
  · refine ⟨.ofList (line.toList.dropWhile isIndentChar), ?_, ?_⟩
    · rw [leadingIndent, ← String.ofList_append, List.takeWhile_append_dropWhile,
        String.ofList_toList]
    · intro c first
      rw [String.toList_ofList] at first
      simpa [isIndentChar] using head?_dropWhile_not isIndentChar _ c first

theorem isBase_baseIndent (lines : List String) : IsBase lines (baseIndent lines) := by
  unfold baseIndent
  split
  · next line found =>
    obtain ⟨text, before, behind, rfl, blank⟩ := List.find?_eq_some_iff_append.1 found
    refine .first (fun line' mem => ?_) (by simpa using text) (leads_leadingIndent line)
    simpa using blank line' mem
  · next none_found =>
    refine .blank fun line mem => ?_
    simpa using List.find?_eq_none.1 none_found line mem

/-- How a line changes when the indent `base` comes off. A blank line stays as it is; any other one
begins with the indent and keeps what is behind it. -/
def Outdents (base line line' : String) : Prop :=
  if isBlank line then line' = line else line = base ++ line'

theorem outdents_dropIndent {base line : String}
    (starts : isBlank line = false → base.toList <+: line.toList) :
    Outdents base line (dropIndent base line) := by
  unfold Outdents
  cases blank : isBlank line with
  | true => simp [dropIndent, blank]
  | false => simpa using (append_dropIndent blank (starts blank)).symm

section

variable {excerpt : String}

/-- The lines of an excerpt that are not blank begin with its base indent just when it is without a
fault. -/
theorem error_eq_none_iff : (stripIndent excerpt).info.error = none ↔
    ∀ line ∈ segments excerpt, isBlank line = false →
      (baseIndent (segments excerpt)).toList <+: line.toList := by
  have indent : ∀ c ∈ (baseIndent (segments excerpt)).toList, isIndentChar c = true :=
    fun c => isIndentChar_of_mem_baseIndent
  rw [error_stripIndent_eq_none_iff, firstFault?_eq_none_iff indent]

/-- An excerpt is at fault when it has a base indent that some line with text does not begin
with. -/
theorem error_isSome_iff : (stripIndent excerpt).info.error.isSome = true ↔
    baseIndent (segments excerpt) ≠ "" ∧ ∃ line ∈ segments excerpt,
      isBlank line = false ∧ ¬ (baseIndent (segments excerpt)).toList <+: line.toList := by
  rw [Option.isSome_iff_ne_none, ne_eq, error_eq_none_iff]
  push Not
  constructor
  · rintro ⟨line, mem, text, astray⟩
    refine ⟨?_, line, mem, text, astray⟩
    -- every line begins with the empty indent
    intro none_there
    rw [none_there] at astray
    exact astray List.nil_prefix
  · rintro ⟨-, line, mem, text, astray⟩
    exact ⟨line, mem, text, astray⟩

/-- Line by line, an excerpt without a fault loses its base indent and nothing else. -/
theorem forall_outdents (sound : (stripIndent excerpt).info.error = none) :
    List.Forall₂ (Outdents (baseIndent (segments excerpt))) (segments excerpt)
      (segments (stripIndent excerpt).text) := by
  rw [stripIndent_of_sound sound, segments_unlines_dropIndent, List.forall₂_map_right_iff,
    List.forall₂_same]
  intro line mem
  apply outdents_dropIndent
  exact error_eq_none_iff.1 sound line mem

end

/-- Nothing of an excerpt is lost when its base indent is to come off: putting back what was found
gives it again. It is at fault just when there is such an indent and some line that is not blank
does not begin with it; then it stays as it is and no indent is reported. Without a fault the indent
is reported, as taken off if there is any, every blank line stays as it is, and every other line
loses the indent and nothing else. -/
theorem stripIndent_lossless (excerpt : String) :
    restoreIndent (stripIndent excerpt).text (stripIndent excerpt).info.indent = excerpt ∧
      let base := baseIndent (segments excerpt)
      let s := stripIndent excerpt
      IsBase (segments excerpt) base ∧
      (s.info.error.isSome = true ↔ base ≠ "" ∧ ∃ line ∈ segments excerpt,
        isBlank line = false ∧ ¬ base.toList <+: line.toList) ∧
      if s.info.error.isSome then s.text = excerpt ∧ s.info.indent = "" ∧ s.info.stripped = false
      else s.info.indent = base ∧ s.info.stripped = !base.isEmpty ∧
        List.Forall₂ (Outdents base) (segments excerpt) (segments s.text) := by
  refine ⟨restoreIndent_stripIndent excerpt, ?_⟩
  intro base s
  refine ⟨isBase_baseIndent _, error_isSome_iff, ?_⟩
  cases fault : s.info.error with
  | some message =>
    rcases stripIndent_cases excerpt with ⟨-, kept⟩ | ⟨-, fault', -, kept⟩ | ⟨-, -, stripped⟩
    · simp [s, kept] at fault
    · simp [s, kept]
    · simp [s, stripped] at fault
  | none =>
    have lines := forall_outdents fault
    have found : s.info = { indent := base, stripped := !base.isEmpty } := by
      rw [show s = _ from stripIndent_of_sound fault]
    rw [found]
    exact ⟨rfl, rfl, lines⟩

/-- A tab does not stand for spaces, however many. -/
example : stripIndent "    a\n\n      b\n\tc" =
    ⟨{ error := some "line 4 is indented less than the block (1 < 4 characters)" },
      "    a\n\n      b\n\tc"⟩ := by
  decide +kernel

/-! ## An excerpt further in -/

/-- An excerpt at fault stays as it is further in, and its first fault is on the same line. -/
theorem stripIndent_restoreIndent_of_faulty {excerpt indent message : String}
    (text : ∃ line ∈ segments excerpt, isBlank line = false)
    (spaces : ∀ c ∈ indent.toList, isIndentChar c = true)
    (faulty : (stripIndent excerpt).info.error = some message) :
    ∃ fault : IndentFault, message = fault.message ∧
      stripIndent (restoreIndent excerpt indent) =
        ⟨{ error := some (fault.further indent.length).message },
          restoreIndent excerpt indent⟩ := by
  obtain ⟨fault, first, rfl⟩ : ∃ fault : IndentFault,
      firstFault? (baseIndent (segments excerpt)) 1 (segments excerpt) = some fault ∧
        message = fault.message := by
    rcases stripIndent_cases excerpt with ⟨-, kept⟩ | ⟨-, fault, first, kept⟩ | ⟨-, -, stripped⟩
    · simp [kept] at faulty
    · rw [kept] at faulty
      exact ⟨fault, first, (Option.some_inj.1 faulty).symm⟩
    · simp [stripped] at faulty
  refine ⟨fault, rfl, ?_⟩
  have base_eq : baseIndent (segments (restoreIndent excerpt indent)) =
      indent ++ baseIndent (segments excerpt) := by
    rw [segments_restoreIndent spaces, baseIndent_map_addIndent spaces text]
  have first' : firstFault? (baseIndent (segments (restoreIndent excerpt indent))) 1
      (segments (restoreIndent excerpt indent)) = some (fault.further indent.length) := by
    rw [base_eq, segments_restoreIndent spaces, firstFault?_map_addIndent spaces, first,
      Option.map_some]
  rcases stripIndent_cases (restoreIndent excerpt indent) with ⟨none_there, -⟩ |
      ⟨-, fault', found, kept⟩ | ⟨-, sound, -⟩
  · -- with no indent in front there was none before, and then no line could be at fault
    obtain ⟨-, none_before⟩ := String.append_eq_empty_iff.1 (base_eq.symm.trans none_there)
    exact absurd none_before (error_isSome_iff.1 (by simp [faulty])).1
  · obtain rfl : fault.further indent.length = fault' := Option.some_inj.1 (first'.symm.trans found)
    exact kept
  · rw [first'] at sound
    cases sound

/-- An excerpt that is put further in, and does not consist of blank lines, loses the new indent
together with its own if it is without a fault, and the same text is left. If it is at fault, so it
is further in, on the same line and in the same way, and it stays as it is. -/
theorem stripIndent_further {excerpt indent : String}
    (text : ∃ line ∈ segments excerpt, isBlank line = false) (some_indent : indent ≠ "")
    (spaces : ∀ c ∈ indent.toList, isIndentChar c = true) :
    let s := stripIndent excerpt
    let further := restoreIndent excerpt indent
    (s.info.error = none → stripIndent further =
        ⟨{ indent := indent ++ s.info.indent, stripped := true }, s.text⟩) ∧
      ∀ message, s.info.error = some message → ∃ fault : IndentFault, message = fault.message ∧
        stripIndent further =
          ⟨{ error := some (fault.further indent.length).message }, further⟩ := by
  intro s further
  constructor
  · intro sound
    have together := stripIndent_restoreIndent spaces text sound
    have some_there : (indent ++ s.info.indent).isEmpty = false := by simp [some_indent]
    rw [together, some_there, Bool.not_false]
  · intro message faulty
    exact stripIndent_restoreIndent_of_faulty text spaces faulty

/-- Two excerpts behind a tab: one without a fault, with a blank line of its own indent, and one
whose second line has too little of it. -/
theorem stripIndent_further_tab :
    let sound := "  a\n \n    b\r"
    let faulty := "  a\n b"
    let message := "line 2 is indented less than the block (1 < 2 characters)"
    (stripIndent sound).info.error = none ∧ (stripIndent faulty).info.error = some message ∧
      stripIndent (restoreIndent sound "\t") =
        ⟨{ indent := "\t  ", stripped := true }, "a\n \n  b\r"⟩ ∧
      ∃ fault : IndentFault, message = fault.message ∧
        stripIndent (restoreIndent faulty "\t") =
          ⟨{ error := some (fault.further 1).message }, "\t  a\n\t b"⟩ := by
  intro sound faulty message
  have tab : ∀ c ∈ "\t".toList, isIndentChar c = true := List.all_eq_true.1 (by decide +kernel)
  have text : ∃ line ∈ segments sound, isBlank line = false := by decide +kernel
  have text' : ∃ line ∈ segments faulty, isBlank line = false := by decide +kernel
  have without_fault : (stripIndent sound).info.error = none := by decide +kernel
  have with_fault : (stripIndent faulty).info.error = some message := by decide +kernel
  have together := (stripIndent_further text (by decide) tab).1 without_fault
  have shown : stripIndent sound = ⟨{ indent := "  ", stripped := true }, "a\n \n  b\r"⟩ := by
    decide +kernel
  rw [shown] at together
  have further : restoreIndent faulty "\t" = "\t  a\n\t b" := by decide +kernel
  have one : "\t".length = 1 := by decide +kernel
  obtain ⟨fault, named, untouched⟩ :=
    (stripIndent_further text' (by decide) tab).2 message with_fault
  refine ⟨without_fault, with_fault, together, fault, named, untouched.trans ?_⟩
  rw [further, one]

end StoryScript.Text
