import Mathlib.Data.List.Nodup
import StoryScript.Proofs.Rereading

/-!
# Sidecar lines by hand

A sidecar line may hold more than a writer puts there: words without a value, keys that nobody
knows, the same key twice, values that no note can take. On each note the last token decides that
has its key and a value that it can take. All others are as if they were not there.

## Main definitions

* `unparted` — whether a text can be a key, or a word without a key.
* `Glyph`, `Word` — a character of a quoted value, and a word, as they are written.
* `NoteLine` — a sidecar line made of words.
* `Token.sets`, `deciding` — the tokens that can decide on a note, and the one that does.

## Main statements

* `tokens_spacedWords`, `NoteLine.parse_text` — the words of a line are read as their tokens.
* `Metadata.get_ofTokens_eq`, `Metadata.mem_quoted_ofTokens_iff` — what some tokens amount to.
* `parse_noteLine` — what is read from a sidecar line.
-/

namespace StoryScript.Sidecar

open Text

/-- A character of a quoted value, as it stands or behind a backslash. -/
inductive Glyph where
  | plain (c : Char) (ordinary : c ≠ '"' ∧ c ≠ '\\' := by decide)
  | escaped (c : Char)

namespace Glyph

def char : Glyph → Char
  | plain c _ => c
  | escaped c => c

def text : Glyph → List Char
  | plain c _ => [c]
  | escaped c => ['\\', c]

end Glyph

/-- Whether a text is without `=` and white space. -/
def unparted (s : String) : Bool :=
  s.toList.all fun c => c != '=' && !isSpace c

theorem isKeyChar_of_unparted {s : String} (free : unparted s = true) :
    ∀ c ∈ s.toList, isKeyChar c = true :=
  List.all_eq_true.1 free

/-- A word of a sidecar line, as it is written: a bare one, or a key with a value that stands
without quotes or in quotes. -/
inductive Word where
  | bare (word : String) (some_there : word ≠ "" := by decide)
    (free : unparted word = true := by decide)
  | unquoted (key value : String) (free : unparted key = true := by decide)
    (free' : value.toList.all (!isSpace ·) = true := by decide)
    (start : value.toList.head? ≠ some '"' := by decide)
  | quoted (key : String) (value : List Glyph) (free : unparted key = true := by decide)

namespace Word

def text : Word → String
  | bare word _ _ => word
  | unquoted key value _ _ _ => key ++ "=" ++ value
  | quoted key value _ => key ++ "=\"" ++ .ofList (value.flatMap Glyph.text) ++ "\""

/-- The token that a word is; a bare one is none. -/
def token? : Word → Option Token
  | bare _ _ _ => none
  | unquoted key value _ _ _ => some ⟨key, value, false⟩
  | quoted key value _ => some ⟨key, .ofList (value.map Glyph.char), true⟩

end Word

/-- A word with the white space in front of it. -/
structure SpacedWord where
  gap : String
  word : Word
  divided : gap ≠ "" := by decide
  space : gap.toList.all isSpace = true := by decide

def SpacedWord.text (w : SpacedWord) : String :=
  w.gap ++ w.word.text

/-- A sidecar line made of words. White space may stand in front of the marker and at the end. -/
structure NoteLine where
  front : String := ""
  words : List SpacedWord
  back : String := ""
  front_space : front.toList.all isSpace = true := by decide
  back_space : back.toList.all isSpace = true := by decide

namespace NoteLine

def text (l : NoteLine) : String :=
  l.front ++ (marker ++ String.join (l.words.map SpacedWord.text)) ++ l.back

def tokens (l : NoteLine) : List Token :=
  l.words.filterMap (·.word.token?)

end NoteLine

/-- Whether a token sets a note, if no later one does: it has the key of the note, and a value that
is not empty and fits. -/
def Token.sets (t : Token) (f : Field) : Bool :=
  t.key == f.key && t.value != "" && f.fits t.value

/-- The token that decides on a note: the last one that sets it. -/
def deciding (f : Field) (ts : List Token) : Option Token :=
  (ts.filter (·.sets f)).getLast?

/-! ## Reading the words -/

theorem tokens_spaces {gap : List Char} (space : ∀ c ∈ gap, isSpace c = true) (rest : List Char) :
    tokens (gap ++ rest) = tokens rest := by
  induction gap with
  | nil => rfl
  | cons c gap ih =>
    rw [List.forall_mem_cons] at space
    rw [List.cons_append, tokens_space space.1, ih space.2]

/-- A word without `=` is passed over. -/
theorem tokens_bare {word rest : List Char} (free : ∀ c ∈ word, isKeyChar c = true)
    (ends : ∀ c ∈ rest.head?, isSpace c = true) : tokens (word ++ rest) = tokens rest := by
  have stop : (word ++ rest).dropWhile isKeyChar = rest := by
    rw [List.dropWhile_append_of_pos free]
    exact dropWhile_eq_self fun c first => isKeyChar_of_isSpace (ends c first)
  cases rest with
  | nil =>
    rw [tokens, tokens_nil]
    split
    · rfl
    · next found => cases stop.symm.trans found
  | cons c rest =>
    have space := ends c rfl
    have other : c ≠ '=' := by
      rintro rfl
      revert space
      decide
    rw [tokens_space space, tokens]
    split
    · next none_left => cases stop.symm.trans none_left
    · next d rest' found =>
      obtain ⟨rfl, rfl⟩ := List.cons.inj (stop.symm.trans found)
      rw [if_neg other]

/-- A quoted value reaches to the first quote that stands without a backslash. -/
theorem quotedValue_glyphs (value : List Glyph) (rest : List Char) :
    quotedValue (value.flatMap Glyph.text ++ '"' :: rest) = (value.map Glyph.char, rest) := by
  induction value with
  | nil => simp [quotedValue]
  | cons g value ih =>
    cases g with
    | plain c ordinary =>
      obtain ⟨no_quote, no_backslash⟩ := ordinary
      simp [Glyph.text, Glyph.char, quotedValue, ih, no_quote, no_backslash]
    | escaped c => simp [Glyph.text, Glyph.char, quotedValue, ih]

/-- A word is read as its token, if white space or nothing comes behind it. -/
theorem Word.tokens_text (w : Word) {rest : List Char} (ends : ∀ c ∈ rest.head?, isSpace c = true) :
    tokens (w.text.toList ++ rest) = w.token?.toList ++ tokens rest := by
  cases w with
  | bare word some_there free => exact tokens_bare (isKeyChar_of_unparted free) ends
  | unquoted key value free free' start =>
    have free'' : ∀ c ∈ value.toList, isSpace c = false := by simpa using free'
    have text_eq : (unquoted key value free free' start).text.toList ++ rest =
        key.toList ++ '=' :: (value.toList ++ rest) := by
      simp [text]
    rw [text_eq, tokens_key (isKeyChar_of_unparted free), readValue_plain free'' start ends]
    simp [token?]
  | quoted key value free =>
    have text_eq : (quoted key value free).text.toList ++ rest =
        key.toList ++ '=' :: '"' :: (value.flatMap Glyph.text ++ '"' :: rest) := by
      simp [text]
    rw [text_eq, tokens_key (isKeyChar_of_unparted free), readValue, quotedValue_glyphs]
    simp [token?]

theorem Word.text_ne (w : Word) : w.text ≠ "" := by
  cases w with
  | bare word some_there free => exact some_there
  | unquoted key value free free' start => simp [text]
  | quoted key value free => simp [text]

theorem Word.getLast?_text (w : Word) : ∀ c ∈ w.text.toList.getLast?, isSpace c = false := by
  cases w with
  | bare word some_there free =>
    intro c last
    have key_char := isKeyChar_of_unparted free c (List.mem_of_getLast? last)
    simpa using mt isKeyChar_of_isSpace (by simp [key_char])
  | unquoted key value free free' start =>
    have free'' : ∀ c ∈ value.toList, isSpace c = false := by simpa using free'
    have sign : (key ++ "=").toList.getLast? = some '=' := by simp
    rw [text, String.toList_append]
    refine getLast?_append_of ?_ fun c last => free'' c (List.mem_of_getLast? last)
    rw [sign]
    rintro c ⟨⟩
    decide
  | quoted key value free =>
    have closing : "\"".toList.getLast? = some '"' := by decide
    rw [text, String.toList_append, List.getLast?_append, closing, Option.some_or]
    rintro c ⟨⟩
    decide

/-- The words of a line begin with white space, if there are any. -/
theorem head?_spacedWords (ws : List SpacedWord) :
    ∀ c ∈ (String.join (ws.map SpacedWord.text)).toList.head?, isSpace c = true := by
  cases ws with
  | nil => simp
  | cons w ws =>
    have space := List.all_eq_true.1 w.space
    obtain ⟨c, gap, first⟩ := List.exists_cons_of_ne_nil (mt String.toList_eq_nil_iff.1 w.divided)
    rw [List.map_cons, String.join_cons, SpacedWord.text, String.toList_append,
      String.toList_append, first]
    rintro c ⟨⟩
    exact space c (by simp [first])

/-- They do not end with white space. -/
theorem getLast?_spacedWords (ws : List SpacedWord) :
    ∀ c ∈ (String.join (ws.map SpacedWord.text)).toList.getLast?, isSpace c = false := by
  induction ws with
  | nil => simp
  | cons w ws ih =>
    rw [List.map_cons, String.join_cons, String.toList_append]
    refine getLast?_append_of ?_ ih
    have some_there : w.word.text.toList ≠ [] := mt String.toList_eq_nil_iff.1 w.word.text_ne
    rw [SpacedWord.text, String.toList_append, List.getLast?_append_of_ne_nil _ some_there]
    exact w.word.getLast?_text

theorem tokens_spacedWords (ws : List SpacedWord) :
    tokens (String.join (ws.map SpacedWord.text)).toList = ws.filterMap (·.word.token?) := by
  induction ws with
  | nil => simp [tokens_nil]
  | cons w ws ih =>
    have space := List.all_eq_true.1 w.space
    rw [List.map_cons, String.join_cons, SpacedWord.text, String.toList_append,
      String.toList_append, List.append_assoc, tokens_spaces space,
      w.word.tokens_text (head?_spacedWords ws), ih, List.filterMap_cons]
    cases w.word.token? <;> rfl

/-- The tokens of a line are those of its words. -/
theorem NoteLine.parse_text (l : NoteLine) : parse l.text = some (.ofTokens l.tokens) := by
  rw [text, parse_spaced (List.all_eq_true.1 l.front_space) (List.all_eq_true.1 l.back_space),
    parse, afterMarker?_append (head?_spacedWords l.words) (getLast?_spacedWords l.words),
    Option.map_some, tokens_spacedWords, tokens]

/-! ## The token that decides -/

theorem deciding_append (f : Field) (ts : List Token) (t : Token) :
    deciding f (ts ++ [t]) = if t.sets f then some t else deciding f ts := by
  unfold deciding
  rw [List.filter_append]
  cases sets : t.sets f <;> simp [sets]

theorem Token.sets_iff {t : Token} {f : Field} :
    t.sets f = true ↔ t.key = f.key ∧ t.value ≠ "" ∧ f.fits t.value = true := by
  simp [sets, and_assoc]

/-- A token sets one note at most. -/
theorem Token.sets_inj {t : Token} {f g : Field} (hf : t.sets f = true) (hg : t.sets g = true) :
    f = g := by
  rw [sets_iff] at hf hg
  exact Field.key_inj (hf.1.symm.trans hg.1)

namespace Metadata

/-- A token that sets a note is taken over there, and leaves its mark. -/
theorem assign_of_sets {t : Token} {f : Field} (sets : t.sets f = true) (m : Metadata) :
    (∀ g, (m.assign t.key t.value t.quoted).get g = if g = f then some t.value else m.get g) ∧
      ∀ key, key ∈ (m.assign t.key t.value t.quoted).quoted ↔
        if key = f.key then t.quoted = true else key ∈ m.quoted := by
  obtain ⟨key, text, fits⟩ := Token.sets_iff.1 sets
  rw [key]
  exact assign_of_fits fits text m t.quoted

theorem set?_of_not_fits {f : Field} {value : String} (unfit : f.fits value = false)
    (m : Metadata) : m.set? value f = none := by
  cases f with
  | status =>
    have unknown : Status.ofText? value = none := by
      rw [Status.ofText?, List.find?_eq_none]
      intro s _ same
      have fits := Field.fits_status_iff.2 ⟨s, beq_iff_eq.1 same⟩
      simp [fits] at unfit
    rw [set?, unknown, Option.map_none]
  | _ => simp [Field.fits] at unfit

/-- A token that sets none has no effect. -/
theorem assign_of_sets_none {t : Token} (none_set : ∀ f, t.sets f = false) (m : Metadata) :
    m.assign t.key t.value t.quoted = m := by
  unfold assign
  split
  · rfl
  · next text =>
    have refused : (Field.ofKey? t.key).bind (m.set? t.value) = none := by
      cases known : Field.ofKey? t.key with
      | none => rfl
      | some f =>
        have unfit : f.fits t.value = false := by
          have unset := none_set f
          simp_all [Token.sets, Field.key_of_ofKey? known]
        rw [Option.bind_some, set?_of_not_fits unfit]
    rw [refused]

/-- On each note the last token decides that sets it. -/
theorem get_ofTokens_eq (ts : List Token) (f : Field) :
    (ofTokens ts).get f = (deciding f ts).map Token.value := by
  induction ts using List.reverseRecOn with
  | nil => exact get_empty f
  | append_singleton ts t ih =>
    rw [ofTokens_append, deciding_append]
    by_cases some_set : ∃ g, t.sets g = true
    · obtain ⟨g, sets⟩ := some_set
      rw [(assign_of_sets sets _).1, ih]
      by_cases here : f = g
      · simp [here, sets]
      · have other : t.sets f = false := by
          simpa using fun sets' => here (Token.sets_inj sets' sets)
        simp [here, other]
    · have none_set : ∀ g, t.sets g = false := by simpa using some_set
      rw [assign_of_sets_none none_set, ih, none_set f]
      rfl

/-- A key is marked when the token was quoted that decides on its note. -/
theorem mem_quoted_ofTokens_iff (ts : List Token) (key : String) :
    key ∈ (ofTokens ts).quoted ↔
      ∃ f t, key = f.key ∧ deciding f ts = some t ∧ t.quoted = true := by
  induction ts using List.reverseRecOn with
  | nil => simp [ofTokens, deciding]
  | append_singleton ts t ih =>
    simp only [ofTokens_append, deciding_append]
    by_cases some_set : ∃ g, t.sets g = true
    · obtain ⟨g, sets⟩ := some_set
      rw [(assign_of_sets sets _).2, ih]
      have only (f : Field) : t.sets f = true ↔ f = g :=
        ⟨fun sets' => Token.sets_inj sets' sets, fun here => here ▸ sets⟩
      simp only [only]
      by_cases here : key = g.key
      · rw [if_pos here]
        constructor
        · exact fun marked => ⟨g, t, here, if_pos rfl, marked⟩
        · rintro ⟨f, t', key_eq, decides, marked⟩
          obtain rfl : f = g := Field.key_inj (key_eq.symm.trans here)
          rw [if_pos rfl] at decides
          cases decides
          exact marked
      · rw [if_neg here]
        refine exists_congr fun f => exists_congr fun t' => and_congr_right fun key_eq => ?_
        have other : f ≠ g := by
          rintro rfl
          exact here key_eq
        rw [if_neg other]
    · have none_set : ∀ g, t.sets g = false := by simpa using some_set
      simp [assign_of_sets_none none_set, ih, none_set]

end Metadata

/-! ## Tokens without effect, and tokens in another order -/

/-- Whether a token sets any note. -/
def Token.counts (t : Token) : Bool :=
  Field.all.any t.sets

/-- The tokens that set none can be left out. -/
theorem Metadata.ofTokens_filter_counts (ts : List Token) :
    ofTokens (ts.filter Token.counts) = ofTokens ts := by
  unfold ofTokens
  rw [List.foldl_filter]
  congr 1
  funext m t
  split
  · rfl
  · next none_set =>
    have none_set' : ∀ f, t.sets f = false := by
      intro f
      simp only [Token.counts, List.any_eq_true, not_exists, not_and] at none_set
      simpa using none_set f f.mem_all
    rw [assign_of_sets_none none_set']

/-- Of tokens with distinct keys each one decides that sets a note. -/
theorem deciding_eq_some_iff {ts : List Token} (distinct : (ts.map Token.key).Nodup) {f : Field}
    {t : Token} : deciding f ts = some t ↔ t ∈ ts ∧ t.sets f = true := by
  unfold deciding
  constructor
  · intro decides
    exact List.mem_filter.1 (List.mem_of_getLast? decides)
  · rintro ⟨mem, sets⟩
    have some_there : ts.filter (·.sets f) ≠ [] :=
      List.ne_nil_of_mem (List.mem_filter.2 ⟨mem, sets⟩)
    obtain ⟨t', decides⟩ := Option.ne_none_iff_exists'.1 (mt List.getLast?_eq_none_iff.1 some_there)
    obtain ⟨mem', sets'⟩ := List.mem_filter.1 (List.mem_of_getLast? decides)
    have same_key : t'.key = t.key :=
      (Token.sets_iff.1 sets').1.trans (Token.sets_iff.1 sets).1.symm
    rw [decides, List.inj_on_of_nodup_map distinct mem' mem same_key]

/-- A sidecar line of words is read, and on each note the last token decides that has its key and a
value that is not empty and, for the status, is the text of one. The note has the decoded value of
that token, and its key is marked when that token was quoted; a note on which no token decides is
not set. So all other tokens and the bare words can be left out or changed at will, and tokens with
distinct keys can come in any order. -/
theorem parse_noteLine (l : NoteLine) : ∃ m, parse l.text = some m ∧
    (∀ f, m.get f = (deciding f l.tokens).map Token.value) ∧
    (∀ key, key ∈ m.quoted ↔
      ∃ f t, key = f.key ∧ deciding f l.tokens = some t ∧ t.quoted = true) ∧
    (∀ l' : NoteLine, l'.tokens.filter Token.counts = l.tokens.filter Token.counts →
      parse l'.text = some m) ∧
    ∀ l' : NoteLine, (l.tokens.map Token.key).Nodup → l'.tokens.Perm l.tokens →
      ∃ m', parse l'.text = some m' ∧ m'.same m = true ∧
        ∀ key, key ∈ m'.quoted ↔ key ∈ m.quoted := by
  refine ⟨.ofTokens l.tokens, l.parse_text, Metadata.get_ofTokens_eq l.tokens,
    Metadata.mem_quoted_ofTokens_iff l.tokens, ?_, ?_⟩
  · intro l' same
    rw [l'.parse_text, ← Metadata.ofTokens_filter_counts, same, Metadata.ofTokens_filter_counts]
  · intro l' distinct perm
    have distinct' : (l'.tokens.map Token.key).Nodup :=
      (perm.map Token.key).nodup_iff.2 distinct
    have decides_alike (f : Field) : deciding f l'.tokens = deciding f l.tokens := by
      ext t
      rw [deciding_eq_some_iff distinct', deciding_eq_some_iff distinct, perm.mem_iff]
    refine ⟨.ofTokens l'.tokens, l'.parse_text, Metadata.same_iff.2 fun f => ?_, fun key => ?_⟩
    · rw [Metadata.get_ofTokens_eq, Metadata.get_ofTokens_eq, decides_alike]
    · simp only [Metadata.mem_quoted_ofTokens_iff, decides_alike]

/-- A key twice, an empty value behind another one, a status that is none, a key that nobody knows
and a bare word. -/
theorem parse_noteLine_by_hand :
    let line := "\t# @node tag=a  draft tag=\"b\\\" c\"\tstatus=Done status=Soon color=red tag=\r"
    ∃ m, parse line = some m ∧
      (∀ f, m.get f = match f with
        | .tag => some "b\" c"
        | .status => some "Done"
        | _ => none) ∧
      ∀ key, key ∈ m.quoted ↔ key = "tag" := by
  intro line
  let l : NoteLine :=
    { front := "\t"
      words := [.mk " " (.unquoted "tag" "a"), .mk "  " (.bare "draft"),
        .mk " " (.quoted "tag" [.plain 'b', .escaped '"', .plain ' ', .plain 'c']),
        .mk "\t" (.unquoted "status" "Done"), .mk " " (.unquoted "status" "Soon"),
        .mk " " (.unquoted "color" "red"), .mk " " (.unquoted "tag" "")]
      back := "\r" }
  have text : l.text = line := by decide +kernel
  have decides (f : Field) : deciding f l.tokens = match f with
      | .tag => some ⟨"tag", "b\" c", true⟩
      | .status => some ⟨"status", "Done", false⟩
      | _ => none := by
    cases f <;> decide +kernel
  obtain ⟨m, parsed, notes, marks, -⟩ := parse_noteLine l
  refine ⟨m, text ▸ parsed, fun f => ?_, fun key => ?_⟩
  · rw [notes, decides]
    cases f <;> rfl
  · rw [marks]
    constructor
    · rintro ⟨f, t, rfl, decision, quoted⟩
      rw [decides] at decision
      cases f <;> cases decision
      · cases quoted
      · rfl
    · rintro rfl
      exact ⟨.tag, _, rfl, decides .tag, rfl⟩

end StoryScript.Sidecar
