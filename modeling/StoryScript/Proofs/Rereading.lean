import Mathlib.Data.List.Induction
import StoryScript.Sidecar.Lemmas

/-!
# Reading a sidecar line back

A sidecar line that was written can be read, and what is read are the notes that were written.
Written once more they give the same line, since reading marks the values that stand in quotes.

## Main definitions

* `Metadata.stands` — whether a value of a note is written in quotes.
* `Metadata.token?` — a note as the token that its word is read as.
* `Field.fits` — whether a value can stand in a note.

## Main statements

* `readValue_encode`, `tokens_word` — a value, and a word of the line, are read back.
* `assign_of_fits` — what becomes of the notes when a value is taken over.
* `get_ofTokens`, `mem_quoted_ofTokens` — what the tokens of some notes amount to.
* `exists_parse_of_format` — a sidecar line is read as the notes that were written.
* `parse_format` — written again these give the same line.
-/

namespace StoryScript.Sidecar

open Text

/-! ## Reading words -/

theorem isKeyChar_of_isSpace {c : Char} (space : isSpace c = true) : isKeyChar c = false := by
  simp [isKeyChar, space]

theorem tokens_nil : tokens [] = [] := by
  unfold tokens
  rfl

/-- White space in front of a word is passed over. -/
theorem tokens_space {c : Char} (space : isSpace c = true) (cs : List Char) :
    tokens (c :: cs) = tokens cs := by
  have stop : (c :: cs).dropWhile isKeyChar = c :: cs := by
    simp [isKeyChar_of_isSpace space]
  have other : c ≠ '=' := by
    rintro rfl
    revert space
    decide
  rw [tokens]
  split
  · next none_left => simp [stop] at none_left
  · next d rest found =>
    rw [stop] at found
    cases found
    rw [if_neg other]

/-- A key with a `=` behind it begins a token. -/
theorem tokens_key {key : List Char} (all : ∀ c ∈ key, isKeyChar c = true) (rest : List Char) :
    tokens (key ++ '=' :: rest) =
      ⟨.ofList key, .ofList (readValue rest).2.1, (readValue rest).1⟩ ::
        tokens (readValue rest).2.2 := by
  have stop : isKeyChar '=' = false := by decide
  have key_eq : (key ++ '=' :: rest).takeWhile isKeyChar = key := by
    simp [List.takeWhile_append_of_pos all, stop]
  have rest_eq : (key ++ '=' :: rest).dropWhile isKeyChar = '=' :: rest := by
    simp [List.dropWhile_append_of_pos all, stop]
  rw [tokens]
  split
  · next none_left => simp [rest_eq] at none_left
  · next d rest' found =>
    rw [rest_eq] at found
    cases found
    rw [if_pos rfl, key_eq]

/-- A value without quotes reaches to the next white space. -/
theorem readValue_plain {value rest : List Char} (word : ∀ c ∈ value, isSpace c = false)
    (unquoted : value.head? ≠ some '"') (ends : ∀ c ∈ rest.head?, isSpace c = true) :
    readValue (value ++ rest) = (false, value, rest) := by
  have word' : ∀ c ∈ value, (!isSpace c) = true := fun c mem => by simp [word c mem]
  have behind : rest.takeWhile (!isSpace ·) = [] ∧ rest.dropWhile (!isSpace ·) = rest := by
    cases rest with
    | nil => simp
    | cons c rest => simp [ends c rfl]
  have no_quote : ∀ tail, value ++ rest ≠ '"' :: tail := by
    intro tail same
    cases value with
    | cons c value => simp_all
    | nil =>
      -- an empty value has white space behind it, or nothing
      have quote : isSpace '"' = true := ends '"' (by simp_all)
      revert quote
      decide
  rw [readValue.eq_2 _ no_quote, List.takeWhile_append_of_pos word',
    List.dropWhile_append_of_pos word', behind.1, behind.2, List.append_nil]

/-- A written value is read back, if a space or nothing comes behind it. -/
theorem readValue_encode (value : String) (quoted : Bool) {rest : List Char}
    (ends : ∀ c ∈ rest.head?, isSpace c = true) :
    readValue ((encode value quoted).toList ++ rest) =
      (quoted || needsQuotes value, value.toList, rest) := by
  unfold encode
  split
  · next inside =>
    simp [readValue, quotedValue_escape, inside]
  · next plain =>
    obtain ⟨unmarked, free⟩ : quoted = false ∧ needsQuotes value = false := by simpa using plain
    obtain ⟨-, chars⟩ := plain_of_needsQuotes free
    have no_quote : value.toList.head? ≠ some '"' := by
      intro first
      exact (chars '"' (List.mem_of_mem_head? first)).2.1 rfl
    rw [readValue_plain (fun c mem => (chars c mem).1) no_quote ends, unmarked, free]
    rfl

/-! ## The tokens of notes -/

namespace Metadata

/-- Whether a value of a note is written in quotes: they are asked for, or needed. -/
def stands (m : Metadata) (f : Field) (value : String) : Bool :=
  m.quoted.contains f.key || needsQuotes value

/-- A note as the token that its word is read as. -/
def token? (m : Metadata) (f : Field) : Option Token :=
  (m.get f).map fun value => ⟨f.key, value, m.stands f value⟩

end Metadata

/-- To ask for quotes where they are needed changes nothing. -/
theorem encode_stands (m : Metadata) (f : Field) (value : String) :
    encode value (m.stands f value) = encode value (m.quoted.contains f.key) := by
  rw [encode, encode, Metadata.stands, Bool.or_assoc, Bool.or_self]

theorem isKeyChar_of_mem_key {f : Field} : ∀ c ∈ f.key.toList, isKeyChar c = true := by
  have all : f.key.toList.all isKeyChar = true := by
    cases f <;> decide
  exact List.all_eq_true.1 all

/-- A word of the line is read as the token of its note. -/
theorem tokens_word (m : Metadata) (f : Field) {rest : List Char}
    (ends : ∀ c ∈ rest.head?, isSpace c = true) :
    tokens ((word m f).toList ++ rest) = (m.token? f).toList ++ tokens rest := by
  cases note : m.get f with
  | none => simp [word, Metadata.token?, note]
  | some value =>
    have word_eq : (word m f).toList ++ rest =
        ' ' :: (f.key.toList ++
          '=' :: ((encode value (m.quoted.contains f.key)).toList ++ rest)) := by
      simp [word, note]
    rw [word_eq, tokens_space (by decide), tokens_key isKeyChar_of_mem_key,
      readValue_encode value _ ends]
    simp [Metadata.token?, note, Metadata.stands]

/-- The words of some notes begin with a space, if there are any. -/
theorem head?_words (m : Metadata) (fs : List Field) :
    ∀ c ∈ (String.join (fs.map (word m))).toList.head?, isSpace c = true := by
  induction fs with
  | nil => simp
  | cons f fs ih =>
    rw [List.map_cons, String.join_cons, String.toList_append]
    cases note : m.get f with
    | none => simpa [word, note] using ih
    | some value =>
      have space : isSpace ' ' = true := by decide
      simp [word, note, space]

theorem tokens_words (m : Metadata) (fs : List Field) :
    tokens (String.join (fs.map (word m))).toList = fs.filterMap m.token? := by
  induction fs with
  | nil => simp [tokens_nil]
  | cons f fs ih =>
    rw [List.map_cons, String.join_cons, String.toList_append, tokens_word m f (head?_words m fs),
      ih, List.filterMap_cons]
    cases m.token? f <;> rfl

/-! ## Taking the tokens over -/

/-- Whether a value can stand in a note: only that of a status has to be one of certain texts. -/
def Field.fits (f : Field) (value : String) : Bool :=
  f != .status || value == "Done" || value == "In progress" || value == "To Do"

/-- The texts that fit a status are those of the three. -/
theorem Field.fits_status_iff {value : String} :
    Field.status.fits value = true ↔ ∃ s : Status, s.text = value := by
  simp only [fits, bne_self_eq_false, Bool.false_or, Bool.or_eq_true, beq_iff_eq]
  constructor
  · rintro ((rfl | rfl) | rfl)
    · exact ⟨.done, rfl⟩
    · exact ⟨.inProgress, rfl⟩
    · exact ⟨.toDo, rfl⟩
  · rintro ⟨s, rfl⟩
    cases s <;> simp [Status.text]

namespace Metadata

variable {m n : Metadata} {f : Field} {value : String}

theorem fits_of_get (note : m.get f = some value) : f.fits value = true := by
  cases f with
  | status =>
    obtain ⟨status, -, text⟩ := Option.map_eq_some_iff.1 note
    exact Field.fits_status_iff.2 ⟨status, text⟩
  | _ => rfl

/-- A value that fits a note can be set there. -/
theorem set?_of_fits (fits : f.fits value = true) (n : Metadata) :
    ∃ n', n.set? value f = some n' ∧ n'.quoted = n.quoted ∧
      ∀ g, n'.get g = if g = f then some value else n.get g := by
  cases f with
  | status =>
    obtain ⟨status, rfl⟩ := Field.fits_status_iff.1 fits
    refine ⟨{ n with status := some status }, by simp [set?], rfl, ?_⟩
    intro g
    cases g <;> rfl
  | _ =>
    refine ⟨_, rfl, rfl, ?_⟩
    intro g
    cases g <;> rfl

/-- Taking over a value that fits a note sets this note, and no other, and marks it. -/
theorem assign_of_fits (fits : f.fits value = true) (text : value ≠ "") (n : Metadata)
    (quoted : Bool) :
    (∀ g, (n.assign f.key value quoted).get g = if g = f then some value else n.get g) ∧
      ∀ key, key ∈ (n.assign f.key value quoted).quoted ↔
        if key = f.key then quoted = true else key ∈ n.quoted := by
  obtain ⟨n', set, marks, get⟩ := set?_of_fits fits n
  have taken : n.assign f.key value quoted =
      if quoted then n'.quote f.key else n'.unquote f.key := by
    simp [assign, text, set]
  rw [taken]
  constructor
  · intro g
    rw [← get g]
    cases quoted <;> cases g <;> rfl
  · intro key
    cases quoted with
    | true => by_cases here : key = f.key <;> simp [quote, mem_insertKey, marks, here]
    | false => by_cases here : key = f.key <;> simp [unquote, marks, here]

theorem ofTokens_append (ts : List Token) (t : Token) :
    ofTokens (ts ++ [t]) = (ofTokens ts).assign t.key t.value t.quoted := by
  simp [ofTokens]

theorem get_empty (f : Field) : (({} : Metadata).get f) = none := by
  cases f <;> rfl

section Texts

variable (texts : ∀ f, m.get f ≠ some "")

include texts

/-- The tokens of some notes set these notes. -/
theorem get_ofTokens (fs : List Field) (g : Field) :
    (ofTokens (fs.filterMap m.token?)).get g = if g ∈ fs then m.get g else none := by
  -- from the back, since of several tokens for a note the last one counts
  induction fs using List.reverseRecOn with
  | nil => exact get_empty g
  | append_singleton fs f ih =>
    rw [List.filterMap_append]
    cases note : m.get f with
    | none =>
      by_cases here : g = f
      · subst here
        simp [token?, note, ih]
      · simp [token?, note, ih, here]
    | some value =>
      have text : value ≠ "" := fun empty => texts f (empty ▸ note)
      have token : [f].filterMap m.token? = [⟨f.key, value, m.stands f value⟩] := by
        simp [token?, note]
      rw [token, ofTokens_append, (assign_of_fits (fits_of_get note) text _ _).1, ih]
      by_cases here : g = f
      · simp [here, note]
      · simp [here]

/-- They mark the notes whose value stands in quotes. -/
theorem mem_quoted_ofTokens (fs : List Field) (g : Field) :
    g.key ∈ (ofTokens (fs.filterMap m.token?)).quoted ↔
      g ∈ fs ∧ ∃ value, m.get g = some value ∧ m.stands g value = true := by
  induction fs using List.reverseRecOn with
  | nil => simp [ofTokens]
  | append_singleton fs f ih =>
    rw [List.filterMap_append]
    cases note : m.get f with
    | none =>
      have token : [f].filterMap m.token? = [] := by simp [token?, note]
      rw [token, List.append_nil, ih, List.mem_append, List.mem_singleton]
      constructor
      · exact fun ⟨mem, set⟩ => ⟨.inl mem, set⟩
      · rintro ⟨mem | rfl, value, set, stands⟩
        · exact ⟨mem, value, set, stands⟩
        · rw [note] at set
          cases set
    | some value =>
      have text : value ≠ "" := fun empty => texts f (empty ▸ note)
      have token : [f].filterMap m.token? = [⟨f.key, value, m.stands f value⟩] := by
        simp [token?, note]
      rw [token, ofTokens_append, (assign_of_fits (fits_of_get note) text _ _).2, ih]
      by_cases here : g = f
      · subst here
        simp [note]
      · have keys : g.key ≠ f.key := fun same => here (Field.key_inj same)
        simp [here, keys]

end Texts

end Metadata

/-! ## The whole line -/

/-- What stands behind the marker is found there, if white space divides it from the marker and none
is left at its end. -/
theorem afterMarker?_append {words : String} (spaced : ∀ c ∈ words.toList.head?, isSpace c = true)
    (closed : ∀ c ∈ words.toList.getLast?, isSpace c = false) :
    afterMarker? (marker ++ words) = some words.toList := by
  have first : ∀ c ∈ (marker.toList ++ words.toList).head?, isSpace c = false := by
    have marked : marker.toList.head? = some '#' := by decide
    rw [List.head?_append, marked, Option.some_or]
    rintro c ⟨⟩
    decide
  have last : ∀ c ∈ (marker.toList ++ words.toList).getLast?, isSpace c = false := by
    have marked : marker.toList.getLast? = some 'e' := by decide
    refine getLast?_append_of ?_ closed
    rw [marked]
    rintro c ⟨⟩
    decide
  have stripped := stripBoth_eq_self first last
  have spaced' : words.toList.head?.all isSpace = true := (Option.all_eq_true _ _).2 spaced
  have marked : marker.toList.isPrefixOf (marker.toList ++ words.toList) = true := by
    rw [List.isPrefixOf_iff_prefix]
    exact List.prefix_append _ _
  simp only [afterMarker?, String.toList_append, stripped, List.drop_left, marked, spaced',
    Bool.and_self, if_true]

/-- The words of the notes are found behind the marker. -/
theorem afterMarker?_format {m : Metadata} {line : String} (h : format m = some line) :
    afterMarker? line = some (String.join (Field.all.map (word m))).toList := by
  have closed := getLast?_format h
  unfold format at h
  split at h
  · cases h
  · cases h
    refine afterMarker?_append (head?_words m Field.all) fun c last => closed c ?_
    rw [String.toList_append, List.getLast?_append, Option.mem_def.1 last, Option.some_or]
    exact Option.mem_some_self c

/-- A written line is read as the same notes. -/
theorem exists_parse_of_format {m : Metadata} {line : String} (texts : ∀ f, m.get f ≠ some "")
    (h : format m = some line) : ∃ n, parse line = some n ∧ n.same m = true := by
  refine ⟨.ofTokens (Field.all.filterMap m.token?), ?_, ?_⟩
  · rw [parse, afterMarker?_format h, Option.map_some, tokens_words]
  · refine Metadata.same_iff.2 fun f => ?_
    rw [Metadata.get_ofTokens texts, if_pos f.mem_all]

/-- Notes of which one is set, and none is the empty text, are written as a line that is read as
the same notes. These give the same line again, character for character. -/
theorem parse_format {m : Metadata} (some_set : m.isEmpty = false)
    (texts : ∀ f, m.get f ≠ some "") :
    ∃ line n, format m = some line ∧ parse line = some n ∧ n.same m = true ∧
      format n = some line := by
  obtain ⟨line, written⟩ : ∃ line, format m = some line := ⟨_, by rw [format, some_set]; rfl⟩
  have get := Metadata.get_ofTokens texts Field.all
  have marks := Metadata.mem_quoted_ofTokens texts Field.all
  set n := Metadata.ofTokens (Field.all.filterMap m.token?) with hn
  have get_eq (f : Field) : n.get f = m.get f := by
    rw [get f, if_pos f.mem_all]
  have read : parse line = some n := by
    rw [parse, afterMarker?_format written, Option.map_some, tokens_words, hn]
  have word_eq (f : Field) : word n f = word m f := by
    simp only [word, get_eq f]
    cases note : m.get f with
    | none => rfl
    | some value =>
      -- the mark is the one that the writing has left, so it decides as before
      have mark : n.quoted.contains f.key = m.stands f value := by
        rw [Bool.eq_iff_iff, List.contains_iff_mem, marks f]
        simp [f.mem_all, note]
      simp only [mark, encode_stands]
  have empty_eq : n.isEmpty = m.isEmpty := by simp [Metadata.isEmpty, get_eq]
  refine ⟨line, n, written, read, Metadata.same_iff.2 get_eq, ?_⟩
  rw [← written, format, format, empty_eq, List.map_congr_left fun f _ => word_eq f]

/-- A name with every delimiter in it, a status that needs quotes, an author who keeps those that
were asked for, and a tag that stands without. -/
theorem parse_format_delimiters :
    let m : Metadata :=
      { name := some "\t\"a\\\" = b\n", status := some .inProgress, author := some "eve",
        tag := some "#1", quoted := ["author", "tag_color"] }
    let line :=
      "# @node name=\"\t\\\"a\\\\\\\" = b\n\" status=\"In progress\" author=\"eve\" tag=#1"
    m.isEmpty = false ∧ (∀ f, m.get f ≠ some "") ∧
      ∃ n, parse line = some n ∧ n.same m = true ∧ format n = some line := by
  intro m line
  have texts : ∀ f, m.get f ≠ some "" := by
    intro f
    cases f <;> decide
  have shown : format m = some line := by decide +kernel
  obtain ⟨line', n, written, read, same, again⟩ := parse_format rfl texts
  obtain rfl : line' = line := Option.some_inj.1 (written.symm.trans shown)
  exact ⟨rfl, texts, n, read, same, again⟩

end StoryScript.Sidecar
