/-
Module: Abacus.Proofs.JsonRoundTrip
Purpose: JSON values are read back from their text, in either layout.
Main exports: Json.readValue?_write, Json.readItems?_write, Json.readFields?_write,
  Json.ofText?_toText
-/
import Abacus.Proofs.JsonNumbers
import Abacus.Proofs.JsonQuotation

namespace Abacus.Json

open Text

/-!
The writer and the reader go through a value in the same order, so a value is read back whatever
follows its text, unless that prolongs a number.  Layout adds blanks alone, which the reader skips.
Every value, item and closing bracket takes the reader one unit of fuel and the writer at least one
character, so the length of the text bounds the fuel.
-/

/-! ### Blanks -/

theorem skipSpaces_cons {c : Char} (other : isSpace c = false) (cs : List Char) :
    skipSpaces (c :: cs) = c :: cs := by
  simp [skipSpaces, other]

theorem skipSpaces_append {blanks : List Char} (blank : ∀ c ∈ blanks, isSpace c = true)
    (cs : List Char) : skipSpaces (blanks ++ cs) = skipSpaces cs :=
  List.dropWhile_append_of_pos blank

theorem isSpace_of_mem_singleton : ∀ c ∈ [' '], isSpace c = true :=
  List.all_eq_true.1 rfl

namespace Layout

theorem isSpace_of_mem_lineBreak (layout : Layout) (level : Nat) :
    ∀ c ∈ layout.lineBreak level, isSpace c = true := by
  intro c mem
  cases layout with
  | compact => cases mem
  | indented width =>
      rcases List.mem_cons.1 mem with rfl | space
      · rfl
      · rw [List.eq_of_mem_replicate space]
        rfl

/-- Between two items stand a comma and blanks. -/
theorem exists_separator (layout : Layout) (level : Nat) :
    ∃ blanks, layout.separator level = ',' :: blanks ∧ ∀ c ∈ blanks, isSpace c = true := by
  cases layout with
  | compact => exact ⟨[' '], rfl, isSpace_of_mem_singleton⟩
  | indented width => exact ⟨_, rfl, isSpace_of_mem_lineBreak (.indented width) level⟩

end Layout

/-- Blanks before a value are skipped. -/
theorem readValue?_append {blanks : List Char} (blank : ∀ c ∈ blanks, isSpace c = true)
    (fuel : Nat) (cs : List Char) : readValue? fuel (blanks ++ cs) = readValue? fuel cs := by
  cases fuel with
  | zero => rfl
  | succ fuel => rw [readValue?, readValue?, skipSpaces_append blank]

/-! ### What follows a value -/

section Endings

variable (layout : Layout) (level : Nat) {rest : List Char}

theorem endsNumber_blanks (blank : ∀ c ∈ rest, isSpace c = true) : EndsNumber rest := by
  intro c head
  have space := blank c (List.mem_of_head? head)
  rw [isSpace, decide_eq_true_eq] at space
  rcases space with rfl | rfl | rfl | rfl <;> decide

theorem endsNumber_lineBreak {c : Char} (closing : c = ']' ∨ c = '\x7d') (rest : List Char) :
    EndsNumber (layout.lineBreak level ++ c :: rest) := by
  intro d head
  cases layout with
  | indented width =>
      cases head
      decide
  | compact =>
      cases head
      rcases closing with rfl | rfl
      · decide
      · decide

theorem endsNumber_separator (rest : List Char) :
    EndsNumber (layout.separator level ++ rest) := by
  obtain ⟨blanks, written, _⟩ := layout.exists_separator level
  intro c head
  rw [written] at head
  cases head
  decide

theorem endsNumber_writeItems (ends : EndsNumber rest) (items : List Json) :
    EndsNumber (writeItems layout level items ++ rest) := by
  cases items with
  | nil => exact ends
  | cons item items =>
      rw [writeItems, List.append_assoc, List.append_assoc]
      exact endsNumber_separator layout level _

theorem endsNumber_writeFields (ends : EndsNumber rest) (fields : List (String × Json)) :
    EndsNumber (writeFields layout level fields ++ rest) := by
  cases fields with
  | nil => exact ends
  | cons field fields =>
      obtain ⟨name, item⟩ := field
      simp only [writeFields, List.append_assoc]
      exact endsNumber_separator layout level _

end Endings

/-! ### Single values -/

/-- A number is recognized by its first character. -/
theorem readValue?_of_startsNumber {cs : List Char} (starts : StartsNumber cs) (fuel : Nat) :
    readValue? (fuel + 1) cs = readNumber? cs := by
  obtain ⟨c, ds, rfl, first⟩ := starts
  have other : ∀ {d : Char}, d ≠ '-' → d.isDigit = false → c ≠ d := by
    rintro d notMinus notDigit rfl
    rcases first with minus | digit
    · exact notMinus minus
    · cases notDigit.symm.trans digit
  have notSpace : isSpace c = false := by
    simp [isSpace, other]
  rw [readValue?, skipSpaces_cons notSpace]
  split
  case h_7 => rfl
  all_goals
    rename_i same
    cases same
    exact absurd rfl (other (by decide) (by decide))

/-- A name is read back with its colon. -/
theorem readName?_quote (name : String) (rest : List Char) :
    readName? (quote name ++ ':' :: rest) = some (name, rest) := by
  obtain ⟨inner, written, read⟩ := readQuoted?_quote name (':' :: rest)
  have colon : skipSpaces (':' :: rest) = ':' :: rest := skipSpaces_cons (by decide) rest
  rw [written, readName?, read]
  simp only [colon]

/-- Blanks before a name are skipped. -/
theorem readName?_append {blanks : List Char} (blank : ∀ c ∈ blanks, isSpace c = true)
    (name : String) (rest : List Char) :
    readName? (skipSpaces (blanks ++ (quote name ++ ':' :: rest))) = some (name, rest) := by
  have first : skipSpaces (quote name ++ ':' :: rest) = quote name ++ ':' :: rest :=
    skipSpaces_cons (by decide) _
  rw [skipSpaces_append blank, first, readName?_quote]

/-! ### Lists and objects -/

section Brackets

variable {fuel : Nat} {cs behind more rest : List Char}

theorem readValue?_skipSpaces (fuel : Nat) (cs : List Char) :
    readValue? fuel (skipSpaces cs) = readValue? fuel cs := by
  have blank : ∀ c ∈ cs.takeWhile isSpace, isSpace c = true :=
    List.all_eq_true.1 List.all_takeWhile
  rw [← readValue?_append blank, skipSpaces, List.takeWhile_append_dropWhile]

/-- No value starts with a closing bracket. -/
theorem readValue?_closing (fuel : Nat) (rest : List Char) :
    readValue? fuel (']' :: rest) = none := by
  cases fuel with
  | zero => rfl
  | succ fuel => rfl

theorem readValue?_list {item : Json} {items : List Json}
    (first : readValue? fuel cs = some (item, behind))
    (others : readItems? fuel behind = some (items, rest)) :
    readValue? (fuel + 1) ('[' :: cs) = some (.list (item :: items), rest) := by
  have bracket : skipSpaces ('[' :: cs) = '[' :: cs := skipSpaces_cons (by decide) cs
  rw [← readValue?_skipSpaces] at first
  rw [readValue?, bracket]
  simp only
  split
  · -- What can be read as a value is not the end of an empty list.
    rename_i closing
    rw [closing, readValue?_closing] at first
    cases first
  · rw [first]
    simp only [Option.bind_eq_bind, Option.bind_some, others]

theorem readItems?_cons {item : Json} {items : List Json} (comma : skipSpaces cs = ',' :: behind)
    (first : readValue? fuel behind = some (item, more))
    (others : readItems? fuel more = some (items, rest)) :
    readItems? (fuel + 1) cs = some (item :: items, rest) := by
  rw [readItems?, comma]
  simp only [first, Option.bind_eq_bind, Option.bind_some, others]

theorem readValue?_object {name : String} {item : Json} {fields : List (String × Json)}
    (named : readName? (skipSpaces cs) = some (name, behind))
    (first : readValue? fuel behind = some (item, more))
    (others : readFields? fuel more = some (fields, rest)) :
    readValue? (fuel + 1) ('\x7b' :: cs) = some (.object ((name, item) :: fields), rest) := by
  have brace : skipSpaces ('\x7b' :: cs) = '\x7b' :: cs := skipSpaces_cons (by decide) cs
  rw [readValue?, brace]
  simp only
  split
  · rename_i closing
    rw [closing] at named
    cases named
  · rw [named]
    simp only [Option.bind_eq_bind, Option.bind_some, first, others]

theorem readFields?_cons {name : String} {item : Json} {fields : List (String × Json)}
    {value : List Char} (comma : skipSpaces cs = ',' :: behind)
    (named : readName? (skipSpaces behind) = some (name, value))
    (first : readValue? fuel value = some (item, more))
    (others : readFields? fuel more = some (fields, rest)) :
    readFields? (fuel + 1) cs = some ((name, item) :: fields, rest) := by
  rw [readFields?, comma]
  simp only [named, first, Option.bind_eq_bind, Option.bind_some, others]

end Brackets

/-!
### Whole values

The three inductions follow the writer.  What comes behind an item is arbitrary, so the statements
about items and fields name the closing part that they stop at.
-/

mutual

/-- A value is read back from its text. -/
theorem readValue?_write (layout : Layout) : ∀ (value : Json) (level fuel : Nat)
    (rest : List Char), (write layout level value).length ≤ fuel + 1 → EndsNumber rest →
      readValue? (fuel + 1) (write layout level value ++ rest) = some (value, rest)
  | null, _, _, _, _, _ => by
      rw [write, readValue?]
      rfl
  | bool true, _, _, _, _, _ => by
      rw [write, readValue?]
      rfl
  | bool false, _, _, _, _, _ => by
      rw [write, readValue?]
      rfl
  | int value, _, _, rest, _, ends => by
      rw [write, readValue?_of_startsNumber ((startsNumber_integer value).append rest),
        readNumber?_integer value ends]
  | decimal value, _, _, rest, _, ends => by
      rw [write, readValue?_of_startsNumber ((startsNumber_decimal value).append rest),
        readNumber?_decimal value ends]
  | text value, _, _, rest, _, _ => by
      obtain ⟨inner, written, read⟩ := readQuoted?_quote value rest
      rw [write, written, readValue?, skipSpaces_cons (by decide)]
      simp only [read]
      rfl
  | list [], _, _, rest, _, _ => by
      rw [write, readValue?]
      rfl
  | list (item :: items), level, fuel, rest, enough, _ => by
      simp only [write, List.length_append, List.length_cons, List.length_nil] at enough
      obtain ⟨fuel, rfl⟩ : ∃ less, fuel = less + 1 := ⟨fuel - 1, by omega⟩
      have ends : EndsNumber (layout.lineBreak level ++ ']' :: rest) :=
        endsNumber_lineBreak layout level (.inl rfl) rest
      have closes : skipSpaces (layout.lineBreak level ++ ']' :: rest) = ']' :: rest := by
        rw [skipSpaces_append (layout.isSpace_of_mem_lineBreak level), skipSpaces_cons (by decide)]
      have first := readValue?_write layout item (level + 1) fuel _ (by omega)
        (endsNumber_writeItems layout (level + 1) ends items)
      have others := readItems?_write layout items (level + 1) fuel _ rest (by omega) ends closes
      rw [← readValue?_append (layout.isSpace_of_mem_lineBreak (level + 1))] at first
      have read := readValue?_list first others
      simpa [write] using read
  | object [], _, _, rest, _, _ => by
      rw [write, readValue?]
      rfl
  | object ((name, item) :: fields), level, fuel, rest, enough, _ => by
      simp only [write, List.length_append, List.length_cons, List.length_nil] at enough
      obtain ⟨fuel, rfl⟩ : ∃ less, fuel = less + 1 := ⟨fuel - 1, by omega⟩
      have ends : EndsNumber (layout.lineBreak level ++ '\x7d' :: rest) :=
        endsNumber_lineBreak layout level (.inr rfl) rest
      have closes : skipSpaces (layout.lineBreak level ++ '\x7d' :: rest) = '\x7d' :: rest := by
        rw [skipSpaces_append (layout.isSpace_of_mem_lineBreak level), skipSpaces_cons (by decide)]
      have first := readValue?_write layout item (level + 1) fuel _ (by omega)
        (endsNumber_writeFields layout (level + 1) ends fields)
      have others := readFields?_write layout fields (level + 1) fuel _ rest (by omega) ends closes
      rw [← readValue?_append isSpace_of_mem_singleton] at first
      have read := readValue?_object
        (readName?_append (layout.isSpace_of_mem_lineBreak (level + 1)) name _) first others
      simpa [write] using read

/-- The items after the first are read back up to the closing bracket. -/
theorem readItems?_write (layout : Layout) : ∀ (items : List Json) (level fuel : Nat)
    (closing rest : List Char), (writeItems layout level items).length ≤ fuel →
      EndsNumber closing → skipSpaces closing = ']' :: rest →
        readItems? (fuel + 1) (writeItems layout level items ++ closing) = some (items, rest)
  | [], _, _, closing, rest, _, _, closes => by
      rw [writeItems, List.nil_append, readItems?, closes]
      rfl
  | item :: items, level, fuel, closing, rest, enough, ends, closes => by
      obtain ⟨blanks, written, blank⟩ := layout.exists_separator level
      simp only [writeItems, written, List.length_append, List.length_cons] at enough
      obtain ⟨fuel, rfl⟩ : ∃ less, fuel = less + 1 := ⟨fuel - 1, by omega⟩
      have first := readValue?_write layout item level fuel _ (by omega)
        (endsNumber_writeItems layout level ends items)
      have others := readItems?_write layout items level fuel closing rest (by omega) ends closes
      rw [← readValue?_append blank] at first
      have read := readItems?_cons (skipSpaces_cons (by decide) _) first others
      simpa [writeItems, written] using read

/-- The fields after the first are read back up to the closing brace. -/
theorem readFields?_write (layout : Layout) : ∀ (fields : List (String × Json)) (level fuel : Nat)
    (closing rest : List Char), (writeFields layout level fields).length ≤ fuel →
      EndsNumber closing → skipSpaces closing = '\x7d' :: rest →
        readFields? (fuel + 1) (writeFields layout level fields ++ closing) = some (fields, rest)
  | [], _, _, closing, rest, _, _, closes => by
      rw [writeFields, List.nil_append, readFields?, closes]
      rfl
  | (name, item) :: fields, level, fuel, closing, rest, enough, ends, closes => by
      obtain ⟨blanks, written, blank⟩ := layout.exists_separator level
      simp only [writeFields, written, List.length_append, List.length_cons] at enough
      obtain ⟨fuel, rfl⟩ : ∃ less, fuel = less + 1 := ⟨fuel - 1, by omega⟩
      have first := readValue?_write layout item level fuel _ (by omega)
        (endsNumber_writeFields layout level ends fields)
      have others := readFields?_write layout fields level fuel closing rest (by omega) ends closes
      rw [← readValue?_append isSpace_of_mem_singleton] at first
      have read := readFields?_cons (skipSpaces_cons (by decide) _)
        (readName?_append blank name _) first others
      simpa [writeFields, written] using read

end

/-- The text of a value may end in blanks. -/
theorem read?_toText (value : Json) (indent : Option Nat) {blanks : List Char}
    (blank : ∀ c ∈ blanks, isSpace c = true) :
    read? ((value.toText indent).toList ++ blanks) = some value := by
  have enough : (write (indent.elim .compact .indented) 0 value).length ≤
      2 * ((value.toText indent).toList ++ blanks).length + 1 + 1 := by
    simp [toText]
    omega
  have read := readValue?_write (indent.elim .compact .indented) value 0 _ blanks enough
    (endsNumber_blanks blank)
  have none : skipSpaces blanks = [] := by
    rw [← List.append_nil blanks, skipSpaces_append blank]
    rfl
  rw [toText, String.toList_ofList] at read ⊢
  rw [read?, read]
  exact if_pos none

end Abacus.Json
