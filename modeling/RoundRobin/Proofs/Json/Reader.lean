import RoundRobin.Proofs.Digits
import RoundRobin.Proofs.Json.Grammar

namespace RoundRobin

/-!
# Reading JSON texts

A reader that takes one token after the other. It reads whatever the grammar
allows, so a text means one document at most.
-/

namespace Json

/-- The text from the first character on that is no white space. -/
def skipBlanks (input : List Char) : List Char :=
  input.dropWhile isBlank

/-- Read a character and then more, up to a closing quote. -/
def prepend
    (character? : Option Char)
    (read? : Option (List Char × List Char)) :
    Option (List Char × List Char) :=
  character?.bind fun character =>
    read?.map fun (content, rest) => (character :: content, rest)

/-- Read a text up to its closing quote. -/
def readText : List Char → Option (List Char × List Char)
  | [] => none
  | '"' :: rest => some ([], rest)
  | '\\' :: 'u' :: first :: second :: third :: fourth :: rest =>
      prepend (codePoint? first second third fourth) (readText rest)
  | '\\' :: letter :: rest => prepend (shortEscape? letter) (readText rest)
  | character :: rest =>
      if character.toNat < 0x20 then none
      else prepend (some character) (readText rest)

/-- Read the name of a field and the colon. -/
def readName (input : List Char) : Option (String × List Char) :=
  match skipBlanks input with
  | '"' :: rest =>
      (readText rest).bind fun (name, rest) =>
        match skipBlanks rest with
        | ':' :: rest => some (String.ofList name, rest)
        | _ => none
  | _ => none

/-- Read a number, which starts with a zero only if it is zero. -/
def readNumber (input : List Char) : Option (Json × List Char) :=
  let digits := input.takeWhile Char.isDigit
  let n := Nat.ofDigitChars 10 digits 0
  if n.repr.toList = digits then
    some (.number n, input.dropWhile Char.isDigit)
  else
    none

/-- Go on after the white space that follows what was read. -/
def skipped : α × List Char → α × List Char :=
  fun (given, rest) => (given, skipBlanks rest)

mutual

/-- Read a document; the text has no white space before it. -/
def read : (fuel : Nat) → List Char → Option (Json × List Char)
  | 0, _ => none
  | fuel + 1, input =>
      match input with
      | '"' :: rest =>
          (readText rest).map fun (content, rest) =>
            (.text (String.ofList content), rest)
      | '[' :: rest =>
          match skipBlanks rest with
          | ']' :: rest => some (.array [], rest)
          | _ =>
              (readItems fuel rest).map fun (items, rest) =>
                (.array items, rest)
      | '\x7b' :: rest =>
          match skipBlanks rest with
          | '\x7d' :: rest => some (.object [], rest)
          | _ =>
              (readFields fuel rest).map fun (fields, rest) =>
                (.object fields, rest)
      | input => readNumber input

/-- Read the items of an array and its closing bracket. -/
def readItems : (fuel : Nat) → List Char → Option (List Json × List Char)
  | 0, _ => none
  | fuel + 1, input =>
      match (read fuel (skipBlanks input)).map skipped with
      | some (item, ',' :: rest) =>
          (readItems fuel rest).map fun (items, rest) =>
            (item :: items, rest)
      | some (item, ']' :: rest) => some ([item], rest)
      | _ => none

/-- Read the fields of an object and its closing brace. -/
def readFields :
    (fuel : Nat) →
    List Char →
    Option (List (String × Json) × List Char)
  | 0, _ => none
  | fuel + 1, input =>
      match
        (readName input).bind fun (name, rest) =>
          ((read fuel (skipBlanks rest)).map skipped).map
            fun (content, rest) => ((name, content), rest)
      with
      | some (field, ',' :: rest) =>
          (readFields fuel rest).map fun (fields, rest) =>
            (field :: fields, rest)
      | some (field, '\x7d' :: rest) => some ([field], rest)
      | _ => none

end

/-- Read a document with white space around it. -/
def readElement
    (fuel : Nat)
    (input : List Char) :
    Option (Json × List Char) :=
  (read fuel (skipBlanks input)).map skipped

/-- Read a field with white space around it. -/
def readField
    (fuel : Nat)
    (input : List Char) :
    Option ((String × Json) × List Char) :=
  (readName input).bind fun (name, rest) =>
    (readElement fuel rest).map fun (content, rest) =>
      ((name, content), rest)

/-- The document that a text means, if it is well formed. -/
def parse? (text : String) : Option Json :=
  match readElement text.length text.toList with
  | some (document, []) => some document
  | _ => none

/-- What follows a document, white space aside: the text ends, or another token comes. -/
def Delimits (rest : List Char) : Prop :=
  ∀ character ∈ rest.head?,
    character = ',' ∨ character = ']' ∨ character = '\x7d'

/-- White space is skipped. -/
theorem skipBlanks_append
    (blanks : Blanks before)
    (rest : List Char) :
    skipBlanks (before ++ rest) = skipBlanks rest := by
  exact List.dropWhile_append_of_pos blanks

theorem skipBlanks_cons
    (visible : isBlank character = false)
    (rest : List Char) :
    skipBlanks (character :: rest) = character :: rest := by
  simp [skipBlanks, visible]

theorem skipBlanks_of_delimits (delimits : Delimits rest) :
    skipBlanks rest = rest := by
  cases rest with
  | nil => rfl
  | cons character rest =>
      apply skipBlanks_cons
      rcases delimits character rfl with rfl | rfl | rfl
      all_goals rfl

/-- No digit follows a document. -/
theorem takeWhile_isDigit_of_delimits
    (blanks : Blanks before)
    (delimits : Delimits rest) :
    (before ++ rest).takeWhile Char.isDigit = [] := by
  cases before with
  | nil =>
      cases rest with
      | nil => rfl
      | cons character rest =>
          rcases delimits character rfl with rfl | rfl | rfl
          all_goals rfl
  | cons character before =>
      have blank := blanks character List.mem_cons_self
      simp only [isBlank, Bool.or_eq_true, decide_eq_true_eq] at blank
      rcases blank with ((rfl | rfl) | rfl) | rfl
      all_goals rfl

/-- A text that is spelled out is read up to its closing quote. -/
theorem readText_of_spells
    (spells : SpellsText spelling content)
    (rest : List Char) :
    readText (spelling ++ '"' :: rest) = some (content, rest) := by
  induction spells with
  | nil => rfl
  | @plain _ _ character printable noQuote noBackslash _ inductionHypothesis =>
      rw [List.cons_append, readText]
      · simp [inductionHypothesis, prepend, Nat.not_lt.mpr printable]
      · exact noQuote
      · exact fun _ _ _ _ _ same => (noBackslash same).elim
      · exact fun _ _ same => (noBackslash same).elim
  | @short letter _ _ _ escapes _ inductionHypothesis =>
      have other : letter ≠ 'u' := by
        rintro rfl
        cases escapes
      rw [List.cons_append, List.cons_append, readText, escapes,
        inductionHypothesis]
      · rfl
      · rintro _ _ _ _ _ rfl
        exact (other rfl).elim
  | unicode escapes _ inductionHypothesis =>
      simp [readText, escapes, inductionHypothesis, prepend]

/-- A number in decimal is read up to what is no digit. -/
theorem readNumber_repr
    (n : Nat)
    (undigited : rest.takeWhile Char.isDigit = []) :
    readNumber (n.repr.toList ++ rest) = some (.number n, rest) := by
  have digits :
      ∀ character ∈ n.repr.toList, character.isDigit :=
    fun _ => isDigit_of_mem_repr
  have taken :
      (n.repr.toList ++ rest).takeWhile Char.isDigit = n.repr.toList := by
    rw [List.takeWhile_append_of_pos digits, undigited, List.append_nil]
  have dropped : rest.dropWhile Char.isDigit = rest := by
    have parts :=
      List.takeWhile_append_dropWhile (p := Char.isDigit) (l := rest)
    rwa [undigited, List.nil_append] at parts
  have value : Nat.ofDigitChars 10 n.repr.toList 0 = n := by
    rw [Nat.toList_repr]
    exact Nat.ofDigitChars_ten_toDigits
  simp only [readNumber, taken, value, ↓reduceIte,
    List.dropWhile_append_of_pos digits, dropped]

theorem isBlank_of_isDigit
    (isDigit : digit.isDigit) :
    isBlank digit = false := by
  rw [Bool.eq_false_iff]
  intro blank
  simp only [isBlank, Bool.or_eq_true, decide_eq_true_eq] at blank
  rcases blank with ((rfl | rfl) | rfl) | rfl
  all_goals cases isDigit

/-- White space aside, it starts with a character that closes nothing. -/
def Opens (spelling : List Char) : Prop :=
  ∀ rest,
    ∃ character following,
      skipBlanks (spelling ++ rest) = character :: following ∧
        character ≠ ']' ∧
        character ≠ '\x7d'

theorem Opens.append
    (opens : Opens spelling)
    (others : List Char) :
    Opens (spelling ++ others) := by
  intro rest
  rw [List.append_assoc]
  exact opens (others ++ rest)

theorem opens_append_cons
    (blanks : Blanks before)
    (visible : isBlank character = false)
    (noBracket : character ≠ ']')
    (noBrace : character ≠ '\x7d')
    (others : List Char) :
    Opens (before ++ character :: others) := by
  intro rest
  rw [List.append_assoc, skipBlanks_append blanks, List.cons_append,
    skipBlanks_cons visible]
  exact ⟨_, _, rfl, noBracket, noBrace⟩

/-- A document does not start with a closing bracket. -/
theorem exists_opening
    (spells : Spells (.document document) spelling) :
    ∃ character rest,
      spelling = character :: rest ∧
        isBlank character = false ∧
        character ≠ ']' ∧
        character ≠ '\x7d' := by
  cases spells with
  | number n =>
      obtain ⟨digit, rest, written, isDigit⟩ := exists_digit_repr n
      refine ⟨digit, rest, written, isBlank_of_isDigit isDigit, ?_, ?_⟩
      · rintro rfl
        cases isDigit
      · rintro rfl
        cases isDigit
  | text _ => exact ⟨_, _, rfl, rfl, by decide, by decide⟩
  | emptyArray _ => exact ⟨_, _, rfl, rfl, by decide, by decide⟩
  | array _ => exact ⟨_, _, rfl, rfl, by decide, by decide⟩
  | emptyObject _ => exact ⟨_, _, rfl, rfl, by decide, by decide⟩
  | object _ => exact ⟨_, _, rfl, rfl, by decide, by decide⟩

theorem opens_of_element
    (spells : Spells (.element document) spelling) :
    Opens spelling := by
  cases spells with
  | element leading written trailing =>
      obtain ⟨character, rest, rfl, visible, noBracket, noBrace⟩ :=
        exists_opening written
      rw [List.append_assoc]
      exact opens_append_cons leading visible noBracket noBrace _

theorem opens_of_field
    (spells : Spells (.field name document) spelling) :
    Opens spelling := by
  cases spells with
  | field leading _ _ _ =>
      exact opens_append_cons leading rfl (by decide) (by decide) _

/-- What stands between brackets does not start with a closing one. -/
theorem opens_of_items
    (spells : Spells (.items documents) spelling) :
    Opens spelling := by
  cases spells with
  | lastItem item => exact opens_of_element item
  | moreItems item _ => exact (opens_of_element item).append _

/-- What stands between braces does not start with a closing one. -/
theorem opens_of_fields
    (spells : Spells (.fields named) spelling) :
    Opens spelling := by
  cases spells with
  | lastField field => exact opens_of_field field
  | moreFields field _ => exact (opens_of_field field).append _

/-- The reader reads the phrase where it is spelled so, and goes on behind it. -/
def Phrase.IsRead (spelling : List Char) : Phrase → Prop
  | .document written =>
      ∀ fuel rest,
        spelling.length ≤ fuel →
        rest.takeWhile Char.isDigit = [] →
        read fuel (spelling ++ rest) = some (written, rest)
  | .element written =>
      ∀ fuel rest,
        spelling.length ≤ fuel →
        Delimits rest →
        readElement fuel (spelling ++ rest) = some (written, rest)
  | .field name content =>
      ∀ fuel rest,
        spelling.length ≤ fuel →
        Delimits rest →
        readField fuel (spelling ++ rest) = some ((name, content), rest)
  | .items documents =>
      ∀ fuel rest,
        spelling.length < fuel →
        readItems fuel (spelling ++ ']' :: rest) = some (documents, rest)
  | .fields named =>
      ∀ fuel rest,
        spelling.length < fuel →
        readFields fuel (spelling ++ '\x7d' :: rest) = some (named, rest)

/-- A document that starts with a digit is a number. -/
theorem read_of_isDigit
    (isDigit : digit.isDigit)
    (fuel : Nat)
    (rest : List Char) :
    read (fuel + 1) (digit :: rest) = readNumber (digit :: rest) := by
  rw [read]
  · rintro _ ⟨⟩
    cases isDigit
  · rintro _ ⟨⟩
    cases isDigit
  · rintro _ ⟨⟩
    cases isDigit

/-- An array that is not closed at once has items. -/
theorem read_array
    (opens : Opens spelling)
    (fuel : Nat)
    (rest : List Char) :
    read (fuel + 1) ('[' :: (spelling ++ rest)) =
      (readItems fuel (spelling ++ rest)).map fun (items, rest) =>
        (.array items, rest) := by
  obtain ⟨character, following, opening, noBracket, _⟩ := opens rest
  simp only [read, opening]
  split
  · next closed => exact (noBracket (List.cons.inj closed).1).elim
  · rfl

/-- An object that is not closed at once has fields. -/
theorem read_object
    (opens : Opens spelling)
    (fuel : Nat)
    (rest : List Char) :
    read (fuel + 1) ('\x7b' :: (spelling ++ rest)) =
      (readFields fuel (spelling ++ rest)).map fun (fields, rest) =>
        (.object fields, rest) := by
  obtain ⟨character, following, opening, _, noBrace⟩ := opens rest
  simp only [read, opening]
  split
  · next closed => exact (noBrace (List.cons.inj closed).1).elim
  · rfl

/-- A number is read up to its last digit. -/
theorem isRead_number (n : Nat) :
    (Phrase.document (.number n)).IsRead n.repr.toList := by
  intro fuel rest enough undigited
  obtain ⟨digit, digits, written, isDigit⟩ := exists_digit_repr n
  have same := readNumber_repr n undigited
  rw [written] at enough same ⊢
  cases fuel with
  | zero => cases enough
  | succ fuel => exact (read_of_isDigit isDigit fuel _).trans same

/-- An array is read if its items are. -/
theorem isRead_array
    (content : Spells (.items documents) spelling)
    (isRead : (Phrase.items documents).IsRead spelling) :
    (Phrase.document (.array documents)).IsRead ('[' :: (spelling ++ [']'])) := by
  intro fuel rest enough _
  simp only [List.length_cons, List.length_append, List.length_nil] at enough
  cases fuel with
  | zero => omega
  | succ fuel =>
      have given := isRead fuel rest (by omega)
      simp only [List.cons_append, List.append_assoc, List.nil_append,
        read_array (opens_of_items content), given, Option.map_some]

/-- An object is read if its fields are. -/
theorem isRead_object
    (content : Spells (.fields named) spelling)
    (isRead : (Phrase.fields named).IsRead spelling) :
    (Phrase.document (.object named)).IsRead
      ('\x7b' :: (spelling ++ ['\x7d'])) := by
  intro fuel rest enough _
  simp only [List.length_cons, List.length_append, List.length_nil] at enough
  cases fuel with
  | zero => omega
  | succ fuel =>
      have given := isRead fuel rest (by omega)
      simp only [List.cons_append, List.append_assoc, List.nil_append,
        read_object (opens_of_fields content), given, Option.map_some]

/-- A document is read with the blanks around it. -/
theorem isRead_element
    (leading : Blanks before)
    (written : Spells (.document document) spelling)
    (trailing : Blanks after)
    (isRead : (Phrase.document document).IsRead spelling) :
    (Phrase.element document).IsRead (before ++ spelling ++ after) := by
  intro fuel rest enough delimits
  have undigited := takeWhile_isDigit_of_delimits trailing delimits
  obtain ⟨character, following, rfl, visible, _⟩ := exists_opening written
  simp only [List.length_append] at enough
  have given := isRead fuel (after ++ rest) (by omega) undigited
  simp only [List.append_assoc, readElement, skipBlanks_append leading]
  rw [List.cons_append, skipBlanks_cons visible]
  rw [List.cons_append] at given
  simp only [given, Option.map_some, skipped, skipBlanks_append trailing,
    skipBlanks_of_delimits delimits]

/-- The name of a field is read up to the colon. -/
theorem readName_append
    (leading : Blanks before)
    (quoted : SpellsText spelling name.toList)
    (trailing : Blanks after)
    (rest : List Char) :
    readName (before ++ '"' :: (spelling ++ '"' :: (after ++ ':' :: rest))) =
      some (name, rest) := by
  rw [readName, skipBlanks_append leading, skipBlanks_cons rfl]
  simp only [readText_of_spells quoted, Option.bind_some,
    skipBlanks_append trailing]
  rw [skipBlanks_cons rfl]
  simp only [String.ofList_toList]

/-- A field is read if its content is. -/
theorem isRead_field
    (leading : Blanks before)
    (quoted : SpellsText spelling name.toList)
    (trailing : Blanks after)
    (isRead : (Phrase.element content).IsRead others) :
    (Phrase.field name content).IsRead
      (before ++ '"' :: (spelling ++ '"' :: (after ++ ':' :: others))) := by
  intro fuel rest enough delimits
  simp only [List.length_append, List.length_cons] at enough
  have named := readName_append leading quoted trailing (others ++ rest)
  simp only [List.append_assoc, List.cons_append, readField, named,
    Option.bind_some, isRead fuel rest (by omega) delimits, Option.map_some]

/-- Items are read if the first one and the others are. -/
theorem isRead_moreItems
    (item : (Phrase.element document).IsRead spelling)
    (more : (Phrase.items documents).IsRead others) :
    (Phrase.items (document :: documents)).IsRead (spelling ++ ',' :: others) := by
  intro fuel rest enough
  simp only [List.length_append, List.length_cons] at enough
  cases fuel with
  | zero => cases enough
  | succ fuel =>
      have given :=
        item fuel (',' :: (others ++ ']' :: rest)) (by omega) (by simp [Delimits])
      have given' := more fuel rest (by omega)
      rw [readElement] at given
      rw [List.append_assoc, List.cons_append, readItems, given]
      simp only [given', Option.map_some]

/-- Fields are read if the first one and the others are. -/
theorem isRead_moreFields
    (field : (Phrase.field name content).IsRead spelling)
    (more : (Phrase.fields named).IsRead others) :
    (Phrase.fields ((name, content) :: named)).IsRead
      (spelling ++ ',' :: others) := by
  intro fuel rest enough
  simp only [List.length_append, List.length_cons] at enough
  cases fuel with
  | zero => cases enough
  | succ fuel =>
      have given :=
        field fuel (',' :: (others ++ '\x7d' :: rest)) (by omega)
          (by simp [Delimits])
      have given' := more fuel rest (by omega)
      simp only [readField, readElement] at given
      rw [List.append_assoc, List.cons_append, readFields, given]
      simp only [given', Option.map_some]

/-- The reader reads whatever is spelled out. -/
theorem isRead_of_spells
    (spells : Spells phrase spelling) :
    phrase.IsRead spelling := by
  -- A bracket or a comma takes a unit of fuel, and what is behind it is shorter.
  induction spells with
  | number n => exact isRead_number n
  | text quoted =>
      intro fuel rest enough _
      cases fuel with
      | zero => cases enough
      | succ fuel =>
          simp only [List.cons_append, List.append_assoc, List.nil_append,
            read, readText_of_spells quoted, Option.map_some,
            String.ofList_toList]
  | emptyArray blanks =>
      intro fuel rest enough _
      cases fuel with
      | zero => cases enough
      | succ fuel =>
          simp only [List.cons_append, List.append_assoc, List.nil_append,
            read, skipBlanks_append blanks]
          rfl
  | array content isRead => exact isRead_array content isRead
  | emptyObject blanks =>
      intro fuel rest enough _
      cases fuel with
      | zero => cases enough
      | succ fuel =>
          simp only [List.cons_append, List.append_assoc, List.nil_append,
            read, skipBlanks_append blanks]
          rfl
  | object content isRead => exact isRead_object content isRead
  | element leading written trailing isRead =>
      exact isRead_element leading written trailing isRead
  | field leading quoted trailing _ isRead =>
      exact isRead_field leading quoted trailing isRead
  | lastItem _ isRead =>
      intro fuel rest enough
      cases fuel with
      | zero => cases enough
      | succ fuel =>
          have given := isRead fuel (']' :: rest) (by omega) (by simp [Delimits])
          rw [readElement] at given
          rw [readItems, given]
          rfl
  | moreItems _ _ item more => exact isRead_moreItems item more
  | lastField _ isRead =>
      intro fuel rest enough
      cases fuel with
      | zero => cases enough
      | succ fuel =>
          have given :=
            isRead fuel ('\x7d' :: rest) (by omega) (by simp [Delimits])
          simp only [readField, readElement] at given
          rw [readFields, given]
          rfl
  | moreFields _ _ field more => exact isRead_moreFields field more

/-- A well-formed text is read as the document that it means. -/
theorem parse?_of_means
    {text : String}
    (means : Means text document) :
    parse? text = some document := by
  have given :=
    isRead_of_spells means text.length [] (Nat.le_of_eq String.length_toList)
      (by simp [Delimits])
  rw [List.append_nil] at given
  rw [parse?, given]

/-- A text means one document at most. -/
theorem Means.unique
    {text : String}
    (means : Means text document)
    (means' : Means text document') :
    document = document' := by
  have same := (parse?_of_means means).symm.trans (parse?_of_means means')
  exact Option.some.inj same

end Json

end RoundRobin
