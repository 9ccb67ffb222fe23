import Mathlib.Data.Bool.AllAny
import RoundRobin.Proofs.Ron.Grammar

namespace RoundRobin.Ron

/-!
# Reading words

A word is read in full where nothing joins it: no character that could be part
of it, and none that would make it the start of something quoted. It is then
taken for no other word.
-/

/-- Whether a character behind a word or a number makes it something else. -/
def joins (character : Char) : Bool :=
  Text.isIdentifierPart character ||
    ['"', '\'', '#', '.', '+', '-'].contains character

/-- What follows a word or a number joins nothing to it. -/
def Parted (rest : List Char) : Prop :=
  ∀ character ∈ rest.head?, joins character = false

/-- Nothing is taken from what joins nothing. -/
theorem Parted.takeWhile_eq_nil
    (parted : Parted rest)
    {part : Char → Bool}
    (joining : ∀ character, part character → joins character) :
    rest.takeWhile part = [] := by
  cases rest with
  | nil => rfl
  | cons character rest =>
      rw [List.takeWhile_cons, if_neg]
      intro isPart
      have joined := joining character isPart
      rw [parted character rfl] at joined
      cases joined

/-- Where nothing is taken, nothing is dropped. -/
theorem dropWhile_of_takeWhile_eq_nil
    {part : Char → Bool}
    {input : List Char}
    (stops : input.takeWhile part = []) :
    input.dropWhile part = input := by
  have parts := List.takeWhile_append_dropWhile (p := part) (l := input)
  rwa [stops, List.nil_append] at parts

/-- What holds of the characters of ASCII, one by one, holds of each of them. -/
theorem forall_ascii
    (holds : Char → Prop)
    (all : ∀ code < 0x80, holds (Char.ofNat code))
    (ascii : character.toNat < 0x80) :
    holds character := by
  have given := all character.toNat ascii
  rwa [Char.ofNat_toNat] at given

theorem ascii_of_isDigit
    {character : Char}
    (isDigit : character.isDigit) :
    character.toNat < 0x80 :=
  Nat.lt_of_le_of_lt (Char.isDigit_iff_toNat.mp isDigit).2 (by decide)

/-- White space joins nothing. -/
theorem joins_of_isBlank (blank : isBlank character) :
    joins character = false := by
  have all :
      ∀ code ∈
        [0x09, 0x0a, 0x0b, 0x0c, 0x0d, 0x20, 0x85, 0x200e, 0x200f, 0x2028,
          0x2029],
        joins (Char.ofNat code) = false := by
    decide
  have member :
      character.toNat ∈
        [0x09, 0x0a, 0x0b, 0x0c, 0x0d, 0x20, 0x85, 0x200e, 0x200f, 0x2028,
          0x2029] := by
    unfold isBlank at blank
    split at blank
    all_goals simp_all
  have separate := all _ member
  rwa [Char.ofNat_toNat] at separate

/-- An identifier can go on with whatever it can start with. -/
theorem isIdentifierPart_of_isIdentifierStart
    (starts : Text.isIdentifierStart character) :
    Text.isIdentifierPart character := by
  unfold Text.isIdentifierStart at starts
  unfold Text.isIdentifierPart
  split at starts
  · next ascii =>
      rw [if_pos ascii]
      simp only [Char.isAlphanum, Bool.or_eq_true] at starts ⊢
      exact starts.imp_left .inl
  · next beyond =>
      rw [if_neg beyond, starts, Bool.true_or]

/-- All characters of a name can be part of an identifier. -/
theorem IsName.isIdentifierPart
    (isName : IsName word) :
    ∀ character ∈ word.toList, Text.isIdentifierPart character := by
  obtain ⟨first, rest, written, starts, goesOn⟩ := isName
  rw [written]
  intro character member
  rcases List.mem_cons.mp member with rfl | later
  · exact isIdentifierPart_of_isIdentifierStart starts
  · exact goesOn character later

/-- What consists of joining characters does not reach beyond a word that nothing joins. -/
theorem isPrefix_of_parted
    (parted : Parted rest)
    (joining : ∀ character ∈ start, joins character)
    (begins : start <+: word ++ rest) :
    start <+: word := by
  obtain ⟨later, same⟩ := begins
  rcases List.append_eq_append_iff.mp same with
    ⟨remainder, rfl, _⟩ | ⟨further, rfl, following⟩
  · exact List.prefix_append start remainder
  · cases further with
    | nil => simp only [List.append_nil, List.prefix_rfl]
    | cons character further =>
        subst following
        have joined :=
          joining character
            (List.mem_append_right _ List.mem_cons_self)
        rw [parted character rfl] at joined
        cases joined

/-- No name goes on where nothing joins it. -/
theorem Parted.continuesName
    (parted : Parted rest) :
    continuesName rest = false := by
  cases rest with
  | nil => rfl
  | cons character rest =>
      have separate := parted character rfl
      rw [joins, Bool.or_eq_false_iff] at separate
      exact separate.1

/-- A word is taken where nothing joins it. -/
theorem takeWord?_append
    (word : String)
    (parted : Parted rest) :
    takeWord? word (word.toList ++ rest) = some rest := by
  have begins : word.toList.isPrefixOf (word.toList ++ rest) :=
    List.isPrefixOf_iff_prefix.mpr (List.prefix_append _ _)
  rw [takeWord?, take?, if_pos begins, ← String.length_toList, List.drop_left]
  simp [parted.continuesName]

/-- The word is not at the front of the input, or it is only part of a longer one. -/
theorem takeWord?_eq_none
    (isName : IsName word)
    (parted : Parted rest)
    (letters :
      ∀ character ∈ other.toList, Text.isIdentifierPart character)
    (different : other ≠ word) :
    takeWord? other (word.toList ++ rest) = none := by
  unfold takeWord? take?
  split
  · next begins =>
      have joining :
          ∀ character ∈ other.toList, joins character := by
        intro character member
        rw [joins, letters character member, Bool.true_or]
      obtain ⟨further, written⟩ :=
        isPrefix_of_parted parted joining (List.isPrefixOf_iff_prefix.mp begins)
      cases further with
      | nil =>
          rw [List.append_nil] at written
          exact (different (String.toList_inj.mp written)).elim
      | cons character further =>
          have goesOn : Text.isIdentifierPart character := by
            apply isName.isIdentifierPart
            rw [← written]
            exact List.mem_append_right _ List.mem_cons_self
          rw [← written, ← String.length_toList, List.append_assoc,
            List.drop_left]
          simp [continuesName, goesOn]
  · rfl

/-- A word is not taken for the start of something quoted. -/
theorem take?_quotationStart
    (isName : IsName word)
    (parted : Parted rest)
    (member : start ∈ quotationStarts) :
    take? start (word.toList ++ rest) = none := by
  have all :
      ∀ start ∈ quotationStarts,
        start.toList.all joins ∧
          start.toList.any fun character => !Text.isIdentifierPart character := by
    decide
  obtain ⟨joining, other⟩ := all start member
  rw [List.all_eq_true] at joining
  obtain ⟨character, within, noPart⟩ := List.any_eq_true.mp other
  unfold take?
  split
  · next begins =>
      have prefixed :=
        isPrefix_of_parted parted joining (List.isPrefixOf_iff_prefix.mp begins)
      have goesOn :=
        isName.isIdentifierPart character (prefixed.subset within)
      rw [goesOn] at noPart
      cases noPart
  · rfl

/-- A name is read where nothing joins it. -/
theorem name?_append
    (isName : IsName word)
    (parted : Parted rest) :
    name? (word.toList ++ rest) = some (word, rest) := by
  have noQuotation :
      (quotationStarts.any fun start =>
        (take? start (word.toList ++ rest)).isSome) = false := by
    rw [List.any_eq_false]
    intro start member
    rw [take?_quotationStart isName parted member]
    decide
  have stops : rest.takeWhile Text.isIdentifierPart = [] :=
    parted.takeWhile_eq_nil fun character part => by
      rw [joins, part, Bool.true_or]
  have taken :
      (word.toList ++ rest).takeWhile Text.isIdentifierPart =
        word.toList := by
    rw [List.takeWhile_append_of_pos isName.isIdentifierPart, stops,
      List.append_nil]
  have dropped :
      (word.toList ++ rest).dropWhile Text.isIdentifierPart = rest := by
    rw [List.dropWhile_append_of_pos isName.isIdentifierPart,
      dropWhile_of_takeWhile_eq_nil stops]
  unfold name?
  rw [if_neg (by rw [noQuotation]; decide)]
  split
  · next marked later written =>
      have prefixed : ['r', '#'] <+: word.toList := by
        apply isPrefix_of_parted parted (List.all_eq_true.mp (by decide))
        rw [written]
        exact ⟨later, rfl⟩
      have part :=
        isName.isIdentifierPart '#'
          (prefixed.subset (List.mem_cons_of_mem _ List.mem_cons_self))
      cases part
  · next written =>
      obtain ⟨first, later, spelled, _⟩ := isName
      rw [spelled] at written
      cases written
  · next character later written =>
      obtain ⟨first, later', spelled, starts, _⟩ := isName
      rw [spelled] at written
      obtain ⟨rfl, _⟩ := List.cons.inj written
      rw [if_pos starts, taken, dropped, String.ofList_toList]

/-- The words that need not be names are not at the front of a name. -/
theorem takeWord?_reserved
    (isName : IsName word)
    (free : word ∉ reserved)
    (parted : Parted rest)
    (member : other ∈ reserved) :
    takeWord? other (word.toList ++ rest) = none := by
  have letters :
      ∀ other ∈ reserved, other.toList.all Text.isIdentifierPart := by
    decide
  apply takeWord?_eq_none isName parted (List.all_eq_true.mp (letters other member))
  rintro rfl
  exact free member

/-- No identifier starts like a number. -/
theorem startsNumber_of_isIdentifierStart
    (starts : Text.isIdentifierStart character) :
    (character.isDigit || character == '+' || character == '-' ||
      character == '.') = false := by
  by_cases ascii : character.toNat < 0x80
  · exact
      forall_ascii
        (fun character =>
          Text.isIdentifierStart character →
          (character.isDigit || character == '+' || character == '-' ||
            character == '.') = false)
        (by decide) ascii starts
  · rw [Bool.eq_false_iff]
    intro number
    simp only [Bool.or_eq_true, beq_iff_eq] at number
    rcases number with ((isDigit | rfl) | rfl) | rfl
    · exact ascii (ascii_of_isDigit isDigit)
    all_goals exact ascii (by decide)

/-- A name is not the start of a number. -/
theorem startsBound_append
    (isName : IsName word)
    (free : word ∉ reserved)
    (parted : Parted rest) :
    startsBound (word.toList ++ rest) = false := by
  have noSpecial : specialWord? (word.toList ++ rest) = none := by
    rw [specialWord?, List.findSome?_eq_none_iff]
    intro other member
    exact
      takeWord?_reserved isName free parted (List.mem_append_right _ member)
  unfold startsBound
  rw [noSpecial, Option.isSome_none, Bool.false_or]
  split
  · next further same =>
      have prefixed : ['b', '\''] <+: word.toList := by
        apply isPrefix_of_parted parted (List.all_eq_true.mp (by decide))
        rw [same]
        exact ⟨further, rfl⟩
      have part :=
        isName.isIdentifierPart '\''
          (prefixed.subset (List.mem_cons_of_mem _ List.mem_cons_self))
      cases part
  · next character further _ same =>
      obtain ⟨first, later, written, starts, _⟩ := isName
      rw [written] at same
      obtain ⟨rfl, _⟩ := List.cons.inj same
      exact startsNumber_of_isIdentifierStart starts
  · rfl

end RoundRobin.Ron
