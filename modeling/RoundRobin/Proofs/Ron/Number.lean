import RoundRobin.Proofs.Digits
import RoundRobin.Proofs.Ron.Word

namespace RoundRobin.Ron

/-!
# Reading decimal numbers

A natural number of at most sixty-four bits that is written in decimal, without
a suffix, is read as that number where nothing joins it.
-/

theorem isIntegerPart_of_isDigit (isDigit : character.isDigit) :
    isIntegerPart character := by
  rw [isIntegerPart, isDigit]
  rfl

theorem isDecimalPart_of_isDigit (isDigit : character.isDigit) :
    isDecimalPart character := by
  rw [isDecimalPart, isDigit]
  rfl

/-- What can be part of an integer joins it. -/
theorem joins_of_isIntegerPart (part : isIntegerPart character) :
    joins character := by
  have ascii : character.toNat < 0x80 := by
    simp only [isIntegerPart, Bool.or_eq_true, beq_iff_eq, Bool.and_eq_true,
      decide_eq_true_eq] at part
    rcases part with ((isDigit | rfl) | ⟨_, atMost⟩) | ⟨_, atMost⟩
    · exact ascii_of_isDigit isDigit
    · decide
    · exact Nat.lt_of_le_of_lt (show character.toNat ≤ 102 from atMost) (by decide)
    · exact Nat.lt_of_le_of_lt (show character.toNat ≤ 70 from atMost) (by decide)
  exact
    forall_ascii
      (fun character => isIntegerPart character → joins character)
      (by decide) ascii part

/-- What can be part of a number with a fraction joins a number. -/
theorem joins_of_isDecimalPart (part : isDecimalPart character) :
    joins character := by
  have ascii : character.toNat < 0x80 := by
    simp only [isDecimalPart, Bool.or_eq_true, beq_iff_eq] at part
    rcases part with
      (((((isDigit | rfl) | rfl) | rfl) | rfl) | rfl) | rfl
    · exact ascii_of_isDigit isDigit
    all_goals decide
  exact
    forall_ascii
      (fun character => isDecimalPart character → joins character)
      (by decide) ascii part

/-- The digits of a number stand for what they are written for. -/
theorem digitsValue?_of_isDigit
    (isDigit : ∀ character ∈ digits, character.isDigit)
    (value : Nat) :
    digitsValue? 10 value digits =
      some (Nat.ofDigitChars 10 digits value) := by
  induction digits generalizing value with
  | nil => rfl
  | cons digit digits inductionHypothesis =>
      have first := isDigit digit List.mem_cons_self
      have noUnderscore : digit ≠ '_' := by
        rintro rfl
        cases first
      have same : digitValue digit = digit.toNat - '0'.toNat := by
        rw [digitValue, if_pos first]
      have small : digitValue digit < 10 := by
        have atMost : digit.toNat ≤ 57 := (Char.isDigit_iff_toNat.mp first).2
        rw [same, show '0'.toNat = 48 from rfl]
        omega
      rw [digitsValue?, if_pos small, Nat.ofDigitChars_cons, Nat.mul_comm 10,
        ← same]
      · exact
          inductionHypothesis
            (fun other member => isDigit other (List.mem_cons_of_mem _ member))
            _
      · exact noUnderscore

/-- Digits are split off what joins nothing to them. -/
theorem splitDecimal_append
    (isDigit : ∀ character ∈ digits, character.isDigit)
    (parted : Parted rest) :
    splitDecimal (digits ++ rest) = (digits, rest) := by
  induction digits with
  | nil =>
      cases rest with
      | nil => rfl
      | cons character rest =>
          have separate := parted character rfl
          rw [List.nil_append, splitDecimal, if_neg]
          · intro part
            rw [joins_of_isDecimalPart part] at separate
            cases separate
          · rintro _ rfl
            cases separate
  | cons digit digits inductionHypothesis =>
      have first := isDigit digit List.mem_cons_self
      rw [List.cons_append, splitDecimal,
        if_pos (isDecimalPart_of_isDigit first),
        inductionHypothesis fun other member =>
          isDigit other (List.mem_cons_of_mem _ member)]
      · rintro _ rfl
        cases first

/-- No suffix follows where nothing joins a number. -/
theorem suffix?_eq_none (parted : Parted rest) :
    suffix? rest = none := by
  have all :
      ∀ entry ∈ widths,
        entry.1.toList ≠ [] ∧ entry.1.toList.all joins := by
    decide
  rw [suffix?, List.findSome?_eq_none_iff]
  intro entry member
  obtain ⟨nonempty, joining⟩ := all entry member
  have missing : take? entry.1 rest = none := by
    rw [take?, if_neg]
    intro begins
    have within : entry.1.toList <+: [] :=
      isPrefix_of_parted parted (List.all_eq_true.mp joining)
        (List.isPrefixOf_iff_prefix.mp begins)
    exact nonempty (List.prefix_nil.mp within)
  simp only [takeWord?, missing, Option.filter_none, Option.map_none]

/-- Digits of which the second is a character of its own kind carry no mark of a base. -/
theorem baseMark_append
    (isDigit : ∀ character ∈ digits, character.isDigit)
    (nonempty : digits ≠ [])
    (parted : Parted rest) :
    baseMark (digits ++ rest) = (10, digits ++ rest) := by
  have noMark :
      ∀ letter later,
        Text.isIdentifierPart letter →
        letter.isDigit = false →
        digits ++ rest ≠ '0' :: letter :: later := by
    intro letter later part noDigit same
    cases digits with
    | nil => exact nonempty rfl
    | cons first digits =>
        obtain ⟨_, following⟩ := List.cons.inj same
        cases digits with
        | nil =>
            have separate := parted letter (congrArg List.head? following)
            rw [joins, part] at separate
            cases separate
        | cons second digits =>
            obtain ⟨rfl, _⟩ := List.cons.inj following
            have digit :=
              isDigit second
                (List.mem_cons_of_mem _ List.mem_cons_self)
            rw [noDigit] at digit
            cases digit
  unfold baseMark
  split
  · next later same => exact (noMark 'b' later rfl rfl same).elim
  · next later same => exact (noMark 'o' later rfl rfl same).elim
  · next later same => exact (noMark 'x' later rfl rfl same).elim
  · rfl

/-- A number without a sign in front of it. -/
theorem sign_of_isDigit
    (isDigit : digit.isDigit)
    (rest : List Char) :
    sign (digit :: rest) = (false, digit :: rest) := by
  unfold sign
  split
  · next same =>
      cases same
      cases isDigit
  · next same =>
      cases same
      cases isDigit
  · rfl

/-- A natural number of at most sixty-four bits needs no suffix. -/
theorem holds_unmarkedWidth
    {n : Nat}
    (fits : n < UInt64.size) :
    unmarkedWidth.holds n := by
  have least : unmarkedWidth.least = -9223372036854775808 := by decide
  have greatest : unmarkedWidth.greatest = UInt64.size - 1 := by decide
  simp only [Width.holds, least, greatest, Bool.and_eq_true,
    decide_eq_true_eq]
  omega

/-- A number is read as an integer where nothing joins it. -/
theorem integer_repr
    {n : Nat}
    (fits : n < UInt64.size)
    (parted : Parted rest) :
    integer (n.repr.toList ++ rest) =
      .ok ({ value := n, suffix := none }, rest) := by
  have isDigit :
      ∀ character ∈ n.repr.toList, character.isDigit :=
    fun _ => isDigit_of_mem_repr
  have parts :
      ∀ character ∈ n.repr.toList, isIntegerPart character :=
    fun _ member => isIntegerPart_of_isDigit (isDigit_of_mem_repr member)
  have stops : rest.takeWhile isIntegerPart = [] :=
    parted.takeWhile_eq_nil fun _ => joins_of_isIntegerPart
  have taken :
      (n.repr.toList ++ rest).takeWhile isIntegerPart = n.repr.toList := by
    rw [List.takeWhile_append_of_pos parts, stops, List.append_nil]
  have dropped :
      (n.repr.toList ++ rest).dropWhile isIntegerPart = rest := by
    rw [List.dropWhile_append_of_pos parts,
      dropWhile_of_takeWhile_eq_nil stops]
  have value : digitsValue? 10 0 n.repr.toList = some n := by
    rw [digitsValue?_of_isDigit isDigit, Nat.toList_repr,
      Nat.ofDigitChars_ten_toDigits]
  obtain ⟨digit, digits, written, first⟩ := exists_digit_repr n
  have nonempty : n.repr.toList ≠ [] := by
    rw [written]
    exact List.cons_ne_nil _ _
  have unsigned :
      sign (n.repr.toList ++ rest) = (false, n.repr.toList ++ rest) := by
    rw [written]
    exact sign_of_isDigit first _
  have noUnderscore : (n.repr.toList.head? == some '_') = false := by
    rw [written, beq_eq_false_iff_ne]
    rintro ⟨⟩
    cases first
  have whole :
      unsignedInteger false unmarkedWidth (n.repr.toList ++ rest) =
        .ok (n, rest) := by
    simp only [unsignedInteger, baseMark_append isDigit nonempty parted, taken,
      dropped, value, List.isEmpty_eq_false_iff.mpr nonempty, noUnderscore,
      Bool.or_self, Bool.false_eq_true, ↓reduceIte, holds_unmarkedWidth fits]
  simp only [integer, unsigned, dropped, suffix?_eq_none parted, whole]

/-- A number is read as such where nothing joins it. -/
theorem number?_repr
    {n : Nat}
    (fits : n < UInt64.size)
    (parted : Parted rest) :
    number? (n.repr.toList ++ rest) =
      some (.integer { value := n, suffix := none }, rest) := by
  obtain ⟨digit, digits, written, first⟩ := exists_digit_repr n
  have unsigned :
      sign (n.repr.toList ++ rest) = (false, n.repr.toList ++ rest) := by
    rw [written]
    exact sign_of_isDigit first _
  have split :=
    splitDecimal_append
      (fun _ member => isDigit_of_mem_repr (n := n) member) parted
  have atLeast :
      n.repr.toList.length ≤
        ((n.repr.toList ++ rest).takeWhile isIntegerPart).length := by
    rw [List.takeWhile_append_of_pos, List.length_append]
    · exact Nat.le_add_right _ _
    · exact fun _ member =>
        isIntegerPart_of_isDigit (isDigit_of_mem_repr member)
  simp only [number?, unsigned, split]
  rw [if_neg (Nat.not_lt.mpr atLeast), integer_repr fits parted]

/-- None of the words that mean something else than a name starts with a digit. -/
theorem takeWord?_of_isDigit
    (isDigit : digit.isDigit)
    (member : word ∈ reserved)
    (rest : List Char) :
    takeWord? word (digit :: rest) = none := by
  have all :
      ∀ word ∈ reserved,
        (word.toList.head?.any fun first => !first.isDigit) := by
    decide
  have letter := all word member
  rcases written : word.toList with _ | ⟨first, later⟩
  · rw [written] at letter
    cases letter
  · rw [written, List.head?_cons, Option.any_some] at letter
    have different : (first == digit) = false := by
      rw [beq_eq_false_iff_ne]
      rintro rfl
      rw [isDigit] at letter
      cases letter
    simp only [takeWord?, take?, written, List.isPrefixOf, different,
      Bool.false_and, Bool.false_eq_true, ↓reduceIte, Option.filter_none]

/-- Where there is a digit, a number starts. -/
theorem startsBound_of_isDigit
    (isDigit : digit.isDigit)
    (rest : List Char) :
    startsBound (digit :: rest) := by
  unfold startsBound
  split
  · rw [Bool.or_true]
  · next same =>
      cases same
      rw [isDigit, Bool.true_or, Bool.true_or, Bool.true_or, Bool.or_true]
  · next same => cases same

/-- A number that ends where nothing joins it is read on its own. -/
theorem numeric_repr
    {n : Nat}
    (fits : n < UInt64.size)
    (parted : Parted rest) :
    numeric (n.repr.toList ++ rest) =
      some (.number (.integer { value := n, suffix := none }), rest) := by
  obtain ⟨digit, digits, written, first⟩ := exists_digit_repr n
  have noSpecial : specialWord? (n.repr.toList ++ rest) = none := by
    rw [specialWord?, List.findSome?_eq_none_iff, written]
    intro word member
    exact takeWord?_of_isDigit first (List.mem_append_right _ member) _
  have bound :
      bound? (n.repr.toList ++ rest) =
        some (.number (.integer { value := n, suffix := none }), rest) := by
    simp only [bound?, noSpecial]
    split
    · next later same =>
        rw [written] at same
        cases same
        cases first
    · rw [number?_repr fits parted]
      rfl
  unfold numeric
  split
  · next later same =>
      rw [written] at same
      obtain ⟨rfl, _⟩ := List.cons.inj same
      cases first
  · rw [bound]
    split
    · next same => cases same
    · next first' later same =>
        cases same
        have separate := parted '.' rfl
        cases separate
    · next bound' later _ same =>
        cases same
        rfl

end RoundRobin.Ron
