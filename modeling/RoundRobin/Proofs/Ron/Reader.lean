import RoundRobin.Proofs.Ron.Blank
import RoundRobin.Proofs.Ron.Number

namespace RoundRobin.Ron

/-!
# Reading what is spelled

Whatever the grammar spells is read as the tree that it means, provided that
nothing joins it and that there are two levels to spare for each list or record
that it is nested in. A bare name is read together with the blanks behind it,
so what is left is the same only up to blanks.
-/

/-- A character that something starts with, rather than a blank, a comment or an end. -/
structure Opens (character : Char) : Prop where
  visible : isBlank character = false
  plain : character ∉ ['/', ')', ']', '#']

/-- What would join a word opens something of its own, but for an attribute. -/
theorem opens_of_joins
    (joining : joins character)
    (noAttribute : character ≠ '#') :
    Opens character where
  visible := by
    rw [Bool.eq_false_iff]
    intro blank
    rw [joins_of_isBlank blank] at joining
    cases joining
  plain := by
    have all :
        ∀ other ∈ ['/', ')', ']', '#'],
          other = '#' ∨ joins other = false :=
      List.all_iff_forall_prop.mp (by decide)
    intro member
    rcases all character member with sharp | separate
    · exact noAttribute sharp
    · rw [separate] at joining
      cases joining

theorem opens_of_isIdentifierStart
    (starts : Text.isIdentifierStart character) :
    Opens character := by
  apply opens_of_joins
  · rw [joins, isIdentifierPart_of_isIdentifierStart starts]
    rfl
  · rintro rfl
    cases starts

theorem opens_of_isDigit
    {character : Char}
    (isDigit : character.isDigit) :
    Opens character := by
  apply opens_of_joins
  · exact joins_of_isIntegerPart (isIntegerPart_of_isDigit isDigit)
  · rintro rfl
    cases isDigit

theorem Opens.noSlash (opens : Opens character) : character ≠ '/' := by
  rintro rfl
  exact opens.plain List.mem_cons_self

theorem IsName.opens
    (isName : IsName word)
    (rest : List Char) :
    ∃ first later, word.toList ++ rest = first :: later ∧ Opens first := by
  obtain ⟨first, later, written, starts, _⟩ := isName
  rw [written]
  exact ⟨first, later ++ rest, rfl, opens_of_isIdentifierStart starts⟩

/-- Values start with a character that ends nothing. -/
theorem exists_opening
    (spells : Spells depth (.value tree) spelling)
    (rest : List Char) :
    ∃ first later, spelling ++ rest = first :: later ∧ Opens first := by
  have simple
      {first : Char}
      (later : List Char)
      (visible : isBlank first = false)
      (plain : first ∉ ['/', ')', ']', '#']) :
      ∃ first' later', first :: later = first' :: later' ∧ Opens first' :=
    ⟨first, later, rfl, visible, plain⟩
  cases spells with
  | boolean flag =>
      cases flag
      · exact simple ('a' :: 'l' :: 's' :: 'e' :: rest) rfl (by decide)
      · exact simple ('r' :: 'u' :: 'e' :: rest) rfl (by decide)
  | @number _ n fits =>
      obtain ⟨digit, digits, written, isDigit⟩ := exists_digit_repr n
      rw [written]
      exact ⟨digit, digits ++ rest, rfl, opens_of_isDigit isDigit⟩
  | name isName free => exact isName.opens rest
  | list content => exact simple _ rfl (by decide)
  | record named content =>
      cases named with
      | none => exact simple _ rfl (by decide)
      | some isName free trailing =>
          rw [List.append_assoc, List.append_assoc]
          exact isName.opens _

/-- Nothing joins blanks, and nothing joins what comes behind them. -/
theorem Blanks.parted
    (blanks : Blanks before)
    (parted : Parted rest) :
    Parted (before ++ rest) := by
  cases blanks with
  | nil => exact parted
  | space blank _ =>
      rintro character ⟨⟩
      exact joins_of_isBlank blank
  | lineComment _ _ =>
      rintro character ⟨⟩
      rfl
  | blockComment _ _ =>
      rintro character ⟨⟩
      rfl

/-- What may follow a value: nothing that joins it, and no parenthesis behind blanks. -/
structure Follows (rest : List Char) : Prop where
  parted : Parted rest
  ends :
    ∃ following,
      skipBlank rest = some following ∧ following.head? ≠ some '('

/-- A comma or an end behind blanks may follow a value. -/
theorem follows_append
    (blanks : Blanks before)
    (member : character ∈ [',', ')', ']'])
    (rest : List Char) :
    Follows (before ++ character :: rest) := by
  have all :
      ∀ character ∈ [',', ')', ']'],
        joins character = false ∧ isBlank character = false ∧
          character ≠ '/' ∧ character ≠ '(' :=
    List.all_iff_forall_prop.mp (by decide)
  obtain ⟨separate, visible, noSlash, noParenthesis⟩ := all character member
  refine ⟨blanks.parted ?_, character :: rest, ?_, ?_⟩
  · rintro _ ⟨⟩
    exact separate
  · rw [skipBlank_append blanks, skipBlank_cons visible noSlash]
  · rintro ⟨⟩
    exact noParenthesis rfl

/-- The end of a text may follow a value. -/
theorem follows_of_lastBlanks (blanks : LastBlanks after) :
    Follows after := by
  refine ⟨?_, [], skipBlank_of_lastBlanks blanks, by decide⟩
  cases blanks with
  | blanks blanks =>
      have parted : Parted [] := by
        rintro _ ⟨⟩
      have after := blanks.parted parted
      rwa [List.append_nil] at after
  | lineComment blanks _ =>
      apply blanks.parted
      rintro _ ⟨⟩
      rfl

/-- A spelling that the reader takes for the element, wherever it may stand. -/
structure ReadBy
    (one : Reader α)
    (spelling : List Char)
    (element : α) :
    Prop where
  opens :
    ∀ rest,
      ∃ first later, spelling ++ rest = first :: later ∧ Opens first
  reads :
    ∀ rest,
      Follows rest →
      ∃ following,
        one (spelling ++ rest) = some (element, following) ∧
          skipBlank following = skipBlank rest

/-- Nothing is skipped in front of what the reader takes for the element. -/
theorem ReadBy.skipBlank_append
    {one : Reader α}
    {element : α}
    (read : ReadBy one spelling element)
    (rest : List Char) :
    skipBlank (spelling ++ rest) = some (spelling ++ rest) := by
  obtain ⟨first, later, written, opens⟩ := read.opens rest
  rw [written, skipBlank_cons opens.visible opens.noSlash]

section Elements

variable
  {one : Reader α}
  {closing : Char}
  {limit : Nat}

/-- Elements are read from the first character on that is not skipped. -/
theorem commaSeparated_congr
    {input input' : List Char}
    (same : skipBlank input = skipBlank input') :
    commaSeparated one closing limit input =
      commaSeparated one closing limit input' := by
  cases limit with
  | zero => rfl
  | succ limit => rw [commaSeparated, commaSeparated, same]

/-- A closing character is neither skipped nor the start of an element. -/
theorem closing_kind (closes : closing ∈ [')', ']']) :
    isBlank closing = false ∧ closing ≠ '/' ∧ closing ≠ ',' ∧
      closing ∈ ['/', ')', ']', '#'] ∧ closing ∈ [',', ')', ']'] := by
  have all :
      ∀ closing ∈ [')', ']'],
        isBlank closing = false ∧ closing ≠ '/' ∧ closing ≠ ',' ∧
          closing ∈ ['/', ')', ']', '#'] ∧ closing ∈ [',', ')', ']'] :=
    List.all_iff_forall_prop.mp (by decide)
  exact all closing closes

/-- There are no elements in front of the end. -/
theorem commaSeparated_nil
    (closes : closing ∈ [')', ']'])
    (blanks : Blanks before)
    (rest : List Char) :
    commaSeparated one closing (limit + 1) (before ++ closing :: rest) =
      some ([], rest) := by
  obtain ⟨visible, noSlash, _⟩ := closing_kind closes
  rw [commaSeparated, skipBlank_append blanks,
    skipBlank_cons visible noSlash]
  simp only [beq_self_eq_true, ↓reduceIte]

variable {element : α}

/-- An element with the end behind it is the last one. -/
theorem commaSeparated_last
    (closes : closing ∈ [')', ']'])
    (leading : Blanks before)
    (read : ReadBy one spelling element)
    (trailing : Blanks after)
    (rest : List Char) :
    commaSeparated one closing (limit + 1)
        (before ++ spelling ++ after ++ closing :: rest) =
      some ([element], rest) := by
  obtain ⟨visible, noSlash, noComma, closing', follows⟩ :=
    closing_kind closes
  obtain ⟨first, later, written, opens⟩ :=
    read.opens (after ++ closing :: rest)
  obtain ⟨following, reads, skipped⟩ :=
    read.reads _ (follows_append trailing follows rest)
  have noEnd : (first == closing) = false := by
    rw [beq_eq_false_iff_ne]
    rintro rfl
    exact opens.plain closing'
  rw [skipBlank_append trailing, skipBlank_cons visible noSlash] at skipped
  rw [List.append_assoc, List.append_assoc, commaSeparated,
    skipBlank_append leading, read.skipBlank_append, written]
  rw [written] at reads
  simp only [noEnd, Bool.false_eq_true, ↓reduceIte, reads, skipped]
  rw [if_pos (beq_self_eq_true closing)]

/-- Behind an element with a comma, there may be more of them. -/
theorem commaSeparated_more
    (closes : closing ∈ [')', ']'])
    (leading : Blanks before)
    (read : ReadBy one spelling element)
    (trailing : Blanks after)
    (rest : List Char) :
    commaSeparated one closing (limit + 1)
        (before ++ spelling ++ after ++ ',' :: rest) =
      (commaSeparated one closing limit rest).map fun (elements, rest) =>
        (element :: elements, rest) := by
  obtain ⟨_, _, _, closing', _⟩ := closing_kind closes
  obtain ⟨first, later, written, opens⟩ :=
    read.opens (after ++ ',' :: rest)
  obtain ⟨following, reads, skipped⟩ :=
    read.reads _ (follows_append trailing List.mem_cons_self rest)
  have noEnd : (first == closing) = false := by
    rw [beq_eq_false_iff_ne]
    rintro rfl
    exact opens.plain closing'
  rw [skipBlank_append trailing, skipBlank_cons rfl (by decide)] at skipped
  rw [List.append_assoc, List.append_assoc, commaSeparated,
    skipBlank_append leading, read.skipBlank_append, written]
  rw [written] at reads
  simp only [noEnd, Bool.false_eq_true, ↓reduceIte, reads, skipped]

end Elements

/-- What starts otherwise is not `()`. -/
theorem take?_unit
    (different : first ≠ '(')
    (rest : List Char) :
    take? "()" (first :: rest) = none := by
  have unlike : ('(' == first) = false :=
    beq_eq_false_iff_ne.mpr different.symm
  have noUnit : "()".toList.isPrefixOf (first :: rest) = false := by
    change ('(' == first && [')'].isPrefixOf rest) = false
    rw [unlike, Bool.false_and]
  rw [take?, noUnit]
  rfl

section Values

variable
  {extensions : Extensions}
  {nests : Bool}
  {element content inside : Reader Tree}

/-- A truth value is read where nothing joins it. -/
theorem valueWith_boolean
    (flag : Bool)
    (parted : Parted rest) :
    valueWith extensions nests element content inside
        ((if flag then "true" else "false").toList ++ rest) =
      some (.boolean flag, rest) := by
  have taken := takeWord?_append (if flag then "true" else "false") parted
  cases flag
  · have notTrue :
        takeWord? "true" ("false".toList ++ rest) = none :=
      rfl
    simp only [Bool.false_eq_true, ↓reduceIte] at taken ⊢
    simp only [valueWith, notTrue, taken]
  · simp only [↓reduceIte] at taken ⊢
    simp only [valueWith, taken]

/-- A number is read where nothing joins it. -/
theorem valueWith_number
    {n : Nat}
    (fits : n < UInt64.size)
    (parted : Parted rest) :
    valueWith extensions nests element content inside
        (n.repr.toList ++ rest) =
      some (.number (.integer { value := n, suffix := none }), rest) := by
  obtain ⟨digit, digits, written, isDigit⟩ := exists_digit_repr n
  have noWord (other : String) (member : other ∈ reserved) :
      takeWord? other (n.repr.toList ++ rest) = none := by
    rw [written]
    exact takeWord?_of_isDigit isDigit member _
  have noUnit : take? "()" (n.repr.toList ++ rest) = none := by
    rw [written]
    apply take?_unit
    rintro rfl
    cases isDigit
  have starts : startsBound (n.repr.toList ++ rest) := by
    rw [written]
    exact startsBound_of_isDigit isDigit _
  simp only [valueWith, noWord "true" (by decide), noWord "false" (by decide),
    noWord "Some" (by decide), noWord "None" (by decide), noUnit, starts,
    ↓reduceIte, numeric_repr fits parted]

/-- A name is read, unless something in parentheses follows. -/
theorem valueWith_name
    (isName : IsName word)
    (free : word ∉ reserved)
    (parted : Parted rest) :
    valueWith extensions nests element content inside
        (word.toList ++ rest) =
      match skipBlank rest with
      | some ('(' :: rest) =>
          if nests then parenthesised element (some word) rest else none
      | some rest => some (.name word, rest)
      | none => none := by
  have noWord (other : String) (member : other ∈ reserved) :
      takeWord? other (word.toList ++ rest) = none :=
    takeWord?_reserved isName free parted member
  have noUnit : take? "()" (word.toList ++ rest) = none := by
    obtain ⟨first, later, written, starts, _⟩ := isName
    rw [written]
    apply take?_unit
    rintro rfl
    cases starts
  simp only [valueWith, noWord "true" (by decide), noWord "false" (by decide),
    noWord "Some" (by decide), noWord "None" (by decide), noUnit,
    startsBound_append isName free parted, name?_append isName parted]
  rfl

/-- A list is read element by element. -/
theorem valueWith_list (rest : List Char) :
    valueWith extensions true element content inside ('[' :: rest) =
      (elements element ']' rest).map fun (items, rest) =>
        (.list items, rest) := by
  rfl

/-- Nothing in parentheses is read as an empty tuple. -/
theorem valueWith_unit (rest : List Char) :
    valueWith extensions nests element content inside ('(' :: ')' :: rest) =
      some (.tuple none [], rest) := by
  rfl

/-- What stands in parentheses is read as a record or as a tuple. -/
theorem valueWith_parenthesised
    {rest : List Char}
    (filled : rest.head? ≠ some ')') :
    valueWith extensions true element content inside ('(' :: rest) =
      parenthesised element none rest := by
  cases rest with
  | nil => rfl
  | cons character rest =>
      have unlike : (')' == character) = false := by
        rw [beq_eq_false_iff_ne]
        rintro rfl
        exact filled rfl
      have noUnit : take? "()" ('(' :: character :: rest) = none := by
        rw [take?, if_neg]
        change ¬(')' == character && [].isPrefixOf rest) = true
        rw [unlike, Bool.false_and]
        decide
      have noWord :
          takeWord? "true" ('(' :: character :: rest) = none ∧
            takeWord? "false" ('(' :: character :: rest) = none ∧
            takeWord? "Some" ('(' :: character :: rest) = none ∧
            takeWord? "None" ('(' :: character :: rest) = none ∧
            startsBound ('(' :: character :: rest) = false ∧
            name? ('(' :: character :: rest) = none :=
        ⟨rfl, rfl, rfl, rfl, rfl, rfl⟩
      simp only [valueWith, noWord, noUnit]
      rfl

end Values

/-- Two levels are taken away from what is in a list or in a record. -/
theorem value_add_two
    (extensions : Extensions)
    (levels : Nat) :
    ∃ content inside,
      value extensions (levels + 2) =
        valueWith extensions true (value extensions levels) content
          inside := by
  cases levels with
  | zero => exact ⟨_, _, rfl⟩
  | succ levels => exact ⟨_, _, rfl⟩

theorem exists_valueWith
    (extensions : Extensions)
    (levels : Nat) :
    ∃ nests element content inside,
      value extensions levels =
        valueWith extensions nests element content inside := by
  match levels with
  | 0 => exact ⟨_, _, _, _, rfl⟩
  | 1 => exact ⟨_, _, _, _, rfl⟩
  | levels + 2 =>
      obtain ⟨content, inside, same⟩ := value_add_two extensions levels
      exact ⟨_, _, _, _, same⟩

/-- A truth value is read at whatever level. -/
theorem readBy_boolean
    (extensions : Extensions)
    (levels : Nat)
    (flag : Bool) :
    ReadBy (value extensions levels)
      (if flag then "true" else "false").toList (.boolean flag) where
  opens := by
    have spells : Spells 0 (.value (.boolean flag)) _ := .boolean flag
    exact exists_opening spells
  reads := by
    intro rest follows
    obtain ⟨nests, element, content, inside, same⟩ :=
      exists_valueWith extensions levels
    rw [same]
    exact ⟨rest, valueWith_boolean flag follows.parted, rfl⟩

/-- A number is read at whatever level. -/
theorem readBy_number
    (extensions : Extensions)
    (levels : Nat)
    {n : Nat}
    (fits : n < UInt64.size) :
    ReadBy (value extensions levels) n.repr.toList
      (.number (.integer { value := n, suffix := none })) where
  opens := by
    obtain ⟨digit, digits, written, isDigit⟩ := exists_digit_repr n
    intro rest
    rw [written]
    exact ⟨digit, digits ++ rest, rfl, opens_of_isDigit isDigit⟩
  reads := by
    intro rest follows
    obtain ⟨nests, element, content, inside, same⟩ :=
      exists_valueWith extensions levels
    rw [same]
    exact ⟨rest, valueWith_number fits follows.parted, rfl⟩

/-- A name is read at whatever level, with the blanks behind it. -/
theorem readBy_name
    (extensions : Extensions)
    (levels : Nat)
    (isName : IsName word)
    (free : word ∉ reserved) :
    ReadBy (value extensions levels) word.toList (.name word) where
  opens := isName.opens
  reads := by
    intro rest follows
    obtain ⟨nests, element, content, inside, same⟩ :=
      exists_valueWith extensions levels
    obtain ⟨following, skipped, noParenthesis⟩ := follows.ends
    refine ⟨following, ?_, ?_⟩
    · rw [same, valueWith_name isName free follows.parted, skipped]
      split
      · next same =>
          cases same
          exact (noParenthesis rfl).elim
      · next same =>
          cases same
          rfl
      · next same => cases same
    · rw [skipped, skipBlank_of_skipGap skipped]

/-- A field is read as its name and what is read behind the colon. -/
theorem ReadBy.field
    {one : Reader α}
    {element : α}
    (isName : IsName key)
    (beforeColon : Blanks before)
    (behindColon : Blanks behind)
    (read : ReadBy one spelling element) :
    ReadBy (Ron.field one)
      (key.toList ++ before ++ ':' :: (behind ++ spelling))
      (key, element) where
  opens := by
    intro rest
    rw [List.append_assoc, List.append_assoc]
    exact isName.opens _
  reads := by
    intro rest follows
    obtain ⟨following, reads, skipped⟩ := read.reads rest follows
    have colon : Parted (':' :: (behind ++ spelling ++ rest)) := by
      rintro _ ⟨⟩
      rfl
    refine ⟨following, ?_, skipped⟩
    rw [List.append_assoc, List.append_assoc, List.cons_append, Ron.field,
      name?_append isName (beforeColon.parted colon)]
    simp only [Ron.behindColon, Ron.skipBlank_append beforeColon]
    rw [skipBlank_cons rfl (by decide), List.append_assoc]
    simp only [Ron.skipBlank_append behindColon, read.skipBlank_append,
      Option.bind_some, reads, Option.map_some]

/-- Every item of a list takes a character at least. -/
theorem length_le_of_spells_items
    (spells : Spells depth (.items trees) spelling) :
    trees.length ≤ spelling.length := by
  generalize same : Phrase.items trees = phrase at spells
  induction spells generalizing trees with
  | noItems _ =>
      cases same
      exact Nat.zero_le _
  | lastItem _ item _ _ =>
      cases same
      obtain ⟨first, later, written, _⟩ := exists_opening item []
      rw [List.append_nil] at written
      rw [written]
      simp
      omega
  | moreItems _ _ _ _ _ inductionHypothesis =>
      cases same
      have rest := inductionHypothesis rfl
      simp
      omega
  | _ => cases same

/-- A list is read item by item. -/
theorem readBy_list
    {extensions : Extensions}
    {levels : Nat}
    {trees : List Tree}
    (few : trees.length ≤ spelling.length)
    (read :
      ∀ limit rest,
        trees.length < limit →
        commaSeparated (value extensions levels) ']' limit
            (spelling ++ ']' :: rest) =
          some (trees, rest)) :
    ReadBy (value extensions (levels + 2)) ('[' :: (spelling ++ [']']))
      (.list trees) where
  opens := by
    intro rest
    exact ⟨'[', _, rfl, rfl, by decide⟩
  reads := by
    intro rest _
    obtain ⟨content, inside, same⟩ := value_add_two extensions levels
    refine ⟨rest, ?_, rfl⟩
    rw [same, List.cons_append, List.append_assoc, valueWith_list, elements,
      List.singleton_append, read _ rest]
    · rfl
    · rw [List.length_append]
      omega

/-- Every field of a record takes a character at least. -/
theorem length_le_of_spells_fields
    (spells : Spells depth (.fields entries) spelling) :
    entries.length ≤ spelling.length := by
  generalize same : Phrase.fields entries = phrase at spells
  induction spells generalizing entries with
  | noFields _ =>
      cases same
      exact Nat.zero_le _
  | lastField _ field _ _ =>
      cases same
      cases field
      simp
      omega
  | moreFields _ _ _ _ _ inductionHypothesis =>
      cases same
      have rest := inductionHypothesis rfl
      simp
      omega
  | _ => cases same

/-- Where a field is spelled, it starts with a name and a colon. -/
theorem startsWithField_append
    (spells : Spells depth (.field key tree) spelling)
    (rest : List Char) :
    startsWithField (spelling ++ rest) ∧
      skipBlank (spelling ++ rest) = some (spelling ++ rest) := by
  cases spells with
  | @field _ before behind _ _ content isName beforeColon behindColon _ =>
      have colon : Parted (':' :: (behind ++ content ++ rest)) := by
        rintro _ ⟨⟩
        rfl
      obtain ⟨first, later, written, opens⟩ :=
        isName.opens (before ++ ':' :: (behind ++ content ++ rest))
      rw [List.append_assoc, List.append_assoc, List.cons_append]
      constructor
      · rw [startsWithField, name?_append isName (beforeColon.parted colon)]
        simp only [skipBlank_append beforeColon]
        rw [skipBlank_cons rfl (by decide)]
        rfl
      · rw [written, skipBlank_cons opens.visible opens.noSlash]

/-- Behind the blanks in front of them, fields start with a name and a colon. -/
theorem exists_fields_start
    (spells : Spells depth (.fields (entry :: entries)) spelling)
    (rest : List Char) :
    ∃ start,
      skipBlank (spelling ++ rest) = some start ∧
        startsWithField start ∧
        (entry :: entries).length ≤ start.length := by
  cases spells with
  | @lastField _ before _ _ content after leading field trailing =>
      have starts := startsWithField_append field (after ++ rest)
      refine ⟨content ++ (after ++ rest), ?_, starts.1, ?_⟩
      · rw [List.append_assoc, List.append_assoc, skipBlank_append leading,
          starts.2]
      · cases field
        simp
        omega
  | @moreFields _ before _ _ content after _ others leading field trailing
      more =>
      have few := length_le_of_spells_fields more
      have starts :=
        startsWithField_append field (after ++ ',' :: (others ++ rest))
      refine
        ⟨content ++ (after ++ ',' :: (others ++ rest)), ?_, starts.1, ?_⟩
      · rw [List.append_assoc, List.append_assoc, List.append_assoc,
          skipBlank_append leading, List.cons_append, starts.2]
      · simp
        omega

/-- What stands between the parentheses of a record is read as its fields. -/
theorem parenthesised_of_spells
    {one : Reader Tree}
    {entries : List (String × Tree)}
    (content : Spells depth (.fields entries) spelling)
    (read :
      ∀ limit,
        entries.length < limit →
        commaSeparated (field one) ')' limit (spelling ++ ')' :: rest) =
          some (entries, rest))
    (name : Option String) :
    parenthesised one name (spelling ++ ')' :: rest) =
      some (recordTree name entries, rest) := by
  cases entries with
  | nil =>
      cases content with
      | noFields blanks =>
          have noField : startsWithField (')' :: rest) = false := rfl
          rw [parenthesised, skipBlank_append blanks,
            skipBlank_cons rfl (by decide)]
          simp only [noField, Bool.false_eq_true, ↓reduceIte, elements]
          rw [← List.nil_append (')' :: rest),
            commaSeparated_nil (by decide) .nil]
          rfl
  | cons entry entries =>
      obtain ⟨start, skipped, starts, few⟩ :=
        exists_fields_start content (')' :: rest)
      have same : skipBlank start = skipBlank (spelling ++ ')' :: rest) := by
        rw [skipped, skipBlank_of_skipGap skipped]
      simp only [parenthesised, skipped, starts, ↓reduceIte, elements]
      rw [commaSeparated_congr same, read _ (Nat.lt_succ_of_le few)]
      rfl

theorem Blanks.head?_append
    (blanks : Blanks before)
    (noParenthesis : rest.head? ≠ some ')') :
    (before ++ rest).head? ≠ some ')' := by
  cases blanks with
  | nil => exact noParenthesis
  | space blank _ =>
      rintro ⟨⟩
      cases blank
  | lineComment _ _ => rintro ⟨⟩
  | blockComment _ _ => rintro ⟨⟩

/-- What stands between the parentheses of a record does not start with the closing one. -/
theorem head?_of_spells_fields
    (spells : Spells depth (.fields entries) spelling) :
    spelling.head? ≠ some ')' := by
  have starts
      {key : String}
      {tree : Tree}
      {content : List Char}
      (field : Spells depth (.field key tree) content)
      (rest : List Char) :
      (content ++ rest).head? ≠ some ')' := by
    cases field with
    | field isName _ _ _ =>
        rw [List.append_assoc, List.append_assoc]
        obtain ⟨first, later, written, opens⟩ := isName.opens _
        rw [written]
        rintro ⟨⟩
        exact opens.plain (by decide)
  cases spells with
  | noFields blanks =>
      have noEnd : ([] : List Char).head? ≠ some ')' := by
        rintro ⟨⟩
      have head := blanks.head?_append noEnd
      rwa [List.append_nil] at head
  | lastField leading field trailing =>
      rw [List.append_assoc]
      exact leading.head?_append (starts field _)
  | moreFields leading field trailing _ =>
      rw [List.append_assoc, List.append_assoc]
      exact leading.head?_append (starts field _)

/-- A record is read field by field. -/
theorem readBy_record
    {extensions : Extensions}
    {levels : Nat}
    {entries : List (String × Tree)}
    (named : SpellsName name before)
    (content : Spells depth (.fields entries) spelling)
    (read :
      ∀ limit rest,
        entries.length < limit →
        commaSeparated (field (value extensions levels)) ')' limit
            (spelling ++ ')' :: rest) =
          some (entries, rest)) :
    ReadBy (value extensions (levels + 2))
      (before ++ '(' :: (spelling ++ [')'])) (recordTree name entries) where
  opens := exists_opening (.record named content)
  reads := by
    intro rest _
    obtain ⟨content', inside, same⟩ := value_add_two extensions levels
    have whole :=
      parenthesised_of_spells content (fun limit => read limit rest) name
    refine ⟨rest, ?_, rfl⟩
    rw [same, List.append_assoc, List.cons_append, List.append_assoc,
      List.singleton_append]
    cases named with
    | none =>
        cases spelling with
        | nil =>
            cases entries with
            | nil => exact valueWith_unit rest
            | cons entry entries =>
                have few := length_le_of_spells_fields content
                simp at few
        | cons character spelling =>
            have head := head?_of_spells_fields content
            have filled :
                (character :: spelling ++ ')' :: rest).head? ≠ some ')' :=
              head
            rw [List.nil_append, valueWith_parenthesised filled, whole]
    | some isName free trailing =>
        have parenthesis : Parted ('(' :: (spelling ++ ')' :: rest)) := by
          rintro _ ⟨⟩
          rfl
        rw [List.append_assoc,
          valueWith_name isName free (trailing.parted parenthesis),
          skipBlank_append trailing, skipBlank_cons rfl (by decide)]
        exact whole

/-- The reader reads the phrase where it is spelled so, and goes on behind it. -/
def Phrase.IsRead
    (depth : Nat)
    (spelling : List Char) :
    Phrase →
    Prop
  | .value tree =>
      ∀ extensions levels,
        2 * depth ≤ levels →
        ReadBy (Ron.value extensions levels) spelling tree
  | .field key tree =>
      ∀ extensions levels,
        2 * depth ≤ levels →
        ReadBy (Ron.field (Ron.value extensions levels)) spelling (key, tree)
  | .items trees =>
      ∀ extensions levels limit rest,
        2 * depth ≤ levels →
        trees.length < limit →
        commaSeparated (Ron.value extensions levels) ']' limit
            (spelling ++ ']' :: rest) =
          some (trees, rest)
  | .fields entries =>
      ∀ extensions levels limit rest,
        2 * depth ≤ levels →
        entries.length < limit →
        commaSeparated (Ron.field (Ron.value extensions levels)) ')' limit
            (spelling ++ ')' :: rest) =
          some (entries, rest)

/-- The reader reads whatever is spelled out. -/
theorem isRead_of_spells
    (spells : Spells depth phrase spelling) :
    phrase.IsRead depth spelling := by
  -- Each list or record takes two of the reader's levels and one of the depth.
  induction spells with
  | boolean flag =>
      exact fun extensions levels _ => readBy_boolean extensions levels flag
  | number fits =>
      exact fun extensions levels _ => readBy_number extensions levels fits
  | name isName free =>
      exact fun extensions levels _ =>
        readBy_name extensions levels isName free
  | list content inductionHypothesis =>
      intro extensions levels enough
      obtain ⟨fewer, rfl⟩ : ∃ fewer, levels = fewer + 2 :=
        ⟨levels - 2, by omega⟩
      exact
        readBy_list (length_le_of_spells_items content)
          fun limit rest more =>
            inductionHypothesis extensions fewer limit rest (by omega) more
  | record named content inductionHypothesis =>
      intro extensions levels enough
      obtain ⟨fewer, rfl⟩ : ∃ fewer, levels = fewer + 2 :=
        ⟨levels - 2, by omega⟩
      exact
        readBy_record named content
          fun limit rest more =>
            inductionHypothesis extensions fewer limit rest (by omega) more
  | field isName beforeColon behindColon _ inductionHypothesis =>
      intro extensions levels enough
      exact
        (inductionHypothesis extensions levels enough).field isName
          beforeColon behindColon
  | noItems blanks =>
      intro extensions levels limit rest _ enough
      cases limit with
      | zero => cases enough
      | succ limit => exact commaSeparated_nil (by decide) blanks rest
  | lastItem leading _ trailing inductionHypothesis =>
      intro extensions levels limit rest deep enough
      cases limit with
      | zero => cases enough
      | succ limit =>
          exact
            commaSeparated_last (by decide) leading
              (inductionHypothesis extensions levels deep) trailing rest
  | moreItems leading _ trailing _ itemHypothesis moreHypothesis =>
      intro extensions levels limit rest deep enough
      cases limit with
      | zero => cases enough
      | succ limit =>
          rw [List.append_assoc, List.cons_append,
            commaSeparated_more (by decide) leading
              (itemHypothesis extensions levels deep) trailing,
            moreHypothesis extensions levels limit rest deep
              (Nat.lt_of_succ_lt_succ enough)]
          rfl
  | noFields blanks =>
      intro extensions levels limit rest _ enough
      cases limit with
      | zero => cases enough
      | succ limit => exact commaSeparated_nil (by decide) blanks rest
  | lastField leading _ trailing inductionHypothesis =>
      intro extensions levels limit rest deep enough
      cases limit with
      | zero => cases enough
      | succ limit =>
          exact
            commaSeparated_last (by decide) leading
              (inductionHypothesis extensions levels deep) trailing rest
  | moreFields leading _ trailing _ fieldHypothesis moreHypothesis =>
      intro extensions levels limit rest deep enough
      cases limit with
      | zero => cases enough
      | succ limit =>
          rw [List.append_assoc, List.cons_append,
            commaSeparated_more (by decide) leading
              (fieldHypothesis extensions levels deep) trailing,
            moreHypothesis extensions levels limit rest deep
              (Nat.lt_of_succ_lt_succ enough)]
          rfl

/-- A well-formed text is read as a document without extensions, as the tree that it means. -/
theorem parse?_of_means
    {text : String}
    (means : Means text tree) :
    Document.parse? text = some { extensions := {}, tree := tree } := by
  obtain ⟨before, spelling, after, leading, spells, trailing, written⟩ := means
  have read := isRead_of_spells spells {} maxLevels (by decide)
  obtain ⟨following, reads, skipped⟩ :=
    read.reads after (follows_of_lastBlanks trailing)
  obtain ⟨first, later, started, opens⟩ := read.opens after
  have noAttribute :
      ((spelling ++ after).head? == some '#') = false := by
    rw [started, List.head?_cons, beq_eq_false_iff_ne]
    rintro ⟨⟩
    exact opens.plain (by decide)
  have noAttributes (limit : Nat) :
      attributes (limit + 1) {} (spelling ++ after) =
        some ({}, spelling ++ after) := by
    rw [attributes, noAttribute]
    rfl
  rw [skipBlank_of_lastBlanks trailing] at skipped
  simp only [Document.parse?, written, List.append_assoc,
    skipBlank_append leading, read.skipBlank_append, noAttributes, reads,
    skipped]

end RoundRobin.Ron
