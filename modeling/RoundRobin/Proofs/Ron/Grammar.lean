import RoundRobin.Ron.Tree

namespace RoundRobin.Ron

/-!
# How documents are spelled

The part of the notation that settings are written in: truth values, decimal
numbers, bare names, lists, and records with or without a name in front. White
space and comments may stand between any two tokens, and a comma may follow the
last item of a list or the last field of a record.
-/

/-- What may stand between the marks of a block comment. -/
inductive CommentBody : List Char → Prop where
  | nil : CommentBody []
  | nested
      (inner : CommentBody body)
      (rest : CommentBody others) :
      CommentBody ('/' :: '*' :: (body ++ '*' :: '/' :: others))
  | other
      (opensNone :
        character = '/' →
        ∃ next later, others = next :: later ∧ next ≠ '*')
      (closesNone : character = '*' → others.head? ≠ some '/')
      (rest : CommentBody others) :
      CommentBody (character :: others)

/-- White space and comments. -/
inductive Blanks : List Char → Prop where
  | nil : Blanks []
  | space
      (blank : isBlank character)
      (rest : Blanks spelling) :
      Blanks (character :: spelling)
  | lineComment
      (comment : ∀ character ∈ body, character ≠ '\n')
      (rest : Blanks spelling) :
      Blanks ('/' :: '/' :: (body ++ '\n' :: spelling))
  | blockComment
      (comment : CommentBody body)
      (rest : Blanks spelling) :
      Blanks ('/' :: '*' :: (body ++ '*' :: '/' :: spelling))

/-- White space and comments at the end, where no line break need follow the last comment. -/
inductive LastBlanks : List Char → Prop where
  | blanks (blanks : Blanks spelling) : LastBlanks spelling
  | lineComment
      (blanks : Blanks spelling)
      (comment : ∀ character ∈ body, character ≠ '\n') :
      LastBlanks (spelling ++ '/' :: '/' :: body)

/-- A word that can be a name. -/
def IsName (word : String) : Prop :=
  ∃ first rest,
    word.toList = first :: rest ∧
      Text.isIdentifierStart first ∧
      ∀ character ∈ rest, Text.isIdentifierPart character

instance (word : String) : Decidable (IsName word) :=
  match shape : word.toList with
  | [] =>
      isFalse fun ⟨_, _, shape', _⟩ => by
        rw [shape] at shape'
        cases shape'
  | first :: rest =>
      decidable_of_iff
        (Text.isIdentifierStart first ∧ rest.all Text.isIdentifierPart)
        (by
          rw [List.all_eq_true]
          constructor
          · rintro ⟨starts, parts⟩
            exact ⟨first, rest, shape, starts, parts⟩
          · rintro ⟨first', rest', shape', starts, parts⟩
            cases shape.symm.trans shape'
            exact ⟨starts, parts⟩)

/-- The words that mean something else than a name. -/
def reserved : List String :=
  ["true", "false", "Some", "None"] ++ specialWords

/-- The name in front of a record, if there is one, with blanks behind it. -/
inductive SpellsName : Option String → List Char → Prop where
  | none : SpellsName none []
  | some
      (isName : IsName word)
      (free : word ∉ reserved)
      (trailing : Blanks after) :
      SpellsName (some word) (word.toList ++ after)

/-- The tree of a record, which is a tuple if it has no fields. -/
def recordTree
    (name : Option String) :
    List (String × Tree) →
    Tree
  | [] => .tuple name []
  | field :: fields => .record name (field :: fields)

/-- What the grammar tells the spelling of. -/
inductive Phrase where
  | value (tree : Tree)
  | field (key : String) (content : Tree)
  /-- What stands between the brackets of a list. -/
  | items (items : List Tree)
  /-- What stands between the parentheses of a record. -/
  | fields (fields : List (String × Tree))

/-- How phrases are spelled; lists and records are nested at most so deep. -/
inductive Spells : (depth : Nat) → Phrase → List Char → Prop where
  | boolean (flag : Bool) :
      Spells depth (.value (.boolean flag))
        (if flag then "true" else "false").toList
  | number
      {n : Nat}
      (fits : n < UInt64.size) :
      Spells depth (.value (.number (.integer { value := n, suffix := none })))
        n.repr.toList
  | name
      (isName : IsName word)
      (free : word ∉ reserved) :
      Spells depth (.value (.name word)) word.toList
  | list
      (content : Spells depth (.items items) spelling) :
      Spells (depth + 1) (.value (.list items)) ('[' :: (spelling ++ [']']))
  | record
      (named : SpellsName name before)
      (content : Spells depth (.fields fields) spelling) :
      Spells (depth + 1) (.value (recordTree name fields))
        (before ++ '(' :: (spelling ++ [')']))
  | field
      (isName : IsName key)
      (beforeColon : Blanks before)
      (behindColon : Blanks behind)
      (content : Spells depth (.value tree) spelling) :
      Spells depth (.field key tree)
        (key.toList ++ before ++ ':' :: (behind ++ spelling))
  | noItems
      (blanks : Blanks spelling) :
      Spells depth (.items []) spelling
  | lastItem
      (leading : Blanks before)
      (item : Spells depth (.value tree) spelling)
      (trailing : Blanks after) :
      Spells depth (.items [tree]) (before ++ spelling ++ after)
  | moreItems
      (leading : Blanks before)
      (item : Spells depth (.value tree) spelling)
      (trailing : Blanks after)
      (more : Spells depth (.items rest) others) :
      Spells depth (.items (tree :: rest))
        (before ++ spelling ++ after ++ ',' :: others)
  | noFields
      (blanks : Blanks spelling) :
      Spells depth (.fields []) spelling
  | lastField
      (leading : Blanks before)
      (field : Spells depth (.field key tree) spelling)
      (trailing : Blanks after) :
      Spells depth (.fields [(key, tree)]) (before ++ spelling ++ after)
  | moreFields
      (leading : Blanks before)
      (field : Spells depth (.field key tree) spelling)
      (trailing : Blanks after)
      (more : Spells depth (.fields rest) others) :
      Spells depth (.fields ((key, tree) :: rest))
        (before ++ spelling ++ after ++ ',' :: others)

/-- How deep lists and records may be nested. -/
def maxDepth : Nat :=
  64

/-- The text is well formed, and it means the tree. -/
def Means (text : String) (tree : Tree) : Prop :=
  ∃ before spelling after,
    Blanks before ∧
      Spells maxDepth (.value tree) spelling ∧
      LastBlanks after ∧
      text.toList = before ++ spelling ++ after

end RoundRobin.Ron
