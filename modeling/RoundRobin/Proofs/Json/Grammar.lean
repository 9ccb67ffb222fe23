import RoundRobin.Json.Basic

namespace RoundRobin

/-!
# What is a JSON text

The grammar of JSON, as far as there are documents for it: numbers are decimal,
texts stand between quotes and may be escaped, the items of an array and the
fields of an object are parted by commas, and white space may stand between any
two tokens.
-/

namespace Json

/-- White space of JSON. -/
def isBlank (character : Char) : Bool :=
  character = ' ' || character = '\t' || character = '\n' || character = '\r'

/-- Nothing but white space. -/
def Blanks (spelling : List Char) : Prop :=
  ∀ character ∈ spelling, isBlank character

/-- The character that is meant by a backslash and the given one. -/
def shortEscape? : Char → Option Char
  | '"' => some '"'
  | '\\' => some '\\'
  | '/' => some '/'
  | 'b' => some '\x08'
  | 'f' => some '\x0c'
  | 'n' => some '\n'
  | 'r' => some '\r'
  | 't' => some '\t'
  | _ => none

/-- The value of a hexadecimal digit. -/
def hexDigit? (character : Char) : Option Nat :=
  if '0' ≤ character ∧ character ≤ '9' then
    some (character.toNat - '0'.toNat)
  else if 'a' ≤ character ∧ character ≤ 'f' then
    some (character.toNat - 'a'.toNat + 10)
  else if 'A' ≤ character ∧ character ≤ 'F' then
    some (character.toNat - 'A'.toNat + 10)
  else
    none

/-- The character whose number has the four hexadecimal digits, if there is one. -/
def codePoint? (first second third fourth : Char) : Option Char :=
  match
    hexDigit? first, hexDigit? second, hexDigit? third, hexDigit? fourth
  with
  | some first, some second, some third, some fourth =>
      let number := ((first * 16 + second) * 16 + third) * 16 + fourth
      if number.isValidChar then some (Char.ofNat number) else none
  | _, _, _, _ => none

/-- What may stand between quotes, and the text that it means. -/
inductive SpellsText : (spelling content : List Char) → Prop where
  | nil : SpellsText [] []
  | plain
      {character : Char}
      (printable : 0x20 ≤ character.toNat)
      (noQuote : character ≠ '"')
      (noBackslash : character ≠ '\\')
      (rest : SpellsText spelling content) :
      SpellsText (character :: spelling) (character :: content)
  | short
      (escapes : shortEscape? letter = some character)
      (rest : SpellsText spelling content) :
      SpellsText ('\\' :: letter :: spelling) (character :: content)
  | unicode
      (escapes : codePoint? first second third fourth = some character)
      (rest : SpellsText spelling content) :
      SpellsText
        ('\\' :: 'u' :: first :: second :: third :: fourth :: spelling)
        (character :: content)

/-- What the grammar tells the spelling of. -/
inductive Phrase where
  | document (document : Json)
  /-- A document with white space around it. -/
  | element (document : Json)
  /-- A field of an object, with white space around it. -/
  | field (name : String) (content : Json)
  /-- What stands between the brackets of an array that is not empty. -/
  | items (items : List Json)
  /-- What stands between the braces of an object that is not empty. -/
  | fields (fields : List (String × Json))

/-- How phrases are spelled. -/
inductive Spells : Phrase → List Char → Prop where
  | number (n : Nat) :
      Spells (.document (.number n)) n.repr.toList
  | text
      {content : String}
      (quoted : SpellsText spelling content.toList) :
      Spells (.document (.text content)) ('"' :: (spelling ++ ['"']))
  | emptyArray
      (blanks : Blanks spelling) :
      Spells (.document (.array [])) ('[' :: (spelling ++ [']']))
  | array
      (content : Spells (.items items) spelling) :
      Spells (.document (.array items)) ('[' :: (spelling ++ [']']))
  | emptyObject
      (blanks : Blanks spelling) :
      Spells (.document (.object [])) ('\x7b' :: (spelling ++ ['\x7d']))
  | object
      (content : Spells (.fields fields) spelling) :
      Spells (.document (.object fields)) ('\x7b' :: (spelling ++ ['\x7d']))
  | element
      (leading : Blanks before)
      (written : Spells (.document document) spelling)
      (trailing : Blanks after) :
      Spells (.element document) (before ++ spelling ++ after)
  | field
      {name : String}
      (leading : Blanks before)
      (quoted : SpellsText spelling name.toList)
      (trailing : Blanks after)
      (content : Spells (.element document) others) :
      Spells (.field name document)
        (before ++ '"' :: (spelling ++ '"' :: (after ++ ':' :: others)))
  | lastItem
      (item : Spells (.element document) spelling) :
      Spells (.items [document]) spelling
  | moreItems
      (item : Spells (.element document) spelling)
      (more : Spells (.items rest) others) :
      Spells (.items (document :: rest)) (spelling ++ ',' :: others)
  | lastField
      (field : Spells (.field name document) spelling) :
      Spells (.fields [(name, document)]) spelling
  | moreFields
      (field : Spells (.field name document) spelling)
      (more : Spells (.fields rest) others) :
      Spells (.fields ((name, document) :: rest)) (spelling ++ ',' :: others)

/-- The text is well formed, and it means the document. -/
def Means (text : String) (document : Json) : Prop :=
  Spells (.element document) text.toList

end Json

end RoundRobin
