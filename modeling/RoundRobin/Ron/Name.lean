import RoundRobin.Text.Identifier

namespace RoundRobin.Ron

/-!
# Names

A name is an identifier. With the mark `r#` in front, dots and signs may be
part of it.
-/

/-- Take a text off the front of the input. -/
def take?
    (text : String)
    (input : List Char) :
    Option (List Char) :=
  if text.toList.isPrefixOf input then some (input.drop text.length) else none

/-- Whether the input goes on with a character of an identifier. -/
def continuesName (input : List Char) : Bool :=
  input.head?.any Text.isIdentifierPart

/-- Take a word off the front of the input, unless it is only part of a longer one. -/
def takeWord?
    (word : String)
    (input : List Char) :
    Option (List Char) :=
  (take? word input).filter fun rest => !continuesName rest

/-- Whether a character can stand in a marked name. -/
def isMarkedNamePart (character : Char) : Bool :=
  Text.isIdentifierPart character ||
    character == '.' || character == '+' || character == '-'

/-- The starts of quoted texts and bytes, which are not taken for names. -/
def quotationStarts : List String :=
  ["b\"", "b'", "br#", "br\"", "r\"", "r#\"", "r##"]

/-- Take a name off the front of the input. -/
def name? (input : List Char) : Option (String × List Char) :=
  if quotationStarts.any fun start => (take? start input).isSome then none
  else
    match input with
    | 'r' :: '#' :: rest =>
        let name := rest.takeWhile isMarkedNamePart
        if name.isEmpty then none
        else some (String.ofList name, rest.dropWhile isMarkedNamePart)
    | [] => none
    | character :: _ =>
        if Text.isIdentifierStart character then
          some
            (String.ofList (input.takeWhile Text.isIdentifierPart),
              input.dropWhile Text.isIdentifierPart)
        else
          none

end RoundRobin.Ron
