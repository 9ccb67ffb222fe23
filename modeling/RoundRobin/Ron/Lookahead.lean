import RoundRobin.Ron.Quotation
import RoundRobin.Ron.Reader

namespace RoundRobin.Ron

/-!
# Looking ahead in parentheses

Where the content of `Some` may stand without parentheses of its own, what
stands in the parentheses of `Some` is either one value or the inside of a
record or a tuple. To tell which, a reader looks ahead for a colon behind a
leading name, or for a comma with something behind it. Commas and brackets
inside brackets or quotes do not count.
-/

/-- Skip a character, then a text, then bytes, each in quotes and each if it is there. -/
def skipQuoted (input : List Char) : List Char :=
  let input := ((quotedCharacter? input).map Prod.snd).getD input
  let input := ((quotation? input).map Prod.snd).getD input
  ((quotedBytes? input).map Prod.snd).getD input

/-- Whether a character opens something that a closing one ends. -/
def opens (character : Char) : Bool :=
  character == '(' || character == '[' || character == '\x7b'

/-- Whether a character closes something. -/
def closes (character : Char) : Bool :=
  character == ')' || character == ']' || character == '\x7d'

/-- Whether nothing but a closing parenthesis comes after a comma. -/
def endsBehindComma? (input : List Char) : Option Bool :=
  (skipBlank input).map fun rest => rest.head? == some ')'

/--
Whether there is no second value before the closing parenthesis, where `depth`
brackets are open inside it. Whatever comes behind something quoted is passed
over together with it, even if it would be quoted itself. Nothing is said where
the input ends first; `limit` bounds how far it is read.
-/
def endsAlone? :
    (limit depth : Nat) →
    List Char →
    Option Bool
  | 0, _, _ => none
  | limit + 1, depth, input =>
      match (skipBlank input).map skipQuoted with
      | none => none
      | some [] => none
      | some (character :: rest) =>
          if opens character then endsAlone? limit (depth + 1) rest
          else if closes character then
            match depth with
            | 0 => some true
            | depth + 1 => endsAlone? limit depth rest
          else if character == ',' && depth == 0 then endsBehindComma? rest
          else endsAlone? limit depth rest

/-- Whether parentheses hold a single value and not the inside of a record or a tuple. -/
def holdsOne? (inside : List Char) : Option Bool :=
  match name? inside with
  | none => endsAlone? (inside.length + 1) 0 inside
  | some (_, rest) =>
      match skipBlank rest with
      | none => none
      | some (':' :: _) => some false
      | some (',' :: rest) => endsBehindComma? rest
      | some rest => endsAlone? (rest.length + 1) 0 rest

end RoundRobin.Ron
