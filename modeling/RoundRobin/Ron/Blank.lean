namespace RoundRobin.Ron

/-!
# Blanks and comments

Between the parts of a document there may be white space and comments: line
comments behind two slashes, and block comments, which nest.
-/

/-- Whether a character is white space. -/
def isBlank (character : Char) : Bool :=
  match character.toNat with
  | 0x09 | 0x0a | 0x0b | 0x0c | 0x0d | 0x20 => true
  | 0x85 | 0x200e | 0x200f | 0x2028 | 0x2029 => true
  | _ => false

/-- Where in white space and comments a reader is. -/
inductive Gap where
  | open
  | line
  /-- In a block comment, inside so many others. -/
  | block (depth : Nat)
  deriving DecidableEq, Repr

/-- Skip white space and comments; a slash that starts no comment is an error. -/
def skipGap :
    Gap →
    List Char →
    Option (List Char)
  | .open, [] => some []
  | .open, '/' :: '/' :: rest => skipGap .line rest
  | .open, '/' :: '*' :: rest => skipGap (.block 0) rest
  | .open, '/' :: _ => none
  | .open, character :: rest =>
      if isBlank character then skipGap .open rest
      else some (character :: rest)
  | .line, [] => some []
  | .line, '\n' :: rest => skipGap .open rest
  | .line, _ :: rest => skipGap .line rest
  | .block _, [] => none
  | .block depth, '/' :: '*' :: rest => skipGap (.block (depth + 1)) rest
  | .block 0, '*' :: '/' :: rest => skipGap .open rest
  | .block (depth + 1), '*' :: '/' :: rest => skipGap (.block depth) rest
  | .block depth, _ :: rest => skipGap (.block depth) rest

/-- Skip white space and comments. -/
def skipBlank (input : List Char) : Option (List Char) :=
  skipGap .open input

end RoundRobin.Ron
