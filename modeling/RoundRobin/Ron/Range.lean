import RoundRobin.Ron.Number
import RoundRobin.Ron.Quotation

namespace RoundRobin.Ron

/-!
# Ranges of numbers

Two dots between two numbers make a range, which ends before the second one, or
with it if an equals sign follows the dots. The first number can be left out,
and the second one too, unless an equals sign announces it. A byte between
single quotes counts as a number here. Nothing may stand between the parts.
-/

/-- What can bound a range: a number or a byte. -/
inductive Bound where
  | number (n : Number)
  | byte (value : Nat)
  deriving DecidableEq, Repr

/-- A range, in which a bound that was left out is missing. -/
structure Range where
  first : Option Bound
  last : Option Bound
  /-- Whether the last number belongs to the range. -/
  withLast : Bool
  deriving DecidableEq, Repr

/-- The spellings without a sign of numbers that are not finite, and of what is no number. -/
def specialWords : List String :=
  ["inf", "inff32", "inff64", "NaN", "NaNf32", "NaNf64"]

/-- Take one of the unsigned special numbers off the front of the input. -/
def specialWord? (input : List Char) : Option (List Char) :=
  specialWords.findSome? fun word => takeWord? word input

/-- Whether the input goes on like a bound. -/
def startsBound (input : List Char) : Bool :=
  (specialWord? input).isSome ||
    match input with
    | 'b' :: '\'' :: _ => true
    | character :: _ =>
        character.isDigit || character == '+' || character == '-' ||
          character == '.'
    | [] => false

/-- Take a bound off the front of the input. -/
def bound? (input : List Char) : Option (Bound × List Char) :=
  match specialWord? input with
  | some rest => some (.number .decimal, rest)
  | none =>
      match input with
      | 'b' :: rest =>
          (quotedByte? ('b' :: rest)).map fun (value, rest) => (.byte value, rest)
      | input => (number? input).map fun (n, rest) => (.number n, rest)

/-- Read a range behind its first bound. -/
def rangeFrom?
    (first : Option Bound) :
    List Char →
    Option (Range × List Char)
  | '.' :: '.' :: '=' :: input =>
      (bound? input).map fun (last, rest) =>
        ({ first := first, last := some last, withLast := true }, rest)
  | '.' :: '.' :: input =>
      if startsBound input then
        (bound? input).map fun (last, rest) =>
          ({ first := first, last := some last, withLast := false }, rest)
      else
        some ({ first := first, last := none, withLast := false }, input)
  | _ => none

end RoundRobin.Ron
