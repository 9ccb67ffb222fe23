namespace RoundRobin

/-!
# Lucas numbers

The Lucas sequence 2, 1, 3, 4, 7, 11, … starts from two and one and goes on
with the sum of the two terms before. A `Lucas` cursor walks it within the
numbers below `Lucas.bound`: the sequence ends instead of passing the bound.
-/

/-- The bound below which every value of a task lies: two to the power of 128. -/
def wordBound : Nat :=
  340282366920938463463374607431768211456

/-- The place reached in the Lucas sequence: the next term and the one after. -/
structure Lucas where
  current : Option Nat
  following : Option Nat
  deriving DecidableEq, Repr

namespace Lucas

/-- The sequence from its first term. -/
def start : Lucas where
  current := some 2
  following := some 1

/-- The sum of two terms, if it stays below the bound. -/
def checkedAdd?
    (left right : Nat) :
    Option Nat :=
  if left + right < wordBound then some (left + right) else none

/-- Take the next term; `none` once the sequence has ended. -/
def next (cursor : Lucas) : Lucas × Option Nat :=
  match cursor.current with
  | none => (cursor, none)
  | some term =>
      ({ current := cursor.following
         following := cursor.following.bind (checkedAdd? term) },
        some term)

/-- Take and discard a number of terms. -/
def skip (cursor : Lucas) : Nat → Lucas
  | 0 => cursor
  | count + 1 => if cursor.current.isNone then cursor else cursor.next.1.skip count

/-- The longest Lucas number below the bound has this many decimal digits. -/
def maxDigits : Nat :=
  39

end Lucas

end RoundRobin
