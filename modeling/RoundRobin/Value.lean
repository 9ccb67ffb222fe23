namespace RoundRobin

/-!
# Values of tasks

A task completes with a number or with a list of numbers.
-/

/-- What a task completes with. -/
inductive Value where
  | number (n : Nat)
  | list (items : List Nat)
  deriving DecidableEq, Repr

namespace Value

/-- Decimal text; a list stands in brackets, its items parted by commas. -/
def text : Value → String
  | number n => n.repr
  | list items => "[" ++ ", ".intercalate (items.map Nat.repr) ++ "]"

end Value

end RoundRobin
