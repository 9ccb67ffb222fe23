import RoundRobin.Coroutine.Collect
import RoundRobin.Coroutine.PrimeTest
import RoundRobin.Coroutine.Routine
import RoundRobin.Coroutine.Search
import RoundRobin.Payload

namespace RoundRobin

/-!
# Structural texts of coroutines

The ready-made coroutines can be shown as they stand. Parts without a text of
their own, such as functions, are left out, which two dots announce.
-/

instance : Describe Nat where
  describe := Nat.repr

/-- The structural form of a place in the Lucas sequence. -/
def Lucas.structuralText (cursor : Lucas) : String :=
  "Lucas \x7b current: " ++ Describe.describe cursor.current ++
    ", next: " ++ Describe.describe cursor.following ++ " \x7d"

/-- The structural form of a primality test. -/
def PrimeTest.structuralText (test : PrimeTest) : String :=
  "IsPrime \x7b candidate: " ++ test.candidate.repr ++
    ", divisor: " ++ test.divisor.repr ++
    ", limit: " ++ test.limit.repr ++ " \x7d"

/-- The structural form of a routine whose generator is a function. -/
def RoutineState.structuralText (routine : RoutineState σ) : String :=
  "Routine \x7b generator: FnGenerator \x7b .. \x7d, terminated: " ++
    toString routine.terminated ++ " \x7d"

/-- The structural form of a collection of numbers. -/
def Collection.structuralText
    {items : Source Nat}
    {maker : JudgeMaker κ Nat ε}
    (collection : Collection items maker) :
    String :=
  "CollectMatches \x7b pending: " ++
    Describe.describe (collection.pending.map Pending.item) ++
    ", matches: [" ++
    ", ".intercalate (collection.accepted.map Nat.repr) ++ "], .. \x7d"

namespace Coroutine

/-- The structural form of a search through Lucas numbers. -/
def searchText (cursor : Lucas) : String :=
  "Search \x7b items: " ++ cursor.structuralText ++ ", .. \x7d"

/-- The structural form of a coroutine that is a function. -/
def functionText : String :=
  "FnCoroutine \x7b .. \x7d"

/--
The texts of a coroutine's state before and after each of a number of
resumptions, as far as these make no requests.
-/
def snapshots
    (coroutine : Coroutine κ α ε)
    (text : coroutine.State → String) :
    (times : Nat) →
    (state : coroutine.State) →
    List String
  | 0, state => [text state]
  | times + 1, state =>
      text state ::
        match coroutine.advance state with
        | .done (state, _) => coroutine.snapshots text times state
        | .ask _ _ => []

end Coroutine

end RoundRobin
