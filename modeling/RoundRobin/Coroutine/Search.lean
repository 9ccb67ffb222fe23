import RoundRobin.Coroutine.Basic
import RoundRobin.Source
import RoundRobin.TaskError

namespace RoundRobin

/-!
# Searching one item per resumption

`search` pulls one item per resumption and tests it: a match completes the
search, a miss suspends it, and running out of items fails it. An item whose
test panics is used up.
-/

/-- Search a source for an item that a predicate accepts. -/
def Coroutine.search
    (items : Source α)
    (predicate : Procedure α Bool) :
    Coroutine κ α TaskError :=
  Coroutine.ofStep (items.State × predicate.State)
    (items.state, predicate.state) fun (place, memory) =>
      match items.pull place with
      | (place', none) => ((place', memory), .ok (.failed .notFound))
      | (place', some item) =>
          match predicate.call memory item with
          | (memory', .error panic) => ((place', memory'), .error panic)
          | (memory', .ok true) => ((place', memory'), .ok (.completed item))
          | (memory', .ok false) => ((place', memory'), .ok .suspended)

end RoundRobin
