import RoundRobin.Number.Lucas

namespace RoundRobin

/-!
# Sources of items

A `Source` is pulled for one item at a time and keeps a state between pulls.
It may have items again after it had none.
-/

/-- Something that items can be pulled from. A pull neither panics nor makes requests. -/
structure Source (α : Type) where
  State : Type
  state : State
  /-- Pull once; `none` if there is no item at this pull. -/
  pull : State → State × Option α

namespace Source

/-- The elements of a list, in order. -/
def ofList (items : List α) : Source α where
  State := List α
  state := items
  pull
    | [] => ([], none)
    | item :: rest => (rest, some item)

/-- A list of pulls given one by one; after the last there are no items. -/
def ofPulls (pulls : List (Option α)) : Source α where
  State := List (Option α)
  state := pulls
  pull
    | [] => ([], none)
    | item? :: rest => (rest, item?)

/-- The numbers from `first` up to but not including `last`. -/
def range (first last : Nat) : Source Nat where
  State := Nat
  state := first
  pull := fun next =>
    if next < last then (next + 1, some next) else (next, none)

/-- The terms of the Lucas sequence from a place in it. -/
def lucas (cursor : Lucas) : Source Nat where
  State := Lucas
  state := cursor
  pull := Lucas.next

/-- The items of the first `count` pulls that a source allows, if so many. -/
def take
    (source : Source α)
    (count : Nat) :
    Source α where
  State := source.State × Nat
  state := (source.state, count)
  pull := fun (place, left) =>
    match left with
    | 0 => ((place, 0), none)
    | fewer + 1 =>
        let (place', item?) := source.pull place
        ((place', fewer), item?)

end Source

end RoundRobin
