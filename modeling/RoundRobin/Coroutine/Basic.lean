import RoundRobin.Activity

namespace RoundRobin

/-!
# Coroutines

A coroutine keeps a state of a type of its own and can be advanced: it then
carries out an activity that ends in a new state and, unless it panicked, in
an outcome. A panic leaves the coroutine in the state it had reached, so it
may be resumed again by whoever caught the panic.

A `Procedure` is the like for functions: it keeps a state between calls, and
each call may panic.
-/

/-- A resumable computation with values in `α` and errors in `ε`. -/
structure Coroutine (κ α ε : Type) where
  State : Type
  state : State
  /-- Run from a state to the next suspension, ending or panic. -/
  advance : State → Activity κ (State × Guarded (Outcome α ε))

namespace Coroutine

/-- Resume a coroutine once; it comes back in its new state. -/
def resume
    (coroutine : Coroutine κ α ε) :
    Activity κ (Coroutine κ α ε × Guarded (Outcome α ε)) :=
  (coroutine.advance coroutine.state).map fun result =>
    ({ coroutine with state := result.1 }, result.2)

/-- A coroutine whose resumptions make no requests. -/
def ofStep
    (State : Type)
    (state : State)
    (step : State → State × Guarded (Outcome α ε)) :
    Coroutine κ α ε where
  State := State
  state := state
  advance := fun current => .done (step current)

end Coroutine

/--
A function with a memory, each call of which may panic. A call makes no
requests: it spawns, drives and logs nothing.
-/
structure Procedure (α : Type u) (β : Type v) where
  State : Type
  state : State
  /-- One call. -/
  call : State → α → State × Guarded β

namespace Procedure

/-- A procedure without a memory that never panics. -/
def ofFunction (function : α → β) : Procedure α β where
  State := Unit
  state := ()
  call := fun _ argument => ((), .ok (function argument))

/-- A procedure without a memory. -/
def ofGuarded (function : α → Guarded β) : Procedure α β where
  State := Unit
  state := ()
  call := fun _ argument => ((), function argument)

end Procedure

end RoundRobin
