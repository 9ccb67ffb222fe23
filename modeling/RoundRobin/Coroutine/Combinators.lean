import RoundRobin.Coroutine.Basic

namespace RoundRobin

/-!
# Combining coroutines

`map` and `mapError` transform what a coroutine ends in; the transforming
procedure is called once per completion, or failure, and never else.

`andThen` goes on with a second coroutine built from the value of the first.
The second is built and resumed within the resumption in which the first
completes. The builder is used at most once: if it panics, the first coroutine
stays in place, and should it complete again the resumption is answered with a
suspension.
-/

/--
How to build a coroutine from a value; some values are refused by a panic.
Building makes no requests; the coroutine that is built may.
-/
structure Continuation (κ α β ε : Type) where
  /-- The panic with which building from a value fails, if it does. -/
  refusal : α → Option Panic
  /-- The coroutine built from a value that is not refused. -/
  build : α → Coroutine κ β ε

/-- Where a chain of two coroutines stands. -/
inductive Stage {α : Type} (σ : Type) (τ : α → Type) where
  /-- The first coroutine is running; the builder may have been used in vain. -/
  | first (state : σ) (builderUsed : Bool)
  /-- The second coroutine, built from the given value, is running. -/
  | second (value : α) (state : τ value)

namespace Coroutine

/-- Transform completion values by a procedure. -/
def map
    (coroutine : Coroutine κ α ε)
    (transform : Procedure α β) :
    Coroutine κ β ε where
  State := coroutine.State × transform.State
  state := (coroutine.state, transform.state)
  advance := fun (inner, memory) =>
    (coroutine.advance inner).map fun (inner', result) =>
      match result with
      | .error panic => ((inner', memory), .error panic)
      | .ok .suspended => ((inner', memory), .ok .suspended)
      | .ok (.failed error) => ((inner', memory), .ok (.failed error))
      | .ok (.completed value) =>
          let (memory', transformed) := transform.call memory value
          ((inner', memory'), transformed.map .completed)

/-- Transform failure errors by a procedure. -/
def mapError
    (coroutine : Coroutine κ α ε)
    (transform : Procedure ε φ) :
    Coroutine κ α φ where
  State := coroutine.State × transform.State
  state := (coroutine.state, transform.state)
  advance := fun (inner, memory) =>
    (coroutine.advance inner).map fun (inner', result) =>
      match result with
      | .error panic => ((inner', memory), .error panic)
      | .ok .suspended => ((inner', memory), .ok .suspended)
      | .ok (.completed value) => ((inner', memory), .ok (.completed value))
      | .ok (.failed error) =>
          let (memory', transformed) := transform.call memory error
          ((inner', memory'), transformed.map .failed)

/-- Go on with the coroutine built from this one's completion value. -/
def andThen
    (coroutine : Coroutine κ α ε)
    (continuation : Continuation κ α β ε) :
    Coroutine κ β ε where
  State := Stage coroutine.State fun value => (continuation.build value).State
  state := .first coroutine.state false
  advance := fun stage =>
    match stage with
    | .second value state =>
        ((continuation.build value).advance state).map fun (state', result) =>
          (.second value state', result)
    | .first state builderUsed =>
        (coroutine.advance state).bind fun (state', result) =>
          match result with
          | .error panic => .done (.first state' builderUsed, .error panic)
          | .ok .suspended => .done (.first state' builderUsed, .ok .suspended)
          | .ok (.failed error) =>
              .done (.first state' builderUsed, .ok (.failed error))
          | .ok (.completed value) =>
              if builderUsed then
                .done (.first state' true, .ok .suspended)
              else
                match continuation.refusal value with
                | some panic => .done (.first state' true, .error panic)
                | none =>
                    let built := continuation.build value
                    (built.advance built.state).map fun (started, result) =>
                      (.second value started, result)

/-- Apply a combinator a number of times. -/
def layered
    (coroutine : Coroutine κ α ε)
    (layer : Coroutine κ α ε → Coroutine κ α ε)
    (count : Nat) :
    Coroutine κ α ε :=
  Nat.repeat layer count coroutine

end Coroutine

end RoundRobin
