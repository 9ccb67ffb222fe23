import RoundRobin.Coroutine.Basic
import RoundRobin.Payload
import RoundRobin.TaskError

namespace RoundRobin

/-!
# Routines: generators as coroutines

A generator is stepped; each step yields a payload, returns a value or raises
an error. `routine` turns it into a coroutine that enforces empty suspensions:
a step that yields a non-empty payload fails the routine. Once it has
completed or failed, a routine never steps its generator again and answers
every resumption with the same violation.
-/

/-- What one step of a generator ends in. -/
inductive GeneratorStep (π α ε : Type) where
  | yielded (payload : π)
  | returned (value : α)
  | raised (error : ε)
  deriving DecidableEq, Repr

/-- A procedure that is stepped without an argument. -/
abbrev Generator (π α ε : Type) :=
  Procedure Unit (GeneratorStep π α ε)

/-- Where a routine stands: the state of its generator and whether it has ended. -/
structure RoutineState (σ : Type) where
  generator : σ
  terminated : Bool
  deriving DecidableEq, Repr

namespace Coroutine

/-- Adapt a generator to the rules for coroutines. -/
def routine
    [Payload π]
    [OfViolation ε]
    (generator : Generator π α ε) :
    Coroutine κ α ε where
  State := RoutineState generator.State
  state := { generator := generator.state, terminated := false }
  advance := fun routine =>
    if routine.terminated then
      .done
        (routine,
          .ok (.failed (OfViolation.ofViolation .resumedAfterTermination)))
    else
      match generator.call routine.generator () with
      | (memory, .error panic) =>
          .done ({ generator := memory, terminated := false }, .error panic)
      | (memory, .ok (.returned value)) =>
          .done ({ generator := memory, terminated := true }, .ok (.completed value))
      | (memory, .ok (.raised error)) =>
          .done ({ generator := memory, terminated := true }, .ok (.failed error))
      | (memory, .ok (.yielded payload)) =>
          if Payload.isEmpty payload then
            .done ({ generator := memory, terminated := false }, .ok .suspended)
          else
            let violation :=
              ProtocolViolation.nonEmptySuspension (Payload.describe payload)
            .ask (.announce .error violation.message) fun _ =>
              .done
                ({ generator := memory, terminated := true },
                  .ok (.failed (OfViolation.ofViolation violation)))

/-- The generator that yields nothing a number of times and then returns. -/
def countdown
    (times : Nat)
    (value : α) :
    Generator Unit α ε where
  State := Nat
  state := times
  call := fun left _ =>
    match left with
    | 0 => (0, .ok (.returned value))
    | fewer + 1 => (fewer, .ok (.yielded ()))

/-- The coroutine that suspends a number of times and then completes. -/
def suspendThen
    [OfViolation ε]
    (times : Nat)
    (value : α) :
    Coroutine κ α ε :=
  routine (countdown times value)

end Coroutine

end RoundRobin
