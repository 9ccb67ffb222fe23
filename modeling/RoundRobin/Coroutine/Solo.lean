import RoundRobin.Coroutine.Basic

namespace RoundRobin

/-!
# Driving a coroutine alone

A coroutine can be driven without a scheduler: resumed a fixed number of
times, whatever it answers, or resumed until it first answers with something
other than a suspension.
-/

namespace Coroutine

/-- The results of resuming a coroutine a number of times in a row. -/
def resumeTimes
    {ω : Type v}
    (answer : (request : Request κ) → ω → Option (ω × request.Reply)) :
    (times : Nat) →
    Coroutine κ α ε →
    ω →
    Option (ω × Coroutine κ α ε × List (Guarded (Outcome α ε)))
  | 0, coroutine, state => some (state, coroutine, [])
  | times + 1, coroutine, state =>
      match coroutine.resume.conduct answer state with
      | none => none
      | some (state, coroutine, result) =>
          match resumeTimes answer times coroutine state with
          | none => none
          | some (state, coroutine, results) =>
              some (state, coroutine, result :: results)

/-- How a coroutine fared that was resumed until its first ending. -/
structure Ending (α ε : Type) where
  /-- How often it suspended before. -/
  suspensions : Nat
  /-- The first result that is no suspension; `none` if there was none in time. -/
  result : Option (Guarded (Outcome α ε))
  deriving Repr

/-- Resume a coroutine until it first does not suspend, at most `times` times. -/
def resumeToEnd
    {ω : Type v}
    (answer : (request : Request κ) → ω → Option (ω × request.Reply)) :
    (times suspensions : Nat) →
    Coroutine κ α ε →
    ω →
    Option (ω × Coroutine κ α ε × Ending α ε)
  | 0, suspensions, coroutine, state =>
      some (state, coroutine, { suspensions := suspensions, result := none })
  | times + 1, suspensions, coroutine, state =>
      match coroutine.resume.conduct answer state with
      | none => none
      | some (state, coroutine, .ok .suspended) =>
          resumeToEnd answer times (suspensions + 1) coroutine state
      | some (state, coroutine, result) =>
          some
            (state, coroutine,
              { suspensions := suspensions, result := some result })

end Coroutine

end RoundRobin
