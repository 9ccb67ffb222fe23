import RoundRobin.Coroutine.Basic
import RoundRobin.Number.SquareRoot
import RoundRobin.TaskError

namespace RoundRobin

/-!
# Stepwise primality

`isPrime` tries one divisor per resumption, from two up to the square root of
the candidate. It suspends after each divisor that does not divide, completes
with `false` at the first that does, and with `true` when none is left.
-/

/-- A candidate, the divisor to try next and the last divisor worth trying. -/
structure PrimeTest where
  candidate : Nat
  divisor : Nat
  limit : Nat
  deriving DecidableEq, Repr

namespace PrimeTest

/-- The test of a candidate before any divisor has been tried. -/
def start (candidate : Nat) : PrimeTest where
  candidate := candidate
  divisor := 2
  limit := floorSqrt candidate

/-- Try one divisor. -/
def step (test : PrimeTest) : PrimeTest × Outcome Bool TaskError :=
  if test.candidate < 2 then
    (test, .completed false)
  else if test.limit < test.divisor then
    (test, .completed true)
  else if test.candidate % test.divisor = 0 then
    (test, .completed false)
  else
    ({ test with divisor := test.divisor + 1 }, .suspended)

end PrimeTest

/-- The coroutine that decides whether a number is prime. -/
def Coroutine.isPrime (candidate : Nat) : Coroutine κ Bool TaskError :=
  Coroutine.ofStep PrimeTest (.start candidate) fun test =>
    (test.step.1, .ok test.step.2)

end RoundRobin
