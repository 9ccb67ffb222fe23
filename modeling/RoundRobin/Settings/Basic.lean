import RoundRobin.Log.Level
import RoundRobin.Scheduler.Basic

namespace RoundRobin

/-!
# Settings

The settings say what is logged, how schedulers are set up, and what the
ready-made workloads do unless they are told otherwise. Each has a default.
-/

/-- What the searches and the collection of primes do by default. -/
structure SearchSettings where
  /-- The numbers of digits to search for, one task for each. -/
  minDigits : List Nat := [7, 9]
  /-- How many Lucas numbers are tested for primes. -/
  primeCount : Nat := 20
  deriving DecidableEq, Repr

/-- All settings. -/
structure Settings where
  level : Level := .standard
  scheduler : SchedulerConfig := {}
  search : SearchSettings := {}
  deriving DecidableEq, Repr

end RoundRobin
