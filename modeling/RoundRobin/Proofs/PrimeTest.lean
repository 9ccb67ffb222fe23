import Mathlib.Data.Nat.Prime.Basic
import Mathlib.Data.Nat.Sqrt
import RoundRobin.Coroutine.PrimeTest
import RoundRobin.Proofs.Schedule.Lasting

namespace RoundRobin

/-!
# What the test of a number finds

The divisors that are tried go up one by one from two. For a number that is not
prime the first one that divides is its least prime factor, which does not
exceed the square root; for a prime none up to the square root does. So the
divisor at which the test ends is known beforehand, and the test suspends once
for each divisor before it.
-/

/-- The root that is found digit by digit is the square root. -/
theorem floorSqrt_eq_sqrt (n : Nat) : floorSqrt n = n.sqrt :=
  Nat.eq_sqrt.mpr (floorSqrt_bounds n)

namespace PrimeTest

/-- The test of a candidate that has come to a divisor. -/
def reaching (candidate divisor : Nat) : PrimeTest where
  candidate := candidate
  divisor := divisor
  limit := floorSqrt candidate

/-- The divisor at which the test of a candidate ends. -/
def lastDivisor (candidate : Nat) : Nat :=
  if candidate.Prime then candidate.sqrt + 1 else candidate.minFac

/-- How many divisors the test of a candidate rules out before it ends. -/
def ruledOut (candidate : Nat) : Nat :=
  if candidate < 2 then 0
  else if candidate.Prime then candidate.sqrt - 1
  else candidate.minFac - 2

variable {candidate divisor : Nat}

/-- A number that is not prime has a factor among the divisors worth trying. -/
theorem minFac_le_sqrt
    (large : 2 ≤ candidate)
    (composite : ¬ candidate.Prime) :
    candidate.minFac ≤ candidate.sqrt := by
  rw [Nat.le_sqrt']
  exact Nat.minFac_sq_le_self (Nat.zero_lt_of_lt large) composite

/-- From two on, all divisors before the last one are ruled out. -/
theorem two_add_ruledOut (large : 2 ≤ candidate) :
    2 + ruledOut candidate = lastDivisor candidate := by
  have root : 1 ≤ candidate.sqrt :=
    Nat.sqrt_pos.mpr (Nat.zero_lt_of_lt large)
  have factor : 2 ≤ candidate.minFac :=
    (Nat.minFac_prime (Nat.ne_of_gt large)).two_le
  unfold ruledOut lastDivisor
  rw [if_neg (Nat.not_lt.mpr large)]
  split
  · omega
  · omega

/-- A divisor before the last one is worth trying and does not divide. -/
theorem ruled_out_of_lt
    (large : 2 ≤ candidate)
    (second : 2 ≤ divisor)
    (before : divisor < lastDivisor candidate) :
    divisor ≤ candidate.sqrt ∧ ¬ divisor ∣ candidate := by
  unfold lastDivisor at before
  split at before
  · next prime =>
      have below : divisor < candidate :=
        Nat.lt_of_le_of_lt (Nat.le_of_lt_succ before)
          (Nat.sqrt_lt_self large)
      refine ⟨Nat.le_of_lt_succ before, ?_⟩
      intro divides
      rcases (Nat.dvd_prime prime).mp divides with isOne | isSelf
      · omega
      · omega
  · next composite =>
      have root := minFac_le_sqrt large composite
      refine ⟨by omega, ?_⟩
      intro divides
      have least := Nat.minFac_le_of_dvd second divides
      omega

/-- A divisor that is ruled out leads to the next. -/
theorem step_of_lt
    (large : 2 ≤ candidate)
    (second : 2 ≤ divisor)
    (before : divisor < lastDivisor candidate) :
    (reaching candidate divisor).step =
      (reaching candidate (divisor + 1), .suspended) := by
  obtain ⟨worth, fails⟩ := ruled_out_of_lt large second before
  rw [Nat.dvd_iff_mod_eq_zero] at fails
  rw [← floorSqrt_eq_sqrt, ← Nat.not_lt] at worth
  simp only [step, reaching, Nat.not_lt.mpr large, worth, fails,
    ↓reduceIte]

/-- At the last divisor it is known whether the candidate is prime. -/
theorem step_lastDivisor (large : 2 ≤ candidate) :
    (reaching candidate (lastDivisor candidate)).step =
      (reaching candidate (lastDivisor candidate),
        .completed (decide candidate.Prime)) := by
  by_cases prime : candidate.Prime
  · have beyond : floorSqrt candidate < candidate.sqrt + 1 := by
      rw [floorSqrt_eq_sqrt]
      exact Nat.lt_succ_self _
    simp only [step, reaching, lastDivisor, prime, beyond,
      Nat.not_lt.mpr large, ↓reduceIte, decide_true]
  · have worth : ¬ floorSqrt candidate < candidate.minFac := by
      rw [floorSqrt_eq_sqrt, Nat.not_lt]
      exact minFac_le_sqrt large prime
    have divides : candidate % candidate.minFac = 0 :=
      Nat.dvd_iff_mod_eq_zero.mp candidate.minFac_dvd
    simp only [step, reaching, lastDivisor, prime, worth, divides,
      Nat.not_lt.mpr large, ↓reduceIte, decide_false]

/-- No divisor is tried of a number below two. -/
theorem step_of_small
    (small : candidate < 2) :
    (start candidate).step = (start candidate, .completed false) := by
  simp only [step, start, small, ↓reduceIte]

end PrimeTest

namespace Coroutine

open PrimeTest

/-- A test that has come to any point. -/
def testing (test : PrimeTest) : Coroutine κ Bool TaskError :=
  ofStep PrimeTest test fun test => (test.step.1, .ok test.step.2)

theorem resume_testing (test : PrimeTest) :
    (testing test : Coroutine κ Bool TaskError).resume =
      .done (testing test.step.1, .ok test.step.2) :=
  rfl

/-- A test that has come to a divisor suspends for every one that is still ruled out. -/
theorem quiet_testing
    {candidate divisor left : Nat}
    (large : 2 ≤ candidate)
    (second : 2 ≤ divisor)
    (reaches : divisor + left = lastDivisor candidate) :
    Quiet (fun outcome => outcome = .completed (decide candidate.Prime))
      left
      (testing (reaching candidate divisor) :
        Coroutine κ Bool TaskError) := by
  induction left generalizing divisor with
  | zero =>
      obtain rfl : divisor = lastDivisor candidate := reaches
      unfold Quiet
      rw [resume_testing, step_lastDivisor large]
      refine ⟨.done _, ?_⟩
      intro ended ends
      rw [Activity.ends_done.mp ends]
      exact ⟨_, rfl, rfl, rfl⟩
  | succ fewer inductionHypothesis =>
      have before : divisor < lastDivisor candidate := by omega
      have later :=
        inductionHypothesis (Nat.le_succ_of_le second)
          (by omega : divisor + 1 + fewer = lastDivisor candidate)
      unfold Quiet
      rw [resume_testing, step_of_lt large second before]
      refine ⟨.done _, ?_⟩
      intro ended ends
      rw [Activity.ends_done.mp ends]
      exact ⟨rfl, later⟩

/-- The test of a number tells whether it is prime, after all divisors that are ruled out. -/
theorem quiet_isPrime (candidate : Nat) :
    Quiet (fun outcome => outcome = .completed (decide candidate.Prime))
      (ruledOut candidate)
      (isPrime candidate : Coroutine κ Bool TaskError) := by
  rcases Nat.lt_or_ge candidate 2 with small | large
  · have notPrime : ¬ candidate.Prime := fun prime =>
      Nat.not_le.mpr small prime.two_le
    have tested :
        (isPrime candidate : Coroutine κ Bool TaskError).resume =
          .done (isPrime candidate, .ok (.completed false)) := by
      calc
        (isPrime candidate : Coroutine κ Bool TaskError).resume =
            (testing (start candidate)).resume := rfl
        _ = .done (isPrime candidate, .ok (.completed false)) := by
          rw [resume_testing, step_of_small small]
          rfl
    rw [ruledOut, if_pos small]
    unfold Quiet
    rw [tested]
    refine ⟨.done _, ?_⟩
    intro ended ends
    rw [Activity.ends_done.mp ends]
    exact ⟨_, rfl, rfl, by simp [notPrime]⟩
  · exact
      quiet_testing large (Nat.le_refl 2) (two_add_ruledOut large)

end Coroutine

end RoundRobin
