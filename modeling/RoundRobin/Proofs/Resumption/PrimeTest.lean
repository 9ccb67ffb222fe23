import Mathlib.Tactic.NormNum.Prime
import RoundRobin.Number.Lucas
import RoundRobin.Proofs.PrimeTest
import RoundRobin.Proofs.Resumption.Basic

namespace RoundRobin

/-!
# Numbers are tested to the end

The divisor goes up with every suspension and stays where it is once the test has
told its result. So it is known for every turn which divisor has been reached,
and that none is so large that its successor would leave the numbers in use.
-/

namespace PrimeTest

variable {candidate turn : Nat}

/-- The divisor that is tried in a turn. -/
def divisorAt (candidate turn : Nat) : Nat :=
  2 + min turn (ruledOut candidate)

/-- What a turn gives. -/
def verdictAt (candidate turn : Nat) : Outcome Bool TaskError :=
  if turn < ruledOut candidate then .suspended
  else .completed (decide candidate.Prime)

/-- A divisor that is ruled out makes room for the next. -/
theorem step_reaching_of_lt (before : turn < ruledOut candidate) :
    (reaching candidate (divisorAt candidate turn)).step =
      (reaching candidate (divisorAt candidate (turn + 1)),
        .suspended) := by
  have large : 2 ≤ candidate := by
    by_contra small
    rw [ruledOut, if_pos (Nat.lt_of_not_le small)] at before
    exact Nat.not_lt_zero turn before
  have last := two_add_ruledOut large
  have reached : divisorAt candidate turn = 2 + turn := by
    rw [divisorAt, Nat.min_eq_left (Nat.le_of_lt before)]
  have next : divisorAt candidate (turn + 1) = 2 + turn + 1 := by
    rw [divisorAt, Nat.min_eq_left before, Nat.add_assoc]
  rw [reached, next]
  exact step_of_lt large (Nat.le_add_right 2 turn) (by omega)

/-- The last divisor stays, and what it tells. -/
theorem step_reaching_of_ge (ended : ruledOut candidate ≤ turn) :
    (reaching candidate (divisorAt candidate turn)).step =
      (reaching candidate (divisorAt candidate (turn + 1)),
        .completed (decide candidate.Prime)) := by
  rw [divisorAt, divisorAt, Nat.min_eq_right ended,
    Nat.min_eq_right (Nat.le_succ_of_le ended)]
  rcases Nat.lt_or_ge candidate 2 with small | large
  · have notPrime : ¬ candidate.Prime := fun prime =>
      Nat.not_le.mpr small prime.two_le
    rw [ruledOut, if_pos small, decide_eq_false notPrime]
    exact step_of_small small
  · rw [two_add_ruledOut large]
    exact step_lastDivisor large

/-- Every turn tries its divisor. -/
theorem step_reaching (candidate turn : Nat) :
    (reaching candidate (divisorAt candidate turn)).step =
      (reaching candidate (divisorAt candidate (turn + 1)),
        verdictAt candidate turn) := by
  rcases Nat.lt_or_ge turn (ruledOut candidate) with before | ended
  · rw [verdictAt, if_pos before]
    exact step_reaching_of_lt before
  · rw [verdictAt, if_neg (Nat.not_lt.mpr ended)]
    exact step_reaching_of_ge ended

/-- No divisor is tried that is more than one above the square root. -/
theorem divisorAt_le (candidate turn : Nat) :
    divisorAt candidate turn ≤ max 2 (candidate.sqrt + 1) := by
  have reached : divisorAt candidate turn ≤ 2 + ruledOut candidate :=
    Nat.add_le_add_left (Nat.min_le_right turn _) 2
  apply reached.trans
  rcases Nat.lt_or_ge candidate 2 with small | large
  · rw [ruledOut, if_pos small]
    exact Nat.le_max_left 2 _
  · rw [two_add_ruledOut large, lastDivisor]
    split
    · exact Nat.le_max_right 2 _
    · next composite =>
        exact
          (Nat.le_succ_of_le (minFac_le_sqrt large composite)).trans
            (Nat.le_max_right 2 _)

/-- The divisors stay so small that counting on is no risk. -/
theorem divisorAt_succ_lt_wordBound
    (within : candidate < wordBound)
    (turn : Nat) :
    divisorAt candidate turn + 1 < wordBound := by
  have root : candidate.sqrt < 18446744073709551616 :=
    Nat.sqrt_lt.mpr within
  have bounded := divisorAt_le candidate turn
  unfold wordBound
  omega

end PrimeTest

namespace Coroutine

open PrimeTest

variable
  {ω : Type v}
  {answer : (request : Request κ) → ω → Option (ω × request.Reply)}

/-- The test of a number suspends at every divisor it rules out and then keeps to its result. -/
theorem resumeTimes_isPrime
    (candidate times : Nat)
    (state : ω) :
    (isPrime candidate).resumeTimes answer times state =
      some
        (state, testing (reaching candidate (divisorAt candidate times)),
          (List.range times).map fun turn =>
            .ok (verdictAt candidate turn)) := by
  have start : divisorAt candidate 0 = 2 := by
    rw [divisorAt, Nat.zero_min]
  have stages :=
    resumeTimes_of_stages
      (fun turn =>
        (testing (reaching candidate (divisorAt candidate turn)) :
          Coroutine κ Bool TaskError))
      (fun _ => state)
      fun turn (_ : turn < times) => by
        rw [resume_testing, step_reaching]
        exact (rfl : Activity.conduct answer (.done _) state = _)
  rw [start] at stages
  exact stages

end Coroutine

/--
The test of a number in use comes to its end and tells whether the number is
prime. Before that it suspends not at all for a number below two, once for each
number from two up to but not including the least prime factor for a composite
one, and once for each from two up to the square root for a prime. It never fails,
however often it is resumed, and tells the same from its end on. At no point is
the divisor zero, or so large that its successor would not be in use.
-/
theorem primality_decided
    {candidate : Nat}
    (within : candidate < wordBound) :
    ∃ suspensions,
      (candidate < 2 → suspensions = 0) ∧
        (2 ≤ candidate →
          ¬ candidate.Prime →
          suspensions + 2 = candidate.minFac) ∧
        (candidate.Prime → suspensions + 1 = candidate.sqrt) ∧
        ∀ {κ ω : Type}
          (answer : (request : Request κ) → ω → Option (ω × request.Reply))
          (times : Nat)
          (state : ω),
          ∃ divisor,
            (Coroutine.isPrime candidate).resumeTimes answer times state =
                some
                  (state,
                    Coroutine.testing
                      { candidate := candidate
                        divisor := divisor
                        limit := candidate.sqrt },
                    (List.range times).map fun turn =>
                      if turn < suspensions then .ok .suspended
                      else .ok (.completed (decide candidate.Prime))) ∧
              2 ≤ divisor ∧
              divisor + 1 < wordBound := by
  refine ⟨PrimeTest.ruledOut candidate, ?_, ?_, ?_, ?_⟩
  · intro small
    rw [PrimeTest.ruledOut, if_pos small]
  · intro large composite
    have last := PrimeTest.two_add_ruledOut large
    rw [PrimeTest.lastDivisor, if_neg composite] at last
    omega
  · intro prime
    have last := PrimeTest.two_add_ruledOut prime.two_le
    rw [PrimeTest.lastDivisor, if_pos prime] at last
    omega
  · intro κ ω answer times state
    refine
      ⟨PrimeTest.divisorAt candidate times, ?_, Nat.le_add_right 2 _,
        PrimeTest.divisorAt_succ_lt_wordBound within times⟩
    rw [Coroutine.resumeTimes_isPrime, PrimeTest.reaching,
      floorSqrt_eq_sqrt]
    simp only [PrimeTest.verdictAt, apply_ite Except.ok]

/-- The largest number in use is divisible by three, so two is the one divisor ruled out. -/
theorem primality_decided_at_bound :
    ∃ tested,
      (Coroutine.isPrime (wordBound - 1) :
          Coroutine Unit Bool TaskError).resumeTimes
          (fun _ (_ : Unit) => none) 3 () =
        some
          ((), tested,
            [.ok .suspended, .ok (.completed false),
              .ok (.completed false)]) := by
  have composite : ¬ (wordBound - 1).Prime := by
    norm_num [wordBound]
  have factor : (wordBound - 1).minFac = 3 := by
    norm_num [wordBound]
  obtain ⟨suspensions, -, counted, -, run⟩ :=
    primality_decided (by decide : wordBound - 1 < wordBound)
  obtain rfl : suspensions = 1 := by
    have count := counted (by decide) composite
    omega
  obtain ⟨divisor, ran, -⟩ :=
    run (fun (_ : Request Unit) (_ : Unit) => none) 3 ()
  rw [decide_eq_false composite] at ran
  exact ⟨_, ran⟩

end RoundRobin
