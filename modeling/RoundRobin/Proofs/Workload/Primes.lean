import Mathlib.Tactic.NormNum.NatSqrt
import Mathlib.Tactic.NormNum.Prime
import RoundRobin.Proofs.Collect
import RoundRobin.Proofs.PrimeTest
import RoundRobin.Proofs.Workload.Search

namespace RoundRobin

/-!
# The primes workload

The first Lucas numbers are judged one after the other, each by a test of its
own that never fails. The collection ends when it has been given as many terms
as were asked for, or when there are no more below the bound. How often it
suspends until then follows from how many divisors each of the tests rules out.
-/

namespace Lucas

/-- The first terms, at most so many, that lie below the bound. -/
def firstTerms (count : Nat) : List Nat :=
  (List.range (min count 185)).map term

/-- A cut-off source of the sequence gives its first terms and then nothing. -/
theorem nth?_take_source (count pulls : Nat) :
    ((Source.lucas start).take count).nth? (cursor 0, count) pulls =
      (firstTerms count)[pulls]? := by
  have cut :
      ((Source.lucas start).take count).nth? (cursor 0, count) pulls =
        if pulls < count then shown? pulls else none := by
    calc
      ((Source.lucas start).take count).nth? (cursor 0, count) pulls =
          if pulls < count then
            (Source.lucas start).nth? (cursor 0) pulls
          else none :=
        Source.nth?_take (Source.lucas start) count (cursor 0) count pulls
      _ = if pulls < count then shown? pulls else none := by
        rw [nth?_source, Nat.zero_add]
  rw [cut, firstTerms, List.getElem?_map, shown?]
  simp only [term_lt_wordBound_iff]
  by_cases asked : pulls < count
  · by_cases within : pulls < 185
    · rw [if_pos asked, if_pos within,
        List.getElem?_range (lt_min asked within)]
      rfl
    · rw [if_pos asked, if_neg within,
        List.getElem?_eq_none (by simp; omega)]
      rfl
  · rw [if_neg asked, List.getElem?_eq_none (by simp; omega)]
    rfl

end Lucas

namespace Workload

/-- How often the collection of the primes among the first terms suspends. -/
def primesSuspensions (count : Nat) : Nat :=
  ((Lucas.firstTerms count).map fun term =>
    1 + PrimeTest.ruledOut term).sum

/-- The collection completes with the primes among the first terms. -/
theorem quiet_lucasPrimes (count : Nat) :
    (coroutineOf (lucasPrimes count)).Quiet
      (fun outcome =>
        outcome =
          .completed
            (.list ((Lucas.firstTerms count).filter fun term => term.Prime)))
      (primesSuspensions count) := by
  have makes :
      ∀ memory item,
        ((JudgeRecipe.maker { kind := .prime, test := .always } :
          JudgeMaker Job Nat TaskError).call memory item).2 = none :=
    fun _ _ => rfl
  have quiet :=
    Coroutine.quiet_collecting makes
      (fun _ item _ => Coroutine.quiet_isPrime item)
      (fun pulls _ => Lucas.nth?_take_source count pulls)
      () []
  have transformed := quiet.map Value.list
  simp only [exists_eq_left, Outcome.map, List.nil_append] at transformed
  exact transformed

end Workload

/--
The collection of primes is run to its end, whatever number of terms is asked
for. Its one task completes with the primes among the first terms that there
are below the bound, and it suspends for each of these terms once, and once for
every divisor that the test of the term rules out.
-/
theorem primes_reported (count : Nat) :
    (∀ index, Lucas.term index < 2 ^ 128 ↔ index < 185) ∧
      ∀ {config : SchedulerConfig} {world : RecipeWorld}
        {patience : Nat},
        config.initialCapacity * Queue.taskBytes ≤
          Queue.reservableBytes →
        world.frames = [] →
        ((Lucas.firstTerms count).map fun term =>
              1 + PrimeTest.ruledOut term).sum +
            2 <
          patience →
        ∃ world',
          runPrimes patience config count world =
            .ok
              (world',
                { tasks :=
                    [{ id := ⟨0⟩
                       label := "primes(first " ++ count.repr ++ ")"
                       state := .completed
                       value :=
                         some
                           (.list
                             ((Lucas.firstTerms count).filter fun term =>
                               term.Prime))
                       error := none }]
                  resolutionOrder := [⟨0⟩]
                  stats :=
                    { tasksAdded := 1
                      tasksCompleted := 1
                      tasksFailed := 0
                      resumptions :=
                        ((Lucas.firstTerms count).map fun term =>
                            1 + PrimeTest.ruledOut term).sum +
                          1
                      suspensions :=
                        ((Lucas.firstTerms count).map fun term =>
                          1 + PrimeTest.ruledOut term).sum } }) := by
  refine ⟨fun index => Lucas.term_lt_wordBound_iff index, ?_⟩
  intro config world patience roomy idle enough
  have resumptions :
      ([count].map fun count =>
            Workload.primesSuspensions count + 1).sum +
          1 <
        patience := by
    simpa [Workload.primesSuspensions] using enough
  obtain ⟨world', ran⟩ :=
    Workload.run_of_quiet roomy idle
      (show (Workload.primes count).tasks world.slots.length = _ from rfl)
      (fun count _ => Workload.quiet_lucasPrimes count)
      resumptions
  refine ⟨world', ran.trans ?_⟩
  simp [Report.allCompleted, sortedBy, Workload.primesSuspensions,
    Workload.primesLabel]

/-- Of the first twelve terms seven are prime. -/
theorem primes_reported_for_twelve :
    (Lucas.firstTerms 12 = [2, 1, 3, 4, 7, 11, 18, 29, 47, 76, 123, 199]) ∧
      ∃ world',
        runPrimes 41 {} 12 (World.empty none) =
          .ok
            (world',
              { tasks :=
                  [{ id := ⟨0⟩
                     label := "primes(first 12)"
                     state := .completed
                     value := some (.list [2, 3, 7, 11, 29, 47, 199])
                     error := none }]
                resolutionOrder := [⟨0⟩]
                stats :=
                  { tasksAdded := 1
                    tasksCompleted := 1
                    tasksFailed := 0
                    resumptions := 39
                    suspensions := 38 } }) := by
  have terms :
      Lucas.firstTerms 12 =
        [2, 1, 3, 4, 7, 11, 18, 29, 47, 76, 123, 199] := by
    decide
  have primes :
      ((Lucas.firstTerms 12).filter fun term => term.Prime) =
        [2, 3, 7, 11, 29, 47, 199] := by
    rw [terms]
    norm_num [List.filter]
  have ruledOut :
      ((Lucas.firstTerms 12).map fun term =>
        1 + PrimeTest.ruledOut term).sum = 38 := by
    rw [terms]
    norm_num [PrimeTest.ruledOut]
  refine ⟨terms, ?_⟩
  obtain ⟨world', ran⟩ :=
    (primes_reported 12).2
      (show
        ({} : SchedulerConfig).initialCapacity * Queue.taskBytes ≤
          Queue.reservableBytes by decide)
      (show (World.empty none).frames = [] from rfl)
      (show _ < 41 by rw [ruledOut]; decide)
  refine ⟨world', ran.trans ?_⟩
  rw [primes, ruledOut]
  rfl

end RoundRobin
