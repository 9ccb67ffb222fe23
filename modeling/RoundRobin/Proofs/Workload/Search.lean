import Mathlib.Order.Bounds.Basic
import RoundRobin.Proofs.Lucas
import RoundRobin.Proofs.Search
import RoundRobin.Proofs.Workload.Run

namespace RoundRobin

/-!
# The search workload

A search for so many digits goes through the Lucas sequence from its start, a
term at a resumption. For up to 39 digits there is a term that is long enough
below the bound, so the search comes to the first such term before the cursor
runs dry, and it completes with that term. A workload of searches therefore is
resolved in the order of the indices at which they succeed.
-/

namespace Lucas

/-- Pulled from any term on, the sequence gives the terms in order. -/
theorem nth?_source
    (index pulls : Nat) :
    (Source.lucas start).nth? (cursor index) pulls =
      shown? (index + pulls) := by
  induction pulls generalizing index with
  | zero =>
      exact congrArg Prod.snd (next_cursor index)
  | succ pulls inductionHypothesis =>
      have moved :
          ((Source.lucas start).pull (cursor index)).1 =
            cursor (index + 1) :=
        congrArg Prod.fst (next_cursor index)
      calc
        (Source.lucas start).nth? (cursor index) (pulls + 1) =
            (Source.lucas start).nth?
              ((Source.lucas start).pull (cursor index)).1 pulls := rfl
        _ = shown? (index + 1 + pulls) := by
          rw [moved, inductionHypothesis]
        _ = shown? (index + (pulls + 1)) := by
          rw [Nat.add_right_comm, Nat.add_assoc]

end Lucas

namespace Workload

/-- A search for no more digits than there can be succeeds at the first long enough term. -/
theorem quiet_lucasSearch
    {digits : Nat}
    (fits : digits ≤ Lucas.maxDigits) :
    (coroutineOf (lucasSearch digits)).Quiet
      (fun outcome =>
        outcome =
          .completed (.number (Lucas.term (Lucas.firstOfLength digits))))
      (Lucas.firstOfLength digits) := by
  have shown
      (index : Nat)
      (reached : index ≤ Lucas.firstOfLength digits) :
      (Source.lucas Lucas.start).nth? (Lucas.cursor 0) index =
        some (Lucas.term index) := by
    rw [Lucas.nth?_source, Nat.zero_add]
    apply Lucas.shown?_eq_some
    by_contra beyond
    have bound := Lucas.term_firstOfLength_lt fits
    have unbound :=
      Lucas.wordBound_le_term (Nat.le_of_not_lt beyond) reached
    omega
  have quiet :
      Coroutine.Quiet
        (fun outcome =>
          outcome =
            .completed (Lucas.term (Lucas.firstOfLength digits)))
        (Lucas.firstOfLength digits)
        (Coroutine.searchFrom (Source.lucas Lucas.start)
          (NumberTest.digitsAtLeast digits).run (Lucas.cursor 0) :
          Coroutine Job Nat TaskError) := by
    apply Coroutine.quiet_searchFrom
    · intro index before
      refine
        ⟨Lucas.term index, shown index (Nat.le_of_lt before), ?_⟩
      have short := Lucas.digitCount_lt_of_lt_firstOfLength before
      simp [NumberTest.run, short]
    · exact shown _ (Nat.le_refl _)
    · have long := Lucas.le_digitCount_firstOfLength digits
      simp [NumberTest.run, long]
  have transformed := quiet.map Value.number
  simp only [exists_eq_left, Outcome.map] at transformed
  exact transformed

end Workload

/--
Searches are run only if a term below the bound is long enough for every one of
them. Else the first threshold that is too large is named, whatever the settings
and the world. If they are run, all of them complete, each with the first term
that has as many digits as its threshold asks for, or more.
-/
theorem searches_reported (thresholds : List Nat) :
    ((∃ digits ∈ thresholds, 39 < digits) →
        ∃ before digits after,
          thresholds = before ++ digits :: after ∧
            (∀ other ∈ before, other ≤ 39) ∧
            39 < digits ∧
            (WorkloadError.tooManyDigits digits).message =
              "cannot search for " ++ digits.repr ++
                " digits: the longest representable Lucas number has " ++
                Nat.repr 39 ∧
            ∀ (patience : Nat) (config : SchedulerConfig)
              (world : RecipeWorld),
              runSearch patience config thresholds world =
                .error (.tooManyDigits digits)) ∧
      ((∀ digits ∈ thresholds, digits ≤ 39) →
        (∀ digits ∈ thresholds,
          IsLeast
              {index |
                digits ≤ (Nat.digits 10 (Lucas.term index)).length}
              (Lucas.firstOfLength digits) ∧
            Lucas.term (Lucas.firstOfLength digits) < 2 ^ 128) ∧
          ∀ {config : SchedulerConfig} {world : RecipeWorld}
            {patience : Nat},
            config.initialCapacity * Queue.taskBytes ≤
              Queue.reservableBytes →
            world.frames = [] →
            (thresholds.map fun digits =>
                Lucas.firstOfLength digits + 1).sum + 1 <
              patience →
            ∃ world',
              runSearch patience config thresholds world =
                .ok
                  (world',
                    { tasks :=
                        thresholds.mapIdx fun index digits =>
                          { id := ⟨index⟩
                            label :=
                              "search(digits >= " ++ digits.repr ++ ")"
                            state := .completed
                            value :=
                              some
                                (.number
                                  (Lucas.term
                                    (Lucas.firstOfLength digits)))
                            error := none }
                      resolutionOrder :=
                        (sortedBy
                            (fun index =>
                              (thresholds.map
                                Lucas.firstOfLength).getD index 0)
                            thresholds.length).map TaskId.mk
                      stats :=
                        { tasksAdded := thresholds.length
                          tasksCompleted := thresholds.length
                          tasksFailed := 0
                          resumptions :=
                            (thresholds.map fun digits =>
                              Lucas.firstOfLength digits + 1).sum
                          suspensions :=
                            (thresholds.map
                              Lucas.firstOfLength).sum } })) := by
  refine ⟨?_, ?_⟩
  · rintro ⟨large, member, tooLarge⟩
    obtain ⟨digits, found⟩ :
        ∃ digits,
          thresholds.find? (fun digits => Lucas.maxDigits < digits) =
            some digits :=
      Option.isSome_iff_exists.mp
        (List.find?_isSome.mpr
          ⟨large, member, decide_eq_true tooLarge⟩)
    obtain ⟨first, before, after, same, others⟩ :=
      List.find?_eq_some_iff_append.mp found
    refine
      ⟨before, digits, after, same, ?_, of_decide_eq_true first, rfl, ?_⟩
    · intro other member
      have small := others other member
      rw [Bool.not_eq_true', decide_eq_false_iff_not] at small
      exact Nat.not_lt.mp small
    · intro patience config world
      simp only [runSearch, found]
  · intro fits
    have none :
        thresholds.find? (fun digits => Lucas.maxDigits < digits) =
          none := by
      rw [List.find?_eq_none]
      intro digits member tooLarge
      exact
        Nat.not_le_of_lt (of_decide_eq_true tooLarge)
          (fits digits member)
    refine ⟨?_, ?_⟩
    · intro digits member
      refine ⟨?_, Lucas.term_firstOfLength_lt (fits digits member)⟩
      exact Nat.isLeast_find (Lucas.exists_le_length_digits digits)
    · intro config world patience roomy idle enough
      obtain ⟨world', ran⟩ :=
        Workload.run_of_quiet roomy idle
          (show (Workload.search thresholds).tasks world.slots.length = _
            from rfl)
          (fun digits member =>
            Workload.quiet_lucasSearch (fits digits member))
          enough
      refine ⟨world', ?_⟩
      simp only [runSearch, none]
      exact ran

/--
Of four searches two have the same threshold, one asks for nothing and one for
as many digits as there can be. A threshold of 40 is rejected, whatever else is
asked for.
-/
theorem searches_reported_for_four :
    (∃ world',
      runSearch 246 {} [7, 0, 39, 7] (World.empty none) =
        .ok
          (world',
            { tasks :=
                [⟨⟨0⟩, "search(digits >= 7)", .completed,
                    some (.number 1149851), none⟩,
                  ⟨⟨1⟩, "search(digits >= 0)", .completed,
                    some (.number 2), none⟩,
                  ⟨⟨2⟩, "search(digits >= 39)", .completed,
                    some
                      (.number 108580172054362347934782139964888177403),
                    none⟩,
                  ⟨⟨3⟩, "search(digits >= 7)", .completed,
                    some (.number 1149851), none⟩]
              resolutionOrder := [⟨1⟩, ⟨0⟩, ⟨3⟩, ⟨2⟩]
              stats :=
                { tasksAdded := 4
                  tasksCompleted := 4
                  tasksFailed := 0
                  resumptions := 244
                  suspensions := 240 } })) ∧
      runSearch 0 {} [7, 40, 50] (World.empty none) =
        .error (.tooManyDigits 40) := by
  have zero : Lucas.firstOfLength 0 = 0 := by
    rw [Lucas.firstOfLength, Nat.find_eq_zero]
    exact Nat.zero_le _
  have seven : Lucas.firstOfLength 7 = 29 :=
    Lucas.firstOfLength_eq (by decide) (by decide) (by decide)
  have longest : Lucas.firstOfLength 39 = 182 :=
    Lucas.firstOfLength_eq (by decide) (by decide) (by decide)
  have order :
      sortedBy (fun index => [29, 0, 182, 29].getD index 0) 4 =
        [1, 0, 3, 2] := by
    have bounded :
        ∀ index < 4, [29, 0, 182, 29].getD index 0 ≤ 182 := by
      decide
    rw [← classwise_eq_sortedBy bounded]
    rfl
  refine ⟨?_, ?_⟩
  · have fits : ∀ digits ∈ [7, 0, 39, 7], digits ≤ 39 := by
      decide
    have reported :=
      ((searches_reported [7, 0, 39, 7]).2 fits).2
        (show
          ({} : SchedulerConfig).initialCapacity * Queue.taskBytes ≤
            Queue.reservableBytes by decide)
        (show (World.empty none).frames = [] from rfl)
        (show _ < 246 by simp [zero, seven, longest])
    obtain ⟨world', ran⟩ := reported
    refine ⟨world', ran.trans ?_⟩
    simp only [List.mapIdx_cons, List.mapIdx_nil, List.map_cons,
      List.map_nil, zero, seven, longest]
    rw [show [7, 0, 39, 7].length = 4 from rfl, order]
    rfl
  · obtain ⟨before, digits, after, same, small, large, -, rejected⟩ :=
      (searches_reported [7, 40, 50]).1 ⟨40, by decide, by decide⟩
    -- Seven is not too large, and what is passed over stops short of 40.
    rcases before with _ | ⟨first, _ | ⟨second, rest⟩⟩
    · obtain ⟨rfl, -⟩ := List.cons.inj same
      exact absurd large (by decide)
    · obtain ⟨-, others⟩ := List.cons.inj same
      obtain ⟨rfl, -⟩ := List.cons.inj others
      exact rejected 0 {} (World.empty none)
    · obtain ⟨-, others⟩ := List.cons.inj same
      obtain ⟨rfl, -⟩ := List.cons.inj others
      exact absurd (small 40 (by simp)) (by decide)

end RoundRobin
