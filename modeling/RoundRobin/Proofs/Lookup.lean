import Mathlib.Logic.Relation
import RoundRobin.Proofs.Run.Passage
import RoundRobin.Proofs.Solo

namespace RoundRobin

/-!
# Looking tasks up

A scheduler answers where a task lives by asking three places, and takes the
task for ready if it is in none of them. That this is right rests on the
partition of the tasks: what has been issued and is in none of the three places
is ready, or is the task that is being resumed.

Ledgers and the list of abandoned tasks only ever grow at their ends. Together
with the partition this makes every answer but `ready` final.
-/

namespace Scheduler

/-- A value is found exactly if the ledger of values has it. -/
theorem resultOf_eq_ok_iff
    {scheduler : Scheduler κ α ε}
    {id : TaskId}
    {value : α} :
    scheduler.resultOf id = .ok value ↔
      scheduler.completed.get? id = some value := by
  unfold resultOf
  cases scheduler.completed.get? id <;> simp

/-- An error is found exactly if the ledger of errors has it. -/
theorem errorOf_eq_ok_iff
    {scheduler : Scheduler κ α ε}
    {id : TaskId}
    {error : ε} :
    scheduler.errorOf id = .ok error ↔
      scheduler.failed.get? id = some error := by
  unfold errorOf
  cases scheduler.failed.get? id <;> simp

/-- A look-up for a value that finds none tells where the task lives. -/
theorem eq_of_resultOf_eq_error
    {scheduler : Scheduler κ α ε}
    {id : TaskId}
    {missing : LookupError}
    (absent : scheduler.resultOf id = .error missing) :
    missing = { id := id, state := scheduler.stateOf? id } := by
  unfold resultOf at absent
  split at absent
  · cases absent
  · exact (Except.error.inj absent).symm

/-- A look-up for an error that finds none tells where the task lives. -/
theorem eq_of_errorOf_eq_error
    {scheduler : Scheduler κ α ε}
    {id : TaskId}
    {missing : LookupError}
    (absent : scheduler.errorOf id = .error missing) :
    missing = { id := id, state := scheduler.stateOf? id } := by
  unfold errorOf at absent
  split at absent
  · cases absent
  · exact (Except.error.inj absent).symm

end Scheduler

namespace Ledger

/-- Something is looked up exactly if the task has an entry. -/
theorem exists_get?_iff
    {ledger : Ledger ν}
    {id : TaskId} :
    (∃ value, ledger.get? id = some value) ↔ id ∈ ledger.ids := by
  rw [← not_iff_not, ← get?_eq_none_iff, Option.eq_none_iff_forall_ne_some,
    not_exists]

/-- Entries that are added at the end change no look-up that they are not about. -/
theorem get?_eq_of_isPrefix
    {ledger ledger' : Ledger ν}
    {id : TaskId}
    (extended : ledger.toList <+: ledger'.toList)
    (settled : id ∈ ledger.ids ∨ id ∉ ledger'.ids) :
    ledger'.get? id = ledger.get? id := by
  rcases settled with recorded | absent
  · obtain ⟨value, found⟩ := exists_get?_iff.mpr recorded
    obtain ⟨added, appended⟩ := extended
    simp only [get?, Option.map_eq_some_iff] at found
    obtain ⟨entry, first, rfl⟩ := found
    simp [get?, ← appended, List.find?_append, first]
  · have absentBefore : id ∉ ledger.ids := by
      intro recorded
      exact absent ((extended.map Prod.fst).subset recorded)
    rw [get?_eq_none_iff.mpr absent, get?_eq_none_iff.mpr absentBefore]

end Ledger

namespace Scheduler.Partitioned

variable
  {scheduler : Scheduler κ α ε}
  {running : Option TaskId}
  {id : TaskId}

/-- The tasks that show as abandoned are those that were given up. -/
theorem stateOf?_eq_abandoned_iff
    (partitioned : scheduler.Partitioned running) :
    scheduler.stateOf? id = some .abandoned ↔
      id ∈ scheduler.abandoned.toList := by
  constructor
  · intro shown
    rw [stateOf?_of_issued (issued_of_stateOf? shown)] at shown
    by_contra absent
    simp only [absent, ↓reduceIte] at shown
    split_ifs at shown <;> cases shown
  · intro abandoned
    have issued : id ∈ scheduler.ids.handedOut := by
      rw [IdSource.mem_handedOut_iff, partitioned.issued]
      exact .inr (.inr (.inr (.inl abandoned)))
    obtain ⟨-, notCompleted, notFailed, -⟩ :=
      partitioned.of_abandoned abandoned
    simp [stateOf?_of_issued issued, notCompleted, notFailed, abandoned]

/-- The tasks that show as ready are those in the queue and the one being resumed. -/
theorem stateOf?_eq_ready_iff
    (partitioned : scheduler.Partitioned running) :
    scheduler.stateOf? id = some .ready ↔
      id ∈ scheduler.readyIds ∨ running = some id := by
  constructor
  · intro shown
    have issued := issued_of_stateOf? shown
    have notCompleted : id ∉ scheduler.completed.ids := by
      rw [← partitioned.stateOf?_eq_completed_iff, shown]
      simp
    have notFailed : id ∉ scheduler.failed.ids := by
      rw [← partitioned.stateOf?_eq_failed_iff, shown]
      simp
    have notAbandoned : id ∉ scheduler.abandoned.toList := by
      rw [← partitioned.stateOf?_eq_abandoned_iff, shown]
      simp
    rw [IdSource.mem_handedOut_iff, partitioned.issued] at issued
    simpa only [notCompleted, notFailed, notAbandoned, false_or]
      using issued
  · intro live
    have issued : id ∈ scheduler.ids.handedOut := by
      rw [IdSource.mem_handedOut_iff, partitioned.issued]
      rcases live with ready | current
      · exact .inl ready
      · exact .inr (.inr (.inr (.inr current)))
    obtain ⟨notCompleted, notFailed, notAbandoned⟩ :
        id ∉ scheduler.completed.ids ∧
          id ∉ scheduler.failed.ids ∧
          id ∉ scheduler.abandoned.toList := by
      rcases live with ready | current
      · obtain ⟨notCompleted, notFailed, notAbandoned, -⟩ :=
          partitioned.of_ready ready
        exact ⟨notCompleted, notFailed, notAbandoned⟩
      · exact (partitioned.runningApart id current).2
    simp [stateOf?_of_issued issued, notCompleted, notFailed,
      notAbandoned]

end Scheduler.Partitioned

/--
What the look-ups of a task answer, given the identities that were issued: where
the task lives, the value or the error recorded for it, or that there is none.
-/
structure Scheduler.Answers
    (scheduler : Scheduler κ α ε)
    (issued : List TaskId)
    (id : TaskId) :
    Prop where
  unissued : scheduler.stateOf? id = none ↔ id ∉ issued
  ready :
    scheduler.stateOf? id = some .ready ↔ id ∈ scheduler.readyIds
  abandoned :
    scheduler.stateOf? id = some .abandoned ↔
      id ∈ scheduler.abandoned.toList
  completed :
    scheduler.stateOf? id = some .completed ↔
      ∃ value, scheduler.resultOf id = .ok value
  failed :
    scheduler.stateOf? id = some .failed ↔
      ∃ error, scheduler.errorOf id = .ok error
  /-- A task has no value and error both. -/
  exclusive :
    ¬ ((∃ value, scheduler.resultOf id = .ok value) ∧
        ∃ error, scheduler.errorOf id = .ok error)
  /-- What finds no value names the task and where it lives. -/
  noValue :
    ∀ missing,
      scheduler.resultOf id = .error missing →
      missing = { id := id, state := scheduler.stateOf? id }
  /-- What finds no error does so too. -/
  noError :
    ∀ missing,
      scheduler.errorOf id = .error missing →
      missing = { id := id, state := scheduler.stateOf? id }

/-- The look-ups agree if the tasks are in their places and none is being resumed. -/
theorem Scheduler.Partitioned.answers
    {scheduler : Scheduler κ α ε}
    (partitioned : scheduler.Partitioned none)
    (id : TaskId) :
    scheduler.Answers scheduler.ids.handedOut id := by
  have completed :
      scheduler.stateOf? id = some .completed ↔
        ∃ value, scheduler.resultOf id = .ok value := by
    simp only [resultOf_eq_ok_iff, Ledger.exists_get?_iff,
      partitioned.stateOf?_eq_completed_iff]
  have failed :
      scheduler.stateOf? id = some .failed ↔
        ∃ error, scheduler.errorOf id = .ok error := by
    simp only [errorOf_eq_ok_iff, Ledger.exists_get?_iff,
      partitioned.stateOf?_eq_failed_iff]
  refine
    { unissued := stateOf?_eq_none_iff
      ready := by simp [partitioned.stateOf?_eq_ready_iff]
      abandoned := partitioned.stateOf?_eq_abandoned_iff
      completed := completed
      failed := failed
      exclusive := ?_
      noValue := fun _ => eq_of_resultOf_eq_error
      noError := fun _ => eq_of_errorOf_eq_error }
  rintro ⟨value, error⟩
  have states := (completed.mpr value).symm.trans (failed.mpr error)
  cases states

/-- In the life of a scheduler look-ups know exactly the tasks that were added. -/
theorem Life.answers
    {history : History κ α ε}
    {scheduler : Scheduler κ α ε}
    (life : Life history scheduler none)
    (id : TaskId) :
    scheduler.Answers (history.added.map Prod.fst) id := by
  rw [life.recorded.added]
  exact life.partitioned.answers id

/-- The ledgers and the list of abandoned tasks of a scheduler grew at their ends. -/
structure Scheduler.Extended
    (scheduler scheduler' : Scheduler κ α ε) :
    Prop where
  completed :
    scheduler.completed.toList <+: scheduler'.completed.toList
  failed : scheduler.failed.toList <+: scheduler'.failed.toList
  abandoned :
    scheduler.abandoned.toList <+: scheduler'.abandoned.toList

namespace Scheduler.Extended

variable
  {scheduler scheduler' scheduler'' : Scheduler κ α ε}

/-- What is the same in all three places has grown by nothing. -/
theorem unchanged
    (completed : scheduler'.completed = scheduler.completed)
    (failed : scheduler'.failed = scheduler.failed)
    (abandoned : scheduler'.abandoned = scheduler.abandoned) :
    scheduler.Extended scheduler' := by
  refine ⟨?_, ?_, ?_⟩
  · simp [completed]
  · simp [failed]
  · simp [abandoned]

theorem trans
    (first : scheduler.Extended scheduler')
    (later : scheduler'.Extended scheduler'') :
    scheduler.Extended scheduler'' :=
  ⟨first.completed.trans later.completed,
    first.failed.trans later.failed,
    first.abandoned.trans later.abandoned⟩

end Scheduler.Extended

/-- Every step of a scheduler leaves what was recorded in its place. -/
theorem Step.extended
    {scheduler scheduler' : Scheduler κ α ε}
    {running running' : Option (Task κ α ε)}
    {history : History κ α ε}
    (step : Step scheduler running history scheduler' running')
    (partitioned : scheduler.Partitioned (running.map Task.id)) :
    scheduler.Extended scheduler' := by
  cases step with
  | still => exact .unchanged rfl rfl rfl
  | added => exact .unchanged rfl rfl rfl
  | began next =>
      rw [(Scheduler.dequeue?_eq_some next).2]
      exact .unchanged rfl rfl rfl
  | @ended task coroutine result ends =>
      have unrecorded := partitioned.unrecorded
      rcases result with panic | _ | value | error
      · refine ⟨List.prefix_rfl, List.prefix_rfl, ?_⟩
        simp [Scheduler.conclude, Scheduler.abandon]
      · exact .unchanged rfl rfl rfl
      · refine ⟨?_, List.prefix_rfl, List.prefix_rfl⟩
        simp [Scheduler.conclude, Scheduler.settle,
          unrecorded.completed]
      · refine ⟨List.prefix_rfl, ?_, List.prefix_rfl⟩
        simp [Scheduler.conclude, Scheduler.settle, unrecorded.failed]
  | flagged => exact .unchanged rfl rfl rfl

/-- A whole passage of a scheduler leaves what was recorded in its place. -/
theorem Passage.extended
    {scheduler scheduler' : Scheduler κ α ε}
    {running running' : Option (Task κ α ε)}
    {history : History κ α ε}
    (passage : Passage scheduler running history scheduler' running')
    (placed : scheduler.Placed (running.map Task.id)) :
    scheduler.Extended scheduler' := by
  induction passage with
  | nil => exact .unchanged rfl rfl rfl
  | snoc earlier step inductionHypothesis =>
      have partitioned := (earlier.placed placed).partitioned
      exact inductionHypothesis.trans (step.extended partitioned)

/-- Two schedulers answer the same about a task. -/
structure Scheduler.AnswersAs
    (scheduler scheduler' : Scheduler κ α ε)
    (id : TaskId) :
    Prop where
  state : scheduler'.stateOf? id = scheduler.stateOf? id
  value : scheduler'.resultOf id = scheduler.resultOf id
  error : scheduler'.errorOf id = scheduler.errorOf id

/-- What has been recorded of a task, or that it was given up, is answered ever after. -/
theorem Scheduler.Extended.answersAs
    {scheduler scheduler' : Scheduler κ α ε}
    {running running' : Option TaskId}
    (extended : scheduler.Extended scheduler')
    (before : scheduler.Partitioned running)
    (after : scheduler'.Partitioned running')
    {id : TaskId}
    {state : TaskState}
    (shown : scheduler.stateOf? id = some state)
    (final : state ≠ .ready) :
    scheduler.AnswersAs scheduler' id := by
  have completed :
      id ∈ scheduler.completed.ids → id ∈ scheduler'.completed.ids :=
    fun recorded => (extended.completed.map Prod.fst).subset recorded
  have failed :
      id ∈ scheduler.failed.ids → id ∈ scheduler'.failed.ids :=
    fun recorded => (extended.failed.map Prod.fst).subset recorded
  have abandoned :
      id ∈ scheduler.abandoned.toList →
        id ∈ scheduler'.abandoned.toList :=
    fun given => extended.abandoned.subset given
  -- The place of the task is the same, and so it has no new entry anywhere.
  obtain ⟨same, value, error⟩ :
      scheduler'.stateOf? id = some state ∧
        (id ∈ scheduler.completed.ids ∨
          id ∉ scheduler'.completed.ids) ∧
        (id ∈ scheduler.failed.ids ∨ id ∉ scheduler'.failed.ids) := by
    cases state with
    | ready => exact (final rfl).elim
    | completed =>
        rw [before.stateOf?_eq_completed_iff] at shown
        have later := completed shown
        exact
          ⟨after.stateOf?_eq_completed_iff.mpr later, .inl shown,
            .inr (after.of_completed later).2.1⟩
    | failed =>
        rw [before.stateOf?_eq_failed_iff] at shown
        have later := failed shown
        exact
          ⟨after.stateOf?_eq_failed_iff.mpr later,
            .inr (after.of_failed later).2.1, .inl shown⟩
    | abandoned =>
        rw [before.stateOf?_eq_abandoned_iff] at shown
        have later := abandoned shown
        obtain ⟨-, notCompleted, notFailed, -⟩ :=
          after.of_abandoned later
        exact
          ⟨after.stateOf?_eq_abandoned_iff.mpr later,
            .inr notCompleted, .inr notFailed⟩
  have sameState := same.trans shown.symm
  have sameValue :=
    Ledger.get?_eq_of_isPrefix extended.completed value
  have sameError := Ledger.get?_eq_of_isPrefix extended.failed error
  refine ⟨sameState, ?_, ?_⟩
  · simp only [resultOf, sameValue, sameState]
  · simp only [errorOf, sameError, sameState]

/-- What a path leads to answers as before about the tasks that were done with. -/
theorem Path.answersAs
    {launch : κ → Coroutine κ α ε}
    {earlier later : Trace κ α ε}
    {moment moment' : Moment κ α ε}
    {number : Nat}
    {scheduler scheduler' : Scheduler κ α ε}
    (path : Path launch moment later moment')
    (run : Run launch earlier moment)
    (alive : moment.world.scheduler? number = some scheduler)
    (alive' : moment'.world.scheduler? number = some scheduler')
    {id : TaskId}
    {state : TaskState}
    (shown : scheduler.stateOf? id = some state)
    (final : state ≠ .ready) :
    scheduler.AnswersAs scheduler' id := by
  have passage :=
    path.passage_of_alive run.tracked.coherent alive alive'
  have life := run.life alive
  have life' := (run.append path).life alive'
  exact
    (passage.extended life.placed).answersAs life.partitioned
      life'.partitioned shown final

/-- An operation on a scheduler leads from a world to another. -/
inductive World.Operation
    (launch : κ → Coroutine κ α ε)
    (world : World κ α ε) :
    World κ α ε →
    Prop where
  | added
      {world' : World κ α ε}
      {number : Nat}
      {coroutine : Coroutine κ α ε}
      {id : TaskId}
      (added : world.add? number coroutine = some (world', id)) :
      Operation launch world world'
  | spawned
      (number : Nat)
      (coroutine : Coroutine κ α ε) :
      Operation launch world (world.spawn number coroutine).1
  | stepped
      {world' : World κ α ε}
      {patience number : Nat}
      {drive : Drive (Option Turn)}
      (stepped :
        World.stepOnce (World.answer launch patience) number world =
          some (world', drive)) :
      Operation launch world world'
  | drained
      {world' : World κ α ε}
      {patience turns number : Nat}
      {drive : Drive Unit}
      (drained :
        World.drain (World.answer launch patience) turns number world =
          some (world', drive)) :
      Operation launch world world'

/-- An operation of a host follows a path. -/
theorem World.Operation.path
    {launch : κ → Coroutine κ α ε}
    {world world' : World κ α ε}
    (operation : world.Operation launch world')
    (coherent : Moment.Coherent ⟨world, []⟩) :
    ∃ trace, Path launch ⟨world, []⟩ trace ⟨world', []⟩ := by
  cases operation with
  | added added =>
      exact ⟨_, .single (.added (coherent.idle _) added)⟩
  | spawned number coroutine =>
      exact ⟨_, .single (.spawned world number coroutine [])⟩
  | stepped stepped =>
      obtain ⟨trace, path, -⟩ :=
        World.stepOnce_path (World.answer_follows launch _) stepped
          (.host _)
      exact ⟨trace, path⟩
  | drained drained =>
      obtain ⟨trace, path, -⟩ :=
        World.drain_path (World.answer_follows launch _) drained
          (.host _)
      exact ⟨trace, path⟩

/-- Any number of operations of a host follow a path. -/
theorem World.Operation.path_of_reflTransGen
    {launch : κ → Coroutine κ α ε}
    {world world' : World κ α ε}
    (operations :
      Relation.ReflTransGen (World.Operation launch) world world')
    (coherent : Moment.Coherent ⟨world, []⟩) :
    ∃ trace, Path launch ⟨world, []⟩ trace ⟨world', []⟩ := by
  induction operations with
  | refl => exact ⟨[], .nil _⟩
  | tail _ operation inductionHypothesis =>
      obtain ⟨trace, path⟩ := inductionHypothesis
      obtain ⟨last, lastPath⟩ := operation.path (path.coherent coherent)
      exact ⟨trace ++ last, path.append lastPath⟩

/--
Whenever no task of a scheduler is being resumed, the look-ups of any task, be
it issued or not, agree with each other, at the moments of a run as well as
between the operations of a host. And once a task shows as completed, failed or
abandoned, whatever goes on from there changes no answer about it.
-/
theorem lookups_agree_and_last
    (launch : κ → Coroutine κ α ε)
    (number : Nat) :
    (∀ {trace : Trace κ α ε} {moment : Moment κ α ε}
      {scheduler : Scheduler κ α ε},
      Run launch trace moment →
      moment.world.scheduler? number = some scheduler →
      (moment.running? number = none →
        ∀ id,
          scheduler.Answers ((trace.about number).added.map Prod.fst)
            id) ∧
        ∀ {later : Trace κ α ε} {moment' : Moment κ α ε}
          {scheduler' : Scheduler κ α ε} {id : TaskId}
          {state : TaskState},
          Path launch moment later moment' →
          moment'.world.scheduler? number = some scheduler' →
          scheduler.stateOf? id = some state →
          state ≠ .ready →
          scheduler.AnswersAs scheduler' id) ∧
      ∀ {world : World κ α ε} {scheduler : Scheduler κ α ε},
        Reachable launch world →
        world.scheduler? number = some scheduler →
        (∀ id, scheduler.Answers scheduler.ids.handedOut id) ∧
          ∀ {world' : World κ α ε} {scheduler' : Scheduler κ α ε}
            {id : TaskId} {state : TaskState},
            Relation.ReflTransGen (World.Operation launch) world
              world' →
            world'.scheduler? number = some scheduler' →
            scheduler.stateOf? id = some state →
            state ≠ .ready →
            scheduler.AnswersAs scheduler' id := by
  refine ⟨?_, ?_⟩
  · intro trace moment scheduler run alive
    refine ⟨?_, ?_⟩
    · intro still id
      have life := run.life alive
      rw [still] at life
      exact life.answers id
    · intro later moment' scheduler' id state path alive' shown final
      exact path.answersAs run alive alive' shown final
  · intro world scheduler reachable alive
    obtain ⟨trace, run⟩ := reachable.run
    refine ⟨?_, ?_⟩
    · intro id
      exact (run.life alive).partitioned.answers id
    · intro world' scheduler' id state operations alive' shown final
      obtain ⟨later, path⟩ :=
        World.Operation.path_of_reflTransGen operations
          run.tracked.coherent
      exact path.answersAs run alive alive' shown final

/--
One task has completed, one has failed, one has panicked and one is ready. Then
a fifth is added, and a drain runs into its panic. The answers about the first
three are as they were.
-/
theorem lookups_agree_and_last_past_panic :
    ∃ (world world' : World Job Value TaskError)
      (scheduler scheduler' : Scheduler Job Value TaskError)
      (trace : Trace Job Value TaskError),
      Reachable Job.launch world ∧
        Run Job.launch trace ⟨world, []⟩ ∧
        world.scheduler? 0 = some scheduler ∧
        scheduler.stateOf? ⟨0⟩ = some .completed ∧
        scheduler.stateOf? ⟨1⟩ = some .failed ∧
        scheduler.stateOf? ⟨2⟩ = some .abandoned ∧
        scheduler.stateOf? ⟨3⟩ = some .ready ∧
        scheduler.stateOf? ⟨4⟩ = none ∧
        (∀ id,
          scheduler.Answers ((trace.about 0).added.map Prod.fst) id) ∧
        (∀ id, scheduler.Answers scheduler.ids.handedOut id) ∧
        Relation.ReflTransGen (World.Operation Job.launch) world
          world' ∧
        world'.scheduler? 0 = some scheduler' ∧
        scheduler'.abandoned = #[⟨2⟩, ⟨4⟩] ∧
        scheduler.AnswersAs scheduler' ⟨0⟩ ∧
        scheduler.AnswersAs scheduler' ⟨1⟩ ∧
        scheduler.AnswersAs scheduler' ⟨2⟩ := by
  have opened : Reachable Job.launch _ :=
    .opened (.start rfl rfl)
      (show (World.empty none).openScheduler {} = .ok (_, 0) from rfl)
  have completing : Reachable Job.launch _ :=
    .added opened
      (show
        World.add? _ 0 (.ofResults fun _ => .ok (.completed (.number 7))) =
          some (_, ⟨0⟩) from rfl)
  have failing : Reachable Job.launch _ :=
    .added completing
      (show
        World.add? _ 0
            (.ofResults fun _ => .ok (.failed (.raised "failed"))) =
          some (_, ⟨1⟩) from rfl)
  have panicking : Reachable Job.launch _ :=
    .added failing
      (show
        World.add? _ 0 (.ofResults fun _ => .error ⟨"gone"⟩) =
          some (_, ⟨2⟩) from rfl)
  have suspending : Reachable Job.launch _ :=
    .added panicking
      (show
        World.add? _ 0 (.ofResults fun _ => .ok .suspended) =
          some (_, ⟨3⟩) from rfl)
  have drained : Reachable Job.launch _ :=
    .drained suspending
      (show
        World.drain (World.answer Job.launch 0) 3 0 _ =
          some (_, .panicked ⟨"gone"⟩) from rfl)
  obtain ⟨trace, run⟩ := drained.run
  have unmoved
      {world : World Job Value TaskError}
      (_ : Reachable Job.launch world) :
      Relation.ReflTransGen (World.Operation Job.launch) world world :=
    .refl
  have added :=
    (unmoved drained).tail
      (.added
        (show
          World.add? _ 0 (.ofResults fun _ => .error ⟨"gone too"⟩) =
            some (_, ⟨4⟩) from rfl))
  have operations :=
    added.tail
      (.drained
        (show
          World.drain (World.answer Job.launch 0) 2 0 _ =
            some (_, .panicked ⟨"gone too"⟩) from rfl))
  have atMoments :=
    (lookups_agree_and_last Job.launch 0).1 run
      (show World.scheduler? _ 0 = some _ from rfl)
  have betweenOperations :=
    (lookups_agree_and_last Job.launch 0).2 drained
      (show World.scheduler? _ 0 = some _ from rfl)
  have abandonedShown :=
    (betweenOperations.1 ⟨2⟩).abandoned.mpr (.head _)
  have readyShown := (betweenOperations.1 ⟨3⟩).ready.mpr (.head _)
  have completedLasts :=
    betweenOperations.2 operations rfl
      (show Scheduler.stateOf? _ ⟨0⟩ = some .completed from rfl)
      (by decide)
  have failedLasts :=
    betweenOperations.2 operations rfl
      (show Scheduler.stateOf? _ ⟨1⟩ = some .failed from rfl)
      (by decide)
  have abandonedLasts :=
    betweenOperations.2 operations rfl abandonedShown (by decide)
  exact
    ⟨_, _, _, _, trace, drained, run, rfl, rfl, rfl, abandonedShown,
      readyShown, rfl, atMoments.1 rfl, betweenOperations.1, operations,
      rfl, rfl, completedLasts, failedLasts, abandonedLasts⟩

end RoundRobin
