import RoundRobin.Proofs.Run.History
import RoundRobin.Proofs.Solo

namespace RoundRobin

/-!
# Tasks are isolated from each other

A task that is resumed by a scheduler, amid other tasks and drives, gives what
its coroutine gives when it is resumed alone. The simulation relates a life of
the scheduler to as many solo drives as tasks were added: the results of the
resumptions of a task are reached from the coroutine that was added, and a task
that is ready or being resumed holds the coroutine that was reached.
-/

/-- The tasks of a scheduler have come as far as their coroutines alone would have. -/
def Simulated
    (history : History κ α ε)
    (scheduler : Scheduler κ α ε)
    (running : Option (Task κ α ε)) :
    Prop :=
  ∀ id coroutine,
    (id, coroutine) ∈ history.added →
    ∃ coroutine',
      coroutine.Reaches (history.results id) coroutine' ∧
        ∀ task ∈ scheduler.live running,
          task.id = id →
          task.coroutine = coroutine'

/-- After the end of a resumption the tasks are the ready ones and perhaps the resumed one. -/
theorem Scheduler.mem_live_conclude
    {scheduler : Scheduler κ α ε}
    {task live : Task κ α ε}
    {coroutine : Coroutine κ α ε}
    {result : Guarded (Outcome α ε)}
    (member : live ∈ (scheduler.conclude task coroutine result).live none) :
    live ∈ scheduler.ready.toList ∨ live = task.resumed coroutine := by
  rcases result with panic | _ | value | error
  · left
    simpa [Scheduler.live, conclude, abandon] using member
  · simpa [Scheduler.live, conclude, settle] using member
  · left
    simpa [Scheduler.live, conclude, settle] using member
  · left
    simpa [Scheduler.live, conclude, settle] using member

/-- The end of a resumption takes the solo drive of its task one result further. -/
theorem Simulated.ended
    {history : History κ α ε}
    {scheduler : Scheduler κ α ε}
    {task : Task κ α ε}
    {coroutine : Coroutine κ α ε}
    {result : Guarded (Outcome α ε)}
    (simulated : Simulated history scheduler (some task))
    (partitioned : scheduler.Partitioned ((some task).map Task.id))
    (ends : task.coroutine.resume.Ends (coroutine, result)) :
    Simulated (history ++ [.ended task.id result])
      (scheduler.conclude task coroutine result) none := by
  obtain ⟨notReady, -⟩ := partitioned.runningApart task.id rfl
  intro id initial added
  have addedBefore : (id, initial) ∈ history.added := by
    simpa using added
  obtain ⟨reached, reaches, holds⟩ := simulated id initial addedBefore
  by_cases same : id = task.id
  · subst same
    have current : task.coroutine = reached :=
      holds task (by simp [Scheduler.live]) rfl
    subst current
    refine ⟨coroutine, ?_, ?_⟩
    · rw [History.results_append, History.results_ended_self]
      exact reaches.snoc ends
    · intro live member sameId
      rcases Scheduler.mem_live_conclude member with ready | rfl
      · have readyId : live.id ∈ scheduler.readyIds :=
          List.mem_map_of_mem ready
        rw [sameId] at readyId
        exact (notReady readyId).elim
      · rfl
  · refine ⟨reached, ?_, ?_⟩
    · rw [History.results_append,
        History.results_ended_other (Ne.symm same), List.append_nil]
      exact reaches
    · intro live member sameId
      rcases Scheduler.mem_live_conclude member with ready | rfl
      · exact holds live (List.mem_append_left _ ready) sameId
      · exact (same sameId.symm).elim

/-- Every step of a scheduler is simulated by the solo drives of its tasks. -/
theorem Step.simulated
    {history last : History κ α ε}
    {scheduler scheduler' : Scheduler κ α ε}
    {running running' : Option (Task κ α ε)}
    (step : Step scheduler running last scheduler' running')
    (partitioned : scheduler.Partitioned (running.map Task.id))
    (recorded : Recorded history scheduler running)
    (before : Simulated history scheduler running) :
    Simulated (history ++ last) scheduler' running' := by
  cases step with
  | still =>
      rw [List.append_nil]
      exact before
  | added _ coroutine =>
      have fresh := scheduler.enqueue_fresh coroutine
      intro id initial added
      rw [History.added_append, History.added_added, List.mem_append,
        List.mem_singleton] at added
      rw [History.results_append, History.results_added,
        List.append_nil]
      rcases added with earlier | new
      · obtain ⟨reached, reaches, holds⟩ := before id initial earlier
        refine ⟨reached, reaches, ?_⟩
        intro task member sameId
        rcases Scheduler.mem_live_enqueue.mp member with old | rfl
        · exact holds task old sameId
        · have issued : id ∈ scheduler.ids.handedOut := by
            rw [← recorded.added]
            exact List.mem_map_of_mem (f := Prod.fst) earlier
          rw [← sameId] at issued
          exact (fresh issued).elim
      · cases new
        rw [recorded.unissued _ fresh]
        refine ⟨coroutine, .nil coroutine, ?_⟩
        intro task member sameId
        rcases Scheduler.mem_live_enqueue.mp member with old | rfl
        · have issued := partitioned.issued_of_live old
          rw [sameId] at issued
          exact (fresh issued).elim
        · rfl
  | began next =>
      intro id initial added
      rw [History.added_append, History.added_began, List.append_nil]
        at added
      rw [History.results_append, History.results_began,
        List.append_nil]
      obtain ⟨reached, reaches, holds⟩ := before id initial added
      refine ⟨reached, reaches, ?_⟩
      intro task member
      exact holds task ((Scheduler.mem_live_of_dequeue? next).mp member)
  | ended ends =>
      exact before.ended partitioned ends
  | flagged =>
      rw [List.append_nil]
      exact before

/-- The life of a scheduler is simulated by the solo drives of its tasks. -/
theorem Life.simulated
    {history : History κ α ε}
    {scheduler : Scheduler κ α ε}
    {running : Option (Task κ α ε)}
    (life : Life history scheduler running) :
    Simulated history scheduler running := by
  induction life with
  | made made =>
      intro id coroutine added
      cases added
  | step life step inductionHypothesis =>
      exact
        step.simulated life.partitioned life.recorded
          inductionHypothesis

/-- What a scheduler shows of an issued task follows from the results of its resumptions. -/
structure Scheduler.Shows
    (scheduler : Scheduler κ α ε)
    (running : Option TaskId)
    (id : TaskId)
    (results : List (Guarded (Outcome α ε))) :
    Prop where
  ready :
    scheduler.stateOf? id = some .ready ↔
      results = suspensions results.length
  /-- The task that is being resumed is ready, but out of the queue. -/
  queued :
    id ∈ scheduler.readyIds ↔
      results = suspensions results.length ∧ running ≠ some id
  completed :
    ∀ value,
      scheduler.completed.get? id = some value ↔
        ∃ count,
          results = suspensions count ++ [.ok (.completed value)]
  failed :
    ∀ error,
      scheduler.failed.get? id = some error ↔
        ∃ count,
          results = suspensions count ++ [.ok (.failed error)]
  abandoned :
    scheduler.stateOf? id = some .abandoned ↔
      ∃ count panic, results = suspensions count ++ [.error panic]

/-- What is recorded is shown. -/
theorem Recorded.shows
    {history : History κ α ε}
    {scheduler : Scheduler κ α ε}
    {running : Option (Task κ α ε)}
    (recorded : Recorded history scheduler running)
    (partitioned : scheduler.Partitioned (running.map Task.id))
    {id : TaskId}
    (issued : id ∈ scheduler.ids.handedOut) :
    scheduler.Shows (running.map Task.id) id (history.results id) := by
  have state := Scheduler.stateOf?_of_issued issued
  have place :=
    (partitioned.issued id).mp (IdSource.mem_handedOut_iff.mp issued)
  rcases place with ready | completed | failed | abandoned | current
  · obtain ⟨notCompleted, notFailed, notAbandoned, notRunning⟩ :=
      partitioned.of_ready ready
    obtain ⟨task, member, rfl⟩ := List.mem_map.mp ready
    have results :=
      recorded.live task (List.mem_append_left _ member)
    have noValue := Ledger.get?_eq_none_iff.mpr notCompleted
    have noError := Ledger.get?_eq_none_iff.mpr notFailed
    simp only [notCompleted, notFailed, notAbandoned, ↓reduceIte]
      at state
    rw [results]
    refine ⟨?_, ?_, ?_, ?_, ?_⟩
    all_goals
      simp [state, ready, notRunning, noValue, noError]
  · obtain ⟨notReady, notFailed, -, -⟩ :=
      partitioned.of_completed completed
    obtain ⟨value, member⟩ := Ledger.mem_ids_iff.mp completed
    obtain ⟨count, results⟩ := recorded.completed id value member
    have noError := Ledger.get?_eq_none_iff.mpr notFailed
    have found :=
      (Ledger.get?_eq_some_iff partitioned.completedNodup).mpr member
    simp only [completed, ↓reduceIte] at state
    rw [results]
    refine ⟨?_, ?_, ?_, ?_, ?_⟩
    all_goals
      simp [state, notReady, found, noError]
  · obtain ⟨notReady, notCompleted, -, -⟩ :=
      partitioned.of_failed failed
    obtain ⟨error, member⟩ := Ledger.mem_ids_iff.mp failed
    obtain ⟨count, results⟩ := recorded.failed id error member
    have noValue := Ledger.get?_eq_none_iff.mpr notCompleted
    have found :=
      (Ledger.get?_eq_some_iff partitioned.failedNodup).mpr member
    simp only [notCompleted, failed, ↓reduceIte] at state
    rw [results]
    refine ⟨?_, ?_, ?_, ?_, ?_⟩
    all_goals
      simp [state, notReady, found, noValue]
  · obtain ⟨notReady, notCompleted, notFailed, -⟩ :=
      partitioned.of_abandoned abandoned
    obtain ⟨count, panic, results⟩ := recorded.abandoned id abandoned
    have noValue := Ledger.get?_eq_none_iff.mpr notCompleted
    have noError := Ledger.get?_eq_none_iff.mpr notFailed
    simp only [notCompleted, notFailed, abandoned, ↓reduceIte] at state
    rw [results]
    refine ⟨?_, ?_, ?_, ?_, ?_⟩
    all_goals
      simp [state, notReady, noValue, noError]
  · obtain ⟨notReady, notCompleted, notFailed, notAbandoned⟩ :=
      partitioned.runningApart id current
    obtain ⟨task, isRunning, rfl⟩ := Option.map_eq_some_iff.mp current
    have results :=
      recorded.live task (by simp [Scheduler.live, isRunning])
    have noValue := Ledger.get?_eq_none_iff.mpr notCompleted
    have noError := Ledger.get?_eq_none_iff.mpr notFailed
    simp only [notCompleted, notFailed, notAbandoned, ↓reduceIte]
      at state
    rw [results]
    refine ⟨?_, ?_, ?_, ?_, ?_⟩
    all_goals
      simp [state, notReady, current, noValue, noError]

/--
Each task of a scheduler was added as a coroutine, and its resumptions have
gone as those of the coroutine alone.
-/
structure Isolated
    (history : History κ α ε)
    (scheduler : Scheduler κ α ε)
    (running : Option TaskId) :
    Prop where
  /-- The tasks are those that were added, in the order they were. -/
  issued : history.added.map Prod.fst = scheduler.ids.handedOut
  shows :
    ∀ id ∈ scheduler.ids.handedOut,
      scheduler.Shows running id (history.results id)
  reaches :
    ∀ id coroutine,
      (id, coroutine) ∈ history.added →
      ∃ coroutine', coroutine.Reaches (history.results id) coroutine'
  described :
    ∀ id coroutine results,
      (id, coroutine) ∈ history.added →
      coroutine.Described results →
      history.results id =
        (List.range (history.results id).length).map results
  /-- A solo drive as long as the task has come gives the same results. -/
  alone :
    ∀ id coroutine results,
      (id, coroutine) ∈ history.added →
      coroutine.Described results →
      ∀ {ω : Type}
        (answer : (request : Request κ) → ω → Option (ω × request.Reply))
        (state : ω),
        (∀ request state, (answer request state).isSome) →
        ∃ state' coroutine',
          coroutine.resumeTimes answer (history.results id).length
              state =
            some (state', coroutine', history.results id)

theorem Life.isolated
    {history : History κ α ε}
    {scheduler : Scheduler κ α ε}
    {running : Option (Task κ α ε)}
    (life : Life history scheduler running) :
    Isolated history scheduler (running.map Task.id) := by
  have described
      (id : TaskId)
      (coroutine : Coroutine κ α ε)
      (results : Nat → Guarded (Outcome α ε))
      (added : (id, coroutine) ∈ history.added)
      (sequence : coroutine.Described results) :
      history.results id =
        (List.range (history.results id).length).map results := by
    obtain ⟨coroutine', reaches, -⟩ := life.simulated id coroutine added
    exact sequence _ coroutine' reaches
  refine
    { issued := life.recorded.added
      shows := ?_
      reaches := ?_
      described := described
      alone := ?_ }
  · intro id issued
    exact life.recorded.shows life.partitioned issued
  · intro id coroutine added
    obtain ⟨coroutine', reaches, -⟩ := life.simulated id coroutine added
    exact ⟨coroutine', reaches⟩
  · intro id coroutine results added sequence ω answer state answers
    obtain ⟨state', coroutine', resumed⟩ :=
      sequence.resumeTimes_eq answers (history.results id).length state
    rw [← described id coroutine results added sequence] at resumed
    exact ⟨state', coroutine', resumed⟩

/--
At every moment of every run, whatever else the run does, each task of a live
scheduler is isolated from all others; and the worlds that a host brings about
are moments of runs.
-/
theorem tasks_isolated
    (launch : κ → Coroutine κ α ε)
    (number : Nat) :
    (∀ {trace : Trace κ α ε} {moment : Moment κ α ε}
      {scheduler : Scheduler κ α ε},
      Run launch trace moment →
      moment.world.scheduler? number = some scheduler →
      Isolated (trace.about number) scheduler
        ((moment.running? number).map Task.id)) ∧
      ∀ {world : World κ α ε} {scheduler : Scheduler κ α ε},
        Reachable launch world →
        world.scheduler? number = some scheduler →
        ∃ trace,
          Run launch trace ⟨world, []⟩ ∧
            Isolated (trace.about number) scheduler none := by
  refine ⟨?_, ?_⟩
  · intro trace moment scheduler run alive
    exact (run.life alive).isolated
  · intro world scheduler reachable alive
    obtain ⟨trace, run⟩ := reachable.run
    exact ⟨trace, run, (run.life alive).isolated⟩

/-- A drive in which a task panicked was caught, and its neighbour was resumed by another. -/
theorem tasks_isolated_from_panic :
    ∃ trace moment scheduler,
      Run Job.launch trace moment ∧
        moment.world.scheduler? 0 = some scheduler ∧
        scheduler.stateOf? ⟨0⟩ = some .abandoned ∧
        scheduler.stateOf? ⟨1⟩ = some .ready ∧
        (trace.about 0).results ⟨1⟩ = [.ok .suspended] := by
  have start : Run Job.launch [] ⟨World.empty none, []⟩ :=
    .start rfl rfl
  have opened :=
    start.append
      (.single
        (.opened
          (show (World.empty none).openScheduler {} = .ok (_, 0) from
            rfl)))
  have failing :=
    opened.append
      (.single
        (.added rfl
          (show
            World.add? _ 0 (.ofResults fun _ => .error ⟨"lost"⟩) =
              some (_, ⟨0⟩) from rfl)))
  have added :=
    failing.append
      (.single
        (.added rfl
          (show
            World.add? _ 0 (.ofResults fun _ => .ok .suspended) =
              some (_, ⟨1⟩) from rfl)))
  have entered :=
    added.append (.single (.stepEntered (.host (.step 0)) rfl rfl))
  have began := entered.append (.single (.began rfl))
  have ended :=
    began.append (.single (.ended _ _ _ _ _ (.error ⟨"lost"⟩) _))
  have caught :=
    ended.append (.single (.stepLeft (.host (.step 0))))
  have again :=
    caught.append (.single (.stepEntered (.host (.step 0)) rfl rfl))
  have resumed := again.append (.single (.began rfl))
  have suspended :=
    resumed.append (.single (.ended _ _ _ _ _ (.ok .suspended) _))
  have left :=
    suspended.append (.single (.stepLeft (.host (.step 0))))
  have isolated := (tasks_isolated Job.launch 0).1 left rfl
  have lost := (isolated.shows ⟨0⟩ (.head _)).abandoned
  have waiting := (isolated.shows ⟨1⟩ (.tail _ (.head _))).ready
  have sequence :=
    isolated.described ⟨1⟩ _ (fun _ => .ok .suspended)
      (.tail _ (.head _)) (Coroutine.described_ofResults _)
  exact
    ⟨_, _, _, left, rfl, lost.mpr ⟨0, ⟨"lost"⟩, rfl⟩, waiting.mpr rfl,
      sequence⟩

end RoundRobin
