import RoundRobin.Proofs.Run.Conduct
import RoundRobin.Proofs.Scheduler
import RoundRobin.Workload

namespace RoundRobin

/-!
# Where the tasks are

Every task that a scheduler has issued is in exactly one place: among the ready
ones, in one of the two ledgers, or among the abandoned. Only the task that is
being resumed is in none of them. The invariant that is carried through a life
therefore counts the running task as a fifth place; it says that the five
places together are the identities handed out, up to order.
-/

namespace Scheduler

/-- All places of tasks, one after the other. -/
def places
    (scheduler : Scheduler κ α ε)
    (running : Option TaskId) :
    List TaskId :=
  scheduler.readyIds ++ scheduler.completed.ids ++
    scheduler.failed.ids ++ scheduler.abandoned.toList ++
      running.toList

/-- The places of tasks are a rearrangement of the issued identities. -/
def Placed
    (scheduler : Scheduler κ α ε)
    (running : Option TaskId) :
    Prop :=
  (scheduler.places running).Perm scheduler.ids.handedOut

/-- The places of tasks share no task, and they hold what was issued. -/
structure Partitioned
    (scheduler : Scheduler κ α ε)
    (running : Option TaskId) :
    Prop where
  readyNodup : scheduler.readyIds.Nodup
  completedNodup : scheduler.completed.ids.Nodup
  failedNodup : scheduler.failed.ids.Nodup
  abandonedNodup : scheduler.abandoned.toList.Nodup
  readyCompleted : scheduler.readyIds.Disjoint scheduler.completed.ids
  readyFailed : scheduler.readyIds.Disjoint scheduler.failed.ids
  readyAbandoned :
    scheduler.readyIds.Disjoint scheduler.abandoned.toList
  completedFailed :
    scheduler.completed.ids.Disjoint scheduler.failed.ids
  completedAbandoned :
    scheduler.completed.ids.Disjoint scheduler.abandoned.toList
  failedAbandoned :
    scheduler.failed.ids.Disjoint scheduler.abandoned.toList
  /-- The task that is being resumed is set aside. -/
  runningApart :
    ∀ id,
      running = some id →
      id ∉ scheduler.readyIds ∧
        id ∉ scheduler.completed.ids ∧
        id ∉ scheduler.failed.ids ∧
        id ∉ scheduler.abandoned.toList
  /-- Exactly the issued identities `Task(0)`, `Task(1)`, and so on are there. -/
  issued :
    ∀ id,
      id.index < scheduler.ids.issued ↔
        id ∈ scheduler.readyIds ∨
          id ∈ scheduler.completed.ids ∨
          id ∈ scheduler.failed.ids ∨
          id ∈ scheduler.abandoned.toList ∨
          running = some id

/-- Places that are a rearrangement of the issued identities partition them. -/
theorem Placed.partitioned
    {scheduler : Scheduler κ α ε}
    {running : Option TaskId}
    (placed : scheduler.Placed running) :
    scheduler.Partitioned running := by
  have noDuplicates : (scheduler.places running).Nodup :=
    placed.nodup_iff.mpr scheduler.ids.nodup_handedOut
  have issued (id : TaskId) :
      id ∈ scheduler.places running ↔
        id.index < scheduler.ids.issued := by
    rw [placed.mem_iff, IdSource.mem_handedOut_iff]
  simp only [places, List.nodup_append', List.disjoint_append_left]
    at noDuplicates
  obtain
    ⟨⟨⟨⟨ready, completed, readyCompleted⟩, failed,
          readyFailed, completedFailed⟩,
        abandoned, ⟨readyAbandoned, completedAbandoned⟩,
          failedAbandoned⟩,
      -, ⟨⟨readyRunning, completedRunning⟩, failedRunning⟩,
        abandonedRunning⟩ :=
    noDuplicates
  refine
    { readyNodup := ready
      completedNodup := completed
      failedNodup := failed
      abandonedNodup := abandoned
      readyCompleted := readyCompleted
      readyFailed := readyFailed
      readyAbandoned := readyAbandoned
      completedFailed := completedFailed
      completedAbandoned := completedAbandoned
      failedAbandoned := failedAbandoned
      runningApart := ?_
      issued := ?_ }
  · intro id same
    have running : id ∈ running.toList := by
      simp [same]
    exact
      ⟨fun member => readyRunning member running,
        fun member => completedRunning member running,
        fun member => failedRunning member running,
        fun member => abandonedRunning member running⟩
  · intro id
    rw [← issued id]
    simp [places]

namespace Partitioned

variable
  {scheduler : Scheduler κ α ε}
  {running : Option TaskId}
  {id : TaskId}

/-- The task that is being resumed has no entry yet. -/
theorem unrecorded
    (partitioned : scheduler.Partitioned (some id)) :
    scheduler.Unrecorded id := by
  obtain ⟨-, completed, failed, -⟩ := partitioned.runningApart id rfl
  exact ⟨completed, failed⟩

/-- A ready task is nowhere else. -/
theorem of_ready
    (partitioned : scheduler.Partitioned running)
    (ready : id ∈ scheduler.readyIds) :
    id ∉ scheduler.completed.ids ∧
      id ∉ scheduler.failed.ids ∧
      id ∉ scheduler.abandoned.toList ∧
      running ≠ some id := by
  refine ⟨?_, ?_, ?_, ?_⟩
  · exact partitioned.readyCompleted ready
  · exact partitioned.readyFailed ready
  · exact partitioned.readyAbandoned ready
  · intro current
    exact (partitioned.runningApart id current).1 ready

/-- A completed task is nowhere else. -/
theorem of_completed
    (partitioned : scheduler.Partitioned running)
    (completed : id ∈ scheduler.completed.ids) :
    id ∉ scheduler.readyIds ∧
      id ∉ scheduler.failed.ids ∧
      id ∉ scheduler.abandoned.toList ∧
      running ≠ some id := by
  refine ⟨?_, ?_, ?_, ?_⟩
  · intro ready
    exact partitioned.readyCompleted ready completed
  · exact partitioned.completedFailed completed
  · exact partitioned.completedAbandoned completed
  · intro current
    exact (partitioned.runningApart id current).2.1 completed

/-- A failed task is nowhere else. -/
theorem of_failed
    (partitioned : scheduler.Partitioned running)
    (failed : id ∈ scheduler.failed.ids) :
    id ∉ scheduler.readyIds ∧
      id ∉ scheduler.completed.ids ∧
      id ∉ scheduler.abandoned.toList ∧
      running ≠ some id := by
  refine ⟨?_, ?_, ?_, ?_⟩
  · intro ready
    exact partitioned.readyFailed ready failed
  · intro completed
    exact partitioned.completedFailed completed failed
  · exact partitioned.failedAbandoned failed
  · intro current
    exact (partitioned.runningApart id current).2.2.1 failed

/-- An abandoned task is nowhere else. -/
theorem of_abandoned
    (partitioned : scheduler.Partitioned running)
    (abandoned : id ∈ scheduler.abandoned.toList) :
    id ∉ scheduler.readyIds ∧
      id ∉ scheduler.completed.ids ∧
      id ∉ scheduler.failed.ids ∧
      running ≠ some id := by
  refine ⟨?_, ?_, ?_, ?_⟩
  · intro ready
    exact partitioned.readyAbandoned ready abandoned
  · intro completed
    exact partitioned.completedAbandoned completed abandoned
  · intro failed
    exact partitioned.failedAbandoned failed abandoned
  · intro current
    exact (partitioned.runningApart id current).2.2.2 abandoned

/-- The tasks that show as completed are those in the ledger of values. -/
theorem stateOf?_eq_completed_iff
    (partitioned : scheduler.Partitioned running) :
    scheduler.stateOf? id = some .completed ↔
      id ∈ scheduler.completed.ids := by
  constructor
  · intro shown
    rw [stateOf?_of_issued (issued_of_stateOf? shown)] at shown
    by_contra absent
    simp only [absent, ↓reduceIte] at shown
    split_ifs at shown <;> cases shown
  · intro completed
    have issued : id ∈ scheduler.ids.handedOut := by
      rw [IdSource.mem_handedOut_iff, partitioned.issued]
      exact .inr (.inl completed)
    simp [stateOf?_of_issued issued, completed]

/-- The tasks that show as failed are those in the ledger of errors. -/
theorem stateOf?_eq_failed_iff
    (partitioned : scheduler.Partitioned running) :
    scheduler.stateOf? id = some .failed ↔
      id ∈ scheduler.failed.ids := by
  constructor
  · intro shown
    rw [stateOf?_of_issued (issued_of_stateOf? shown)] at shown
    by_contra absent
    simp only [absent, ↓reduceIte] at shown
    split_ifs at shown <;> cases shown
  · intro failed
    have issued : id ∈ scheduler.ids.handedOut := by
      rw [IdSource.mem_handedOut_iff, partitioned.issued]
      exact .inr (.inr (.inl failed))
    have notCompleted := (partitioned.of_failed failed).2.1
    simp [stateOf?_of_issued issued, notCompleted, failed]

end Partitioned

@[simp] theorem ids_conclude
    (scheduler : Scheduler κ α ε)
    (task : Task κ α ε)
    (coroutine : Coroutine κ α ε)
    (result : Guarded (Outcome α ε)) :
    (scheduler.conclude task coroutine result).ids =
      scheduler.ids := by
  rcases result with panic | _ | value | error <;> rfl

namespace Placed

variable
  {scheduler rest : Scheduler κ α ε}
  {task : Task κ α ε}

/-- A task that is added is placed among the ready ones. -/
theorem enqueue
    {running : Option TaskId}
    (placed : scheduler.Placed running)
    (coroutine : Coroutine κ α ε) :
    (scheduler.enqueue coroutine).1.Placed running := by
  rw [Placed, List.perm_iff_count] at placed ⊢
  intro id
  have same := placed id
  simp only [places, readyIds_enqueue, completed_enqueue,
    failed_enqueue, abandoned_enqueue, handedOut_enqueue,
    List.count_append] at same ⊢
  omega

/-- Taking a task out to be resumed moves it to the last place. -/
theorem dequeue
    (placed : scheduler.Placed none)
    (dequeued : scheduler.dequeue? = some (task, rest)) :
    rest.Placed (some task.id) := by
  have unchanged := (dequeue?_eq_some dequeued).2
  have ids : rest.ids = scheduler.ids := by
    rw [unchanged]
  have completed : rest.completed = scheduler.completed := by
    rw [unchanged]
  have failed : rest.failed = scheduler.failed := by
    rw [unchanged]
  have abandoned : rest.abandoned = scheduler.abandoned := by
    rw [unchanged]
  have moved : (rest.places (some task.id)).Perm (scheduler.places none) := by
    simp only [places, readyIds_of_dequeue? dequeued, completed, failed,
      abandoned, Option.toList, List.append_nil]
    exact List.perm_append_singleton _ _
  rw [Placed, ids]
  exact moved.trans placed

/-- The result of a resumption puts the running task into one of the other places. -/
theorem conclude
    (placed : scheduler.Placed (some task.id))
    (coroutine : Coroutine κ α ε)
    (result : Guarded (Outcome α ε)) :
    (scheduler.conclude task coroutine result).Placed none := by
  have unrecorded := placed.partitioned.unrecorded
  rw [Placed, ids_conclude]
  refine List.Perm.trans ?_ placed
  rw [List.perm_iff_count]
  intro id
  rcases result with panic | _ | value | error
  · simp [places, Scheduler.conclude, abandon, readyIds]
  · simp [places, Scheduler.conclude, settle, readyIds, Queue.ids,
      List.count_append, List.count_cons]
    omega
  · simp [places, Scheduler.conclude, settle, readyIds,
      List.count_append, List.count_cons, unrecorded.completed]
    omega
  · simp [places, Scheduler.conclude, settle, readyIds,
      List.count_append, List.count_cons, unrecorded.failed]

end Placed

end Scheduler

/-- Every step of a scheduler keeps its tasks in their places. -/
theorem Step.placed
    {scheduler scheduler' : Scheduler κ α ε}
    {running running' : Option (Task κ α ε)}
    {history : History κ α ε}
    (step : Step scheduler running history scheduler' running')
    (before : scheduler.Placed (running.map Task.id)) :
    scheduler'.Placed (running'.map Task.id) := by
  cases step with
  | still => exact before
  | added => exact before.enqueue _
  | began next => exact before.dequeue next
  | ended => exact before.conclude _ _
  | flagged => exact before

/-- Throughout the life of a scheduler its tasks are in their places. -/
theorem Life.placed
    {history : History κ α ε}
    {scheduler : Scheduler κ α ε}
    {running : Option (Task κ α ε)}
    (life : Life history scheduler running) :
    scheduler.Placed (running.map Task.id) := by
  induction life with
  | made made =>
      rw [Scheduler.eq_of_new_eq_ok made]
      exact .refl _
  | step _ step inductionHypothesis =>
      exact step.placed inductionHypothesis

theorem Life.partitioned
    {history : History κ α ε}
    {scheduler : Scheduler κ α ε}
    {running : Option (Task κ α ε)}
    (life : Life history scheduler running) :
    scheduler.Partitioned (running.map Task.id) :=
  life.placed.partitioned

/--
A ledger becomes another one by recording nothing, or by a single record for a
task that had no entry.
-/
def Ledger.RecordsFresh (ledger ledger' : Ledger ν) : Prop :=
  ledger' = ledger ∨
    ∃ id value,
      ledger.contains id = false ∧ ledger' = ledger.record id value

/-- What a step records is recorded for a task without an entry. -/
theorem Step.recordsFresh
    {scheduler scheduler' : Scheduler κ α ε}
    {running running' : Option (Task κ α ε)}
    {history : History κ α ε}
    (step : Step scheduler running history scheduler' running')
    (partitioned : scheduler.Partitioned (running.map Task.id)) :
    scheduler.completed.RecordsFresh scheduler'.completed ∧
      scheduler.failed.RecordsFresh scheduler'.failed := by
  cases step with
  | still =>
      exact ⟨.inl rfl, .inl rfl⟩
  | added =>
      exact ⟨.inl rfl, .inl rfl⟩
  | began next =>
      rw [(Scheduler.dequeue?_eq_some next).2]
      exact ⟨.inl rfl, .inl rfl⟩
  | @ended task coroutine result ends =>
      obtain ⟨notCompleted, notFailed⟩ :=
        Scheduler.Partitioned.unrecorded partitioned
      rw [Ledger.not_mem_ids] at notCompleted notFailed
      rcases result with panic | _ | value | error
      · exact ⟨.inl rfl, .inl rfl⟩
      · exact ⟨.inl rfl, .inl rfl⟩
      · exact ⟨.inr ⟨task.id, value, notCompleted, rfl⟩, .inl rfl⟩
      · exact ⟨.inl rfl, .inr ⟨task.id, error, notFailed, rfl⟩⟩
  | flagged =>
      exact ⟨.inl rfl, .inl rfl⟩

/--
At every moment of every run, the tasks of a live scheduler are partitioned
into the ready, the completed, the failed and the abandoned ones, the task that
is being resumed set aside; and whatever the next move records, it records for
a task that has no entry. Between the operations of a host nothing is set
aside.
-/
theorem ids_partitioned
    (launch : κ → Coroutine κ α ε)
    (number : Nat) :
    (∀ {trace : Trace κ α ε} {moment : Moment κ α ε}
      {scheduler : Scheduler κ α ε},
      Run launch trace moment →
      moment.world.scheduler? number = some scheduler →
      scheduler.Partitioned ((moment.running? number).map Task.id) ∧
        ∀ {last : Trace κ α ε} {moment' : Moment κ α ε}
          {scheduler' : Scheduler κ α ε},
          Move launch moment last moment' →
          moment'.world.scheduler? number = some scheduler' →
          scheduler.completed.RecordsFresh scheduler'.completed ∧
            scheduler.failed.RecordsFresh scheduler'.failed) ∧
      ∀ {world : World κ α ε} {scheduler : Scheduler κ α ε},
        Reachable launch world →
        world.scheduler? number = some scheduler →
        scheduler.Partitioned none := by
  refine ⟨?_, ?_⟩
  · intro trace moment scheduler run alive
    have partitioned := (run.life alive).partitioned
    refine ⟨partitioned, ?_⟩
    intro last moment' scheduler' move alive'
    rcases move.step run.tracked.coherent alive' with
      ⟨before, found, step⟩ | ⟨config, -, same, -, -⟩
    · rw [alive] at found
      cases found
      exact step.recordsFresh partitioned
    · have made := World.lt_length_slots alive
      exact (Nat.ne_of_lt made same.symm).elim
  · intro world scheduler reachable alive
    obtain ⟨trace, run⟩ := reachable.run
    exact (run.life alive).partitioned

/--
A task that has spawned another and is still being resumed: the other is ready,
and the running one is nowhere. Once its panic has been caught, it is abandoned.
-/
theorem ids_partitioned_amid_resumption :
    ∃ trace moment scheduler world scheduler',
      Run Job.launch trace moment ∧
        moment.world.scheduler? 0 = some scheduler ∧
        (moment.running? 0).map Task.id = some ⟨0⟩ ∧
        scheduler.readyIds = [⟨1⟩] ∧
        scheduler.Partitioned (some ⟨0⟩) ∧
        Reachable Job.launch world ∧
        world.scheduler? 0 = some scheduler' ∧
        scheduler'.readyIds = [⟨1⟩] ∧
        scheduler'.abandoned = #[⟨0⟩] ∧
        scheduler'.Partitioned none := by
  have opened : Reachable Job.launch _ :=
    .opened (.start rfl rfl)
      (show (World.empty none).openScheduler {} = .ok (_, 0) from rfl)
  have added : Reachable Job.launch _ :=
    .added opened
      (show
        World.add? _ 0
            (.script
              #[⟨[.spawn 0
                    ⟨.suspendThen (.exactly 0) (.literal (.number 7)),
                      .number 0⟩],
                  .panic "spawned and gone"⟩]
              false) =
          some (_, ⟨0⟩) from rfl)
  have caught : Reachable Job.launch _ :=
    .stepped added
      (show
        World.stepOnce (World.answer Job.launch 0) 0 _ =
          some (_, .panicked ⟨"spawned and gone"⟩) from rfl)
  obtain ⟨trace, run⟩ := added.run
  have entered :=
    run.append (.single (.stepEntered (.host (.step 0)) rfl rfl))
  have began := entered.append (.single (.began rfl))
  have spawned := began.append (.single (.replied .task rfl))
  have amid := ((ids_partitioned Job.launch 0).1 spawned rfl).1
  have afterwards := (ids_partitioned Job.launch 0).2 caught rfl
  exact
    ⟨_, _, _, _, _, spawned, rfl, rfl, rfl, amid, caught, rfl, rfl, rfl,
      afterwards⟩

end RoundRobin
