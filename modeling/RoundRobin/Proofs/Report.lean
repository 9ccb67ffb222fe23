import RoundRobin.Proofs.Bookkeeping
import RoundRobin.Proofs.Lookup
import RoundRobin.Workload

namespace RoundRobin

/-!
# What a report says

A report goes through the identities that were issued and looks each of them
up. That the entries are right rests on the look-ups, which agree whenever no
task is being resumed; that they add up to the counters, and that the order of
resolution lists the tasks that have ended, rests on the books besides.
-/

/-- What an entry says is what the scheduler knows of the task, under the given labels. -/
structure TaskReport.Accurate
    (entry : TaskReport)
    (scheduler : Scheduler κ Value TaskError)
    (labels : List (TaskId × String)) :
    Prop where
  state : scheduler.stateOf? entry.id = some entry.state
  /-- The label is the first one that is given for the task, if there is one. -/
  label :
    (∃ before after,
      labels = before ++ (entry.id, entry.label) :: after ∧
        ∀ other ∈ before, other.1 ≠ entry.id) ∨
      (∀ other ∈ labels, other.1 ≠ entry.id) ∧
        entry.label = "Task(" ++ entry.id.index.repr ++ ")"
  hasValue : entry.value.isSome ↔ entry.state = .completed
  value :
    ∀ value,
      entry.value = some value ↔
        (entry.id, value) ∈ scheduler.completed.toList
  hasError : entry.error.isSome ↔ entry.state = .failed
  error :
    ∀ text,
      entry.error = some text ↔
        ∃ error,
          (entry.id, error) ∈ scheduler.failed.toList ∧
            error.message = text
  blank :
    entry.value = none ∧ entry.error = none ↔
      entry.state = .ready ∨ entry.state = .abandoned

/-- A report has an accurate entry for every task, and what it says adds up. -/
structure Report.Complete
    (report : Report)
    (scheduler : Scheduler κ Value TaskError)
    (labels : List (TaskId × String)) :
    Prop where
  /-- The entries are those of the issued identities, in order. -/
  issued : report.tasks.map TaskReport.id = scheduler.ids.handedOut
  accurate :
    ∀ entry ∈ report.tasks, entry.Accurate scheduler labels
  stats : report.stats = scheduler.stats
  tasksAdded : report.tasks.length = report.stats.tasksAdded
  tasksCompleted :
    (report.tasks.countP fun entry => entry.state = .completed) =
      report.stats.tasksCompleted
  tasksFailed :
    (report.tasks.countP fun entry => entry.state = .failed) =
      report.stats.tasksFailed
  order : report.resolutionOrder = scheduler.resolutionOrder.toList
  orderNodup : report.resolutionOrder.Nodup
  /-- The order lists the tasks whose entries show an end. -/
  orderResolved :
    ∀ id,
      id ∈ report.resolutionOrder ↔
        ∃ entry ∈ report.tasks,
          entry.id = id ∧
            (entry.state = .completed ∨ entry.state = .failed)

namespace Report

/-- The first label that is given for a task is taken, or else its name. -/
theorem labelOf_cases
    (labels : List (TaskId × String))
    (id : TaskId) :
    (∃ before after,
      labels = before ++ (id, labelOf labels id) :: after ∧
        ∀ other ∈ before, other.1 ≠ id) ∨
      (∀ other ∈ labels, other.1 ≠ id) ∧
        labelOf labels id = "Task(" ++ id.index.repr ++ ")" := by
  unfold labelOf
  cases found : labels.find? fun entry => entry.1 = id with
  | none =>
      right
      refine ⟨?_, rfl⟩
      simpa using List.find?_eq_none.mp found
  | some entry =>
      left
      obtain ⟨labelled, label⟩ := entry
      obtain ⟨same, before, after, split, others⟩ :=
        List.find?_eq_some_iff_append.mp found
      rw [decide_eq_true_eq] at same
      dsimp only at same ⊢
      subst same
      exact ⟨before, after, split, by simpa using others⟩

/-- The entries are made one for each issued identity. -/
theorem tasks_collect
    (scheduler : Scheduler κ Value TaskError)
    (labels : List (TaskId × String)) :
    (collect scheduler labels).tasks =
      scheduler.ids.handedOut.map (taskReport scheduler labels) := by
  simp [collect, IdSource.handedOut, Scheduler.stats, Function.comp_def]

/-- The default for a missing state is never shown. -/
theorem stateOf?_taskReport
    {scheduler : Scheduler κ Value TaskError}
    {id : TaskId}
    (issued : id ∈ scheduler.ids.handedOut)
    (labels : List (TaskId × String)) :
    scheduler.stateOf? id =
      some (taskReport scheduler labels id).state := by
  cases lives : scheduler.stateOf? id with
  | none => exact (Scheduler.stateOf?_eq_none_iff.mp lives issued).elim
  | some state => simp [taskReport, lives]

theorem state_taskReport_iff
    {scheduler : Scheduler κ Value TaskError}
    {id : TaskId}
    (issued : id ∈ scheduler.ids.handedOut)
    (labels : List (TaskId × String))
    (state : TaskState) :
    (taskReport scheduler labels id).state = state ↔
      scheduler.stateOf? id = some state := by
  rw [stateOf?_taskReport issued labels, Option.some_inj]

/-- An entry shows a value exactly if one is recorded. -/
theorem value_taskReport
    {scheduler : Scheduler κ Value TaskError}
    (once : scheduler.completed.ids.Nodup)
    (labels : List (TaskId × String))
    (id : TaskId)
    (value : Value) :
    (taskReport scheduler labels id).value = some value ↔
      (id, value) ∈ scheduler.completed.toList := by
  rw [← Ledger.get?_eq_some_iff once, ← Scheduler.resultOf_eq_ok_iff]
  cases found : scheduler.resultOf id <;>
    simp [taskReport, found, Except.toOption]

/-- An entry shows the wording of an error exactly if the error is recorded. -/
theorem error_taskReport
    {scheduler : Scheduler κ Value TaskError}
    (once : scheduler.failed.ids.Nodup)
    (labels : List (TaskId × String))
    (id : TaskId)
    (text : String) :
    (taskReport scheduler labels id).error = some text ↔
      ∃ error,
        (id, error) ∈ scheduler.failed.toList ∧
          error.message = text := by
  simp only [← Ledger.get?_eq_some_iff once,
    ← Scheduler.errorOf_eq_ok_iff]
  cases found : scheduler.errorOf id <;>
    simp [taskReport, found, Except.toOption]

/-- The entry of an issued task is accurate when no task is being resumed. -/
theorem accurate_taskReport
    {scheduler : Scheduler κ Value TaskError}
    (partitioned : scheduler.Partitioned none)
    {id : TaskId}
    (issued : id ∈ scheduler.ids.handedOut)
    (labels : List (TaskId × String)) :
    (taskReport scheduler labels id).Accurate scheduler labels := by
  have value := value_taskReport partitioned.completedNodup labels id
  have error := error_taskReport partitioned.failedNodup labels id
  have hasValue :
      (taskReport scheduler labels id).value.isSome ↔
        (taskReport scheduler labels id).state = .completed := by
    rw [state_taskReport_iff issued,
      partitioned.stateOf?_eq_completed_iff, Option.isSome_iff_exists]
    simp only [value, Ledger.mem_ids_iff]
  have hasError :
      (taskReport scheduler labels id).error.isSome ↔
        (taskReport scheduler labels id).state = .failed := by
    rw [state_taskReport_iff issued,
      partitioned.stateOf?_eq_failed_iff, Option.isSome_iff_exists]
    simp only [error, Ledger.mem_ids_iff]
    tauto
  refine
    { state := stateOf?_taskReport issued labels
      label := labelOf_cases labels id
      hasValue := hasValue
      value := value
      hasError := hasError
      error := error
      blank := ?_ }
  rw [← Option.not_isSome_iff_eq_none, ← Option.not_isSome_iff_eq_none,
    hasValue, hasError]
  cases (taskReport scheduler labels id).state <;> simp

/-- The entries that show a state are as many as the tasks that live there. -/
theorem countP_state
    {scheduler : Scheduler κ Value TaskError}
    {state : TaskState}
    {there : List TaskId}
    (lives :
      ∀ id, scheduler.stateOf? id = some state ↔ id ∈ there)
    (once : there.Nodup)
    (labels : List (TaskId × String)) :
    ((collect scheduler labels).tasks.countP fun entry =>
        entry.state = state) =
      there.length := by
  have shown :
      ∀ id ∈ scheduler.ids.handedOut,
        ((taskReport scheduler labels id).state = state ↔
          id ∈ there) := by
    intro id issued
    rw [state_taskReport_iff issued, lives]
  have counted :
      (scheduler.ids.handedOut.countP fun id =>
          (taskReport scheduler labels id).state = state) =
        scheduler.ids.handedOut.countP fun id => id ∈ there := by
    apply List.countP_congr
    intro id issued
    simpa using shown id issued
  have rearranged :
      (scheduler.ids.handedOut.filter fun id => id ∈ there).Perm
        there := by
    rw [List.perm_ext_iff_of_nodup
      (scheduler.ids.nodup_handedOut.filter _) once]
    intro id
    simp only [List.mem_filter, decide_eq_true_eq, and_iff_right_iff_imp]
    intro member
    exact Scheduler.issued_of_stateOf? ((lives id).mpr member)
  rw [tasks_collect, List.countP_map, ← rearranged.length_eq,
    ← List.countP_eq_length_filter, ← counted]
  rfl

end Report

/-- Between resumptions any report on a scheduler is complete. -/
theorem Life.complete
    {history : History κ Value TaskError}
    {scheduler : Scheduler κ Value TaskError}
    (life : Life history scheduler none)
    (labels : List (TaskId × String)) :
    (Report.collect scheduler labels).Complete scheduler labels := by
  have partitioned : scheduler.Partitioned none := life.partitioned
  have balanced := life.balanced
  have entries := Report.tasks_collect scheduler labels
  refine
    { issued := ?_
      accurate := ?_
      stats := rfl
      tasksAdded := ?_
      tasksCompleted := ?_
      tasksFailed := ?_
      order := rfl
      orderNodup := balanced.orderNodup
      orderResolved := ?_ }
  · rw [entries, List.map_map]
    exact List.map_id _
  · intro entry member
    rw [entries, List.mem_map] at member
    obtain ⟨id, issued, rfl⟩ := member
    exact Report.accurate_taskReport partitioned issued labels
  · simp [Report.collect]
  · rw [Report.countP_state
      (fun _ => partitioned.stateOf?_eq_completed_iff)
      partitioned.completedNodup, Ledger.length_ids]
    exact balanced.tasksCompleted.symm
  · rw [Report.countP_state
      (fun _ => partitioned.stateOf?_eq_failed_iff)
      partitioned.failedNodup, Ledger.length_ids]
    exact balanced.tasksFailed.symm
  · intro id
    have resolved :
        id ∈ scheduler.resolutionOrder.toList ↔
          scheduler.stateOf? id = some .completed ∨
            scheduler.stateOf? id = some .failed := by
      constructor
      · exact balanced.orderResolved id
      · intro ended
        rw [partitioned.stateOf?_eq_completed_iff,
          partitioned.stateOf?_eq_failed_iff, ← List.mem_append] at ended
        exact life.booked.order.perm.symm.subset ended
    show id ∈ scheduler.resolutionOrder.toList ↔ _
    simp only [resolved, entries, List.mem_map, exists_exists_and_eq_and]
    constructor
    · intro ended
      have issued : id ∈ scheduler.ids.handedOut :=
        ended.elim Scheduler.issued_of_stateOf?
          Scheduler.issued_of_stateOf?
      rw [← Report.state_taskReport_iff issued labels,
        ← Report.state_taskReport_iff issued labels] at ended
      exact ⟨id, issued, rfl, ended⟩
    · rintro ⟨other, issued, rfl, ended⟩
      rw [Report.state_taskReport_iff issued,
        Report.state_taskReport_iff issued] at ended
      exact ended

/--
Whenever no task of a scheduler is being resumed, the report on it has one
accurate entry for each task that was added, in the order in which they were
added, and the counters and the order of resolution fit the entries. This holds
at the moments of a run as well as between the operations of a host, whatever
labels are given.
-/
theorem reports_complete
    (launch : κ → Coroutine κ Value TaskError)
    (number : Nat)
    (labels : List (TaskId × String)) :
    (∀ {trace : Trace κ Value TaskError}
      {moment : Moment κ Value TaskError}
      {scheduler : Scheduler κ Value TaskError},
      Run launch trace moment →
      moment.world.scheduler? number = some scheduler →
      moment.running? number = none →
      (Report.collect scheduler labels).Complete scheduler labels ∧
        (Report.collect scheduler labels).tasks.map TaskReport.id =
          (trace.about number).added.map Prod.fst) ∧
      ∀ {world : World κ Value TaskError}
        {scheduler : Scheduler κ Value TaskError},
        Reachable launch world →
        world.scheduler? number = some scheduler →
        (Report.collect scheduler labels).Complete scheduler labels := by
  refine ⟨?_, ?_⟩
  · intro trace moment scheduler run alive resting
    have life := run.life alive
    rw [resting] at life
    have complete := life.complete labels
    exact ⟨complete, complete.issued.trans life.recorded.added.symm⟩
  · intro world scheduler reachable alive
    obtain ⟨trace, run⟩ := reachable.run
    exact (run.life alive).complete labels

/--
Of four tasks, one has completed, one has failed, one has panicked and one was
spawned and is ready. Two labels are given for the second, and one for a task
that there is not.
-/
theorem reports_complete_past_panic :
    ∃ (world : World Job Value TaskError)
      (scheduler : Scheduler Job Value TaskError)
      (trace : Trace Job Value TaskError)
      (labels : List (TaskId × String)),
      Reachable Job.launch world ∧
        Run Job.launch trace ⟨world, []⟩ ∧
        world.scheduler? 0 = some scheduler ∧
        labels = [(⟨1⟩, "lost"), (⟨9⟩, "unknown"), (⟨1⟩, "found")] ∧
        scheduler.completed.toList = [(⟨0⟩, .number 7)] ∧
        scheduler.failed.toList = [(⟨1⟩, .notFound)] ∧
        scheduler.abandoned = #[⟨2⟩] ∧
        scheduler.readyIds = [⟨3⟩] ∧
        ((Report.collect scheduler labels).tasks.map fun entry =>
            (entry.label, entry.value, entry.error)) =
          [("Task(0)", some (.number 7), none),
            ("lost", none, some "Not found"), ("Task(2)", none, none),
            ("Task(3)", none, none)] ∧
        (Report.collect scheduler labels).resolutionOrder =
          [⟨1⟩, ⟨0⟩] ∧
        (Report.collect scheduler labels).stats = ⟨⟨4, 2, 1, 1⟩, 4⟩ ∧
        (Report.collect scheduler labels).Complete scheduler labels ∧
        (Report.collect scheduler labels).tasks.map TaskReport.id =
          (trace.about 0).added.map Prod.fst := by
  have opened : Reachable Job.launch _ :=
    .opened (.start rfl rfl)
      (show (World.empty none).openScheduler {} = .ok (_, 0) from rfl)
  have completing : Reachable Job.launch _ :=
    .added opened
      (show
        World.add? _ 0 (.suspendThen 1 (.number 7)) = some (_, ⟨0⟩)
          from rfl)
  have failing : Reachable Job.launch _ :=
    .added completing
      (show
        World.add? _ 0 (.ofResults fun _ => .ok (.failed .notFound)) =
          some (_, ⟨1⟩) from rfl)
  have panicking : Reachable Job.launch _ :=
    .added failing
      (show
        World.add? _ 0
            (.script
              #[⟨[], .suspend⟩,
                ⟨[.spawn 0
                    ⟨.suspendThen (.exactly 0) (.literal (.number 8)),
                      .number 0⟩],
                  .panic "spawned and gone"⟩]
              false) =
          some (_, ⟨2⟩) from rfl)
  have caught : Reachable Job.launch _ :=
    .drained panicking
      (show
        World.drain (World.answer Job.launch 0) 5 0 _ =
          some (_, .panicked ⟨"spawned and gone"⟩) from rfl)
  obtain ⟨trace, run⟩ := caught.run
  have labelled :=
    reports_complete Job.launch 0
      [(⟨1⟩, "lost"), (⟨9⟩, "unknown"), (⟨1⟩, "found")]
  have atMoment := labelled.1 run rfl rfl
  have betweenOperations := labelled.2 caught rfl
  exact
    ⟨_, _, trace, _, caught, run, rfl, rfl, rfl, rfl, rfl, rfl, rfl, rfl,
      rfl, betweenOperations, atMoment.2⟩

end RoundRobin
