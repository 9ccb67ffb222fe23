import Mathlib.Data.List.Nodup
import RoundRobin.Proofs.Bookkeeping
import RoundRobin.Proofs.Log.Order

namespace RoundRobin

/-!
# A log that tells what happened

A log agrees with a scheduler if what it tells is what the scheduler shows: the
identities handed out, the ledgers and the abandoned tasks in their orders, the
order of resolution and the counters. A step of the scheduler tells at most one
event; told step by step, the log stays in order and in agreement.
-/

namespace Log

/-- A log agrees with a scheduler and the task of it that is being resumed. -/
structure Agrees
    (log : Log)
    (scheduler : Scheduler κ α ε)
    (running : Option (Task κ α ε)) :
    Prop where
  issued : log.issued = scheduler.ids.handedOut
  /-- Only tasks that were issued are told of. -/
  known :
    ∀ event ∈ log,
    ∀ id,
      event.task? = some id →
      id ∈ scheduler.ids.handedOut
  completed : log.sentTo .completed = scheduler.completed.ids
  failed : log.sentTo .failed = scheduler.failed.ids
  abandoned : log.sentTo .abandoned = scheduler.abandoned.toList
  resolved : log.resolved = scheduler.resolutionOrder.toList
  stats :
    scheduler.stats =
      { tasksAdded := log.issued.length
        tasksCompleted := (log.sentTo .completed).length
        tasksFailed := (log.sentTo .failed).length
        suspensions := (log.sentTo .ready).length
        resumptions :=
          (log.sentTo .ready).length +
            (log.sentTo .completed).length +
              (log.sentTo .failed).length }
  ready :
    ∀ task ∈ scheduler.ready.toList,
      (log.resumptionsOf task.id).length = task.resumptions
  /-- The resumption under way has begun. -/
  current :
    ∀ task,
      running = some task →
      (log.resumptionsOf task.id).length = task.resumptions + 1

variable {log : Log} {id : TaskId}

namespace Agrees

variable
  {scheduler : Scheduler κ α ε}
  {current : Option (Task κ α ε)}
  {task : Task κ α ε}

/-- What is not about a task does not affect the agreement. -/
theorem aside
    (agrees : log.Agrees scheduler current)
    {event : LogEvent}
    (apart : event.task? = none) :
    Log.Agrees (log ++ [event]) scheduler current := by
  obtain ⟨issues, begins, sends, resolves⟩ :=
    LogEvent.silent_of_apart apart
  refine ⟨?_, ?_, ?_, ?_, ?_, ?_, ?_, ?_, ?_⟩
  · simpa [issues] using agrees.issued
  · intro earlier member id about
    rcases List.mem_append.mp member with before | now
    · exact agrees.known earlier before id about
    · rw [List.mem_singleton.mp now, apart] at about
      cases about
  · simpa [sends] using agrees.completed
  · simpa [sends] using agrees.failed
  · simpa [sends] using agrees.abandoned
  · simpa [resolves] using agrees.resolved
  · simpa [issues, sends] using agrees.stats
  · simpa [begins] using agrees.ready
  · simpa [begins] using agrees.current

/-- Of a task that was not issued nothing is told. -/
theorem fresh
    (agrees : log.Agrees scheduler current)
    (unissued : id ∉ scheduler.ids.handedOut) :
    ∀ event ∈ log, event.task? ≠ some id := by
  intro event member about
  exact unissued (agrees.known event member id about)

/-- A new task is told of as it is issued. -/
theorem issues
    (agrees : log.Agrees scheduler current)
    (coroutine : Coroutine κ α ε)
    {event : LogEvent}
    (issues :
      event.issued? = some (scheduler.enqueue coroutine).2) :
    Log.Agrees (log ++ [event]) (scheduler.enqueue coroutine).1
      current := by
  obtain ⟨about, begins, sends, resolves⟩ :=
    LogEvent.silent_of_issues issues
  have fresh := agrees.fresh (scheduler.enqueue_fresh coroutine)
  refine ⟨?_, ?_, ?_, ?_, ?_, ?_, ?_, ?_, ?_⟩
  · simp [issues, agrees.issued]
  · intro earlier member id aboutId
    rw [Scheduler.handedOut_enqueue, List.mem_append]
    rcases List.mem_append.mp member with before | now
    · exact .inl (agrees.known earlier before id aboutId)
    · rw [List.mem_singleton.mp now, about, Option.some_inj] at aboutId
      exact .inr (List.mem_singleton.mpr aboutId.symm)
  · simpa [sends] using agrees.completed
  · simpa [sends] using agrees.failed
  · simpa [sends] using agrees.abandoned
  · simpa [resolves, Scheduler.enqueue] using agrees.resolved
  · have stats := agrees.stats
    simp only [Scheduler.stats, Stats.mk.injEq] at stats ⊢
    refine ⟨?_, ?_⟩
    · simpa [sends, Scheduler.enqueue] using stats.1
    · simp [issues, ← stats.2, Scheduler.enqueue, IdSource.next]
  · intro waiting member
    rw [Scheduler.ready_enqueue, List.mem_append, List.mem_singleton]
      at member
    rw [resumptionsOf_concat, begins, Option.toList_none,
      List.append_nil]
    rcases member with before | rfl
    · exact agrees.ready waiting before
    · exact congrArg List.length (resumptionsOf_of_fresh fresh)
  · simpa [begins] using agrees.current

/-- The beginning of a resumption is told with its number. -/
theorem began
    (agrees : log.Agrees scheduler none)
    (partitioned : scheduler.Partitioned none)
    {rest : Scheduler κ α ε}
    (next : scheduler.dequeue? = some (task, rest)) :
    Log.Agrees
      (log ++ [.taskRunning task.id (task.resumptions + 1)])
      rest (some task) := by
  obtain ⟨shape, unchanged⟩ := Scheduler.dequeue?_eq_some next
  have issued : task.id ∈ scheduler.ids.handedOut := by
    rw [IdSource.mem_handedOut_iff, partitioned.issued,
      Scheduler.readyIds_of_dequeue? next]
    exact .inl List.mem_cons_self
  have sends (place : TaskState) :
      (LogEvent.taskRunning task.id (task.resumptions + 1)).sentTo?
          place =
        none := by
    cases place <;> rfl
  refine ⟨?_, ?_, ?_, ?_, ?_, ?_, ?_, ?_, ?_⟩
  · rw [unchanged]
    simpa [LogEvent.issued?] using agrees.issued
  · rw [unchanged]
    intro earlier member id about
    rcases List.mem_append.mp member with before | now
    · exact agrees.known earlier before id about
    · rw [List.mem_singleton.mp now] at about
      cases about
      exact issued
  · rw [unchanged]
    simpa [sends] using agrees.completed
  · rw [unchanged]
    simpa [sends] using agrees.failed
  · rw [unchanged]
    simpa [sends] using agrees.abandoned
  · rw [unchanged]
    simpa [LogEvent.resolved?] using agrees.resolved
  · rw [unchanged]
    simpa [sends, LogEvent.issued?, Scheduler.stats] using agrees.stats
  · intro waiting member
    -- No other ready task has the identity of the one that begins.
    have different : task.id ≠ waiting.id := by
      have ready := partitioned.readyNodup
      rw [Scheduler.readyIds_of_dequeue? next, List.nodup_cons] at ready
      intro same
      exact ready.1 (same ▸ List.mem_map_of_mem member)
    rw [resumptionsOf_concat_of_ne (by simp [different])]
    exact agrees.ready waiting (shape ▸ List.mem_cons_of_mem _ member)
  · rintro running ⟨⟩
    rw [resumptionsOf_concat_running, List.length_append,
      agrees.ready task (shape ▸ List.mem_cons_self)]
    rfl

/-- The result of a resumption is told of its task. -/
theorem ended
    (agrees : log.Agrees scheduler (some task))
    (partitioned : scheduler.Partitioned ((some task).map Task.id))
    (coroutine : Coroutine κ α ε)
    (result : Guarded (Outcome α ε)) :
    Log.Agrees
      (log ++ [.ofResult task.id (task.resumptions + 1) result])
      (scheduler.conclude task coroutine result) none := by
  have issued : task.id ∈ scheduler.ids.handedOut :=
    partitioned.issued_of_live (by simp [Scheduler.live])
  have unrecorded := partitioned.unrecorded
  have begun := agrees.current task rfl
  obtain ⟨about, issues, begins⟩ :=
    LogEvent.silent_ofResult task.id (task.resumptions + 1) result
  have stats := agrees.stats
  refine ⟨?_, ?_, ?_, ?_, ?_, ?_, ?_, ?_, ?_⟩
  · simpa [issues] using agrees.issued
  · intro earlier member id aboutId
    rw [Scheduler.ids_conclude]
    rcases List.mem_append.mp member with before | now
    · exact agrees.known earlier before id aboutId
    · rw [List.mem_singleton.mp now, about, Option.some_inj] at aboutId
      exact aboutId ▸ issued
  · rcases result with panic | _ | value | error <;>
      simp [LogEvent.sentTo?_ofResult, TaskState.ofResult,
        agrees.completed, Scheduler.conclude, Scheduler.settle,
        Scheduler.abandon, unrecorded.completed]
  · rcases result with panic | _ | value | error <;>
      simp [LogEvent.sentTo?_ofResult, TaskState.ofResult,
        agrees.failed, Scheduler.conclude, Scheduler.settle,
        Scheduler.abandon, unrecorded.failed]
  · rcases result with panic | _ | value | error <;>
      simp [LogEvent.sentTo?_ofResult, TaskState.ofResult,
        agrees.abandoned, Scheduler.conclude, Scheduler.settle,
        Scheduler.abandon]
  · rcases result with panic | _ | value | error <;>
      simp [LogEvent.ofResult, LogEvent.resolved?,
        agrees.resolved, Scheduler.conclude, Scheduler.settle,
        Scheduler.abandon]
  · simp only [Scheduler.stats, Stats.mk.injEq] at stats ⊢
    refine ⟨?_, ?_⟩
    · rcases result with panic | _ | value | error <;>
        simp [LogEvent.sentTo?_ofResult, TaskState.ofResult,
          stats.1, Scheduler.conclude, Scheduler.settle,
          Scheduler.abandon, Tally.count, Outcome.kind] <;> omega
    · simpa [issues] using stats.2
  · intro waiting member
    rw [resumptionsOf_concat, begins, Option.toList_none,
      List.append_nil]
    rw [Scheduler.ready_conclude, List.mem_append] at member
    rcases member with before | resumed
    · exact agrees.ready waiting before
    · split at resumed
      · rw [List.mem_singleton.mp resumed]
        exact begun
      · cases resumed
  · rintro running ⟨⟩

/-- What a log tells to be over is where the scheduler keeps what has ended. -/
theorem over_iff
    (agrees : log.Agrees scheduler current) :
    log.Over id ↔
      id ∈ scheduler.completed.ids ∨
        id ∈ scheduler.failed.ids ∨
        id ∈ scheduler.abandoned.toList := by
  rw [← agrees.completed, ← agrees.failed, ← agrees.abandoned]
  constructor
  · rintro ⟨place, notReady, member⟩
    cases place with
    | ready => exact (notReady rfl).elim
    | completed => exact .inl member
    | failed => exact .inr (.inl member)
    | abandoned => exact .inr (.inr member)
  · rintro (member | member | member)
    · exact ⟨.completed, by simp, member⟩
    · exact ⟨.failed, by simp, member⟩
    · exact ⟨.abandoned, by simp, member⟩

end Agrees

/-- A log tells what happened to the tasks of a scheduler, in order. -/
structure Faithful
    (log : Log)
    (scheduler : Scheduler κ α ε)
    (running : Option (Task κ α ε)) :
    Prop where
  orderly : log.Orderly (running.map Task.id)
  agrees : log.Agrees scheduler running

end Log

/--
A change of a scheduler and of the task of it that is being resumed, with the
event that tells of it, if there is one.
-/
inductive Telling :
    Scheduler κ α ε →
    Option (Task κ α ε) →
    Option LogEvent →
    Scheduler κ α ε →
    Option (Task κ α ε) →
    Prop where
  /-- Nothing happens to the tasks, whatever else is told. -/
  | aside
      (scheduler : Scheduler κ α ε)
      (running : Option (Task κ α ε))
      (draining : Bool)
      {told : Option LogEvent}
      (apart : ∀ event, told = some event → event.task? = none) :
      Telling scheduler running told
        { scheduler with draining := draining } running
  | issued
      (scheduler : Scheduler κ α ε)
      (running : Option (Task κ α ε))
      (coroutine : Coroutine κ α ε)
      {event : LogEvent}
      (issues :
        event.issued? = some (scheduler.enqueue coroutine).2) :
      Telling scheduler running (some event)
        (scheduler.enqueue coroutine).1 running
  | began
      {scheduler rest : Scheduler κ α ε}
      {task : Task κ α ε}
      (next : scheduler.dequeue? = some (task, rest)) :
      Telling scheduler none
        (some (.taskRunning task.id (task.resumptions + 1)))
        rest (some task)
  | ended
      (scheduler : Scheduler κ α ε)
      {task : Task κ α ε}
      {coroutine : Coroutine κ α ε}
      {result : Guarded (Outcome α ε)}
      (ends : task.coroutine.resume.Ends (coroutine, result)) :
      Telling scheduler (some task)
        (some (.ofResult task.id (task.resumptions + 1) result))
        (scheduler.conclude task coroutine result) none

namespace Telling

variable
  {scheduler scheduler' : Scheduler κ α ε}
  {running running' : Option (Task κ α ε)}
  {told : Option LogEvent}

/-- What is told is a step of the scheduler. -/
theorem step
    (telling : Telling scheduler running told scheduler' running') :
    ∃ history, Step scheduler running history scheduler' running' := by
  cases telling with
  | aside _ draining => exact ⟨_, .flagged _ _ draining⟩
  | issued _ coroutine => exact ⟨_, .added _ _ coroutine⟩
  | began next => exact ⟨_, .began next⟩
  | ended ends => exact ⟨_, .ended _ ends⟩

/-- Telling what happens keeps a log faithful. -/
theorem faithful
    (telling : Telling scheduler running told scheduler' running')
    (partitioned : scheduler.Partitioned (running.map Task.id))
    {log : Log}
    (faithful : log.Faithful scheduler running) :
    Log.Faithful (log ++ told.toList) scheduler' running' := by
  obtain ⟨orderly, agrees⟩ := faithful
  cases telling with
  | aside _ draining apart =>
      have flagged :
          log.Agrees { scheduler with draining := draining } running :=
        ⟨agrees.issued, agrees.known, agrees.completed, agrees.failed,
          agrees.abandoned, agrees.resolved, agrees.stats, agrees.ready,
          agrees.current⟩
      cases told with
      | none =>
          rw [Option.toList_none, List.append_nil]
          exact ⟨orderly, flagged⟩
      | some event =>
          have apart := apart event rfl
          exact ⟨orderly.aside apart, flagged.aside apart⟩
  | issued _ coroutine issues =>
      have fresh := agrees.fresh (scheduler.enqueue_fresh coroutine)
      exact
        ⟨orderly.issues issues fresh, agrees.issues coroutine issues⟩
  | @began rest task next =>
      have waiting : task.id ∈ scheduler.readyIds := by
        rw [Scheduler.readyIds_of_dequeue? next]
        exact List.mem_cons_self
      have alive : ¬ log.Over task.id := by
        obtain ⟨notCompleted, notFailed, notAbandoned, -⟩ :=
          partitioned.of_ready waiting
        rw [agrees.over_iff]
        tauto
      have begun := orderly.began alive
      rw [agrees.ready task
        ((Scheduler.dequeue?_eq_some next).1 ▸ List.mem_cons_self)]
        at begun
      exact ⟨begun, agrees.began partitioned next⟩
  | @ended task coroutine result ends =>
      have alive : ¬ log.Over task.id := by
        obtain ⟨-, notCompleted, notFailed, notAbandoned⟩ :=
          partitioned.runningApart task.id rfl
        rw [agrees.over_iff]
        tauto
      have ended := orderly.ended alive result
      rw [agrees.current task rfl] at ended
      exact ⟨ended, agrees.ended partitioned coroutine result⟩

end Telling

/-- An empty log is faithful to a new scheduler. -/
theorem Scheduler.faithful_nil
    {config : SchedulerConfig}
    {scheduler : Scheduler κ α ε}
    (made : Scheduler.new config = .ok scheduler) :
    Log.Faithful [] scheduler none := by
  rw [Scheduler.eq_of_new_eq_ok made]
  refine ⟨⟨.nil, ?_, ?_, .nil, .nil⟩, ?_⟩
  · intro id
    rfl
  · simp
  · refine ⟨rfl, ?_, rfl, rfl, rfl, rfl, rfl, ?_, ?_⟩
    · simp
    · simp
    · simp

end RoundRobin
