import RoundRobin.Ledger
import RoundRobin.Task.Basic

namespace RoundRobin

/-!
# Schedulers

A scheduler keeps its ready tasks in a queue, the final outcomes of its tasks
in two ledgers, and a list of the tasks that panicked. Whoever drives it takes
the next task out of the queue, resumes it, and gives the scheduler the result
to settle: a suspended task goes to the back of the queue, a completed or
failed one into its ledger, and one that panicked among the abandoned.
-/

/-- The settings of a scheduler. -/
structure SchedulerConfig where
  /-- The room reserved in the ready queue from the start, in tasks. -/
  initialCapacity : Nat := 16
  logResumptions : Bool := true
  deriving DecidableEq, Repr

/-- Counters of a scheduler. -/
structure Tally where
  /-- Resumptions that ended in an outcome. -/
  resumptions : Nat := 0
  /-- Resumptions that ended in a suspension. -/
  suspensions : Nat := 0
  tasksCompleted : Nat := 0
  tasksFailed : Nat := 0
  deriving DecidableEq, Repr

/-- The counters as they are reported, with the number of tasks added. -/
structure Stats extends Tally where
  tasksAdded : Nat := 0
  deriving DecidableEq, Repr

/-- Count a resumption that ended in the given way. -/
def Tally.count (tally : Tally) : TurnKind → Tally
  | .suspended =>
      { tally with
        resumptions := tally.resumptions + 1
        suspensions := tally.suspensions + 1 }
  | .completed =>
      { tally with
        resumptions := tally.resumptions + 1
        tasksCompleted := tally.tasksCompleted + 1 }
  | .failed =>
      { tally with
        resumptions := tally.resumptions + 1
        tasksFailed := tally.tasksFailed + 1 }

/-- A round-robin scheduler of tasks with values in `α` and errors in `ε`. -/
structure Scheduler (κ α ε : Type) where
  config : SchedulerConfig
  ready : Queue (Task κ α ε) := {}
  ids : IdSource := {}
  /-- Whether its ready queue is being drained. -/
  draining : Bool := false
  completed : Ledger α := {}
  failed : Ledger ε := {}
  /-- The tasks that panicked, in the order they did. -/
  abandoned : Array TaskId := #[]
  /-- The tasks that completed or failed, in the order they did. -/
  resolutionOrder : Array TaskId := #[]
  tally : Tally := {}

namespace Scheduler

/-- An empty scheduler, if room can be reserved as its settings ask. -/
def new (config : SchedulerConfig) : Guarded (Scheduler κ α ε) :=
  match Queue.reserved? config.initialCapacity with
  | .error panic => .error panic
  | .ok ready => .ok { config := config, ready := ready }

/-- Make a coroutine a ready task at the back of the queue. -/
def enqueue
    (scheduler : Scheduler κ α ε)
    (coroutine : Coroutine κ α ε) :
    Scheduler κ α ε × TaskId :=
  let (ids, id) := scheduler.ids.next
  ({ scheduler with
      ids := ids
      ready := scheduler.ready.push (.new id coroutine) },
    id)

/-- Take the next ready task out of the queue. -/
def dequeue?
    (scheduler : Scheduler κ α ε) :
    Option (Task κ α ε × Scheduler κ α ε) :=
  scheduler.ready.pop?.map fun (task, rest) =>
    (task, { scheduler with ready := rest })

/-- Put a task where the outcome of its resumption sends it. -/
def settle
    (scheduler : Scheduler κ α ε)
    (task : Task κ α ε)
    (outcome : Outcome α ε) :
    Scheduler κ α ε :=
  let counted := { scheduler with tally := scheduler.tally.count outcome.kind }
  match outcome with
  | .suspended => { counted with ready := counted.ready.push task }
  | .completed value =>
      { counted with
        completed := counted.completed.record task.id value
        resolutionOrder := counted.resolutionOrder.push task.id }
  | .failed error =>
      { counted with
        failed := counted.failed.record task.id error
        resolutionOrder := counted.resolutionOrder.push task.id }

/-- Give up a task that panicked. -/
def abandon
    (scheduler : Scheduler κ α ε)
    (id : TaskId) :
    Scheduler κ α ε :=
  { scheduler with abandoned := scheduler.abandoned.push id }

/-- The identities of the ready tasks, the next to run first. -/
def readyIds (scheduler : Scheduler κ α ε) : List TaskId :=
  scheduler.ready.ids

/-- The counters of a scheduler. -/
def stats (scheduler : Scheduler κ α ε) : Stats :=
  { scheduler.tally with tasksAdded := scheduler.ids.issued }

end Scheduler

end RoundRobin
