import RoundRobin.Scheduler.Lookup
import RoundRobin.TaskError
import RoundRobin.Value

namespace RoundRobin

/-!
# Run reports

A report is a snapshot of a scheduler: the state of every task with what it
ended in, the order in which tasks ended, and the counters.
-/

/-- What a report says about one task. -/
structure TaskReport where
  id : TaskId
  label : String
  state : TaskState
  value : Option Value
  error : Option String
  deriving DecidableEq, Repr

/-- A snapshot of a scheduler. -/
structure Report where
  tasks : List TaskReport
  resolutionOrder : List TaskId
  stats : Stats
  deriving DecidableEq, Repr

namespace Report

/-- The label of a task: the first one given for it, or else its name. -/
def labelOf
    (labels : List (TaskId × String))
    (id : TaskId) :
    String :=
  match labels.find? fun entry => entry.1 = id with
  | some (_, label) => label
  | none => id.text

/-- What a scheduler knows about one task. -/
def taskReport
    (scheduler : Scheduler κ Value TaskError)
    (labels : List (TaskId × String))
    (id : TaskId) :
    TaskReport where
  id := id
  label := labelOf labels id
  state := (scheduler.stateOf? id).getD .ready
  value := (scheduler.resultOf id).toOption
  error := (scheduler.errorOf id).toOption.map TaskError.message

/-- Collect what a scheduler knows about all tasks that were added to it. -/
def collect
    (scheduler : Scheduler κ Value TaskError)
    (labels : List (TaskId × String)) :
    Report where
  tasks :=
    (List.range scheduler.stats.tasksAdded).map fun index =>
      taskReport scheduler labels { index := index }
  resolutionOrder := scheduler.resolutionOrder.toList
  stats := scheduler.stats

end Report

end RoundRobin
