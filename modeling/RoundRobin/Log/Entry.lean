import RoundRobin.Log.Level
import RoundRobin.Task.Id

namespace RoundRobin

/-!
# Log entries

What happens in a scheduler is logged as a `LogEvent`. An `Entry` is an event
as it was captured: together with the drains that were under way, each shown
by the number of tasks that were ready when it began. An entry is rendered in
two ways: as a captured line, spans in front with their field, and as a
console line, the fields of the spans behind those of the event.
-/

/-- What can be logged. -/
inductive LogEvent where
  | taskAdded (id : TaskId)
  | taskSpawned (id : TaskId)
  /-- A spawner was used whose scheduler is gone. -/
  | spawnRefused
  | taskRunning (id : TaskId) (resumption : Nat)
  | taskSuspended (id : TaskId)
  | taskCompleted (id : TaskId) (resumptions : Nat)
  | taskFailed (id : TaskId) (resumptions : Nat)
  | taskPanicked (id : TaskId)
  /-- A drain ended with the given numbers of recorded tasks. -/
  | queueDrained (completed failed : Nat)
  | searchStarted (tasks : Nat)
  | primesStarted (count : Nat)
  | demoStarted (tasks : Nat)
  /-- A coroutine has something to say. -/
  | announcement (severity : Level) (text : String)
  deriving DecidableEq, Repr

namespace LogEvent

/-- How severe an event is. -/
def severity : LogEvent → Level
  | spawnRefused => .error
  | taskPanicked _ => .error
  | announcement severity _ => severity
  | _ => .debug

/-- The message of an event. -/
def message : LogEvent → String
  | taskAdded _ => "task added"
  | taskSpawned _ => "task spawned"
  | spawnRefused => "spawn attempted after scheduler was dropped"
  | taskRunning _ _ => "running task"
  | taskSuspended _ => "task suspended"
  | taskCompleted _ _ => "task completed"
  | taskFailed _ _ => "task failed"
  | taskPanicked _ => "task panicked during resumption"
  | queueDrained _ _ => "ready queue drained"
  | searchStarted _ => "running search workload"
  | primesStarted _ => "running primes workload"
  | demoStarted _ => "running demo workload"
  | announcement _ text => text

/-- The named fields of an event, in order. -/
def fields : LogEvent → List (String × String)
  | taskAdded id => [("task", id.text)]
  | taskSpawned id => [("task", id.text)]
  | spawnRefused => []
  | taskRunning id resumption =>
      [("task", id.text), ("resumption", resumption.repr)]
  | taskSuspended id => [("task", id.text)]
  | taskCompleted id resumptions =>
      [("task", id.text), ("resumptions", resumptions.repr)]
  | taskFailed id resumptions =>
      [("task", id.text), ("resumptions", resumptions.repr)]
  | taskPanicked id => [("task", id.text)]
  | queueDrained completed failed =>
      [("completed", completed.repr), ("failed", failed.repr)]
  | searchStarted tasks => [("tasks", tasks.repr)]
  | primesStarted count => [("count", count.repr)]
  | demoStarted tasks => [("tasks", tasks.repr)]
  | announcement _ _ => []

end LogEvent

/-- A captured event and the drains around it, the outermost first. -/
structure Entry where
  /-- The ready tasks at the start of each drain under way. -/
  spans : List Nat
  event : LogEvent
  deriving DecidableEq, Repr

namespace Entry

/-- The name of the span that a drain opens. -/
def spanName : String :=
  "run_to_completion"

/-- Fields as they follow a message. -/
def fieldText (fields : List (String × String)) : String :=
  String.join (fields.map fun field => " " ++ field.1 ++ "=" ++ field.2)

/-- The entry as a captured line. -/
def line (entry : Entry) : String :=
  entry.event.severity.tag ++ " " ++
    String.join
      (entry.spans.map fun ready =>
        spanName ++ "\x7bready=" ++ ready.repr ++ "\x7d: ") ++
    entry.event.message ++
    fieldText entry.event.fields

/-- The entry as a line on the console, the level padded to five columns. -/
def consoleLine (entry : Entry) : String :=
  let tag := entry.event.severity.tag
  "".pushn ' ' (5 - tag.length) ++ tag ++ " " ++
    (if entry.spans.isEmpty then ""
      else String.join (entry.spans.map fun _ => spanName ++ ":") ++ " ") ++
    entry.event.message ++
    fieldText entry.event.fields ++
    fieldText (entry.spans.map fun ready => ("ready", ready.repr))

end Entry

end RoundRobin
