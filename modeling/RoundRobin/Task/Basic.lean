import RoundRobin.Coroutine.Basic
import RoundRobin.Queue

namespace RoundRobin

/-!
# Tasks

A task is a coroutine under an identity, with a count of its resumptions. A
resumption counts from the moment it begins, so one that panics counts too.
-/

/-- A coroutine with an identity and a count of its resumptions. -/
structure Task (κ α ε : Type) where
  id : TaskId
  coroutine : Coroutine κ α ε
  resumptions : Nat

namespace Task

/-- A task that has not been resumed yet. -/
def new
    (id : TaskId)
    (coroutine : Coroutine κ α ε) :
    Task κ α ε where
  id := id
  coroutine := coroutine
  resumptions := 0

/-- Resume the coroutine of a task once. -/
def resume
    (task : Task κ α ε) :
    Activity κ (Task κ α ε × Guarded (Outcome α ε)) :=
  task.coroutine.resume.map fun (coroutine, result) =>
    ({ task with
        coroutine := coroutine
        resumptions := task.resumptions + 1 },
      result)

/-- The structural form of a task. -/
def structuralText (task : Task κ α ε) : String :=
  "Task \x7b id: " ++ task.id.structuralText ++
    ", resumptions: " ++ task.resumptions.repr ++ ", .. \x7d"

end Task

/-- The identities of queued tasks, the next to run first. -/
def Queue.ids (queue : Queue (Task κ α ε)) : List TaskId :=
  queue.toList.map Task.id

namespace Queue

/-- The room that one queued task takes, in bytes. -/
def taskBytes : Nat :=
  32

/-- No more than this many bytes can be reserved: one less than two to the power of 63. -/
def reservableBytes : Nat :=
  9223372036854775807

/-- An empty queue with room reserved for a number of tasks, if they fit in memory. -/
def reserved? (capacity : Nat) : Guarded (Queue (Task κ α ε)) :=
  if capacity * taskBytes ≤ reservableBytes then
    .ok {}
  else
    .error { message := "capacity overflow" }

end Queue

end RoundRobin
