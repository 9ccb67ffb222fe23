namespace RoundRobin

/-!
# Task identities

Every scheduler numbers its tasks from zero. An `IdSource` hands the numbers
out in order and never twice. A `TaskState` says where a task of a scheduler
currently lives.
-/

/-- The identity of a task within its scheduler. -/
structure TaskId where
  index : Nat
  deriving DecidableEq, Repr

namespace TaskId

/-- The name under which a task is shown in messages and reports. -/
def text (id : TaskId) : String :=
  "Task(" ++ id.index.repr ++ ")"

/-- The structural form of an identity. -/
def structuralText (id : TaskId) : String :=
  "TaskId(" ++ id.index.repr ++ ")"

/-- Identities compare by number. -/
def compare (left right : TaskId) : Ordering :=
  Ord.compare left.index right.index

end TaskId

/-- Where a task of a scheduler currently lives. -/
inductive TaskState where
  | ready
  | completed
  | failed
  /-- Panicked during a resumption; its coroutine is gone. -/
  | abandoned
  deriving DecidableEq, Repr

/-- The lowercase name of a state. -/
def TaskState.name : TaskState → String
  | ready => "ready"
  | completed => "completed"
  | failed => "failed"
  | abandoned => "abandoned"

/-- A source of strictly increasing identities: how many it has handed out. -/
structure IdSource where
  issued : Nat := 0
  deriving DecidableEq, Repr

namespace IdSource

/-- Hand out the next identity. -/
def next (source : IdSource) : IdSource × TaskId :=
  ({ issued := source.issued + 1 }, { index := source.issued })

/-- Whether the identity has been handed out. -/
def hasIssued
    (source : IdSource)
    (id : TaskId) :
    Bool :=
  id.index < source.issued

end IdSource

end RoundRobin
