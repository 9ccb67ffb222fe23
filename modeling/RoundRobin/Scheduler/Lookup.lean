import RoundRobin.Scheduler.Basic

namespace RoundRobin

/-!
# Looking tasks up

A scheduler tells where a task lives and what has been recorded for it. A
look-up that finds nothing reports the task and where it lives instead.
-/

/-- A look-up of a task that found nothing. -/
structure LookupError where
  id : TaskId
  /-- Where the task lives; `none` if it was never added. -/
  state : Option TaskState
  deriving DecidableEq, Repr

/-- The wording of a look-up that found nothing. -/
def LookupError.message (error : LookupError) : String :=
  let whereabouts :=
    match error.state with
    | none => "never registered"
    | some .ready => "still ready"
    | some state => "task " ++ state.name
  error.id.text ++ " not found (" ++ whereabouts ++ ")"

namespace Scheduler

/-- Where a task lives; `none` if it was never added. -/
def stateOf?
    (scheduler : Scheduler κ α ε)
    (id : TaskId) :
    Option TaskState :=
  if !scheduler.ids.hasIssued id then none
  else if scheduler.completed.contains id then some .completed
  else if scheduler.failed.contains id then some .failed
  else if scheduler.abandoned.contains id then some .abandoned
  else some .ready

/-- The value that a task completed with. -/
def resultOf
    (scheduler : Scheduler κ α ε)
    (id : TaskId) :
    Except LookupError α :=
  match scheduler.completed.get? id with
  | some value => .ok value
  | none => .error { id := id, state := scheduler.stateOf? id }

/-- The error that a task failed with. -/
def errorOf
    (scheduler : Scheduler κ α ε)
    (id : TaskId) :
    Except LookupError ε :=
  match scheduler.failed.get? id with
  | some error => .ok error
  | none => .error { id := id, state := scheduler.stateOf? id }

/-- The structural form of a scheduler. -/
def structuralText (scheduler : Scheduler κ α ε) : String :=
  "Scheduler \x7b config: SchedulerConfig \x7b initial_capacity: " ++
    scheduler.config.initialCapacity.repr ++
    ", log_resumptions: " ++ toString scheduler.config.logResumptions ++
    " \x7d, ready: [" ++
    ", ".intercalate (scheduler.readyIds.map TaskId.structuralText) ++
    "], completed: " ++ scheduler.completed.length.repr ++
    ", failed: " ++ scheduler.failed.length.repr ++
    ", draining: " ++ toString scheduler.draining ++ " \x7d"

end Scheduler

/-- The structural form of a spawner. -/
def Attachment.structuralText (seen : Attachment) : String :=
  "Spawner \x7b attached: " ++ toString seen.attached ++ " \x7d"

end RoundRobin
