import RoundRobin.World.Basic

namespace RoundRobin

/-!
# Driving schedulers

`takeTurn` resumes the next ready task of a scheduler and settles the result.
`answer` deals with whatever a running coroutine asks for, turns and drains of
other schedulers included, so drives nest. A scheduler that is being driven
cannot be driven again from within; so nested drives are of different
schedulers.

A drain need not end, since a coroutine may suspend for ever. Therefore
driving takes a number, its *patience*: a bound on the depth of nested drives
and on the turns of each drain. There is no result if the patience does not
suffice, and any larger patience gives the same result as a sufficient one.
-/

namespace World

/-- A way to deal with the requests of running coroutines. -/
abbrev Answerer (κ α ε : Type) :=
  (request : Request κ) →
    World κ α ε →
    Option (World κ α ε × request.Reply)

/-- Settle the outcome of a task's resumption and log it. -/
def settle
    (world : World κ α ε)
    (number : Nat)
    (config : SchedulerConfig)
    (task : Task κ α ε)
    (outcome : Outcome α ε) :
    World κ α ε :=
  let settled :=
    world.modifyScheduler number fun scheduler => scheduler.settle task outcome
  match outcome with
  | .suspended => settled.emitResumption config (.taskSuspended task.id)
  | .completed _ => settled.emit (.taskCompleted task.id task.resumptions)
  | .failed _ => settled.emit (.taskFailed task.id task.resumptions)

/--
Let the next ready task of a scheduler take its turn. The result is the turn,
`none` if no task was ready, or the panic of the task.
-/
def takeTurn
    (answer : Answerer κ α ε)
    (number : Nat)
    (world : World κ α ε) :
    Option (World κ α ε × Guarded (Option Turn)) :=
  match (world.scheduler? number).bind Scheduler.dequeue? with
  | none => some (world, .ok none)
  | some (task, scheduler) =>
      let config := scheduler.config
      let started :=
        (world.modifyScheduler number fun _ => scheduler).emitResumption config
          (.taskRunning task.id (task.resumptions + 1))
      match task.resume.conduct answer started with
      | none => none
      | some (stopped, _, .error panic) =>
          some
            ((stopped.emit (.taskPanicked task.id)).modifyScheduler number fun scheduler =>
                scheduler.abandon task.id,
              .error panic)
      | some (stopped, resumed, .ok outcome) =>
          some
            (stopped.settle number config resumed outcome,
              .ok (some { id := task.id, kind := outcome.kind }))

/-- Let tasks take turns until none is ready or one panics. -/
def drainLoop
    (turn : World κ α ε → Option (World κ α ε × Guarded (Option Turn))) :
    (patience : Nat) →
    World κ α ε →
    Option (World κ α ε × Guarded Unit)
  | 0, _ => none
  | patience + 1, world =>
      match turn world with
      | none => none
      | some (world, .error panic) => some (world, .error panic)
      | some (world, .ok none) => some (world, .ok ())
      | some (world, .ok (some _)) => drainLoop turn patience world

/-- Enter a drive of a scheduler. -/
def enter
    (world : World κ α ε)
    (frame : Frame) :
    World κ α ε :=
  { world with frames := frame :: world.frames }

/-- Leave the innermost drive. -/
def leave (world : World κ α ε) : World κ α ε :=
  { world with frames := world.frames.tail }

/-- Set or clear the draining flag of a scheduler. -/
def setDraining
    (world : World κ α ε)
    (number : Nat)
    (draining : Bool) :
    World κ α ε :=
  world.modifyScheduler number fun scheduler =>
    { scheduler with draining := draining }

/-- The result of a drive that was carried through. -/
def driven : Guarded ρ → Drive ρ
  | .ok result => .finished result
  | .error panic => .panicked panic

/-- Drive a scheduler for a single turn, within a drive of its own. -/
def stepOnce
    (answer : Answerer κ α ε)
    (number : Nat)
    (world : World κ α ε) :
    Option (World κ α ε × Drive (Option Turn)) :=
  if world.isDriven number then some (world, .busy)
  else if (world.scheduler? number).isNone then some (world, .gone)
  else
    match takeTurn answer number (world.enter { scheduler := number, span := none }) with
    | none => none
    | some (world, result) => some (world.leave, driven result)

/-- Log the end of a drain. -/
def emitDrained
    (world : World κ α ε)
    (number : Nat) :
    World κ α ε :=
  match world.scheduler? number with
  | none => world
  | some scheduler =>
      world.emit
        (.queueDrained scheduler.completed.length scheduler.failed.length)

/-- Drain the ready queue of a scheduler, within a drive of its own. -/
def drain
    (answer : Answerer κ α ε)
    (patience : Nat)
    (number : Nat)
    (world : World κ α ε) :
    Option (World κ α ε × Drive Unit) :=
  if world.isDriven number then some (world, .busy)
  else
    match world.scheduler? number with
    | none => some (world, .gone)
    | some scheduler =>
        let entered :=
          (world.enter
            { scheduler := number, span := some scheduler.ready.length }).setDraining
              number true
        match drainLoop (takeTurn answer number) patience entered with
        | none => none
        | some (world, .error panic) =>
            some ((world.setDraining number false).leave, .panicked panic)
        | some (world, .ok ()) =>
            some
              (((world.setDraining number false).emitDrained number).leave,
                .finished ())

/-- Deal with a request of a running coroutine; jobs become coroutines by `launch`. -/
def answer
    (launch : κ → Coroutine κ α ε) :
    (patience : Nat) →
    Answerer κ α ε
  | _, .spawn number job, world => some (world.spawn number (launch job))
  | _, .inspect number, world => some (world, world.attachment number)
  | _, .observe observation, world => some (world.observe observation, ())
  | _, .announce severity text, world =>
      some (world.emit (.announcement severity text), ())
  | _, .readClock, world => some world.readClock
  | 0, .step _, _ => none
  | 0, .drain _, _ => none
  | patience + 1, .step number, world =>
      stepOnce (answer launch patience) number world
  | patience + 1, .drain number, world =>
      drain (answer launch patience) patience number world

end World

end RoundRobin
