import RoundRobin.Proofs.Activity
import RoundRobin.Proofs.World

namespace RoundRobin

/-!
# Runs, one small step after the other

`World.answer` carries a whole drive out at once, so what the worlds look like
in the middle of a resumption does not show in its result. Here the same
operations are cut into small moves. A `Moment` is a world together with the
drives under way in it; each drive is about to take a turn, in the middle of
one, or done with one. A drive that is made from within a task stacks a layer
on the layer of that task.

Nothing needs to come to an end here: a run may stop in the middle of a
resumption, and a drain may go on for ever. Besides the tasks, whoever owns a
scheduler acts at any moment: the host between its drives, or a task that holds
the scheduler of others. Only a scheduler that is being driven is out of its
owner's reach.
-/

/-- What happens to a scheduler. -/
inductive Happening (κ α ε : Type) where
  /-- A coroutine became a task, added by the owner or through a spawner. -/
  | added (id : TaskId) (coroutine : Coroutine κ α ε)
  | began (id : TaskId)
  | ended (id : TaskId) (result : Guarded (Outcome α ε))

/-- What happened to one scheduler, in order. -/
abbrev History (κ α ε : Type) :=
  List (Happening κ α ε)

/-- What happened to all schedulers, in order; each entry names its scheduler. -/
abbrev Trace (κ α ε : Type) :=
  List (Nat × Happening κ α ε)

/-- The part of a trace that is about one scheduler. -/
def Trace.about
    (trace : Trace κ α ε)
    (number : Nat) :
    History κ α ε :=
  trace.filterMap fun entry =>
    if entry.1 = number then some entry.2 else none

@[simp] theorem Trace.about_nil (number : Nat) :
    Trace.about ([] : Trace κ α ε) number = [] :=
  rfl

/-- What a longer trace says about a scheduler is said by its parts in turn. -/
@[simp] theorem Trace.about_append
    (earlier later : Trace κ α ε)
    (number : Nat) :
    Trace.about (earlier ++ later) number =
      earlier.about number ++ later.about number := by
  simp [about]

@[simp] theorem Trace.about_cons
    (affected number : Nat)
    (happening : Happening κ α ε)
    (rest : Trace κ α ε) :
    Trace.about ((affected, happening) :: rest) number =
      if affected = number then happening :: rest.about number
      else rest.about number := by
  by_cases same : affected = number <;> simp [about, same]

theorem Trace.about_singleton
    (affected number : Nat)
    (happening : Happening κ α ε) :
    Trace.about [(affected, happening)] number =
      if affected = number then [happening] else [] := by
  simp

/-- The task after a resumption that left its coroutine as given. -/
def Task.resumed
    (task : Task κ α ε)
    (coroutine : Coroutine κ α ε) :
    Task κ α ε :=
  { task with
    coroutine := coroutine
    resumptions := task.resumptions + 1 }

@[simp] theorem Task.id_resumed
    (task : Task κ α ε)
    (coroutine : Coroutine κ α ε) :
    (task.resumed coroutine).id = task.id :=
  rfl

/-- What a turn reports of a resumption of a task. -/
def Turn.ofResult
    (id : TaskId)
    (result : Guarded (Outcome α ε)) :
    Guarded (Option Turn) :=
  result.map fun outcome => some { id := id, kind := outcome.kind }

/-- Put a task where the result of its resumption sends it. -/
def Scheduler.conclude
    (scheduler : Scheduler κ α ε)
    (task : Task κ α ε)
    (coroutine : Coroutine κ α ε) :
    Guarded (Outcome α ε) →
    Scheduler κ α ε
  | .ok outcome => scheduler.settle (task.resumed coroutine) outcome
  | .error _ => scheduler.abandon task.id

/-- The back of the queue after the end of a resumption. -/
theorem Scheduler.ready_conclude
    (scheduler : Scheduler κ α ε)
    (task : Task κ α ε)
    (coroutine : Coroutine κ α ε)
    (result : Guarded (Outcome α ε)) :
    (scheduler.conclude task coroutine result).ready.toList =
      scheduler.ready.toList ++
        match result with
        | .ok .suspended => [task.resumed coroutine]
        | _ => [] := by
  rcases result with panic | _ | value | error
  · simp [conclude, abandon]
  · simp [conclude, settle]
  · simp [conclude, settle]
  · simp [conclude, settle]

/-- The world in which the resumption of a task begins, its scheduler being left as given. -/
def World.started
    (world : World κ α ε)
    (number : Nat)
    (scheduler : Scheduler κ α ε)
    (task : Task κ α ε) :
    World κ α ε :=
  (world.modifyScheduler number fun _ => scheduler).emitResumption
    scheduler.config (.taskRunning task.id (task.resumptions + 1))

/-- The world after the resumption of a task has ended in a result. -/
def World.conclude
    (world : World κ α ε)
    (number : Nat)
    (config : SchedulerConfig)
    (task : Task κ α ε)
    (coroutine : Coroutine κ α ε) :
    Guarded (Outcome α ε) →
    World κ α ε
  | .ok outcome =>
      world.settle number config (task.resumed coroutine) outcome
  | .error _ =>
      (world.emit (.taskPanicked task.id)).modifyScheduler number
        fun scheduler => scheduler.abandon task.id

namespace World

@[simp] theorem scheduler?_started
    (world : World κ α ε)
    (changed number : Nat)
    (scheduler : Scheduler κ α ε)
    (task : Task κ α ε) :
    (world.started changed scheduler task).scheduler? number =
      if changed = number then
        (world.scheduler? number).map fun _ => scheduler
      else
        world.scheduler? number := by
  simp [started]

@[simp] theorem frames_started
    (world : World κ α ε)
    (changed : Nat)
    (scheduler : Scheduler κ α ε)
    (task : Task κ α ε) :
    (world.started changed scheduler task).frames = world.frames := by
  simp [started]

@[simp] theorem length_slots_started
    (world : World κ α ε)
    (changed : Nat)
    (scheduler : Scheduler κ α ε)
    (task : Task κ α ε) :
    (world.started changed scheduler task).slots.length =
      world.slots.length := by
  simp [started]

/-- The end of a resumption changes the scheduler of its task alone. -/
@[simp] theorem scheduler?_conclude
    (world : World κ α ε)
    (changed number : Nat)
    (config : SchedulerConfig)
    (task : Task κ α ε)
    (coroutine : Coroutine κ α ε)
    (result : Guarded (Outcome α ε)) :
    (world.conclude changed config task coroutine result).scheduler?
        number =
      if changed = number then
        (world.scheduler? number).map fun scheduler =>
          scheduler.conclude task coroutine result
      else
        world.scheduler? number := by
  cases result <;> simp [conclude, Scheduler.conclude]

@[simp] theorem frames_conclude
    (world : World κ α ε)
    (changed : Nat)
    (config : SchedulerConfig)
    (task : Task κ α ε)
    (coroutine : Coroutine κ α ε)
    (result : Guarded (Outcome α ε)) :
    (world.conclude changed config task coroutine result).frames =
      world.frames := by
  cases result <;> simp [conclude]

@[simp] theorem length_slots_conclude
    (world : World κ α ε)
    (changed : Nat)
    (config : SchedulerConfig)
    (task : Task κ α ε)
    (coroutine : Coroutine κ α ε)
    (result : Guarded (Outcome α ε)) :
    (world.conclude changed config task coroutine result).slots.length =
      world.slots.length := by
  cases result <;> simp [conclude]

/--
A turn resumes the next ready task, if there is one, and puts it where the
result sends it.
-/
theorem takeTurn_eq
    (answer : Answerer κ α ε)
    (number : Nat)
    (world : World κ α ε) :
    takeTurn answer number world =
      match (world.scheduler? number).bind Scheduler.dequeue? with
      | none => some (world, .ok none)
      | some (task, scheduler) =>
          (task.coroutine.resume.conduct answer
              (world.started number scheduler task)).map
            fun (stopped, coroutine, result) =>
              (stopped.conclude number scheduler.config task coroutine
                  result,
                Turn.ofResult task.id result) := by
  unfold takeTurn
  cases (world.scheduler? number).bind Scheduler.dequeue? with
  | none => rfl
  | some next =>
      obtain ⟨task, scheduler⟩ := next
      simp only [Task.resume, Activity.conduct_map, started]
      generalize task.coroutine.resume.conduct answer _ = conducted
      rcases conducted with _ | ⟨stopped, coroutine, panic | outcome⟩
      · rfl
      · rfl
      · rfl

/-- Why a scheduler cannot be driven, if it cannot. -/
def refusal?
    (world : World κ α ε)
    (number : Nat) :
    Option (Drive ρ) :=
  if world.isDriven number then some .busy
  else if (world.scheduler? number).isNone then some .gone
  else none

/-- A scheduler that cannot be refused is alive and not driven yet. -/
theorem refusal?_cases
    (ρ : Type)
    (world : World κ α ε)
    (number : Nat) :
    (∃ refusal : Drive ρ, world.refusal? number = some refusal) ∨
      world.isDriven number = false ∧
        ∃ scheduler, world.scheduler? number = some scheduler := by
  unfold refusal?
  by_cases driven : world.isDriven number
  · left
    exact ⟨.busy, by simp [driven]⟩
  · cases found : world.scheduler? number with
    | none =>
        left
        exact ⟨.gone, by simp [driven]⟩
    | some scheduler =>
        right
        exact ⟨by simpa using driven, scheduler, rfl⟩

theorem stepOnce_of_refusal?
    (answer : Answerer κ α ε)
    {number : Nat}
    {world : World κ α ε}
    {refusal : Drive (Option Turn)}
    (refused : world.refusal? number = some refusal) :
    stepOnce answer number world = some (world, refusal) := by
  unfold refusal? at refused
  unfold stepOnce
  split at refused
  · next driven =>
      cases refused
      simp [driven]
  · next idle =>
      split at refused
      · next absent =>
          cases refused
          simp [idle, absent]
      · cases refused

/-- A step of a scheduler that can be driven is a turn within a drive of its own. -/
theorem stepOnce_eq
    (answer : Answerer κ α ε)
    {number : Nat}
    {world : World κ α ε}
    {scheduler : Scheduler κ α ε}
    (idle : world.isDriven number = false)
    (alive : world.scheduler? number = some scheduler) :
    stepOnce answer number world =
      (takeTurn answer number (world.enter ⟨number, none⟩)).map
        fun (turned, result) => (turned.leave, driven result) := by
  simp only [stepOnce, idle, alive, Option.isNone_some,
    Bool.false_eq_true, ↓reduceIte]
  cases takeTurn answer number (world.enter ⟨number, none⟩) with
  | none => rfl
  | some pair => rfl

/-- The world in which a drain begins. -/
def draining
    (world : World κ α ε)
    (number : Nat)
    (scheduler : Scheduler κ α ε) :
    World κ α ε :=
  (world.enter ⟨number, some scheduler.ready.length⟩).setDraining number
    true

/-- The world that a drain leaves after its last turn. -/
def drained
    (world : World κ α ε)
    (number : Nat) :
    Guarded Unit →
    World κ α ε
  | .ok _ => ((world.setDraining number false).emitDrained number).leave
  | .error _ => (world.setDraining number false).leave

@[simp] theorem scheduler?_draining
    (world : World κ α ε)
    (changed number : Nat)
    (scheduler : Scheduler κ α ε) :
    (world.draining changed scheduler).scheduler? number =
      if changed = number then
        (world.scheduler? number).map fun scheduler =>
          { scheduler with draining := true }
      else
        world.scheduler? number := by
  simp [draining]

@[simp] theorem frames_draining
    (world : World κ α ε)
    (changed : Nat)
    (scheduler : Scheduler κ α ε) :
    (world.draining changed scheduler).frames =
      ⟨changed, some scheduler.ready.length⟩ :: world.frames :=
  rfl

@[simp] theorem scheduler?_drained
    (world : World κ α ε)
    (changed number : Nat)
    (result : Guarded Unit) :
    (world.drained changed result).scheduler? number =
      if changed = number then
        (world.scheduler? number).map fun scheduler =>
          { scheduler with draining := false }
      else
        world.scheduler? number := by
  cases result <;> simp [drained]

@[simp] theorem frames_drained
    (world : World κ α ε)
    (changed : Nat)
    (result : Guarded Unit) :
    (world.drained changed result).frames = world.frames.tail := by
  cases result <;> simp [drained]

theorem drain_of_refusal?
    (answer : Answerer κ α ε)
    (patience : Nat)
    {number : Nat}
    {world : World κ α ε}
    {refusal : Drive Unit}
    (refused : world.refusal? number = some refusal) :
    drain answer patience number world = some (world, refusal) := by
  unfold refusal? at refused
  unfold drain
  split at refused
  · next driven =>
      cases refused
      simp [driven]
  · next idle =>
      split at refused
      · next absent =>
          cases refused
          rw [Option.isNone_iff_eq_none] at absent
          simp [idle, absent]
      · cases refused

/-- A drain of a scheduler that can be driven is turns within a drive of its own. -/
theorem drain_eq
    (answer : Answerer κ α ε)
    (patience : Nat)
    {number : Nat}
    {world : World κ α ε}
    {scheduler : Scheduler κ α ε}
    (idle : world.isDriven number = false)
    (alive : world.scheduler? number = some scheduler) :
    drain answer patience number world =
      (drainLoop (takeTurn answer number) patience
          (world.draining number scheduler)).map
        fun (turned, result) =>
          (turned.drained number result, driven result) := by
  simp only [drain, idle, alive, Bool.false_eq_true, ↓reduceIte]
  unfold draining
  generalize drainLoop (takeTurn answer number) patience _ = looped
  rcases looped with _ | ⟨turned, panic | _⟩
  · rfl
  · rfl
  · rfl

end World

/-- A task in the middle of a resumption. -/
structure Resumption (κ α ε : Type) where
  config : SchedulerConfig
  /-- The task as it was taken out of the ready queue. -/
  task : Task κ α ε
  /-- What its coroutine has still to do. -/
  activity : Activity κ (Coroutine κ α ε × Guarded (Outcome α ε))

/-- How far a drive has come with a turn. -/
inductive Phase (κ α ε : Type) where
  | before
  | during (resumption : Resumption κ α ε)
  | after (result : Guarded (Option Turn))

/-- A drive under way. -/
structure Layer (κ α ε : Type) where
  frame : Frame
  phase : Phase κ α ε

/-- The task that a drive is resuming. -/
def Layer.task? (layer : Layer κ α ε) : Option (Task κ α ε) :=
  match layer.phase with
  | .before => none
  | .during resumption => some resumption.task
  | .after _ => none

/-- A world and the drives under way in it, the innermost first. -/
structure Moment (κ α ε : Type) where
  world : World κ α ε
  layers : List (Layer κ α ε)

/-- The task of a scheduler that is being resumed. -/
def Moment.running?
    (moment : Moment κ α ε)
    (number : Nat) :
    Option (Task κ α ε) :=
  (moment.layers.find? fun layer => layer.frame.scheduler = number).bind
    Layer.task?

/--
Whoever is in control makes a request, and the reply makes the layers as
given: the host if no drive is under way, else the task that is being resumed
by the innermost drive.
-/
inductive Asking :
    List (Layer κ α ε) →
    (request : Request κ) →
    (request.Reply → List (Layer κ α ε)) →
    Prop where
  | host
      (request : Request κ) :
      Asking [] request fun _ => []
  | task
      {frame : Frame}
      {config : SchedulerConfig}
      {task : Task κ α ε}
      {request : Request κ}
      {next :
        request.Reply →
          Activity κ (Coroutine κ α ε × Guarded (Outcome α ε))}
      {layers : List (Layer κ α ε)} :
      Asking
        (⟨frame, .during ⟨config, task, .ask request next⟩⟩ :: layers)
        request
        fun reply =>
          ⟨frame, .during ⟨config, task, next reply⟩⟩ :: layers

/-- What adding a coroutine through a spawner does to schedulers. -/
def World.spawnTrace
    (world : World κ α ε)
    (number : Nat)
    (coroutine : Coroutine κ α ε) :
    Trace κ α ε :=
  match world.scheduler? number with
  | none => []
  | some scheduler =>
      [(number, .added (scheduler.enqueue coroutine).2 coroutine)]

/-- What a request that is answered at once does to schedulers. -/
def World.requestTrace
    (launch : κ → Coroutine κ α ε)
    (world : World κ α ε) :
    Request κ →
    Trace κ α ε
  | .spawn number job => world.spawnTrace number (launch job)
  | _ => []

/-- Only a request to add a task does anything to schedulers at once. -/
theorem World.requestTrace_eq_nil
    (launch : κ → Coroutine κ α ε)
    (world : World κ α ε)
    {request : Request κ}
    (noSpawn : ∀ number job, request ≠ .spawn number job) :
    world.requestTrace launch request = [] := by
  cases request with
  | spawn number job => exact (noSpawn number job rfl).elim
  | _ => rfl

open World in
/-- A small step from one moment to the next, and what it does to schedulers. -/
inductive Move (launch : κ → Coroutine κ α ε) :
    Moment κ α ε →
    Trace κ α ε →
    Moment κ α ε →
    Prop where
  | opened
      {world world' : World κ α ε}
      {config : SchedulerConfig}
      {number : Nat}
      {layers : List (Layer κ α ε)}
      (opened : world.openScheduler config = .ok (world', number)) :
      Move launch ⟨world, layers⟩ [] ⟨world', layers⟩
  /-- The owner of a scheduler adds a task. -/
  | added
      {world world' : World κ α ε}
      {number : Nat}
      {coroutine : Coroutine κ α ε}
      {id : TaskId}
      {layers : List (Layer κ α ε)}
      (idle : world.isDriven number = false)
      (added : world.add? number coroutine = some (world', id)) :
      Move launch ⟨world, layers⟩
        [(number, .added id coroutine)] ⟨world', layers⟩
  /-- Whoever holds a spawner adds a task. -/
  | spawned
      (world : World κ α ε)
      (number : Nat)
      (coroutine : Coroutine κ α ε)
      (layers : List (Layer κ α ε)) :
      Move launch ⟨world, layers⟩
        (world.spawnTrace number coroutine)
        ⟨(world.spawn number coroutine).1, layers⟩
  | dropped
      {world : World κ α ε}
      {number : Nat}
      {layers : List (Layer κ α ε)}
      (idle : world.isDriven number = false) :
      Move launch ⟨world, layers⟩ [] ⟨world.drop number, layers⟩
  | consumed
      {world : World κ α ε}
      {number : Nat}
      {layers : List (Layer κ α ε)}
      (idle : world.isDriven number = false) :
      Move launch ⟨world, layers⟩ [] ⟨world.consume number, layers⟩
  /-- A request that is no drive is answered at once. -/
  | replied
      {world world' : World κ α ε}
      {layers : List (Layer κ α ε)}
      {request : Request κ}
      {next : request.Reply → List (Layer κ α ε)}
      {reply : request.Reply}
      (asking : Asking layers request next)
      (answered :
        answer launch 0 request world = some (world', reply)) :
      Move launch ⟨world, layers⟩
        (world.requestTrace launch request)
        ⟨world', next reply⟩
  | stepRefused
      {world : World κ α ε}
      {layers : List (Layer κ α ε)}
      {number : Nat}
      {next : Drive (Option Turn) → List (Layer κ α ε)}
      {refusal : Drive (Option Turn)}
      (asking : Asking layers (.step number) next)
      (refused : world.refusal? number = some refusal) :
      Move launch ⟨world, layers⟩ [] ⟨world, next refusal⟩
  | drainRefused
      {world : World κ α ε}
      {layers : List (Layer κ α ε)}
      {number : Nat}
      {next : Drive Unit → List (Layer κ α ε)}
      {refusal : Drive Unit}
      (asking : Asking layers (.drain number) next)
      (refused : world.refusal? number = some refusal) :
      Move launch ⟨world, layers⟩ [] ⟨world, next refusal⟩
  | stepEntered
      {world : World κ α ε}
      {scheduler : Scheduler κ α ε}
      {layers : List (Layer κ α ε)}
      {number : Nat}
      {next : Drive (Option Turn) → List (Layer κ α ε)}
      (asking : Asking layers (.step number) next)
      (idle : world.isDriven number = false)
      (alive : world.scheduler? number = some scheduler) :
      Move launch ⟨world, layers⟩ []
        ⟨world.enter ⟨number, none⟩, ⟨⟨number, none⟩, .before⟩ :: layers⟩
  | drainEntered
      {world : World κ α ε}
      {scheduler : Scheduler κ α ε}
      {layers : List (Layer κ α ε)}
      {number : Nat}
      {next : Drive Unit → List (Layer κ α ε)}
      (asking : Asking layers (.drain number) next)
      (idle : world.isDriven number = false)
      (alive : world.scheduler? number = some scheduler) :
      Move launch ⟨world, layers⟩ []
        ⟨(world.enter ⟨number, some scheduler.ready.length⟩).setDraining
            number true,
          ⟨⟨number, some scheduler.ready.length⟩, .before⟩ :: layers⟩
  /-- A turn finds no task ready. -/
  | idled
      {world : World κ α ε}
      {frame : Frame}
      {layers : List (Layer κ α ε)}
      (empty :
        (world.scheduler? frame.scheduler).bind Scheduler.dequeue? =
          none) :
      Move launch ⟨world, ⟨frame, .before⟩ :: layers⟩ []
        ⟨world, ⟨frame, .after (.ok none)⟩ :: layers⟩
  /-- A turn begins to resume the next task. -/
  | began
      {world : World κ α ε}
      {frame : Frame}
      {layers : List (Layer κ α ε)}
      {task : Task κ α ε}
      {scheduler : Scheduler κ α ε}
      (next :
        (world.scheduler? frame.scheduler).bind Scheduler.dequeue? =
          some (task, scheduler)) :
      Move launch ⟨world, ⟨frame, .before⟩ :: layers⟩
        [(frame.scheduler, .began task.id)]
        ⟨world.started frame.scheduler scheduler task,
          ⟨frame,
            .during
              ⟨scheduler.config, task, task.coroutine.resume⟩⟩ ::
            layers⟩
  | ended
      (world : World κ α ε)
      (frame : Frame)
      (config : SchedulerConfig)
      (task : Task κ α ε)
      (coroutine : Coroutine κ α ε)
      (result : Guarded (Outcome α ε))
      (layers : List (Layer κ α ε)) :
      Move launch
        ⟨world,
          ⟨frame, .during ⟨config, task, .done (coroutine, result)⟩⟩ ::
            layers⟩
        [(frame.scheduler, .ended task.id result)]
        ⟨world.conclude frame.scheduler config task coroutine result,
          ⟨frame, .after (Turn.ofResult task.id result)⟩ :: layers⟩
  /-- A step returns to whoever made it, or unwinds into it. -/
  | stepLeft
      {world : World κ α ε}
      {layers : List (Layer κ α ε)}
      {number : Nat}
      {result : Guarded (Option Turn)}
      {next : Drive (Option Turn) → List (Layer κ α ε)}
      (asking : Asking layers (.step number) next) :
      Move launch
        ⟨world, ⟨⟨number, none⟩, .after result⟩ :: layers⟩ []
        ⟨world.leave, next (driven result)⟩
  | drainContinued
      (world : World κ α ε)
      (number ready : Nat)
      (turn : Turn)
      (layers : List (Layer κ α ε)) :
      Move launch
        ⟨world,
          ⟨⟨number, some ready⟩, .after (.ok (some turn))⟩ :: layers⟩ []
        ⟨world, ⟨⟨number, some ready⟩, .before⟩ :: layers⟩
  /-- A drain that found no task ready returns. -/
  | drainLeft
      {world : World κ α ε}
      {layers : List (Layer κ α ε)}
      {number ready : Nat}
      {next : Drive Unit → List (Layer κ α ε)}
      (asking : Asking layers (.drain number) next) :
      Move launch
        ⟨world, ⟨⟨number, some ready⟩, .after (.ok none)⟩ :: layers⟩ []
        ⟨((world.setDraining number false).emitDrained number).leave,
          next (.finished ())⟩
  /-- A drain unwinds. -/
  | drainUnwound
      {world : World κ α ε}
      {layers : List (Layer κ α ε)}
      {number ready : Nat}
      {panic : Panic}
      {next : Drive Unit → List (Layer κ α ε)}
      (asking : Asking layers (.drain number) next) :
      Move launch
        ⟨world,
          ⟨⟨number, some ready⟩, .after (.error panic)⟩ :: layers⟩ []
        ⟨(world.setDraining number false).leave,
          next (.panicked panic)⟩

/-- A sequence of moves and what they do to schedulers. -/
inductive Path (launch : κ → Coroutine κ α ε) :
    Moment κ α ε →
    Trace κ α ε →
    Moment κ α ε →
    Prop where
  | nil
      (moment : Moment κ α ε) :
      Path launch moment [] moment
  | snoc
      {initial middle final : Moment κ α ε}
      {trace last : Trace κ α ε}
      (earlier : Path launch initial trace middle)
      (move : Move launch middle last final) :
      Path launch initial (trace ++ last) final

namespace Path

/-- A single move is a path. -/
theorem single
    {launch : κ → Coroutine κ α ε}
    {initial final : Moment κ α ε}
    {trace : Trace κ α ε}
    (move : Move launch initial trace final) :
    Path launch initial trace final :=
  .snoc (.nil initial) move

/-- Two paths that meet make a longer one. -/
theorem append
    {launch : κ → Coroutine κ α ε}
    {initial middle final : Moment κ α ε}
    {leading trailing : Trace κ α ε}
    (first : Path launch initial leading middle)
    (later : Path launch middle trailing final) :
    Path launch initial (leading ++ trailing) final := by
  induction later with
  | nil =>
      simpa using first
  | snoc _ move inductionHypothesis =>
      rw [← List.append_assoc]
      exact .snoc inductionHypothesis move

end Path

/--
A moment that can be reached from a world without schedulers, and what has
happened to schedulers until then.
-/
def Run
    (launch : κ → Coroutine κ α ε)
    (trace : Trace κ α ε)
    (moment : Moment κ α ε) :
    Prop :=
  ∃ world : World κ α ε,
    world.slots = [] ∧
      world.frames = [] ∧
      Path launch ⟨world, []⟩ trace moment

namespace Run

/-- A world without schedulers is where runs start. -/
theorem start
    {launch : κ → Coroutine κ α ε}
    {world : World κ α ε}
    (slots : world.slots = [])
    (frames : world.frames = []) :
    Run launch [] ⟨world, []⟩ :=
  ⟨world, slots, frames, .nil _⟩

/-- What holds at the start and is kept by every move of a run holds throughout. -/
theorem keeps
    {launch : κ → Coroutine κ α ε}
    (holds : Trace κ α ε → Moment κ α ε → Prop)
    (initially :
      ∀ world : World κ α ε,
        world.slots = [] →
        world.frames = [] →
        holds [] ⟨world, []⟩)
    (kept :
      ∀ {trace last : Trace κ α ε} {moment moment' : Moment κ α ε},
        Run launch trace moment →
        holds trace moment →
        Move launch moment last moment' →
        holds (trace ++ last) moment')
    {trace : Trace κ α ε}
    {moment : Moment κ α ε}
    (run : Run launch trace moment) :
    holds trace moment := by
  obtain ⟨world, slots, frames, path⟩ := run
  generalize first : Moment.mk world [] = initial at path
  induction path with
  | nil =>
      subst first
      exact initially world slots frames
  | snoc earlier move inductionHypothesis =>
      subst first
      exact
        kept ⟨world, slots, frames, earlier⟩ inductionHypothesis move

/-- A run goes on along any path. -/
theorem append
    {launch : κ → Coroutine κ α ε}
    {earlier later : Trace κ α ε}
    {middle final : Moment κ α ε}
    (run : Run launch earlier middle)
    (path : Path launch middle later final) :
    Run launch (earlier ++ later) final := by
  obtain ⟨world, slots, frames, leading⟩ := run
  exact ⟨world, slots, frames, leading.append path⟩

end Run

end RoundRobin
