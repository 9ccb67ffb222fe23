import RoundRobin.Proofs.Configuration.Drive
import RoundRobin.Scheduler.Lookup

namespace RoundRobin

/-!
# Programs of a host

A host makes schedulers, adds tasks to them, drives them and looks at them, and
what it does next may depend on all that it got back so far. A `Program` is
what a host would do for each reply. It gives the settings of schedulers by
name, so that the same program can be run with other settings.
-/

/-- All that can be seen of a scheduler but its settings. -/
structure View (α ε : Type) where
  readyIds : List TaskId
  draining : Bool
  completed : Ledger α
  failed : Ledger ε
  abandoned : Array TaskId
  resolutionOrder : Array TaskId
  stats : Stats
  stateOf? : TaskId → Option TaskState
  resultOf : TaskId → Except LookupError α
  errorOf : TaskId → Except LookupError ε

/-- What can be seen of a scheduler. -/
def Scheduler.view (scheduler : Scheduler κ α ε) : View α ε where
  readyIds := scheduler.readyIds
  draining := scheduler.draining
  completed := scheduler.completed
  failed := scheduler.failed
  abandoned := scheduler.abandoned
  resolutionOrder := scheduler.resolutionOrder
  stats := scheduler.stats
  stateOf? := scheduler.stateOf?
  resultOf := scheduler.resultOf
  errorOf := scheduler.errorOf

/-- What a host can do; settings go by names in `σ`. -/
inductive Command (κ α ε σ : Type) : Type 1 where
  | make (settings : σ)
  | add (number : Nat) (coroutine : Coroutine κ α ε)
  | spawn (number : Nat) (coroutine : Coroutine κ α ε)
  /-- Step, drain or inspect a scheduler, or what else a coroutine may ask for. -/
  | ask (request : Request κ)
  | view (number : Nat)
  /-- Look at the ledgers of a scheduler that was consumed. -/
  | kept (number : Nat)
  | drop (number : Nat)
  | consume (number : Nat)

namespace Command

/-- What a host gets back. -/
abbrev Reply : Command κ α ε σ → Type
  | make _ => Guarded Nat
  | add _ _ => Option TaskId
  | spawn _ _ => Except SpawnError TaskId
  | ask request => request.Reply
  | view _ => Option (View α ε)
  | kept _ => Option (Ledger α × Ledger ε)
  | drop _ => Unit
  | consume _ => Unit

/-- Carry out a command. -/
def perform
    (launch : κ → Coroutine κ α ε)
    (patience : Nat)
    (settings : σ → SchedulerConfig) :
    (command : Command κ α ε σ) →
    World κ α ε →
    Option (World κ α ε × command.Reply)
  | .make name, world =>
      match world.openScheduler (settings name) with
      | .error panic => some (world, .error panic)
      | .ok (opened, number) => some (opened, .ok number)
  | .add number coroutine, world =>
      match world.add? number coroutine with
      | none => some (world, none)
      | some (added, id) => some (added, some id)
  | .spawn number coroutine, world => some (world.spawn number coroutine)
  | .ask request, world => World.answer launch patience request world
  | .view number, world =>
      some (world, (world.scheduler? number).map Scheduler.view)
  | .kept number, world => some (world, world.kept? number)
  | .drop number, world => some (world.drop number, ())
  | .consume number, world => some (world.consume number, ())

end Command

/-- What a host does, depending on what it gets back. -/
inductive Program (κ α ε σ ρ : Type) : Type 1 where
  | done (result : ρ)
  | perform
      (command : Command κ α ε σ)
      (next : command.Reply → Program κ α ε σ ρ)

/-- Run a program with some patience and with settings for its names. -/
def Program.run
    (launch : κ → Coroutine κ α ε)
    (patience : Nat)
    (settings : σ → SchedulerConfig) :
    Program κ α ε σ ρ →
    World κ α ε →
    Option (World κ α ε × ρ)
  | .done result, world => some (world, result)
  | .perform command next, world =>
      match command.perform launch patience settings world with
      | none => none
      | some (reached, reply) =>
          (next reply).run launch patience settings reached

/-- Settings that two functions give for the same name. -/
def Paired
    (settings settings' : σ → SchedulerConfig)
    (config config' : SchedulerConfig) :
    Prop :=
  ∃ name, settings name = config ∧ settings' name = config'

/-- A scheduler whose capacity can be reserved is made, and is empty. -/
theorem World.openScheduler_of_roomy
    {config : SchedulerConfig}
    (roomy :
      config.initialCapacity * Queue.taskBytes ≤ Queue.reservableBytes)
    (world : World κ α ε) :
    world.openScheduler config =
      .ok
        ({ world with
            slots := world.slots ++ [.live { config := config }] },
          world.slots.length) := by
  simp [openScheduler, Scheduler.new, Queue.reserved?, roomy]

namespace Reconfigured

variable
  {pairs : SchedulerConfig → SchedulerConfig → Prop}
  {world world' : World κ α ε}

/-- The same is seen of a scheduler. -/
theorem view
    (reconfigured : Reconfigured pairs world world')
    (number : Nat) :
    (world'.scheduler? number).map Scheduler.view =
      (world.scheduler? number).map Scheduler.view := by
  rcases reconfigured.worlds.scheduler?_cases number with
    ⟨absent, absent'⟩ | ⟨scheduler, _, found, found', schedulers⟩
  · rw [absent, absent']
  · rw [found, found']
    cases schedulers with
    | @mk config ready _ tasks =>
        have same : scheduler.ready.toList = ready.toList := by
          rw [← List.forall₂_eq_eq_eq]
          exact
            tasks.imp fun _ _ alike =>
              (Likeness.eq_of_reconfigured alike).symm
        have readyIds : ready.ids = scheduler.ready.ids :=
          congrArg (List.map Task.id) same.symm
        unfold Scheduler.view Scheduler.readyIds
        rw [Option.map_some, Option.map_some, readyIds]
        rfl

/-- The same ledgers were kept. -/
theorem kept
    (reconfigured : Reconfigured pairs world world')
    (number : Nat) :
    world'.kept? number = world.kept? number := by
  unfold World.kept?
  rcases reconfigured.worlds.slot_cases number with
    ⟨absent, absent'⟩ | ⟨slot, slot', found, found', slots⟩
  · rw [absent, absent']
  · rw [found, found']
    cases slots <;> rfl

/-- The next scheduler is made in both. -/
theorem openScheduler
    (reconfigured : Reconfigured pairs world world')
    {config config' : SchedulerConfig}
    (configs : pairs config config')
    (roomy :
      config.initialCapacity * Queue.taskBytes ≤ Queue.reservableBytes)
    (roomy' :
      config'.initialCapacity * Queue.taskBytes ≤
        Queue.reservableBytes) :
    ∃ opened opened' number,
      world.openScheduler config = .ok (opened, number) ∧
        world'.openScheduler config' = .ok (opened', number) ∧
        Reconfigured pairs opened opened' := by
  have opens := World.openScheduler_of_roomy roomy world
  obtain ⟨scheduler', made', -⟩ :=
    World.openScheduler_eq_ok
      (World.openScheduler_of_roomy roomy' world')
  obtain ⟨opened', opens', worlds⟩ :=
    reconfigured.worlds.openScheduler configs made' opens
  refine ⟨_, opened', _, opens, opens', reconfigured.unlogged worlds ?_⟩
  obtain ⟨-, -, -, rfl⟩ := World.openScheduler_eq_ok opens'
  rfl

/-- The same task is added in both, or there is no scheduler in either. -/
theorem add?
    (reconfigured : Reconfigured pairs world world')
    (number : Nat)
    (coroutine : Coroutine κ α ε) :
    (world.add? number coroutine = none ∧
        world'.add? number coroutine = none) ∨
      ∃ added added' id,
        world.add? number coroutine = some (added, id) ∧
          world'.add? number coroutine = some (added', id) ∧
          Reconfigured pairs added added' := by
  cases adds : world.add? number coroutine with
  | none =>
      left
      refine ⟨rfl, ?_⟩
      rcases reconfigured.worlds.scheduler?_cases number with
        ⟨-, absent'⟩ | ⟨scheduler, _, found, -, -⟩
      · simp [World.add?, absent']
      · simp [World.add?, found] at adds
  | some pair =>
      right
      obtain ⟨added, id⟩ := pair
      obtain ⟨added', adds', worlds⟩ :=
        reconfigured.worlds.add? rfl adds
      refine ⟨added, added', id, rfl, adds', worlds, fun silent => ?_⟩
      obtain ⟨scheduler', -, -, rfl⟩ := World.add?_eq_some adds'
      exact
        ((reconfigured.quiet silent).modifyScheduler number _).emit rfl

end Reconfigured

/-- A command is carried out alike. -/
theorem Command.perform_agreeing
    (launch : κ → Coroutine κ α ε)
    (patience : Nat)
    {settings settings' : σ → SchedulerConfig}
    (roomy :
      ∀ name,
        (settings name).initialCapacity * Queue.taskBytes ≤
          Queue.reservableBytes)
    (roomy' :
      ∀ name,
        (settings' name).initialCapacity * Queue.taskBytes ≤
          Queue.reservableBytes)
    {world world' : World κ α ε}
    (reconfigured :
      Reconfigured (Paired settings settings') world world')
    (command : Command κ α ε σ) :
    Agreeing (Paired settings settings')
      (command.perform launch patience settings world)
      (command.perform launch patience settings' world') := by
  cases command with
  | make name =>
      obtain ⟨opened, opened', number, opens, opens', reconfigured⟩ :=
        reconfigured.openScheduler ⟨name, rfl, rfl⟩ (roomy name)
          (roomy' name)
      simp only [perform, opens, opens']
      exact .finished reconfigured _
  | add number coroutine =>
      simp only [perform]
      rcases reconfigured.add? number coroutine with
        ⟨absent, absent'⟩ | ⟨added, added', id, adds, adds', reconfigured⟩
      · rw [absent, absent']
        exact .finished reconfigured _
      · rw [adds, adds']
        exact .finished reconfigured _
  | spawn number coroutine =>
      obtain ⟨spawned, same⟩ := reconfigured.spawn number coroutine
      exact .of_pair spawned same
  | ask request =>
      exact World.answer_agrees launch _ patience request reconfigured
  | view number => exact .of_pair reconfigured (reconfigured.view number)
  | kept number => exact .of_pair reconfigured (reconfigured.kept number)
  | drop number =>
      exact
        .finished
          (reconfigured.unlogged (reconfigured.worlds.drop number) rfl)
          ()
  | consume number =>
      exact
        .finished
          (reconfigured.unlogged (reconfigured.worlds.consume number)
            rfl)
          ()

/-- A program is run alike. -/
theorem Program.run_agreeing
    (launch : κ → Coroutine κ α ε)
    (patience : Nat)
    {settings settings' : σ → SchedulerConfig}
    (roomy :
      ∀ name,
        (settings name).initialCapacity * Queue.taskBytes ≤
          Queue.reservableBytes)
    (roomy' :
      ∀ name,
        (settings' name).initialCapacity * Queue.taskBytes ≤
          Queue.reservableBytes)
    {world world' : World κ α ε}
    (reconfigured :
      Reconfigured (Paired settings settings') world world')
    (program : Program κ α ε σ ρ) :
    Agreeing (Paired settings settings')
      (program.run launch patience settings world)
      (program.run launch patience settings' world') := by
  induction program generalizing world world' with
  | done result => exact .finished reconfigured result
  | perform command next inductionHypothesis =>
      simp only [run]
      have performed :=
        command.perform_agreeing launch patience roomy roomy'
          reconfigured
      generalize command.perform launch patience settings world = reached
        at performed ⊢
      generalize command.perform launch patience settings' world' =
        reached' at performed ⊢
      cases performed with
      | unfinished => exact .unfinished
      | finished reconfigured reply =>
          exact inductionHypothesis reply reconfigured

end RoundRobin
