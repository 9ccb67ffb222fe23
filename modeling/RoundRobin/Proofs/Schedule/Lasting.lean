import RoundRobin.Coroutine.Routine
import RoundRobin.Proofs.Run.Conduct

namespace RoundRobin

/-!
# Coroutines that last

A coroutine lasts a number of suspensions if it suspends that often and then
completes or fails; it never panics, and its scheduler is given no task by it.
What it does otherwise may depend on what is around its scheduler, for it may
drive other schedulers. So lasting is relative to a condition on the
surroundings that each resumption is to keep. A coroutine that adds no tasks
and drives nothing lasts in any surroundings.
-/

/-- What is around a scheduler: the other schedulers and the drives of them. -/
structure Surroundings (κ α ε : Type) where
  schedulers : Nat → Option (Scheduler κ α ε)
  drives : List Frame

/-- The surroundings of a scheduler in a world. -/
def World.around
    (world : World κ α ε)
    (number : Nat) :
    Surroundings κ α ε where
  schedulers other :=
    if other = number then none else world.scheduler? other
  drives := world.frames.filter fun frame => frame.scheduler ≠ number

/-- Worlds with the same other schedulers and drives of them have the same surroundings. -/
theorem World.around_congr
    {world world' : World κ α ε}
    {number : Nat}
    (schedulers :
      ∀ other,
        other ≠ number →
        world'.scheduler? other = world.scheduler? other)
    (drives :
      (world'.frames.filter fun frame => frame.scheduler ≠ number) =
        world.frames.filter fun frame => frame.scheduler ≠ number) :
    world'.around number = world.around number := by
  have others :
      (fun other =>
          if other = number then none else world'.scheduler? other) =
        fun other =>
          if other = number then none else world.scheduler? other := by
    funext other
    by_cases same : other = number
    · simp [same]
    · simp [same, schedulers other same]
  unfold around
  rw [others, drives]

namespace World

variable
  (world : World κ α ε)
  (number : Nat)

@[simp] theorem around_enter (span : Option Nat) :
    (world.enter ⟨number, span⟩).around number =
      world.around number := by
  apply around_congr
  · intro other _
    rfl
  · simp

@[simp] theorem around_draining (scheduler : Scheduler κ α ε) :
    (world.draining number scheduler).around number =
      world.around number := by
  apply around_congr
  · intro other different
    simp [Ne.symm different]
  · simp

@[simp] theorem around_started
    (scheduler : Scheduler κ α ε)
    (task : Task κ α ε) :
    (world.started number scheduler task).around number =
      world.around number := by
  apply around_congr
  · intro other different
    simp [Ne.symm different]
  · rw [frames_started]

@[simp] theorem around_conclude
    (config : SchedulerConfig)
    (task : Task κ α ε)
    (coroutine : Coroutine κ α ε)
    (result : Guarded (Outcome α ε)) :
    (world.conclude number config task coroutine result).around number =
      world.around number := by
  apply around_congr
  · intro other different
    simp [Ne.symm different]
  · rw [frames_conclude]

end World

namespace Coroutine

variable
  (launch : κ → Coroutine κ α ε)
  (patience number : Nat)
  (holds : Surroundings κ α ε → Prop)

/--
Resumed by a scheduler in surroundings that hold, the coroutine ends its
resumption with an outcome, becomes what it is to become, and leaves its
scheduler as it is.
-/
def Gives
    (becomes : Coroutine κ α ε → Outcome α ε → Prop)
    (coroutine : Coroutine κ α ε) :
    Prop :=
  ∀ world,
    world.isDriven number →
    holds (world.around number) →
    ∃ world' coroutine' outcome,
      coroutine.resume.conduct (World.answer launch patience) world =
          some (world', coroutine', .ok outcome) ∧
        world'.scheduler? number = world.scheduler? number ∧
        holds (world'.around number) ∧
        becomes coroutine' outcome

/-- The coroutine suspends a number of times and then ends as it is fated to. -/
def Lasts
    (fate : Outcome α ε → Prop) :
    (suspensions : Nat) →
    Coroutine κ α ε →
    Prop
  | 0 =>
      Gives launch patience number holds fun _ outcome =>
        outcome.isTerminal ∧ fate outcome
  | fewer + 1 =>
      Gives launch patience number holds fun coroutine' outcome =>
        outcome = .suspended ∧ Lasts fate fewer coroutine'

end Coroutine

/-- The request neither adds a task nor drives a scheduler. -/
def Request.Passive (request : Request κ) : Prop :=
  (∀ number job, request ≠ .spawn number job) ∧ request.DrivesNone

/-- Passive requests leave all schedulers and drives as they are. -/
theorem Activity.conduct_passive
    {activity : Activity κ ρ}
    (passive : activity.AsksOnly Request.Passive)
    (launch : κ → Coroutine κ α ε)
    (patience : Nat)
    (world : World κ α ε) :
    ∃ world' result,
      activity.conduct (World.answer launch patience) world =
          some (world', result) ∧
        activity.Ends result ∧
        world'.slots = world.slots ∧
        world'.frames = world.frames := by
  induction passive generalizing world with
  | done result =>
      exact ⟨world, result, rfl, .done result, rfl, rfl⟩
  | @ask request next asked later inductionHypothesis =>
      obtain ⟨noSpawn, atOnce⟩ := asked
      have replied : (World.answer launch patience request world).isSome :=
        World.answer_isSome atOnce patience world
      obtain ⟨⟨middle, reply⟩, answered⟩ :=
        Option.isSome_iff_exists.mp replied
      have kept :
          middle.slots = world.slots ∧ middle.frames = world.frames := by
        rw [World.answer_eq_zero atOnce] at answered
        rcases World.answer_zero_cases answered with
          ⟨spawned, job, same, -⟩ | ⟨-, unchanged⟩
        · exact (noSpawn spawned job same).elim
        · exact unchanged
      obtain ⟨world', result, conducted, ends, slots, frames⟩ :=
        inductionHypothesis reply middle
      refine
        ⟨world', result, ?_, .ask reply ends, slots.trans kept.1,
          frames.trans kept.2⟩
      simpa [conduct, answered] using conducted

namespace Coroutine

/--
Whatever is replied to it, the coroutine suspends a number of times and then
ends as it is fated to, adding no tasks and driving no schedulers.
-/
def Quiet
    (fate : Outcome α ε → Prop) :
    (suspensions : Nat) →
    Coroutine κ α ε →
    Prop
  | 0, coroutine =>
      coroutine.resume.AsksOnly Request.Passive ∧
        ∀ ended,
          coroutine.resume.Ends ended →
          ∃ outcome,
            ended.2 = .ok outcome ∧ outcome.isTerminal ∧ fate outcome
  | fewer + 1, coroutine =>
      coroutine.resume.AsksOnly Request.Passive ∧
        ∀ ended,
          coroutine.resume.Ends ended →
          ended.2 = .ok .suspended ∧ Quiet fate fewer ended.1

/-- A passive resumption gives what it can end in. -/
theorem gives_of_passive
    {becomes : Coroutine κ α ε → Outcome α ε → Prop}
    {coroutine : Coroutine κ α ε}
    (passive : coroutine.resume.AsksOnly Request.Passive)
    (ending :
      ∀ ended,
        coroutine.resume.Ends ended →
        ∃ outcome,
          ended.2 = .ok outcome ∧ becomes ended.1 outcome)
    (launch : κ → Coroutine κ α ε)
    (patience number : Nat)
    (holds : Surroundings κ α ε → Prop) :
    coroutine.Gives launch patience number holds becomes := by
  intro world driven held
  obtain ⟨world', ended, conducted, ends, slots, frames⟩ :=
    Activity.conduct_passive passive launch patience world
  obtain ⟨coroutine', result⟩ := ended
  obtain ⟨outcome, rfl, became⟩ := ending _ ends
  have schedulers (other : Nat) :
      world'.scheduler? other = world.scheduler? other := by
    simp [World.scheduler?, slots]
  have around : world'.around number = world.around number :=
    World.around_congr (fun other _ => schedulers other) (by rw [frames])
  refine
    ⟨world', coroutine', outcome, conducted, schedulers number, ?_,
      became⟩
  rw [around]
  exact held

/-- A quiet coroutine lasts in any surroundings. -/
theorem Quiet.lasts
    {fate : Outcome α ε → Prop}
    {suspensions : Nat}
    {coroutine : Coroutine κ α ε}
    (quiet : coroutine.Quiet fate suspensions)
    (launch : κ → Coroutine κ α ε)
    (patience number : Nat)
    (holds : Surroundings κ α ε → Prop) :
    coroutine.Lasts launch patience number holds fate suspensions := by
  induction suspensions generalizing coroutine with
  | zero =>
      exact gives_of_passive quiet.1 quiet.2 launch patience number holds
  | succ fewer inductionHypothesis =>
      apply gives_of_passive quiet.1
      intro ended ends
      obtain ⟨suspended, later⟩ := quiet.2 ended ends
      exact ⟨.suspended, suspended, rfl, inductionHypothesis later⟩

/-- Wherever its countdown stands, `suspendThen` suspends that often. -/
theorem quiet_suspendThen_from
    [OfViolation ε]
    (times left : Nat)
    (value : α) :
    Quiet (fun outcome => outcome = .completed value) left
      { (suspendThen times value : Coroutine κ α ε) with
        state := (⟨left, false⟩ : RoutineState Nat) } := by
  induction left with
  | zero =>
      refine ⟨.done _, ?_⟩
      intro ended ends
      rw [Activity.ends_done.mp ends]
      exact ⟨.completed value, rfl, rfl, rfl⟩
  | succ fewer inductionHypothesis =>
      refine ⟨.done _, ?_⟩
      intro ended ends
      rw [Activity.ends_done.mp ends]
      exact ⟨rfl, inductionHypothesis⟩

theorem quiet_suspendThen
    [OfViolation ε]
    (times : Nat)
    (value : α) :
    Quiet (fun outcome => outcome = .completed value) times
      (suspendThen times value : Coroutine κ α ε) :=
  quiet_suspendThen_from times times value

end Coroutine

end RoundRobin
