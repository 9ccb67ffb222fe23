import RoundRobin.Proofs.Run.History

namespace RoundRobin

/-!
# From one state of a scheduler to a later one

A `Passage` is what a stretch of a run does to one scheduler, as a `Life` is
what the run does to it from its making. The queue is first in, first out
throughout: what was ready and what came to the back since, in this order, are
the tasks whose resumptions began since, followed by those still ready.
-/

/-- A sequence of steps of one scheduler. -/
inductive Passage
    (scheduler : Scheduler κ α ε)
    (running : Option (Task κ α ε)) :
    History κ α ε →
    Scheduler κ α ε →
    Option (Task κ α ε) →
    Prop where
  | nil : Passage scheduler running [] scheduler running
  | snoc
      {history last : History κ α ε}
      {middle scheduler' : Scheduler κ α ε}
      {current running' : Option (Task κ α ε)}
      (earlier : Passage scheduler running history middle current)
      (step : Step middle current last scheduler' running') :
      Passage scheduler running (history ++ last) scheduler' running'

/-- A life goes on along any passage. -/
theorem Life.append
    {history later : History κ α ε}
    {scheduler scheduler' : Scheduler κ α ε}
    {running running' : Option (Task κ α ε)}
    (life : Life history scheduler running)
    (passage : Passage scheduler running later scheduler' running') :
    Life (history ++ later) scheduler' running' := by
  induction passage with
  | nil =>
      rw [List.append_nil]
      exact life
  | snoc _ step inductionHypothesis =>
      rw [← List.append_assoc]
      exact .step inductionHypothesis step

namespace Path

variable
  {launch : κ → Coroutine κ α ε}
  {initial final : Moment κ α ε}
  {trace : Trace κ α ε}

/--
A scheduler that is alive at the end of a path and had been made at its start
was alive then, and the path is a passage of it.
-/
theorem passage
    (path : Path launch initial trace final)
    (coherent : initial.Coherent)
    {number : Nat}
    (made : number < initial.world.slots.length)
    {scheduler' : Scheduler κ α ε}
    (alive : final.world.scheduler? number = some scheduler') :
    ∃ scheduler,
      initial.world.scheduler? number = some scheduler ∧
        Passage scheduler (initial.running? number)
          (trace.about number) scheduler' (final.running? number) := by
  induction path generalizing scheduler' with
  | nil => exact ⟨scheduler', alive, .nil⟩
  | snoc earlier move inductionHypothesis =>
      rcases move.step (earlier.coherent coherent) alive with
        ⟨middle, found, step⟩ | ⟨config, -, same, -, -⟩
      · obtain ⟨scheduler, alive', passage⟩ :=
          inductionHypothesis found
        rw [Trace.about_append]
        exact ⟨scheduler, alive', passage.snoc step⟩
      · have beyond := earlier.length_slots_le
        omega

/-- A path is a passage of every scheduler that is alive at both of its ends. -/
theorem passage_of_alive
    (path : Path launch initial trace final)
    (coherent : initial.Coherent)
    {number : Nat}
    {scheduler scheduler' : Scheduler κ α ε}
    (alive : initial.world.scheduler? number = some scheduler)
    (alive' : final.world.scheduler? number = some scheduler') :
    Passage scheduler (initial.running? number) (trace.about number)
      scheduler' (final.running? number) := by
  obtain ⟨start, found, passage⟩ :=
    path.passage coherent (World.lt_length_slots alive) alive'
  rw [alive] at found
  cases found
  exact passage

/-- A scheduler that is gone stays gone. -/
theorem scheduler?_eq_none
    (path : Path launch initial trace final)
    (coherent : initial.Coherent)
    {number : Nat}
    (made : number < initial.world.slots.length)
    (gone : initial.world.scheduler? number = none) :
    final.world.scheduler? number = none := by
  rw [Option.eq_none_iff_forall_ne_some]
  intro scheduler' alive
  obtain ⟨scheduler, found, -⟩ := path.passage coherent made alive
  rw [gone] at found
  cases found

end Path

/-- The end of a resumption puts a suspended task at the back of the queue. -/
theorem Scheduler.readyIds_conclude
    (scheduler : Scheduler κ α ε)
    (task : Task κ α ε)
    (coroutine : Coroutine κ α ε)
    (result : Guarded (Outcome α ε)) :
    (scheduler.conclude task coroutine result).readyIds =
      scheduler.readyIds ++
        match result with
        | .ok .suspended => [task.id]
        | _ => [] := by
  unfold readyIds Queue.ids
  rw [ready_conclude]
  rcases result with panic | _ | value | error <;> simp

/-- The task that comes to the back of the queue by a happening, if one does. -/
def Happening.pushed? : Happening κ α ε → Option TaskId
  | added id _ => some id
  | began _ => none
  | ended id (.ok .suspended) => some id
  | ended _ _ => none

/-- The tasks that came to the back of the queue, in that order. -/
def History.pushed (history : History κ α ε) : List TaskId :=
  history.filterMap Happening.pushed?

@[simp] theorem History.pushed_append (earlier later : History κ α ε) :
    History.pushed (earlier ++ later) =
      earlier.pushed ++ History.pushed later := by
  simp [pushed]

/-- Every step takes ready tasks from the front and puts tasks at the back. -/
theorem Step.queue
    {scheduler scheduler' : Scheduler κ α ε}
    {running running' : Option (Task κ α ε)}
    {history : History κ α ε}
    (step : Step scheduler running history scheduler' running') :
    scheduler.readyIds ++ history.pushed =
      history.begun ++ scheduler'.readyIds := by
  cases step with
  | still => simp [History.pushed, History.begun]
  | added _ coroutine =>
      simp [History.pushed, Happening.pushed?]
  | began next =>
      simp [History.pushed, Happening.pushed?,
        Scheduler.readyIds_of_dequeue? next]
  | @ended task coroutine result ends =>
      rw [Scheduler.readyIds_conclude]
      rcases result with panic | _ | value | error <;>
        simp [History.pushed, Happening.pushed?]
  | flagged => simp [History.pushed, History.begun, Scheduler.readyIds]

namespace Passage

variable
  {scheduler scheduler' : Scheduler κ α ε}
  {running running' : Option (Task κ α ε)}
  {history earlier : History κ α ε}

/-- Tasks are resumed in the order in which they came to the queue. -/
theorem queue
    (passage : Passage scheduler running history scheduler' running') :
    scheduler.readyIds ++ history.pushed =
      history.begun ++ scheduler'.readyIds := by
  induction passage with
  | nil => simp [History.pushed, History.begun]
  | snoc _ step inductionHypothesis =>
      rw [History.pushed_append, History.begun_append,
        ← List.append_assoc, inductionHypothesis, List.append_assoc,
        step.queue, List.append_assoc]

/-- Tasks that are in their places stay so. -/
theorem placed
    (passage : Passage scheduler running history scheduler' running')
    (before : scheduler.Placed (running.map Task.id)) :
    scheduler'.Placed (running'.map Task.id) := by
  induction passage with
  | nil => exact before
  | snoc _ step inductionHypothesis =>
      exact step.placed inductionHypothesis

end Passage

end RoundRobin
