import RoundRobin.Proofs.Run.Life
import RoundRobin.Proofs.Scheduler

namespace RoundRobin

/-!
# Settings in the course of a run

A scheduler keeps the settings it was made with, and each resumption goes on
with those that its scheduler had when it began. So what holds of all settings
in a moment goes on to hold as long as no scheduler is made.
-/

/-- The settings with which a drive is resuming a task. -/
def Layer.config? (layer : Layer κ α ε) : Option SchedulerConfig :=
  match layer.phase with
  | .before => none
  | .during resumption => some resumption.config
  | .after _ => none

/-- What is known of the settings of schedulers and of the resumptions under way. -/
structure Moment.Configured
    (allowed : SchedulerConfig → Prop)
    (moment : Moment κ α ε) :
    Prop where
  schedulers :
    ∀ number scheduler,
      moment.world.scheduler? number = some scheduler →
      allowed scheduler.config
  resumptions :
    ∀ config ∈ moment.layers.filterMap Layer.config?, allowed config

/-- A turn begins with the settings of its scheduler. -/
theorem Moment.Configured.next
    {allowed : SchedulerConfig → Prop}
    {moment : Moment κ α ε}
    (configured : moment.Configured allowed)
    {number : Nat}
    {task : Task κ α ε}
    {rest : Scheduler κ α ε}
    (next :
      (moment.world.scheduler? number).bind Scheduler.dequeue? =
        some (task, rest)) :
    allowed rest.config := by
  obtain ⟨scheduler, found, dequeued⟩ := Option.bind_eq_some_iff.mp next
  have same : rest.config = scheduler.config := by
    rw [(Scheduler.dequeue?_eq_some dequeued).2]
  rw [same]
  exact configured.schedulers number scheduler found

/-- A reply leaves the settings of the resumption that asked. -/
theorem Asking.configs
    {layers : List (Layer κ α ε)}
    {request : Request κ}
    {next : request.Reply → List (Layer κ α ε)}
    (asking : Asking layers request next)
    (reply : request.Reply) :
    (next reply).filterMap Layer.config? =
      layers.filterMap Layer.config? := by
  cases asking <;> rfl

/-- No step of a scheduler changes its settings. -/
theorem Step.config
    {scheduler scheduler' : Scheduler κ α ε}
    {running running' : Option (Task κ α ε)}
    {history : History κ α ε}
    (step : Step scheduler running history scheduler' running') :
    scheduler'.config = scheduler.config := by
  cases step with
  | still => rfl
  | added => rfl
  | began next => rw [(Scheduler.dequeue?_eq_some next).2]
  | @ended task coroutine result ends =>
      rcases result with panic | _ | value | error <;> rfl
  | flagged => rfl

namespace Move

variable
  {launch : κ → Coroutine κ α ε}
  {moment moment' : Moment κ α ε}
  {trace : Trace κ α ε}

/-- As long as no scheduler is made, the settings stay as they are. -/
theorem configured
    (move : Move launch moment trace moment')
    (coherent : moment.Coherent)
    (unopened :
      moment'.world.slots.length = moment.world.slots.length)
    {allowed : SchedulerConfig → Prop}
    (before : moment.Configured allowed) :
    moment'.Configured allowed := by
  refine ⟨?_, ?_⟩
  · intro number scheduler' alive
    rcases move.step coherent alive with
      ⟨scheduler, found, step⟩ | ⟨config, -, made, -, -⟩
    · rw [step.config]
      exact before.schedulers number scheduler found
    · have bound := World.lt_length_slots alive
      omega
  · have resumptions := before.resumptions
    cases move with
    | began next =>
        have allows := before.next next
        simpa [Layer.config?, allows] using resumptions
    | replied asking answered =>
        rwa [asking.configs]
    | stepRefused asking refused =>
        rwa [asking.configs]
    | drainRefused asking refused =>
        rwa [asking.configs]
    | stepLeft asking =>
        rwa [asking.configs]
    | drainLeft asking =>
        rwa [asking.configs]
    | drainUnwound asking =>
        rwa [asking.configs]
    | ended =>
        intro config member
        exact resumptions config (List.mem_cons_of_mem _ member)
    | _ => exact resumptions

end Move

end RoundRobin
