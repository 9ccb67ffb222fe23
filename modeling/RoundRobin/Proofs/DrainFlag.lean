import RoundRobin.Proofs.Run.Conduct
import RoundRobin.Proofs.Run.Draining
import RoundRobin.Workload

namespace RoundRobin

/-!
# What the draining flag tells

The invariant `Moment.Flagged` speaks of the drives that the world knows of.
Here it is read for the layers of a moment, which are the calls that are on the
stack. A layer is of a drain if its frame has a span, and of a bare step
otherwise. Since no scheduler is driven twice, the layer of a scheduler settles
its flag, whatever the other layers are.
-/

/-- One of the calls on the stack is a drain of the scheduler. -/
def Moment.HasDrain
    (moment : Moment κ α ε)
    (number : Nat) :
    Prop :=
  ∃ layer ∈ moment.layers,
    layer.frame.scheduler = number ∧ layer.frame.span.isSome = true

namespace Moment.Coherent

variable
  {moment : Moment κ α ε}
  {number : Nat}

/-- The world knows of a drain exactly if it is on the stack. -/
theorem isDrained_iff
    (coherent : moment.Coherent) :
    moment.world.isDrained number = true ↔ moment.HasDrain number := by
  unfold World.isDrained HasDrain
  rw [coherent.frames]
  simp

/-- No two layers are of the same scheduler. -/
theorem layer_unique
    (coherent : moment.Coherent)
    {layer other : Layer κ α ε}
    (member : layer ∈ moment.layers)
    (otherMember : other ∈ moment.layers)
    (same : layer.frame.scheduler = other.frame.scheduler) :
    layer = other := by
  have distinct := coherent.distinct
  rw [coherent.frames, List.map_map] at distinct
  exact List.inj_on_of_nodup_map distinct member otherMember same

/-- A scheduler that has a layer is being drained if that layer is of a drain. -/
theorem hasDrain_iff
    (coherent : moment.Coherent)
    {layer : Layer κ α ε}
    (member : layer ∈ moment.layers) :
    moment.HasDrain layer.frame.scheduler ↔
      layer.frame.span.isSome = true := by
  constructor
  · rintro ⟨other, otherMember, same, drains⟩
    rw [coherent.layer_unique member otherMember same.symm]
    exact drains
  · intro drains
    exact ⟨layer, member, rfl, drains⟩

end Moment.Coherent

namespace Moment.Flagged

variable
  {moment : Moment κ α ε}
  {number : Nat}
  {scheduler : Scheduler κ α ε}

/-- The flag of a live scheduler is what the drives under way say. -/
theorem draining_eq
    (flagged : moment.Flagged)
    (alive : moment.world.scheduler? number = some scheduler) :
    scheduler.draining = moment.world.isDrained number := by
  apply flagged.flag
  simp [World.flag?, alive]

/-- The flag of a live scheduler is set exactly if a drain of it is on the stack. -/
theorem draining_iff
    (flagged : moment.Flagged)
    (coherent : moment.Coherent)
    (alive : moment.world.scheduler? number = some scheduler) :
    scheduler.draining = true ↔ moment.HasDrain number := by
  rw [flagged.draining_eq alive, coherent.isDrained_iff]

/-- The layer of a scheduler settles its flag, and the scheduler is alive. -/
theorem draining_of_layer
    (flagged : moment.Flagged)
    (coherent : moment.Coherent)
    {layer : Layer κ α ε}
    (member : layer ∈ moment.layers) :
    ∃ scheduler,
      moment.world.scheduler? layer.frame.scheduler = some scheduler ∧
        scheduler.draining = layer.frame.span.isSome := by
  have known : layer.frame ∈ moment.world.frames := by
    rw [coherent.frames]
    exact List.mem_map_of_mem member
  have shown := flagged.alive layer.frame known
  obtain ⟨scheduler, alive⟩ :
      ∃ scheduler,
        moment.world.scheduler? layer.frame.scheduler =
          some scheduler := by
    simpa [World.flag?, Option.isSome_iff_exists] using shown
  refine ⟨scheduler, alive, ?_⟩
  rw [Bool.eq_iff_iff, flagged.draining_iff coherent alive,
    coherent.hasDrain_iff member]

/-- A scheduler that nobody drives does not show as draining. -/
theorem draining_eq_false
    (flagged : moment.Flagged)
    (idle : moment.world.isDriven number = false)
    (alive : moment.world.scheduler? number = some scheduler) :
    scheduler.draining = false := by
  rw [flagged.draining_eq alive]
  exact World.isDrained_eq_false_of_idle idle

end Moment.Flagged

/--
From a moment at which flags are right, whatever is answered leaves the drives
under way as they were, and flags right.
-/
theorem World.answer_flagged
    {launch : κ → Coroutine κ α ε}
    {patience : Nat}
    {world world' : World κ α ε}
    {layers : List (Layer κ α ε)}
    {request : Request κ}
    {reply : request.Reply}
    {next : request.Reply → List (Layer κ α ε)}
    (coherent : Moment.Coherent ⟨world, layers⟩)
    (flagged : Moment.Flagged ⟨world, layers⟩)
    (asking : Asking layers request next)
    (answered :
      World.answer launch patience request world =
        some (world', reply)) :
    world'.frames = world.frames ∧
      Moment.Flagged ⟨world', next reply⟩ := by
  obtain ⟨trace, path, conducted⟩ :=
    World.answer_path
      (fun fewer _ => World.answer_follows launch fewer) answered asking
  exact ⟨conducted.frames, path.flagged coherent flagged⟩

/--
What the draining flags tell at a moment, and what they tell after whatever is
asked for then has been done.
-/
structure Moment.TellsDrains
    (launch : κ → Coroutine κ α ε)
    (moment : Moment κ α ε) :
    Prop where
  /-- A live scheduler shows as draining exactly if a drain of it is on the stack. -/
  scheduler :
    ∀ number scheduler,
      moment.world.scheduler? number = some scheduler →
      (scheduler.draining = true ↔ moment.HasDrain number)
  /-- Its spawners show the same to whoever asks them, and asking changes nothing. -/
  spawner :
    ∀ number scheduler patience,
      moment.world.scheduler? number = some scheduler →
      World.answer launch patience (.inspect number) moment.world =
        some
          (moment.world,
            { attached := true, draining := scheduler.draining })
  /-- So a drain shows in the tasks that it resumes, and a bare step does not. -/
  layer :
    ∀ layer ∈ moment.layers,
      ∃ scheduler,
        moment.world.scheduler? layer.frame.scheduler =
            some scheduler ∧
          scheduler.draining = layer.frame.span.isSome
  /-- Whatever is asked for, nested drives that panic included, changes no flag. -/
  kept :
    ∀ {request : Request κ}
      {next : request.Reply → List (Layer κ α ε)} {patience : Nat}
      {world' : World κ α ε} {reply : request.Reply},
      Asking moment.layers request next →
      World.answer launch patience request moment.world =
        some (world', reply) →
      ∀ number scheduler scheduler',
        moment.world.scheduler? number = some scheduler →
        world'.scheduler? number = some scheduler' →
        scheduler'.draining = scheduler.draining
  /-- A drain that was carried out, to its end or to a panic, is not shown any more. -/
  ended :
    ∀ {number : Nat} {next : Drive Unit → List (Layer κ α ε)}
      {patience : Nat} {world' : World κ α ε} {drive : Drive Unit},
      Asking moment.layers (.drain number) next →
      World.answer launch patience (.drain number) moment.world =
        some (world', drive) →
      drive ≠ .busy →
      ∀ scheduler',
        world'.scheduler? number = some scheduler' →
        scheduler'.draining = false

namespace Moment.Flagged

variable
  {moment : Moment κ α ε}

/-- Flags that are right tell of drains. -/
theorem tellsDrains
    (flagged : moment.Flagged)
    (coherent : moment.Coherent)
    (launch : κ → Coroutine κ α ε) :
    moment.TellsDrains launch where
  scheduler number scheduler alive :=
    flagged.draining_iff coherent alive
  spawner number scheduler patience alive := by
    rw [World.answer_eq_zero (by simp [Request.DrivesNone])]
    simp [World.answer, World.attachment, alive]
  layer layer member := flagged.draining_of_layer coherent member
  kept asking answered number scheduler scheduler' alive alive' := by
    obtain ⟨frames, flagged'⟩ :=
      World.answer_flagged coherent flagged asking answered
    rw [flagged'.draining_eq alive', flagged.draining_eq alive]
    exact World.isDrained_congr frames number
  ended {number _ patience world' drive}
      asking answered carriedOut scheduler' alive' := by
    obtain ⟨frames, flagged'⟩ :=
      World.answer_flagged coherent flagged asking answered
    have idle : moment.world.isDriven number = false := by
      by_contra driven
      rw [Bool.not_eq_false] at driven
      cases patience with
      | zero => cases answered
      | succ patience =>
          have refused :
              moment.world.refusal? number =
                some (Drive.busy : Drive Unit) := by
            simp [World.refusal?, driven]
          have busy :=
            World.drain_of_refusal?
              (World.answer launch patience) patience refused
          simp only [World.answer, busy, Option.some.injEq,
            Prod.mk.injEq] at answered
          exact carriedOut answered.2.symm
    have idle' : world'.isDriven number = false := by
      rw [World.isDriven_congr frames]
      exact idle
    exact flagged'.draining_eq_false idle' alive'

end Moment.Flagged

/--
At every moment of every run, a scheduler and its spawners show it as draining
exactly if a drain of it is on the stack: within a task that a drain resumes,
not within one that a bare step resumes, and not after the drain has returned
or unwound. Drives of other schedulers within change nothing about that.
Between the operations of a host no scheduler is draining.
-/
theorem draining_iff_drain_on_stack
    (launch : κ → Coroutine κ α ε) :
    (∀ {trace : Trace κ α ε} {moment : Moment κ α ε},
      Run launch trace moment →
      moment.TellsDrains launch) ∧
      ∀ {world : World κ α ε} {number : Nat}
        {scheduler : Scheduler κ α ε},
        Reachable launch world →
        world.scheduler? number = some scheduler →
        scheduler.draining = false := by
  refine ⟨?_, ?_⟩
  · intro trace moment run
    exact run.flagged.tellsDrains run.tracked.coherent launch
  · intro world number scheduler reachable alive
    obtain ⟨trace, run⟩ := reachable.run
    exact
      run.flagged.draining_eq_false (run.tracked.coherent.idle number)
        alive

/--
A task that is being drained steps another scheduler, whose task is in the
middle of a resumption: the outer scheduler shows as draining and the inner one
does not. The inner task panics, the outer one catches the panic and completes,
and in the end neither shows as draining.
-/
theorem draining_iff_drain_on_stack_in_nested_step :
    ∃ (trace : Trace Job Value TaskError)
      (moment : Moment Job Value TaskError)
      (world : World Job Value TaskError)
      (outer inner outer' inner' : Scheduler Job Value TaskError),
      Run Job.launch trace moment ∧
        moment.layers.map Layer.frame = [⟨1, none⟩, ⟨0, some 1⟩] ∧
        moment.TellsDrains Job.launch ∧
        moment.world.scheduler? 0 = some outer ∧
        outer.draining = true ∧
        moment.world.scheduler? 1 = some inner ∧
        inner.draining = false ∧
        Reachable Job.launch world ∧
        world.scheduler? 0 = some outer' ∧
        outer'.completed.ids = [⟨0⟩] ∧
        outer'.draining = false ∧
        world.scheduler? 1 = some inner' ∧
        inner'.abandoned = #[⟨0⟩] ∧
        inner'.draining = false := by
  have opened : Reachable Job.launch _ :=
    .opened (.start rfl rfl)
      (show (World.empty none).openScheduler {} = .ok (_, 0) from rfl)
  have openedBoth : Reachable Job.launch _ :=
    .opened opened
      (show World.openScheduler _ {} = .ok (_, 1) from rfl)
  have stepping : Reachable Job.launch _ :=
    .added openedBoth
      (show
        World.add? _ 0
            (.script #[⟨[.step 1], .complete (.number 7)⟩] false) =
          some (_, ⟨0⟩) from rfl)
  have panicking : Reachable Job.launch _ :=
    .added stepping
      (show
        World.add? _ 1
            (.script #[⟨[.look 0, .look 1], .panic "within"⟩] false) =
          some (_, ⟨0⟩) from rfl)
  have drained : Reachable Job.launch _ :=
    .drained panicking
      (show
        World.drain (World.answer Job.launch 1) 2 0 _ =
          some (_, .finished ()) from rfl)
  obtain ⟨trace, run⟩ := panicking.run
  have outerEntered :=
    run.append (.single (.drainEntered (.host (.drain 0)) rfl rfl))
  have outerBegan := outerEntered.append (.single (.began rfl))
  have innerEntered :=
    outerBegan.append (.single (.stepEntered .task rfl rfl))
  have within := innerEntered.append (.single (.began rfl))
  have tells := (draining_iff_drain_on_stack Job.launch).1 within
  have outerShown :=
    (tells.scheduler 0 _ rfl).mpr ⟨_, .tail _ (.head _), rfl, rfl⟩
  obtain ⟨inner, innerAlive, innerShown⟩ := tells.layer _ (.head _)
  have outerOver :=
    (draining_iff_drain_on_stack Job.launch).2 drained
      (show World.scheduler? _ 0 = some _ from rfl)
  have innerOver :=
    (draining_iff_drain_on_stack Job.launch).2 drained
      (show World.scheduler? _ 1 = some _ from rfl)
  exact
    ⟨_, _, _, _, inner, _, _, within, rfl, tells, rfl, outerShown,
      innerAlive, innerShown, drained, rfl, rfl, outerOver, rfl, rfl,
      innerOver⟩

end RoundRobin
