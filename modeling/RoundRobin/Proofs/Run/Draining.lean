import RoundRobin.Proofs.Run.Life
import RoundRobin.Proofs.Scheduler

namespace RoundRobin

/-!
# Draining flags and the drives under way

At every moment of every run the schedulers that are being driven are alive,
and the draining flag of a scheduler is set exactly if one of the drives under
way is a drain of it. In particular a scheduler that nobody drives is not
draining, however its last drive ended.
-/

/-- Whether one of the drives under way is a drain of the scheduler. -/
def World.isDrained
    (world : World κ α ε)
    (number : Nat) :
    Bool :=
  world.frames.any fun frame =>
    frame.scheduler == number && frame.span.isSome

/-- The draining flag of a live scheduler. -/
def World.flag?
    (world : World κ α ε)
    (number : Nat) :
    Option Bool :=
  (world.scheduler? number).map Scheduler.draining

/-- Flags agree with the drives under way, which are of live schedulers. -/
structure Moment.Flagged (moment : Moment κ α ε) : Prop where
  alive :
    ∀ frame ∈ moment.world.frames,
      (moment.world.flag? frame.scheduler).isSome
  flag :
    ∀ number draining,
      moment.world.flag? number = some draining →
      draining = moment.world.isDrained number

namespace World

/-- What is not driven is not drained. -/
theorem isDrained_eq_false_of_idle
    {world : World κ α ε}
    {number : Nat}
    (idle : world.isDriven number = false) :
    world.isDrained number = false := by
  simp only [isDrained, List.any_eq_false, Bool.and_eq_true, beq_iff_eq,
    not_and]
  intro frame member same
  exact (ne_of_isDriven_eq_false idle member same).elim

theorem isDrained_congr
    {world world' : World κ α ε}
    (frames : world'.frames = world.frames)
    (number : Nat) :
    world'.isDrained number = world.isDrained number := by
  unfold isDrained
  rw [frames]

/-- A drive shows in what it is a drive of. -/
theorem isDrained_cons
    {world world' : World κ α ε}
    {frame : Frame}
    (frames : world'.frames = frame :: world.frames)
    (number : Nat) :
    world'.isDrained number =
      (frame.scheduler == number && frame.span.isSome ||
        world.isDrained number) := by
  simp [isDrained, frames]

@[simp] theorem flag?_emit
    (world : World κ α ε)
    (event : LogEvent)
    (number : Nat) :
    (world.emit event).flag? number = world.flag? number := by
  simp [flag?]

@[simp] theorem flag?_emitResumption
    (world : World κ α ε)
    (config : SchedulerConfig)
    (event : LogEvent)
    (number : Nat) :
    (world.emitResumption config event).flag? number =
      world.flag? number := by
  simp [flag?]

@[simp] theorem flag?_emitDrained
    (world : World κ α ε)
    (drained number : Nat) :
    (world.emitDrained drained).flag? number = world.flag? number := by
  simp [flag?]

@[simp] theorem flag?_enter
    (world : World κ α ε)
    (frame : Frame)
    (number : Nat) :
    (world.enter frame).flag? number = world.flag? number :=
  rfl

@[simp] theorem flag?_leave
    (world : World κ α ε)
    (number : Nat) :
    world.leave.flag? number = world.flag? number :=
  rfl

/-- Changes that leave the flag of a scheduler alone do not show in flags. -/
theorem flag?_modifyScheduler
    (world : World κ α ε)
    (changed number : Nat)
    {change : Scheduler κ α ε → Scheduler κ α ε}
    (kept :
      ∀ scheduler,
        world.scheduler? changed = some scheduler →
        (change scheduler).draining = scheduler.draining) :
    (world.modifyScheduler changed change).flag? number =
      world.flag? number := by
  unfold flag?
  rw [scheduler?_modifyScheduler]
  by_cases same : changed = number
  · subst same
    cases found : world.scheduler? changed with
    | none => simp
    | some scheduler => simp [kept scheduler found]
  · simp [same]

@[simp] theorem flag?_spawn
    (world : World κ α ε)
    (addressed number : Nat)
    (coroutine : Coroutine κ α ε) :
    (world.spawn addressed coroutine).1.flag? number =
      world.flag? number := by
  unfold spawn
  cases world.scheduler? addressed with
  | none => simp
  | some scheduler =>
      rw [flag?_emit]
      exact flag?_modifyScheduler _ _ _ fun _ _ => rfl

@[simp] theorem flag?_setDraining
    (world : World κ α ε)
    (changed number : Nat)
    (draining : Bool) :
    (world.setDraining changed draining).flag? number =
      if changed = number then
        (world.flag? number).map fun _ => draining
      else
        world.flag? number := by
  unfold flag?
  rw [scheduler?_setDraining]
  by_cases same : changed = number
  · cases world.scheduler? number <;> simp [same]
  · simp [same]

/-- The result of a resumption leaves every flag alone. -/
@[simp] theorem flag?_conclude
    (world : World κ α ε)
    (changed number : Nat)
    (config : SchedulerConfig)
    (task : Task κ α ε)
    (coroutine : Coroutine κ α ε)
    (result : Guarded (Outcome α ε)) :
    (world.conclude changed config task coroutine result).flag? number =
      world.flag? number := by
  unfold flag?
  rw [scheduler?_conclude]
  by_cases same : changed = number
  · rcases result with panic | _ | value | error <;>
      simp [same, Scheduler.conclude, Scheduler.settle,
        Scheduler.abandon, Function.comp_def]
  · simp [same]

end World

namespace Moment.Flagged

/-- What is gone is not driven. -/
theorem isDriven_eq_false
    {moment : Moment κ α ε}
    (flagged : moment.Flagged)
    {number : Nat}
    (gone : moment.world.scheduler? number = none) :
    moment.world.isDriven number = false := by
  simp only [World.isDriven, List.any_eq_false, beq_iff_eq]
  rintro frame member rfl
  simpa [World.flag?, gone] using flagged.alive frame member

/-- A change of the world that no flag and no drive shows keeps flags right. -/
theorem update
    {world world' : World κ α ε}
    {layers layers' : List (Layer κ α ε)}
    (flagged : Flagged ⟨world, layers⟩)
    (frames : world'.frames = world.frames)
    (flags : ∀ number, world'.flag? number = world.flag? number) :
    Flagged ⟨world', layers'⟩ where
  alive frame member := by
    rw [flags]
    rw [frames] at member
    exact flagged.alive frame member
  flag number draining shown := by
    rw [flags] at shown
    rw [World.isDrained_congr frames]
    exact flagged.flag number draining shown

/-- A scheduler that is not driven may go. -/
theorem removal
    {world world' : World κ α ε}
    {layers layers' : List (Layer κ α ε)}
    {number : Nat}
    (flagged : Flagged ⟨world, layers⟩)
    (idle : world.isDriven number = false)
    (frames : world'.frames = world.frames)
    (schedulers :
      ∀ other,
        world'.scheduler? other =
          if number = other then none else world.scheduler? other) :
    Flagged ⟨world', layers'⟩ where
  alive frame member := by
    rw [frames] at member
    have different : number ≠ frame.scheduler :=
      (World.ne_of_isDriven_eq_false idle member).symm
    have alive := flagged.alive frame member
    simpa [World.flag?, schedulers, different] using alive
  flag other draining shown := by
    rw [World.isDrained_congr frames]
    apply flagged.flag other draining
    unfold World.flag? at shown ⊢
    rw [schedulers] at shown
    split at shown
    · cases shown
    · exact shown

/-- The innermost drive may be left, if the flag of its scheduler is cleared. -/
theorem leave
    {world world' : World κ α ε}
    {frame : Frame}
    {phase : Phase κ α ε}
    {layers layers' : List (Layer κ α ε)}
    (flagged : Flagged ⟨world, ⟨frame, phase⟩ :: layers⟩)
    (coherent : Coherent ⟨world, ⟨frame, phase⟩ :: layers⟩)
    (frames : world'.frames = world.frames.tail)
    (flags :
      ∀ number,
        world'.flag? number =
          if frame.scheduler = number then
            (world.flag? number).map fun draining =>
              draining && frame.span.isNone
          else
            world.flag? number) :
    Flagged ⟨world', layers'⟩ := by
  have shape : world.frames = frame :: world'.frames := by
    rw [frames, coherent.frames]
    rfl
  have distinct : (world.frames.map Frame.scheduler).Nodup :=
    coherent.distinct
  rw [shape, List.map_cons, List.nodup_cons] at distinct
  have idle : world'.isDriven frame.scheduler = false := by
    simpa [World.isDriven] using distinct.1
  refine ⟨?_, ?_⟩
  · intro other member
    have different : frame.scheduler ≠ other.scheduler :=
      (World.ne_of_isDriven_eq_false idle member).symm
    have alive :=
      flagged.alive other (by simp [shape, member])
    simpa [flags, different] using alive
  · intro number draining shown
    rw [flags] at shown
    split at shown
    · next same =>
        subst same
        rw [World.isDrained_eq_false_of_idle idle]
        obtain ⟨before, found, rfl⟩ := Option.map_eq_some_iff.mp shown
        have flag := flagged.flag _ before found
        rw [World.isDrained_cons shape,
          World.isDrained_eq_false_of_idle idle] at flag
        cases span : frame.span with
        | none => simpa [span] using flag
        | some ready => simp
    · next different =>
        have flag := flagged.flag number draining shown
        have apart : (frame.scheduler == number) = false := by
          simpa using different
        simpa [World.isDrained_cons shape, apart] using flag

/-- A scheduler that is not driven may be driven, if its flag is set for a drain. -/
theorem enter
    {world world' : World κ α ε}
    {layers layers' : List (Layer κ α ε)}
    {frame : Frame}
    {scheduler : Scheduler κ α ε}
    (flagged : Flagged ⟨world, layers⟩)
    (idle : world.isDriven frame.scheduler = false)
    (alive : world.scheduler? frame.scheduler = some scheduler)
    (frames : world'.frames = frame :: world.frames)
    (flags :
      ∀ number,
        world'.flag? number =
          if frame.scheduler = number then
            (world.flag? number).map fun draining =>
              draining || frame.span.isSome
          else
            world.flag? number) :
    Flagged ⟨world', layers'⟩ := by
  refine ⟨?_, ?_⟩
  · intro other member
    rw [frames] at member
    rw [flags]
    rcases List.mem_cons.mp member with rfl | inRest
    · simp [World.flag?, alive]
    · have different : frame.scheduler ≠ other.scheduler :=
        (World.ne_of_isDriven_eq_false idle inRest).symm
      simpa [different] using flagged.alive other inRest
  · intro number draining shown
    rw [World.isDrained_cons frames]
    rw [flags] at shown
    split at shown
    · next same =>
        subst same
        obtain ⟨before, found, rfl⟩ := Option.map_eq_some_iff.mp shown
        have flag := flagged.flag _ before found
        rw [World.isDrained_eq_false_of_idle idle] at flag
        simp [flag, World.isDrained_eq_false_of_idle idle]
    · next different =>
        have flag := flagged.flag number draining shown
        have apart : (frame.scheduler == number) = false := by
          simpa using different
        simpa [apart] using flag

end Moment.Flagged

/-- Every move keeps flags right. -/
theorem Move.flagged
    {launch : κ → Coroutine κ α ε}
    {moment moment' : Moment κ α ε}
    {trace : Trace κ α ε}
    (move : Move launch moment trace moment')
    (coherent : moment.Coherent)
    (before : moment.Flagged) :
    moment'.Flagged := by
  cases move with
  | @opened world world' config made layers opened =>
      obtain ⟨fresh, new, rfl, rfl⟩ := World.openScheduler_eq_ok opened
      refine ⟨?_, ?_⟩
      · intro frame member
        have made := coherent.known frame member
        have alive := before.alive frame member
        simpa [World.flag?, World.scheduler?_append_slot,
          Nat.ne_of_lt made] using alive
      · intro number draining shown
        simp only [World.flag?, World.scheduler?_append_slot] at shown
        split at shown
        · next same =>
            subst same
            cases shown
            have idle : world.isDriven world.slots.length = false :=
              coherent.isDriven_eq_false (Nat.le_refl _)
            rw [Scheduler.eq_of_new_eq_ok new]
            exact (World.isDrained_eq_false_of_idle idle).symm
        · exact before.flag number draining shown
  | added idle added =>
      obtain ⟨scheduler, -, -, rfl⟩ := World.add?_eq_some added
      refine before.update (by simp) fun number => ?_
      rw [World.flag?_emit]
      exact World.flag?_modifyScheduler _ _ _ fun _ _ => rfl
  | spawned world number coroutine layers =>
      exact before.update (by simp) (by simp)
  | dropped idle =>
      exact before.removal idle rfl fun other => World.scheduler?_drop ..
  | consumed idle =>
      exact
        before.removal idle rfl fun other => World.scheduler?_consume ..
  | replied asking answered =>
      rcases World.answer_zero_cases answered with
        ⟨number, job, -, rfl⟩ | ⟨-, slots, frames⟩
      · exact before.update (by simp) (by simp)
      · refine before.update frames fun number => ?_
        simp [World.flag?, World.scheduler?, slots]
  | stepRefused asking refused =>
      exact before.update rfl fun _ => rfl
  | drainRefused asking refused =>
      exact before.update rfl fun _ => rfl
  | stepEntered asking idle alive =>
      exact before.enter idle alive rfl (by simp)
  | drainEntered asking idle alive =>
      exact before.enter idle alive rfl (by simp)
  | idled empty =>
      exact before.update rfl fun _ => rfl
  | @began world frame layers task rest next =>
      obtain ⟨scheduler, found, dequeued⟩ :=
        Option.bind_eq_some_iff.mp next
      refine before.update (by simp) fun number => ?_
      have unchanged : rest.draining = scheduler.draining := by
        rw [(Scheduler.dequeue?_eq_some dequeued).2]
      simp only [World.started, World.flag?_emitResumption]
      apply World.flag?_modifyScheduler
      intro other found'
      rw [found] at found'
      cases found'
      exact unchanged
  | ended world frame config task coroutine result layers =>
      exact before.update (by simp) (by simp)
  | stepLeft asking =>
      exact before.leave coherent rfl (by simp)
  | drainContinued world number ready turn layers =>
      exact before.update rfl fun _ => rfl
  | drainLeft asking =>
      exact before.leave coherent (by simp) (by simp)
  | drainUnwound asking =>
      exact before.leave coherent (by simp) (by simp)

/-- Paths keep flags right. -/
theorem Path.flagged
    {launch : κ → Coroutine κ α ε}
    {initial final : Moment κ α ε}
    {trace : Trace κ α ε}
    (path : Path launch initial trace final)
    (coherent : initial.Coherent)
    (before : initial.Flagged) :
    final.Flagged := by
  induction path with
  | nil => exact before
  | snoc earlier move inductionHypothesis =>
      exact move.flagged (earlier.coherent coherent) inductionHypothesis

/-- Throughout a run the flags agree with the drives under way. -/
theorem Run.flagged
    {launch : κ → Coroutine κ α ε}
    {trace : Trace κ α ε}
    {moment : Moment κ α ε}
    (run : Run launch trace moment) :
    moment.Flagged := by
  refine run.keeps (fun _ moment => moment.Flagged) ?_ ?_
  · intro world slots frames
    refine ⟨?_, ?_⟩
    · simp [frames]
    · intro number draining shown
      simp [World.flag?, World.scheduler?, slots] at shown
  · intro trace last moment moment' earlier flagged move
    exact move.flagged earlier.tracked.coherent flagged

end RoundRobin
