import RoundRobin.Proofs.Run.Basic

namespace RoundRobin

/-!
# The life of one scheduler

However many schedulers there are and however their drives nest, each of them
sees only a few things happen to itself: it is made, tasks are added to it, a
task is taken out of its queue, the result of a resumption comes in, and its
draining flag is set or cleared. `Life` is the sequence of these. The main
result, `Run.life`, projects a run onto each scheduler: what a run does to a
scheduler is a life of it.
-/

/-- A change of one scheduler and of the task of it that is being resumed. -/
inductive Step :
    Scheduler κ α ε →
    Option (Task κ α ε) →
    History κ α ε →
    Scheduler κ α ε →
    Option (Task κ α ε) →
    Prop where
  | still
      (scheduler : Scheduler κ α ε)
      (running : Option (Task κ α ε)) :
      Step scheduler running [] scheduler running
  | added
      (scheduler : Scheduler κ α ε)
      (running : Option (Task κ α ε))
      (coroutine : Coroutine κ α ε) :
      Step scheduler running
        [.added (scheduler.enqueue coroutine).2 coroutine]
        (scheduler.enqueue coroutine).1 running
  /-- The next ready task is taken out of the queue to be resumed. -/
  | began
      {scheduler rest : Scheduler κ α ε}
      {task : Task κ α ε}
      (next : scheduler.dequeue? = some (task, rest)) :
      Step scheduler none [.began task.id] rest (some task)
  | ended
      (scheduler : Scheduler κ α ε)
      {task : Task κ α ε}
      {coroutine : Coroutine κ α ε}
      {result : Guarded (Outcome α ε)}
      (ends : task.coroutine.resume.Ends (coroutine, result)) :
      Step scheduler (some task) [.ended task.id result]
        (scheduler.conclude task coroutine result) none
  | flagged
      (scheduler : Scheduler κ α ε)
      (running : Option (Task κ α ε))
      (draining : Bool) :
      Step scheduler running []
        { scheduler with draining := draining } running

/--
What can have happened to a scheduler up to the state it is in, and the task of
it that is being resumed.
-/
inductive Life :
    History κ α ε →
    Scheduler κ α ε →
    Option (Task κ α ε) →
    Prop where
  | made
      {config : SchedulerConfig}
      {scheduler : Scheduler κ α ε}
      (made : Scheduler.new config = .ok scheduler) :
      Life [] scheduler none
  | step
      {history last : History κ α ε}
      {scheduler scheduler' : Scheduler κ α ε}
      {running running' : Option (Task κ α ε)}
      (life : Life history scheduler running)
      (step : Step scheduler running last scheduler' running') :
      Life (history ++ last) scheduler' running'

/-- The task of a scheduler that the layers are resuming. -/
theorem Moment.running?_cons
    (world : World κ α ε)
    (layer : Layer κ α ε)
    (layers : List (Layer κ α ε))
    (number : Nat) :
    (Moment.mk world (layer :: layers)).running? number =
      if layer.frame.scheduler = number then layer.task?
      else (Moment.mk world layers).running? number := by
  by_cases same : layer.frame.scheduler = number <;>
    simp [running?, same]

/-- What holds of a moment of a run whatever its coroutines do. -/
structure Moment.Coherent (moment : Moment κ α ε) : Prop where
  /-- The layers are the drives that the world knows of. -/
  frames :
    moment.world.frames = moment.layers.map Layer.frame
  /-- No scheduler is driven twice. -/
  distinct :
    (moment.world.frames.map Frame.scheduler).Nodup
  /-- Only schedulers that have been made are driven. -/
  known :
    ∀ frame ∈ moment.world.frames,
      frame.scheduler < moment.world.slots.length
  /-- What is left of a resumption ends as the resumption of its task can. -/
  residue :
    ∀ layer ∈ moment.layers,
    ∀ resumption,
      layer.phase = .during resumption →
      ∀ result,
        resumption.activity.Ends result →
        resumption.task.coroutine.resume.Ends result

namespace Asking

/-- A reply starts and ends no resumption. -/
theorem running?
    {layers : List (Layer κ α ε)}
    {request : Request κ}
    {next : request.Reply → List (Layer κ α ε)}
    (asking : Asking layers request next)
    (reply : request.Reply)
    (world world' : World κ α ε)
    (number : Nat) :
    (Moment.mk world' (next reply)).running? number =
      (Moment.mk world layers).running? number := by
  cases asking with
  | host => rfl
  | task =>
      simp only [Moment.running?_cons, Layer.task?]
      rfl

end Asking

namespace Moment.Coherent

/-- A world in which nothing is being driven is coherent without layers. -/
theorem of_idle
    {world : World κ α ε}
    (frames : world.frames = []) :
    Coherent ⟨world, []⟩ := by
  refine ⟨frames, ?_, ?_, ?_⟩
  · simp [frames]
  · simp [frames]
  · simp

/-- Without layers nothing is being driven. -/
theorem idle
    {world : World κ α ε}
    (coherent : Coherent ⟨world, []⟩)
    (number : Nat) :
    world.isDriven number = false := by
  have frames : world.frames = [] := coherent.frames
  simp [World.isDriven, frames]

/-- A change of the world that leaves its drives alone keeps a moment coherent. -/
theorem update
    {world world' : World κ α ε}
    {layers : List (Layer κ α ε)}
    (coherent : Coherent ⟨world, layers⟩)
    (frames : world'.frames = world.frames)
    (slots : world.slots.length ≤ world'.slots.length) :
    Coherent ⟨world', layers⟩ := by
  refine
    ⟨frames.trans coherent.frames, ?_, ?_, coherent.residue⟩
  · rw [frames]
    exact coherent.distinct
  · intro frame member
    rw [frames] at member
    exact Nat.lt_of_lt_of_le (coherent.known frame member) slots

/-- The innermost drive may come to any phase that fits its task. -/
theorem rephase
    {world : World κ α ε}
    {frame : Frame}
    {phase : Phase κ α ε}
    {layers : List (Layer κ α ε)}
    (coherent : Coherent ⟨world, ⟨frame, phase⟩ :: layers⟩)
    (phase' : Phase κ α ε)
    (residue :
      ∀ resumption,
        phase' = .during resumption →
        ∀ result,
          resumption.activity.Ends result →
          resumption.task.coroutine.resume.Ends result) :
    Coherent ⟨world, ⟨frame, phase'⟩ :: layers⟩ := by
  refine
    ⟨coherent.frames, coherent.distinct, coherent.known, ?_⟩
  intro layer member
  rcases List.mem_cons.mp member with isHead | inRest
  · subst layer
    exact residue
  · exact coherent.residue layer (List.mem_cons_of_mem _ inRest)

/-- What has not been made is not driven. -/
theorem isDriven_eq_false
    {world : World κ α ε}
    {layers : List (Layer κ α ε)}
    (coherent : Coherent ⟨world, layers⟩)
    {number : Nat}
    (unmade : world.slots.length ≤ number) :
    world.isDriven number = false := by
  simp only [World.isDriven, List.any_eq_false, beq_iff_eq]
  intro frame member
  have made : frame.scheduler < world.slots.length :=
    coherent.known frame member
  exact Nat.ne_of_lt (Nat.lt_of_lt_of_le made unmade)

/-- A reply keeps a moment coherent. -/
theorem reply
    {world : World κ α ε}
    {layers : List (Layer κ α ε)}
    {request : Request κ}
    {next : request.Reply → List (Layer κ α ε)}
    (coherent : Coherent ⟨world, layers⟩)
    (asking : Asking layers request next)
    (reply : request.Reply) :
    Coherent ⟨world, next reply⟩ := by
  cases asking with
  | host => exact coherent
  | task =>
      apply coherent.rephase
      intro resumption during result ends
      cases during
      exact
        coherent.residue _ List.mem_cons_self _ rfl result
          (.ask reply ends)

/-- An undriven scheduler that is alive may be driven. -/
theorem enter
    {world : World κ α ε}
    {layers : List (Layer κ α ε)}
    {scheduler : Scheduler κ α ε}
    (coherent : Coherent ⟨world, layers⟩)
    (frame : Frame)
    (idle : world.isDriven frame.scheduler = false)
    (alive : world.scheduler? frame.scheduler = some scheduler) :
    Coherent ⟨world.enter frame, ⟨frame, .before⟩ :: layers⟩ := by
  refine ⟨?_, ?_, ?_, ?_⟩
  · exact congrArg (List.cons frame) coherent.frames
  · have fresh :
        frame.scheduler ∉ world.frames.map Frame.scheduler := by
      simpa [World.isDriven] using idle
    exact List.nodup_cons.mpr ⟨fresh, coherent.distinct⟩
  · intro other member
    rcases List.mem_cons.mp member with isHead | inRest
    · subst other
      exact World.lt_length_slots alive
    · exact coherent.known other inRest
  · intro layer member
    rcases List.mem_cons.mp member with isHead | inRest
    · subst layer
      intro resumption during
      cases during
    · exact coherent.residue layer inRest

/-- The innermost drive may be left. -/
theorem leave
    {world : World κ α ε}
    {layer : Layer κ α ε}
    {layers : List (Layer κ α ε)}
    (coherent : Coherent ⟨world, layer :: layers⟩) :
    Coherent ⟨world.leave, layers⟩ where
  frames :=
    congrArg List.tail coherent.frames
  distinct := by
    rw [World.frames_leave, List.map_tail]
    exact coherent.distinct.tail
  known frame member :=
    coherent.known frame (List.mem_of_mem_tail member)
  residue inner member :=
    coherent.residue inner (List.mem_cons_of_mem _ member)

/-- No task is being resumed of a scheduler that is not driven. -/
theorem running?_eq_none
    {world : World κ α ε}
    {layers : List (Layer κ α ε)}
    (coherent : Coherent ⟨world, layers⟩)
    {number : Nat}
    (idle : world.isDriven number = false)
    (world' : World κ α ε) :
    (Moment.mk world' layers).running? number = none := by
  have absent :
      (layers.find? fun layer => layer.frame.scheduler = number) =
        none := by
    rw [List.find?_eq_none]
    intro layer member same
    have driven : layer.frame ∈ world.frames := by
      rw [coherent.frames]
      exact List.mem_map_of_mem member
    simp only [World.isDriven, List.any_eq_false, beq_iff_eq] at idle
    exact idle layer.frame driven (by simpa using same)
  simp [running?, absent]

/-- Entering a drive resumes no task yet. -/
theorem running?_enter
    {world : World κ α ε}
    {layers : List (Layer κ α ε)}
    (coherent : Coherent ⟨world, layers⟩)
    {frame : Frame}
    (idle : world.isDriven frame.scheduler = false)
    (world' : World κ α ε)
    (number : Nat) :
    (Moment.mk world' (⟨frame, .before⟩ :: layers)).running? number =
      (Moment.mk world layers).running? number := by
  rw [running?_cons]
  by_cases same : frame.scheduler = number
  · subst same
    simp [coherent.running?_eq_none idle, Layer.task?]
  · simp only [same, ↓reduceIte]
    rfl

/-- Leaving a drive whose turn is over ends no resumption. -/
theorem running?_leave
    {world : World κ α ε}
    {frame : Frame}
    {result : Guarded (Option Turn)}
    {layers : List (Layer κ α ε)}
    (coherent : Coherent ⟨world, ⟨frame, .after result⟩ :: layers⟩)
    (world' : World κ α ε)
    (number : Nat) :
    (Moment.mk world' layers).running? number =
      (Moment.mk world (⟨frame, .after result⟩ :: layers)).running?
        number := by
  rw [running?_cons]
  by_cases same : frame.scheduler = number
  · subst same
    have frames : world.frames = frame :: layers.map Layer.frame :=
      coherent.frames
    have distinct : (world.frames.map Frame.scheduler).Nodup :=
      coherent.distinct
    have idle : world.leave.isDriven frame.scheduler = false := by
      rw [frames] at distinct
      simpa [World.isDriven, frames] using
        (List.nodup_cons.mp distinct).1
    simp [coherent.leave.running?_eq_none idle, Layer.task?]
  · simp only [same, ↓reduceIte]
    rfl

end Moment.Coherent

/-- Adding a task through a spawner is a step of every scheduler. -/
theorem World.spawn_step
    {world : World κ α ε}
    {addressed number : Nat}
    {coroutine : Coroutine κ α ε}
    {scheduler' : Scheduler κ α ε}
    (alive :
      (world.spawn addressed coroutine).1.scheduler? number =
        some scheduler')
    (running : Option (Task κ α ε)) :
    ∃ scheduler,
      world.scheduler? number = some scheduler ∧
        Step scheduler running
          ((world.spawnTrace addressed coroutine).about number)
          scheduler' running := by
  rw [World.scheduler?_spawn] at alive
  unfold World.spawnTrace
  by_cases same : addressed = number
  · subst same
    simp only [↓reduceIte, Option.map_eq_some_iff] at alive
    obtain ⟨scheduler, found, rfl⟩ := alive
    refine ⟨scheduler, found, ?_⟩
    simpa [found] using .added scheduler running coroutine
  · simp only [same, ↓reduceIte] at alive
    refine ⟨scheduler', alive, ?_⟩
    cases world.scheduler? addressed with
    | none => exact .still _ _
    | some other => simpa [same] using .still scheduler' running

/-- Setting or clearing a draining flag is a step of every scheduler. -/
theorem World.setDraining_step
    {world : World κ α ε}
    {changed number : Nat}
    {draining : Bool}
    {scheduler' : Scheduler κ α ε}
    (alive :
      (world.setDraining changed draining).scheduler? number =
        some scheduler')
    (running : Option (Task κ α ε)) :
    ∃ scheduler,
      world.scheduler? number = some scheduler ∧
        Step scheduler running [] scheduler' running := by
  rw [World.scheduler?_setDraining] at alive
  by_cases same : changed = number
  · simp only [same, ↓reduceIte, Option.map_eq_some_iff] at alive
    obtain ⟨scheduler, found, rfl⟩ := alive
    exact ⟨scheduler, found, .flagged scheduler running draining⟩
  · simp only [same, ↓reduceIte] at alive
    exact ⟨scheduler', alive, .still scheduler' running⟩

namespace Move

/-- Every move keeps a moment coherent. -/
theorem coherent
    {launch : κ → Coroutine κ α ε}
    {moment moment' : Moment κ α ε}
    {trace : Trace κ α ε}
    (move : Move launch moment trace moment')
    (before : moment.Coherent) :
    moment'.Coherent := by
  cases move with
  | opened opened =>
      obtain ⟨scheduler, -, -, rfl⟩ := World.openScheduler_eq_ok opened
      exact before.update rfl (by simp)
  | added idle added =>
      obtain ⟨scheduler, -, -, rfl⟩ := World.add?_eq_some added
      exact before.update (by simp) (by simp)
  | spawned world number coroutine layers =>
      exact before.update (by simp) (by simp)
  | dropped idle =>
      exact before.update rfl (by simp [World.drop, World.modifySlot])
  | consumed idle =>
      exact before.update rfl (by simp [World.consume, World.modifySlot])
  | replied asking answered =>
      refine Moment.Coherent.reply (before.update ?_ ?_) asking _
      all_goals
        rcases World.answer_zero_cases answered with
          ⟨number, job, -, rfl⟩ | ⟨-, slots, frames⟩
      · simp
      · exact frames
      · simp
      · simp [slots]
  | stepRefused asking refused =>
      exact before.reply asking _
  | drainRefused asking refused =>
      exact before.reply asking _
  | stepEntered asking idle alive =>
      exact before.enter _ idle alive
  | drainEntered asking idle alive =>
      exact (before.enter _ idle alive).update (by simp) (by simp)
  | idled empty =>
      exact before.rephase _ (by simp)
  | began next =>
      refine (before.rephase _ ?_).update (by simp) (by simp)
      intro resumption during result ends
      cases during
      exact ends
  | ended world frame config task coroutine result layers =>
      exact (before.rephase _ (by simp)).update (by simp) (by simp)
  | stepLeft asking =>
      exact before.leave.reply asking _
  | drainContinued world number ready turn layers =>
      exact before.rephase _ (by simp)
  | drainLeft asking =>
      refine Moment.Coherent.reply ?_ asking _
      exact (before.update (by simp) (by simp)).leave
  | drainUnwound asking =>
      refine Moment.Coherent.reply ?_ asking _
      exact (before.update (by simp) (by simp)).leave

/--
What a move does to a scheduler that is alive after it: the scheduler takes a
step of its own life, or it has just been made.
-/
theorem step
    {launch : κ → Coroutine κ α ε}
    {moment moment' : Moment κ α ε}
    {trace : Trace κ α ε}
    (move : Move launch moment trace moment')
    (before : moment.Coherent)
    {number : Nat}
    {scheduler' : Scheduler κ α ε}
    (alive : moment'.world.scheduler? number = some scheduler') :
    (∃ scheduler,
      moment.world.scheduler? number = some scheduler ∧
        Step scheduler (moment.running? number) (trace.about number)
          scheduler' (moment'.running? number)) ∨
      (∃ config,
        Scheduler.new config = .ok scheduler' ∧
          moment.world.slots.length = number ∧
          trace = [] ∧
          moment'.running? number = none) := by
  cases move with
  | @opened world world' config made layers opened =>
      obtain ⟨fresh, new, rfl, rfl⟩ := World.openScheduler_eq_ok opened
      rw [World.scheduler?_append_slot] at alive
      split at alive
      · next same =>
          subst same
          cases alive
          have idle : world.isDriven world.slots.length = false :=
            before.isDriven_eq_false (Nat.le_refl _)
          exact
            .inr
              ⟨config, new, rfl, rfl,
                before.running?_eq_none idle _⟩
      · exact .inl ⟨scheduler', alive, .still _ _⟩
  | @added world world' addressed coroutine id layers idle added =>
      obtain ⟨scheduler, found, rfl, rfl⟩ := World.add?_eq_some added
      rw [World.scheduler?_emit, World.scheduler?_modifyScheduler]
        at alive
      rw [Trace.about_singleton]
      by_cases same : addressed = number
      · subst same
        simp only [found, Option.map_some, ↓reduceIte,
          Option.some.injEq] at alive ⊢
        subst alive
        exact .inl ⟨scheduler, rfl, .added _ _ _⟩
      · simp only [same, ↓reduceIte] at alive ⊢
        exact .inl ⟨scheduler', alive, .still _ _⟩
  | spawned world addressed coroutine layers =>
      exact .inl (World.spawn_step alive _)
  | @dropped world dropped layers idle =>
      rw [World.scheduler?_drop] at alive
      split at alive
      · cases alive
      · exact .inl ⟨scheduler', alive, .still _ _⟩
  | @consumed world consumed layers idle =>
      rw [World.scheduler?_consume] at alive
      split at alive
      · cases alive
      · exact .inl ⟨scheduler', alive, .still _ _⟩
  | @replied world world' layers request next reply asking answered =>
      left
      rw [asking.running? reply world]
      rcases World.answer_zero_cases answered with
        ⟨addressed, job, rfl, rfl⟩ | ⟨noSpawn, slots, -⟩
      · exact World.spawn_step alive _
      · have unchanged :
            world'.scheduler? number = world.scheduler? number := by
          simp [World.scheduler?, slots]
        rw [World.requestTrace_eq_nil launch world noSpawn]
        exact ⟨scheduler', unchanged ▸ alive, .still _ _⟩
  | stepRefused asking refused =>
      rw [asking.running?]
      exact .inl ⟨scheduler', alive, .still _ _⟩
  | drainRefused asking refused =>
      rw [asking.running?]
      exact .inl ⟨scheduler', alive, .still _ _⟩
  | stepEntered asking idle found =>
      rw [before.running?_enter idle]
      exact .inl ⟨scheduler', alive, .still _ _⟩
  | drainEntered asking idle found =>
      rw [before.running?_enter idle]
      exact .inl (World.setDraining_step alive _)
  | @idled world frame layers empty =>
      refine .inl ⟨scheduler', alive, ?_⟩
      simp only [Moment.running?_cons, Layer.task?]
      exact .still _ _
  | @began world frame layers task rest next =>
      obtain ⟨scheduler, found, dequeued⟩ :=
        Option.bind_eq_some_iff.mp next
      rw [World.scheduler?_started] at alive
      rw [Trace.about_singleton]
      simp only [Moment.running?_cons, Layer.task?]
      by_cases same : frame.scheduler = number
      · subst same
        simp only [found, Option.map_some, ↓reduceIte,
          Option.some.injEq] at alive ⊢
        subst alive
        exact .inl ⟨scheduler, rfl, .began dequeued⟩
      · simp only [same, ↓reduceIte] at alive ⊢
        exact .inl ⟨scheduler', alive, .still _ _⟩
  | ended world frame config task coroutine result layers =>
      have ends : task.coroutine.resume.Ends (coroutine, result) :=
        before.residue _ List.mem_cons_self _ rfl _ (.done _)
      rw [World.scheduler?_conclude] at alive
      rw [Trace.about_singleton]
      simp only [Moment.running?_cons, Layer.task?]
      by_cases same : frame.scheduler = number
      · subst same
        simp only [↓reduceIte, Option.map_eq_some_iff] at alive ⊢
        obtain ⟨scheduler, found, rfl⟩ := alive
        exact .inl ⟨scheduler, found, .ended scheduler ends⟩
      · simp only [same, ↓reduceIte] at alive ⊢
        exact .inl ⟨scheduler', alive, .still _ _⟩
  | @stepLeft world layers left result next asking =>
      rw [asking.running? _ world, before.running?_leave world]
      exact .inl ⟨scheduler', alive, .still _ _⟩
  | drainContinued world drained ready turn layers =>
      refine .inl ⟨scheduler', alive, ?_⟩
      simp only [Moment.running?_cons, Layer.task?]
      exact .still _ _
  | @drainLeft world layers left ready next asking =>
      rw [asking.running? _ world, before.running?_leave world]
      rw [World.scheduler?_leave, World.scheduler?_emitDrained] at alive
      exact .inl (World.setDraining_step alive _)
  | @drainUnwound world layers left ready panic next asking =>
      rw [asking.running? _ world, before.running?_leave world]
      rw [World.scheduler?_leave] at alive
      exact .inl (World.setDraining_step alive _)

/-- Slots are never taken away. -/
theorem length_slots_le
    {launch : κ → Coroutine κ α ε}
    {moment moment' : Moment κ α ε}
    {trace : Trace κ α ε}
    (move : Move launch moment trace moment') :
    moment.world.slots.length ≤ moment'.world.slots.length := by
  cases move with
  | opened opened =>
      obtain ⟨scheduler, -, -, rfl⟩ := World.openScheduler_eq_ok opened
      simp
  | added idle added =>
      obtain ⟨scheduler, -, -, rfl⟩ := World.add?_eq_some added
      simp
  | dropped idle => simp [World.drop, World.modifySlot]
  | consumed idle => simp [World.consume, World.modifySlot]
  | replied asking answered =>
      rcases World.answer_zero_cases answered with
        ⟨number, job, -, rfl⟩ | ⟨-, slots, -⟩
      · simp
      · simp [slots]
  | _ => simp

/-- Only live schedulers are affected by a move. -/
theorem about_eq_nil
    {launch : κ → Coroutine κ α ε}
    {moment moment' : Moment κ α ε}
    {trace : Trace κ α ε}
    (move : Move launch moment trace moment')
    (before : moment.Coherent)
    {number : Nat}
    (absent : moment.world.scheduler? number = none)
    (idle : moment.world.isDriven number = false) :
    trace.about number = [] := by
  have apart
      {affected : Nat}
      {scheduler : Scheduler κ α ε}
      (alive : moment.world.scheduler? affected = some scheduler)
      (happening : Happening κ α ε) :
      Trace.about [(affected, happening)] number = [] := by
    have different : affected ≠ number := by
      rintro rfl
      rw [absent] at alive
      cases alive
    simp [different]
  have spawnTrace
      (addressed : Nat)
      (coroutine : Coroutine κ α ε) :
      (moment.world.spawnTrace addressed coroutine).about number =
        [] := by
    unfold World.spawnTrace
    cases found : moment.world.scheduler? addressed with
    | none => rfl
    | some scheduler => exact apart found _
  cases move with
  | added idle added =>
      obtain ⟨scheduler, found, -, -⟩ := World.add?_eq_some added
      exact apart found _
  | spawned world addressed coroutine layers =>
      exact spawnTrace addressed coroutine
  | @replied _ _ _ request =>
      cases request with
      | spawn addressed job => exact spawnTrace addressed (launch job)
      | _ => rfl
  | began next =>
      obtain ⟨scheduler, found, -⟩ := Option.bind_eq_some_iff.mp next
      exact apart found _
  | ended world frame config task coroutine result layers =>
      have driven : frame ∈ world.frames := by
        rw [before.frames]
        exact List.mem_cons_self
      have different := World.ne_of_isDriven_eq_false idle driven
      simp [different]
  | _ => rfl

end Move

namespace Path

variable
  {launch : κ → Coroutine κ α ε}
  {initial final : Moment κ α ε}
  {trace : Trace κ α ε}

/-- Paths keep moments coherent. -/
theorem coherent
    (path : Path launch initial trace final)
    (before : initial.Coherent) :
    final.Coherent := by
  induction path with
  | nil => exact before
  | snoc _ move inductionHypothesis =>
      exact move.coherent inductionHypothesis

theorem length_slots_le (path : Path launch initial trace final) :
    initial.world.slots.length ≤ final.world.slots.length := by
  induction path with
  | nil => exact Nat.le_refl _
  | snoc _ move inductionHypothesis =>
      exact Nat.le_trans inductionHypothesis move.length_slots_le

end Path

/-- What is known of a moment that a run has reached. -/
structure Tracked
    (trace : Trace κ α ε)
    (moment : Moment κ α ε) :
    Prop where
  coherent : moment.Coherent
  /-- Nothing has happened to what has not been made. -/
  unmade :
    ∀ number,
      moment.world.slots.length ≤ number →
      trace.about number = []
  /-- Each live scheduler lives what the trace says about it. -/
  lives :
    ∀ number scheduler,
      moment.world.scheduler? number = some scheduler →
      Life (trace.about number) scheduler (moment.running? number)

/-- Moves go on tracking. -/
theorem Tracked.move
    {launch : κ → Coroutine κ α ε}
    {moment moment' : Moment κ α ε}
    {trace last : Trace κ α ε}
    (tracked : Tracked trace moment)
    (move : Move launch moment last moment') :
    Tracked (trace ++ last) moment' where
  coherent :=
    move.coherent tracked.coherent
  unmade number beyond := by
    have before : moment.world.slots.length ≤ number :=
      Nat.le_trans move.length_slots_le beyond
    have absent : moment.world.scheduler? number = none := by
      simp [World.scheduler?, List.getElem?_eq_none before]
    have idle : moment.world.isDriven number = false :=
      tracked.coherent.isDriven_eq_false before
    rw [Trace.about_append, tracked.unmade number before,
      move.about_eq_nil tracked.coherent absent idle]
    rfl
  lives number scheduler' alive := by
    rw [Trace.about_append]
    rcases move.step tracked.coherent alive with
      ⟨scheduler, found, step⟩ | ⟨config, made, rfl, rfl, resting⟩
    · exact .step (tracked.lives number scheduler found) step
    · rw [tracked.unmade _ (Nat.le_refl _), resting]
      exact .made made

namespace Run

/-- A run keeps track of every scheduler. -/
theorem tracked
    {launch : κ → Coroutine κ α ε}
    {trace : Trace κ α ε}
    {moment : Moment κ α ε}
    (run : Run launch trace moment) :
    Tracked trace moment := by
  refine run.keeps Tracked ?_ ?_
  · intro world slots frames
    refine ⟨.of_idle frames, fun _ _ => rfl, ?_⟩
    intro number scheduler alive
    simp [World.scheduler?, slots] at alive
  · intro trace last moment moment' _ tracked move
    exact tracked.move move

/-- What a run does to a live scheduler is a life of that scheduler. -/
theorem life
    {launch : κ → Coroutine κ α ε}
    {trace : Trace κ α ε}
    {moment : Moment κ α ε}
    (run : Run launch trace moment)
    {number : Nat}
    {scheduler : Scheduler κ α ε}
    (alive : moment.world.scheduler? number = some scheduler) :
    Life (trace.about number) scheduler (moment.running? number) :=
  run.tracked.lives number scheduler alive

end Run

end RoundRobin
