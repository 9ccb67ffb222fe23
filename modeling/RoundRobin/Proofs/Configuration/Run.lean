import RoundRobin.Proofs.Configuration.Program
import RoundRobin.Proofs.Run.Configured
import RoundRobin.Workload

namespace RoundRobin

/-!
# Settings do not influence what happens

Two runs of a program that differ in the settings of schedulers give the same
result and leave the same to be seen. This also holds of every moment of a run,
whoever owns the schedulers. The logs differ in the events that depend on
settings, and in nothing else.
-/

/-- Worlds in which the same is seen, but for settings and the events that depend on them. -/
structure World.Indistinct (world world' : World κ α ε) : Prop where
  made : world'.slots.length = world.slots.length
  views :
    ∀ number,
      (world'.scheduler? number).map Scheduler.view =
        (world.scheduler? number).map Scheduler.view
  kept : ∀ number, world'.kept? number = world.kept? number
  frames : world'.frames = world.frames
  observations : world'.observations = world.observations
  readings : world'.readings = world.readings
  log :
    (world'.log.toList.filter fun entry => entry.event.unconditional) =
      world.log.toList.filter fun entry => entry.event.unconditional

namespace Reconfigured

variable
  {pairs : SchedulerConfig → SchedulerConfig → Prop}
  {world world' : World κ α ε}

/-- Runs start in worlds without schedulers that have logged nothing. -/
theorem start
    (pairs : SchedulerConfig → SchedulerConfig → Prop)
    (slots : world.slots = [])
    (blank : world.log = #[]) :
    Reconfigured pairs world world := by
  refine ⟨?_, fun _ => ?_⟩
  · have nothing :
        List.Forall₂ (Likeness.reconfigured pairs).Slots world.slots
          world.slots := by
      rw [slots]
      exact .nil
    exact .mk nothing rfl
  · intro entry member
    simp [blank] at member

theorem indistinct (reconfigured : Reconfigured pairs world world') :
    world.Indistinct world' := by
  have worlds := reconfigured.worlds
  refine
    ⟨worlds.length_slots, reconfigured.view, reconfigured.kept,
      worlds.frames, ?_, ?_, worlds.entries_eq.symm⟩
  · cases worlds
    rfl
  · cases worlds
    rfl

/-- If the second world logs no resumption, its log is the first without them. -/
theorem log_eq
    (reconfigured : Reconfigured pairs world world')
    (silent :
      ∀ config config',
        pairs config config' →
        config'.logResumptions = false) :
    world'.log.toList =
      world.log.toList.filter fun entry => entry.event.unconditional := by
  have quiet := reconfigured.quiet silent
  have whole :
      (world'.log.toList.filter fun entry =>
          entry.event.unconditional) =
        world'.log.toList := by
    rw [List.filter_eq_self]
    intro entry member
    exact quiet entry (Array.mem_toList_iff.mp member)
  exact whole.symm.trans reconfigured.indistinct.log

end Reconfigured

/-- A move logs no resumption if no settings ask for it. -/
theorem Move.quiet
    {launch : κ → Coroutine κ α ε}
    {moment moment' : Moment κ α ε}
    {trace : Trace κ α ε}
    (move : Move launch moment trace moment')
    (silent :
      moment.Configured fun config => config.logResumptions = false)
    (quiet : moment.world.Quiet) :
    moment'.world.Quiet := by
  cases move with
  | opened opened =>
      obtain ⟨scheduler, -, -, rfl⟩ := World.openScheduler_eq_ok opened
      exact quiet
  | @added world _ number _ _ layers idle added =>
      obtain ⟨scheduler, -, -, rfl⟩ := World.add?_eq_some added
      exact (quiet.modifyScheduler number _).emit rfl
  | spawned world number coroutine layers =>
      exact quiet.spawn number coroutine
  | replied asking answered =>
      exact quiet.answer answered
  | began next =>
      exact quiet.started _ (silent.next next) _
  | ended world frame config task coroutine result layers =>
      have logs := silent.resumptions config List.mem_cons_self
      exact quiet.conclude _ logs task coroutine result
  | drainLeft asking =>
      exact (quiet.modifyScheduler _ _).emitDrained _
  | _ => exact quiet

/-- The same that happens in both is the same trace. -/
theorem Likeness.trace_eq
    {pairs : SchedulerConfig → SchedulerConfig → Prop}
    {trace trace' : Trace κ α ε}
    (traces : (Likeness.reconfigured pairs).Traces trace trace') :
    trace' = trace := by
  induction traces with
  | nil => rfl
  | @cons entry entry' _ _ same _ inductionHypothesis =>
      obtain ⟨number, happening⟩ := entry
      obtain ⟨number', happening'⟩ := entry'
      rcases same with ⟨rfl, ⟨rfl⟩ | _ | _⟩ <;> rw [inductionHypothesis]

/-- Drives that are like each other but for settings resume the same task. -/
theorem Likeness.layer_eq
    {pairs : SchedulerConfig → SchedulerConfig → Prop}
    {layer layer' : Layer κ α ε}
    (layers : (Likeness.reconfigured pairs).Layers layer layer') :
    layer'.frame = layer.frame ∧ layer'.task? = layer.task? := by
  rcases layers with ⟨_ | ⟨configs, tasks, activities⟩ | _⟩
  · exact ⟨rfl, rfl⟩
  · exact ⟨rfl, congrArg some (Likeness.eq_of_reconfigured tasks)⟩
  · exact ⟨rfl, rfl⟩

/-- In moments that are like each other but for settings the same tasks are resumed. -/
theorem Likeness.running?_eq
    {pairs : SchedulerConfig → SchedulerConfig → Prop}
    {moment moment' : Moment κ α ε}
    (moments : (Likeness.reconfigured pairs).Moments moment moment')
    (number : Nat) :
    moment'.running? number = moment.running? number := by
  obtain ⟨world, layers⟩ := moment
  obtain ⟨world', layers'⟩ := moment'
  obtain ⟨-, layerwise⟩ := moments
  dsimp only at layerwise
  induction layerwise with
  | nil => rfl
  | cons head _ inductionHypothesis =>
      obtain ⟨frame, task⟩ := Likeness.layer_eq head
      rw [Moment.running?_cons, Moment.running?_cons, frame, task,
        inductionHypothesis]

/-- The settings in the second moment are those that are paired with some. -/
theorem Likeness.configured
    {pairs : SchedulerConfig → SchedulerConfig → Prop}
    {moment moment' : Moment κ α ε}
    (moments : (Likeness.reconfigured pairs).Moments moment moment')
    {allowed : SchedulerConfig → Prop}
    (allows : ∀ config config', pairs config config' → allowed config') :
    moment'.Configured allowed := by
  obtain ⟨world, layers⟩ := moment
  obtain ⟨world', layers'⟩ := moment'
  obtain ⟨worlds, layerwise⟩ := moments
  dsimp only at worlds layerwise
  refine ⟨?_, ?_⟩
  · intro number scheduler' alive'
    rcases worlds.scheduler?_cases number with
      ⟨-, absent'⟩ | ⟨scheduler, _, -, found', schedulers⟩
    · rw [absent'] at alive'
      cases alive'
    · rw [found'] at alive'
      cases alive'
      exact allows _ _ schedulers.configs
  · induction layerwise with
    | nil => simp
    | cons head _ inductionHypothesis =>
        rcases head with ⟨_ | ⟨configs, tasks, activities⟩ | _⟩
        · exact inductionHypothesis
        · intro config' member
          rcases List.mem_cons.mp member with rfl | inRest
          · exact allows _ _ configs
          · exact inductionHypothesis config' inRest
        · exact inductionHypothesis

/-- Settings may be changed if capacities that can be reserved still can. -/
theorem Likeness.between_changed
    (launch : κ → Coroutine κ α ε)
    {change : SchedulerConfig → SchedulerConfig}
    (roomy :
      ∀ config,
        config.initialCapacity * Queue.taskBytes ≤
          Queue.reservableBytes →
        (change config).initialCapacity * Queue.taskBytes ≤
          Queue.reservableBytes) :
    (Likeness.reconfigured (κ := κ) (α := α) (ε := ε)
        fun config config' => config' = change config).Between
      launch launch where
  launched _ := rfl
  made {config _} new := by
    have fits :
        config.initialCapacity * Queue.taskBytes ≤
          Queue.reservableBytes := by
      by_contra exceeds
      simp [Scheduler.new, Queue.reserved?, exceeds] at new
    have fits' := roomy config fits
    exact
      ⟨change config, { config := change config }, rfl,
        by simp [Scheduler.new, Queue.reserved?, fits']⟩

/--
Every run is matched by one in which schedulers are made with other settings:
the same happens, and the same is to be seen after every move.
-/
theorem Path.reconfigured
    {launch : κ → Coroutine κ α ε}
    {change : SchedulerConfig → SchedulerConfig}
    (roomy :
      ∀ config,
        config.initialCapacity * Queue.taskBytes ≤
          Queue.reservableBytes →
        (change config).initialCapacity * Queue.taskBytes ≤
          Queue.reservableBytes)
    {world : World κ α ε}
    (slots : world.slots = [])
    (blank : world.log = #[])
    {trace : Trace κ α ε}
    {moment : Moment κ α ε}
    (path : Path launch ⟨world, []⟩ trace moment) :
    ∃ moment',
      Path launch ⟨world, []⟩ trace moment' ∧
        (Likeness.reconfigured fun config config' =>
            config' = change config).Moments moment moment' ∧
        Reconfigured (fun config config' => config' = change config)
          moment.world moment'.world := by
  induction path with
  | nil =>
      have started :=
        Reconfigured.start
          (fun config config' => config' = change config) slots blank
      exact ⟨_, .nil _, ⟨started.worlds, .nil⟩, started⟩
  | snoc _ move inductionHypothesis =>
      obtain ⟨middle', path', moments, reconfigured⟩ :=
        inductionHypothesis
      obtain ⟨trace', reached', move', traces, reached⟩ :=
        moments.move (Likeness.between_changed launch roomy) move
          fun _ _ coroutine _ => ⟨coroutine, rfl⟩
      cases Likeness.trace_eq traces
      refine
        ⟨reached', path'.snoc move', reached, reached.worlds,
          fun silent => ?_⟩
      exact
        move'.quiet (Likeness.configured moments silent)
          (reconfigured.quiet silent)

/--
Settings do not influence what happens. A program of a host that is run twice
from the same world, with settings whose capacities can be reserved, comes to
no end in both runs or gives the same result, all replies it got included, and
leaves worlds in which the same is seen. Likewise any run, whatever the owners
of its schedulers do between and amid resumptions, is matched by one under
changed settings in which the same happens and the same is seen at the end, and
so at every moment on the way. If the other settings ask for no resumption to
be logged, the log is that of the first run without the events that tell of the
beginning of a resumption or of a suspension.
-/
theorem settings_without_influence
    (launch : κ → Coroutine κ α ε)
    {world : World κ α ε}
    (slots : world.slots = [])
    (blank : world.log = #[]) :
    (∀ {σ ρ : Type} {settings settings' : σ → SchedulerConfig},
      (∀ name,
        (settings name).initialCapacity * Queue.taskBytes ≤
          Queue.reservableBytes) →
      (∀ name,
        (settings' name).initialCapacity * Queue.taskBytes ≤
          Queue.reservableBytes) →
      ∀ (patience : Nat) (program : Program κ α ε σ ρ),
        (program.run launch patience settings world = none ∧
            program.run launch patience settings' world = none) ∨
          ∃ final final' result,
            program.run launch patience settings world =
                some (final, result) ∧
              program.run launch patience settings' world =
                some (final', result) ∧
              final.Indistinct final' ∧
              ((∀ name, (settings' name).logResumptions = false) →
                final'.log.toList =
                  final.log.toList.filter fun entry =>
                    entry.event.unconditional)) ∧
      ∀ {change : SchedulerConfig → SchedulerConfig},
        (∀ config,
          config.initialCapacity * Queue.taskBytes ≤
            Queue.reservableBytes →
          (change config).initialCapacity * Queue.taskBytes ≤
            Queue.reservableBytes) →
        ∀ {trace : Trace κ α ε} {moment : Moment κ α ε},
          Path launch ⟨world, []⟩ trace moment →
          ∃ moment',
            Path launch ⟨world, []⟩ trace moment' ∧
              moment.world.Indistinct moment'.world ∧
              (∀ number,
                moment'.running? number = moment.running? number) ∧
              (∀ number,
                (moment'.world.scheduler? number).map
                    Scheduler.config =
                  (moment.world.scheduler? number).map fun scheduler =>
                    change scheduler.config) ∧
              ((∀ config, (change config).logResumptions = false) →
                moment'.world.log.toList =
                  moment.world.log.toList.filter fun entry =>
                    entry.event.unconditional) := by
  refine ⟨?_, ?_⟩
  · intro σ ρ settings settings' roomy roomy' patience program
    have ran :=
      program.run_agreeing launch patience roomy roomy'
        (Reconfigured.start (Paired settings settings') slots blank)
    generalize program.run launch patience settings world = reached
      at ran ⊢
    generalize program.run launch patience settings' world = reached'
      at ran ⊢
    cases ran with
    | unfinished => exact .inl ⟨rfl, rfl⟩
    | finished reconfigured result =>
        refine
          .inr
            ⟨_, _, result, rfl, rfl, reconfigured.indistinct,
              fun silent => reconfigured.log_eq ?_⟩
        rintro _ _ ⟨name, rfl, rfl⟩
        exact silent name
  · intro change roomy trace moment path
    obtain ⟨moment', path', moments, reconfigured⟩ :=
      path.reconfigured roomy slots blank
    refine
      ⟨moment', path', reconfigured.indistinct,
        Likeness.running?_eq moments, ?_,
        fun silent => reconfigured.log_eq ?_⟩
    · intro number
      rcases reconfigured.worlds.scheduler?_cases number with
        ⟨absent, absent'⟩ | ⟨scheduler, _, found, found', schedulers⟩
      · rw [absent, absent']
        rfl
      · rw [found, found']
        exact congrArg some schedulers.configs
    · rintro config _ rfl
      exact silent config

/--
A task of one scheduler drains another, whose task panics, then suspends, and
spawns a task when it is resumed again. The host drains the first scheduler and
looks at what the second has abandoned.
-/
def Program.nestedDrain :
    Program Job Value TaskError Bool
      (Drive Unit × Option (Array TaskId)) :=
  .perform (.make false) fun _ =>
    .perform (.make true) fun _ =>
      .perform
        (.add 0
          (.script
            #[⟨[.run 1], .suspend⟩,
              ⟨[.spawn 0
                  ⟨.suspendThen (.exactly 0) (.literal (.number 7)),
                    .number 0⟩],
                .complete (.number 7)⟩]
            false))
        fun _ =>
          .perform (.add 1 (.script #[⟨[], .panic "within"⟩] false))
            fun _ =>
              .perform (.ask (.drain 0)) fun drained =>
                .perform (.view 1) fun seen? =>
                  .done (drained, seen?.map View.abandoned)

/--
With other capacities and without resumptions being logged the same comes of a
drain within a drain, and nothing else is missing in the log. Amid the first
resumption of a task the same task is being resumed.
-/
theorem settings_without_influence_on_nested_drain :
    ∃ (settings settings' : Bool → SchedulerConfig)
      (final final' : World Job Value TaskError)
      (trace : Trace Job Value TaskError)
      (moment moment' : Moment Job Value TaskError),
      Program.nestedDrain.run Job.launch 5 settings
          (World.empty (some .debug)) =
        some (final, .finished (), some #[⟨0⟩]) ∧
      Program.nestedDrain.run Job.launch 5 settings'
          (World.empty (some .debug)) =
        some (final', .finished (), some #[⟨0⟩]) ∧
      final.Indistinct final' ∧
      final.log.size = 12 ∧
      final'.log.toList =
        [⟨[], .taskAdded ⟨0⟩⟩, ⟨[], .taskAdded ⟨0⟩⟩,
          ⟨[1, 1], .taskPanicked ⟨0⟩⟩, ⟨[1], .taskSpawned ⟨1⟩⟩,
          ⟨[1], .taskCompleted ⟨0⟩ 2⟩, ⟨[1], .taskCompleted ⟨1⟩ 1⟩,
          ⟨[1], .queueDrained 2 0⟩] ∧
      Path Job.launch ⟨World.empty (some .debug), []⟩ trace moment ∧
      Path Job.launch ⟨World.empty (some .debug), []⟩ trace moment' ∧
      (moment'.running? 0).map Task.id = some ⟨0⟩ ∧
      moment.world.log.toList =
        [⟨[], .taskAdded ⟨0⟩⟩, ⟨[], .taskRunning ⟨0⟩ 1⟩] ∧
      moment'.world.log.toList = [⟨[], .taskAdded ⟨0⟩⟩] := by
  have uninfluenced :=
    settings_without_influence Job.launch
      (show (World.empty (some .debug)).slots = [] from rfl)
      (show (World.empty (some .debug)).log = #[] from rfl)
  have roomy :
      ∀ name : Bool,
        ((fun _ => {} : Bool → SchedulerConfig) name).initialCapacity *
            Queue.taskBytes ≤
          Queue.reservableBytes := by
    intro name
    cases name <;> decide
  have roomy' :
      ∀ name : Bool,
        ((fun name =>
              { initialCapacity := if name then 0 else 4096
                logResumptions := false } :
            Bool → SchedulerConfig) name).initialCapacity *
            Queue.taskBytes ≤
          Queue.reservableBytes := by
    intro name
    cases name <;> decide
  obtain ⟨final, ran, logged⟩ :
      ∃ final,
        Program.nestedDrain.run Job.launch 5 (fun _ => {})
            (World.empty (some .debug)) =
          some (final, .finished (), some #[⟨0⟩]) ∧
        final.log =
          #[⟨[], .taskAdded ⟨0⟩⟩, ⟨[], .taskAdded ⟨0⟩⟩,
            ⟨[1], .taskRunning ⟨0⟩ 1⟩, ⟨[1, 1], .taskRunning ⟨0⟩ 1⟩,
            ⟨[1, 1], .taskPanicked ⟨0⟩⟩, ⟨[1], .taskSuspended ⟨0⟩⟩,
            ⟨[1], .taskRunning ⟨0⟩ 2⟩, ⟨[1], .taskSpawned ⟨1⟩⟩,
            ⟨[1], .taskCompleted ⟨0⟩ 2⟩, ⟨[1], .taskRunning ⟨1⟩ 1⟩,
            ⟨[1], .taskCompleted ⟨1⟩ 1⟩, ⟨[1], .queueDrained 2 0⟩] :=
    ⟨_, rfl, rfl⟩
  obtain ⟨unfinished, -⟩ | ⟨_, final', _, same, ran', indistinct, log⟩ :=
    uninfluenced.1 roomy roomy' 5 Program.nestedDrain
  · rw [ran] at unfinished
    cases unfinished
  rw [ran] at same
  cases same
  have start :
      Path Job.launch ⟨World.empty (some .debug), []⟩ []
        ⟨World.empty (some .debug), []⟩ :=
    .nil _
  have opened :=
    start.snoc
      (.opened (show World.openScheduler _ {} = .ok (_, 0) from rfl))
  have added :=
    opened.snoc
      (.added rfl
        (show
          World.add? _ 0 (.suspendThen 1 (.number 7)) = some (_, ⟨0⟩)
            from rfl))
  have entered := added.snoc (.stepEntered (.host (.step 0)) rfl rfl)
  have began := entered.snoc (.began rfl)
  have roomyAgain :
      ∀ config : SchedulerConfig,
        config.initialCapacity * Queue.taskBytes ≤
          Queue.reservableBytes →
        ((fun _ => { initialCapacity := 0, logResumptions := false } :
                SchedulerConfig → SchedulerConfig)
              config).initialCapacity *
            Queue.taskBytes ≤
          Queue.reservableBytes := by
    intro config _
    simp
  obtain ⟨moment', path', -, running, -, log'⟩ :=
    uninfluenced.2 roomyAgain began
  refine
    ⟨_, _, final, final', _, _, moment', ran, ran', indistinct, ?_, ?_,
      began, path', ?_, rfl, ?_⟩
  · rw [logged]
    rfl
  · rw [log fun _ => rfl, logged]
    rfl
  · rw [running]
    rfl
  · rw [log' fun _ => rfl]
    rfl

end RoundRobin
