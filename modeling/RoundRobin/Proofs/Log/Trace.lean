import RoundRobin.Proofs.DrainFlag
import RoundRobin.Proofs.Log.Solitary
import RoundRobin.Proofs.Run.Configured

namespace RoundRobin

/-!
# The log of a run

Every move of a run with one scheduler tells of what it does to the scheduler,
so the log stays faithful from move to move.
-/

namespace Move

variable
  {launch : κ → Coroutine κ α ε}
  {moment moment' : Moment κ α ε}
  {trace : Trace κ α ε}

/-- In a world with one scheduler that logs everything every move is told. -/
theorem tells
    (move : Move launch moment trace moment')
    (coherent : moment.Coherent)
    (flagged : moment.Flagged)
    (unopened : moment'.world.slots.length = 1)
    (verbose :
      moment.Configured fun config => config.logResumptions = true)
    {scheduler : Scheduler κ α ε}
    (solitary : moment.world.Solitary scheduler) :
    moment.world.Tells scheduler (moment.running? 0) moment'.world
      (moment'.running? 0) := by
  cases move with
  | @opened world _ _ _ layers opened =>
      obtain ⟨-, slot, slots, -⟩ := solitary
      obtain ⟨made, -, -, rfl⟩ := World.openScheduler_eq_ok opened
      have one : world.slots.length = 1 := congrArg List.length slots
      simp [one] at unopened
  | added idle added =>
      obtain ⟨other, found, rfl, rfl⟩ := World.add?_eq_some added
      exact .enqueue solitary found _ rfl
  | spawned world number coroutine layers =>
      exact .spawn solitary number coroutine
  | @dropped world number layers idle =>
      exact
        .silently scheduler.draining
          (solitary.modifySlot number fun _ _ => .gone) rfl
  | @consumed world number layers idle =>
      refine
        .silently scheduler.draining
          (solitary.modifySlot number ?_) rfl
      intro slot became
      cases became with
      | live => exact .consumed
      | consumed => exact .consumed
      | gone => exact .gone
  | replied asking answered =>
      rw [asking.running? _ _ _ 0]
      exact .answer solitary answered
  | stepRefused asking refused =>
      rw [asking.running? _ _ _ 0]
      exact .silently scheduler.draining solitary rfl
  | drainRefused asking refused =>
      rw [asking.running? _ _ _ 0]
      exact .silently scheduler.draining solitary rfl
  | stepEntered asking idle found =>
      rw [coherent.running?_enter idle]
      exact
        .silently scheduler.draining
          ⟨solitary.captured, solitary.became⟩ rfl
  | @drainEntered world _ layers number next asking idle found =>
      rw [coherent.running?_enter idle]
      obtain ⟨flag, changed⟩ := solitary.setDraining number true
      exact .silently _ ⟨changed.captured, changed.became⟩ rfl
  | @idled world frame layers empty =>
      have resting :
          (Moment.mk world (⟨frame, .before⟩ :: layers)).running? 0 =
            (Moment.mk world (⟨frame, .after (.ok none)⟩ :: layers)).running?
              0 := by
        simp only [Moment.running?_cons, Layer.task?]
      rw [← resting]
      exact .silently scheduler.draining solitary rfl
  | @began world frame layers task rest next =>
      obtain ⟨other, found, -⟩ := Option.bind_eq_some_iff.mp next
      obtain ⟨first, -, -⟩ := solitary.alive found
      have logs := verbose.next next
      simp only [Moment.running?_cons, first, ↓reduceIte]
      exact .started solitary (first ▸ next) logs
  | ended world frame config task coroutine result layers =>
      have driven : frame ∈ world.frames := by
        rw [coherent.frames]
        exact List.mem_cons_self
      obtain ⟨draining, shown⟩ :=
        Option.isSome_iff_exists.mp (flagged.alive frame driven)
      obtain ⟨other, found, -⟩ := Option.map_eq_some_iff.mp shown
      obtain ⟨first, -, -⟩ := solitary.alive found
      have ends : task.coroutine.resume.Ends (coroutine, result) :=
        coherent.residue _ List.mem_cons_self _ rfl _ (.done _)
      have logs := verbose.resumptions config List.mem_cons_self
      simp only [Moment.running?_cons, first, ↓reduceIte]
      exact .conclude solitary (first ▸ found) logs ends
  | @stepLeft world layers left result next asking =>
      rw [asking.running? _ world, coherent.running?_leave world]
      exact
        .silently scheduler.draining
          ⟨solitary.captured, solitary.became⟩ rfl
  | drainContinued world drained ready turn layers =>
      have resting :
          (Moment.mk world
              (⟨⟨drained, some ready⟩, .after (.ok (some turn))⟩ ::
                layers)).running? 0 =
            (Moment.mk world
              (⟨⟨drained, some ready⟩, .before⟩ :: layers)).running? 0 := by
        simp only [Moment.running?_cons, Layer.task?]
      rw [← resting]
      exact .silently scheduler.draining solitary rfl
  | @drainLeft world layers left ready next asking =>
      rw [asking.running? _ world, coherent.running?_leave world]
      obtain ⟨flag, changed⟩ := solitary.setDraining left false
      unfold World.emitDrained
      split
      · exact .silently _ ⟨changed.captured, changed.became⟩ rfl
      · have emitted := changed.emit
        exact
          .aside _ rfl ⟨(emitted _).captured, (emitted _).became⟩
            (changed.logged_emit _)
  | @drainUnwound world layers left ready panic next asking =>
      rw [asking.running? _ world, coherent.running?_leave world]
      obtain ⟨flag, changed⟩ := solitary.setDraining left false
      exact .silently _ ⟨changed.captured, changed.became⟩ rfl

end Move

/-- A run with one scheduler keeps the log faithful, whatever becomes of the scheduler. -/
theorem Path.faithful
    {launch : κ → Coroutine κ α ε}
    {initial final : Moment κ α ε}
    {trace : Trace κ α ε}
    (path : Path launch initial trace final)
    (coherent : initial.Coherent)
    (flagged : initial.Flagged)
    (verbose :
      initial.Configured fun config => config.logResumptions = true)
    {scheduler : Scheduler κ α ε}
    (solitary : initial.world.Solitary scheduler)
    {history : History κ α ε}
    (life : Life history scheduler (initial.running? 0))
    (faithful :
      initial.world.logged.Faithful scheduler (initial.running? 0))
    (alone : final.world.slots.length = 1) :
    final.Configured (fun config => config.logResumptions = true) ∧
      ∃ scheduler' history',
        final.world.Solitary scheduler' ∧
          Life history' scheduler' (final.running? 0) ∧
          final.world.logged.Faithful scheduler' (final.running? 0) := by
  induction path with
  | nil => exact ⟨verbose, scheduler, history, solitary, life, faithful⟩
  | @snoc middle final _ last earlier move inductionHypothesis =>
      have sole : middle.world.slots.length = 1 := by
        obtain ⟨-, slot, slots, -⟩ := solitary
        have one := congrArg List.length slots
        have before := earlier.length_slots_le
        have after := move.length_slots_le
        simp only [List.length_singleton] at one
        omega
      obtain ⟨verbose', scheduler', history', solitary', life', faithful'⟩ :=
        inductionHypothesis sole
      have coherent' := earlier.coherent coherent
      have flagged' := earlier.flagged coherent flagged
      obtain ⟨told, scheduler'', solitary'', logged, telling⟩ :=
        move.tells coherent' flagged' alone verbose' solitary'
      obtain ⟨happened, step⟩ := telling.step
      refine
        ⟨move.configured coherent' (alone.trans sole.symm) verbose',
          scheduler'', _, solitary'', .step life' step, ?_⟩
      rw [logged]
      exact telling.faithful life'.partitioned faithful'

/--
A scheduler that logs its resumptions is made in a world that has none yet and
captures all that is logged. As long as it is the only one, the log tells at
every moment of every run what has happened to its tasks and in which order,
also after it has been dropped or consumed; and so it does between the
operations of a host.
-/
theorem log_faithful
    (launch : κ → Coroutine κ α ε)
    {world opened : World κ α ε}
    {config : SchedulerConfig}
    {number : Nat}
    (slots : world.slots = [])
    (frames : world.frames = [])
    (captured : world.threshold = some .debug)
    (blank : world.log = #[])
    (logs : config.logResumptions = true)
    (made : world.openScheduler config = .ok (opened, number)) :
    (∀ {trace : Trace κ α ε} {moment : Moment κ α ε},
      Path launch ⟨opened, []⟩ trace moment →
      moment.world.slots.length = 1 →
      ∃ scheduler slot,
        moment.world.slots = [slot] ∧
          scheduler.Became slot ∧
          moment.world.logged.Faithful scheduler
            (moment.running? number)) ∧
      ∀ {world' : World κ α ε} {scheduler : Scheduler κ α ε},
        Relation.ReflTransGen (World.Operation launch) opened world' →
        world'.slots.length = 1 →
        world'.scheduler? number = some scheduler →
        world'.logged.Faithful scheduler none := by
  have run : Run launch ([] ++ []) ⟨opened, []⟩ :=
    (Run.start slots frames).append (.single (.opened made))
  obtain ⟨fresh, new, rfl, rfl⟩ := World.openScheduler_eq_ok made
  have solitary :
      World.Solitary
        { world with slots := world.slots ++ [.live fresh] } fresh :=
    ⟨captured, .live fresh, by simp [slots], .live⟩
  have verbose :
      Moment.Configured (fun config => config.logResumptions = true)
        (Moment.mk { world with slots := world.slots ++ [.live fresh] }
          []) := by
    refine ⟨?_, by simp⟩
    intro number scheduler found
    obtain ⟨-, rfl, -⟩ := solitary.alive found
    rw [Scheduler.eq_of_new_eq_ok new]
    exact logs
  have nothing :
      World.logged { world with slots := world.slots ++ [.live fresh] } =
        [] := by
    simp [World.logged, blank]
  have told
      {trace : Trace κ α ε}
      {moment : Moment κ α ε}
      (path :
        Path launch
          ⟨{ world with slots := world.slots ++ [.live fresh] }, []⟩
          trace moment)
      (alone : moment.world.slots.length = 1) :=
    path.faithful run.tracked.coherent run.flagged verbose solitary
      (.made new) (nothing ▸ Scheduler.faithful_nil new) alone
  have first : world.slots.length = 0 := by simp [slots]
  rw [first]
  refine ⟨?_, ?_⟩
  · intro trace moment path alone
    obtain ⟨-, scheduler, history, ⟨-, slot, found, became⟩, -, faithful⟩ :=
      told path alone
    exact ⟨scheduler, slot, found, became, faithful⟩
  · intro world' scheduler operations alone alive
    obtain ⟨trace, path⟩ :=
      World.Operation.path_of_reflTransGen operations
        run.tracked.coherent
    obtain ⟨-, last, history, solitary', -, faithful⟩ := told path alone
    obtain ⟨-, rfl, -⟩ := solitary'.alive alive
    exact faithful

/--
Of three tasks one has completed, one has failed, and one has spawned a fourth
and panicked. The log of the drain that ran into the panic tells all this, and
so does the log when a later step is resuming the fourth.
-/
theorem log_faithful_past_panic :
    ∃ (opened world : World Job Value TaskError)
      (scheduler : Scheduler Job Value TaskError)
      (trace : Trace Job Value TaskError)
      (moment : Moment Job Value TaskError)
      (resuming : Scheduler Job Value TaskError)
      (task : Task Job Value TaskError),
      Relation.ReflTransGen (World.Operation Job.launch) opened world ∧
        world.logged =
          [.taskAdded ⟨0⟩, .taskAdded ⟨1⟩, .taskAdded ⟨2⟩,
            .taskRunning ⟨0⟩ 1, .taskSuspended ⟨0⟩, .taskRunning ⟨1⟩ 1,
            .taskFailed ⟨1⟩ 1, .taskRunning ⟨2⟩ 1, .taskSuspended ⟨2⟩,
            .taskRunning ⟨0⟩ 2, .taskCompleted ⟨0⟩ 2,
            .taskRunning ⟨2⟩ 2, .taskSpawned ⟨3⟩, .taskPanicked ⟨2⟩] ∧
        world.logged.Faithful scheduler none ∧
        Path Job.launch ⟨opened, []⟩ trace moment ∧
        moment.world.slots = [.live resuming] ∧
        moment.world.logged =
          world.logged ++ [.taskRunning ⟨3⟩ 1] ∧
        moment.running? 0 = some task ∧
        task.id = ⟨3⟩ ∧
        moment.world.logged.Faithful resuming (some task) := by
  have opened :
      (World.empty (some .debug)).openScheduler {} =
        .ok ((_ : World Job Value TaskError), 0) :=
    rfl
  have faithful :=
    log_faithful Job.launch rfl rfl rfl rfl
      (show ({} : SchedulerConfig).logResumptions = true from rfl) opened
  have unmoved
      {world : World Job Value TaskError}
      (_ : (World.empty (some .debug)).openScheduler {} =
        .ok (world, 0)) :
      Relation.ReflTransGen (World.Operation Job.launch) world world :=
    .refl
  have completing :=
    (unmoved opened).tail
      (.added
        (show
          World.add? _ 0 (.suspendThen 1 (.number 7)) = some (_, ⟨0⟩)
            from rfl))
  have failing :=
    completing.tail
      (.added
        (show
          World.add? _ 0 (.ofResults fun _ => .ok (.failed .notFound)) =
            some (_, ⟨1⟩) from rfl))
  have panicking :=
    failing.tail
      (.added
        (show
          World.add? _ 0
              (.script
                #[⟨[], .suspend⟩,
                  ⟨[.spawn 0
                      ⟨.suspendThen (.exactly 0) (.literal (.number 8)),
                        .number 0⟩],
                    .panic "spawned and gone"⟩]
                false) =
            some (_, ⟨2⟩) from rfl))
  have drained :=
    panicking.tail
      (.drained
        (show
          World.drain (World.answer Job.launch 0) 5 0 _ =
            some (_, .panicked ⟨"spawned and gone"⟩) from rfl))
  have betweenOperations := faithful.2 drained rfl rfl
  obtain ⟨trace, path⟩ :=
    World.Operation.path_of_reflTransGen drained (.of_idle rfl)
  have entered := path.snoc (.stepEntered (.host (.step 0)) rfl rfl)
  have began := entered.snoc (.began rfl)
  obtain ⟨scheduler, slot, slots, became, atMoment⟩ :=
    faithful.1 began rfl
  obtain rfl : slot = .live _ := (List.cons.inj slots).1.symm
  cases became
  exact
    ⟨_, _, _, _, _, _, _, drained, rfl, betweenOperations, began, rfl,
      rfl, rfl, rfl, atMoment⟩

end RoundRobin
