import RoundRobin.Proofs.Run.Draining
import RoundRobin.Proofs.Run.Passage
import RoundRobin.Proofs.Solo

namespace RoundRobin

/-!
# Adding tasks to schedulers

A live scheduler takes whatever task is added to it, by its owner or through a
spawner, from the host or from within a task. It numbers the tasks in the order
in which they come, and no other scheduler notices. Once a scheduler is gone
its spawners say so for good and refuse every task.
-/

/-- What adding a coroutine as a task with the given identity does to a world. -/
structure World.Admission
    (world : World κ α ε)
    (number : Nat)
    (coroutine : Coroutine κ α ε)
    (id : TaskId)
    (world' : World κ α ε) :
    Prop where
  accepted :
    ∃ scheduler scheduler',
      world.scheduler? number = some scheduler ∧
        world'.scheduler? number = some scheduler' ∧
        scheduler'.ready.toList =
          scheduler.ready.toList ++ [.new id coroutine] ∧
        scheduler' =
          { scheduler with
            ready := scheduler'.ready
            ids := scheduler'.ids } ∧
        scheduler'.ids.handedOut = scheduler.ids.handedOut ++ [id]
  others :
    ∀ other,
      other ≠ number →
      world'.slots[other]? = world.slots[other]?

/-- Whoever adds a task to a scheduler is given the identity for it. -/
structure World.Admitting
    (launch : κ → Coroutine κ α ε)
    (patience number : Nat)
    (id : TaskId)
    (world : World κ α ε) :
    Prop where
  /-- The owner of the scheduler adds the task. -/
  added :
    ∀ coroutine,
    ∃ world',
      world.add? number coroutine = some (world', id) ∧
        world.Admission number coroutine id world'
  /-- The host adds the task through a spawner. -/
  spawned :
    ∀ coroutine,
    ∃ world',
      world.spawn number coroutine = (world', .ok id) ∧
        world.Admission number coroutine id world'
  /-- A running task adds it through a spawner. -/
  asked :
    ∀ job,
    ∃ world',
      World.answer launch patience (.spawn number job) world =
          some (world', .ok id) ∧
        world.Admission number (launch job) id world'

/-- What the spawners of a scheduler that is gone say and do. -/
structure World.Detached
    (launch : κ → Coroutine κ α ε)
    (patience number : Nat)
    (world : World κ α ε) :
    Prop where
  attachment :
    world.attachment number = { attached := false, draining := false }
  refused :
    ∀ coroutine, (world.spawn number coroutine).2 = .error .detached
  unchanged :
    ∀ coroutine, (world.spawn number coroutine).1.slots = world.slots
  /-- A task that looks at the scheduler is told the same. -/
  inspected :
    World.answer launch patience (.inspect number) world =
      some (world, { attached := false, draining := false })
  /-- A task that spawns is refused in the same way. -/
  asked :
    ∀ job,
      World.answer launch patience (.spawn number job) world =
        some
          ((world.spawn number (launch job)).1, .error .detached)

namespace World

variable
  {world world' : World κ α ε}
  {number : Nat}

/-- Only the slot that is changed changes. -/
theorem slots_modifySlot_of_ne
    (world : World κ α ε)
    {changed other : Nat}
    (different : other ≠ changed)
    (change : Slot κ α ε → Slot κ α ε) :
    (world.modifySlot changed change).slots[other]? =
      world.slots[other]? := by
  simp [modifySlot, different.symm]

/-- A live scheduler that enqueues a coroutine, with the event that is logged. -/
theorem admission_of_alive
    {scheduler : Scheduler κ α ε}
    (alive : world.scheduler? number = some scheduler)
    (coroutine : Coroutine κ α ε)
    (event : LogEvent) :
    world.Admission number coroutine (scheduler.enqueue coroutine).2
      ((world.modifyScheduler number fun scheduler =>
          (scheduler.enqueue coroutine).1).emit event) := by
  refine ⟨?_, ?_⟩
  · refine
      ⟨scheduler, (scheduler.enqueue coroutine).1, alive, ?_,
        scheduler.ready_enqueue coroutine, rfl,
        scheduler.handedOut_enqueue coroutine⟩
    simp [alive]
  · intro other different
    rw [slots_emit]
    exact slots_modifySlot_of_ne world different _

/-- The owner of a live scheduler adds a task to it. -/
theorem add?_of_alive
    {scheduler : Scheduler κ α ε}
    (alive : world.scheduler? number = some scheduler)
    (coroutine : Coroutine κ α ε) :
    ∃ world',
      world.add? number coroutine =
          some (world', (scheduler.enqueue coroutine).2) ∧
        world.Admission number coroutine
          (scheduler.enqueue coroutine).2 world' := by
  refine ⟨_, ?_, admission_of_alive alive coroutine
    (.taskAdded (scheduler.enqueue coroutine).2)⟩
  simp only [add?, alive, Option.map_some]

/-- A spawner of a live scheduler adds a task to it. -/
theorem spawn_of_alive
    {scheduler : Scheduler κ α ε}
    (alive : world.scheduler? number = some scheduler)
    (coroutine : Coroutine κ α ε) :
    ∃ world',
      world.spawn number coroutine =
          (world', .ok (scheduler.enqueue coroutine).2) ∧
        world.Admission number coroutine
          (scheduler.enqueue coroutine).2 world' := by
  refine ⟨_, ?_, admission_of_alive alive coroutine
    (.taskSpawned (scheduler.enqueue coroutine).2)⟩
  simp only [spawn, alive]

/-- Spawners of a scheduler that is not alive are detached. -/
theorem detached_of_gone
    (launch : κ → Coroutine κ α ε)
    (patience : Nat)
    (gone : world.scheduler? number = none) :
    world.Detached launch patience number := by
  have told :
      world.attachment number =
        { attached := false, draining := false } := by
    simp [attachment, gone]
  have refused (coroutine : Coroutine κ α ε) :
      world.spawn number coroutine =
        (world.emit .spawnRefused, .error .detached) := by
    simp [spawn, gone]
  refine ⟨told, ?_, ?_, ?_, ?_⟩
  · intro coroutine
    rw [refused]
  · intro coroutine
    rw [refused]
    exact slots_emit _ _
  · cases patience <;> simp [answer, told]
  · intro job
    cases patience <;> simp [answer, refused]

end World

/-- A scheduler has issued as many identities as tasks were added to it. -/
theorem Life.issued
    {history : History κ α ε}
    {scheduler : Scheduler κ α ε}
    {running : Option (Task κ α ε)}
    (life : Life history scheduler running) :
    history.added.length = scheduler.ids.issued := by
  have lengths := congrArg List.length life.recorded.added
  simpa only [List.length_map, IdSource.handedOut, List.length_range]
    using lengths

/-- The next identity of a scheduler is the number of tasks that were added to it. -/
theorem Life.next_id
    {history : History κ α ε}
    {scheduler : Scheduler κ α ε}
    {running : Option (Task κ α ε)}
    (life : Life history scheduler running)
    (coroutine : Coroutine κ α ε) :
    (scheduler.enqueue coroutine).2 = ⟨history.added.length⟩ := by
  rw [life.issued]
  rfl

/-- Tasks are numbered in the order in which they were added. -/
theorem Life.added_ids
    {history : History κ α ε}
    {scheduler : Scheduler κ α ε}
    {running : Option (Task κ α ε)}
    (life : Life history scheduler running) :
    history.added.map Prod.fst =
      (List.range history.added.length).map TaskId.mk := by
  rw [life.recorded.added, life.issued]
  rfl

/-- A live scheduler numbers the tasks that are added to it. -/
theorem Run.admitting
    {launch : κ → Coroutine κ α ε}
    {trace : Trace κ α ε}
    {moment : Moment κ α ε}
    (run : Run launch trace moment)
    (patience : Nat)
    {number : Nat}
    {scheduler : Scheduler κ α ε}
    (alive : moment.world.scheduler? number = some scheduler) :
    moment.world.Admitting launch patience number
      ⟨(trace.about number).added.length⟩ := by
  have life := run.life alive
  refine ⟨?_, ?_, ?_⟩
  · intro coroutine
    rw [← life.next_id coroutine]
    exact World.add?_of_alive alive coroutine
  · intro coroutine
    rw [← life.next_id coroutine]
    exact World.spawn_of_alive alive coroutine
  · intro job
    rw [← life.next_id (launch job)]
    obtain ⟨world', spawned, admission⟩ :=
      World.spawn_of_alive alive (launch job)
    refine ⟨world', ?_, admission⟩
    cases patience <;> simp [World.answer, spawned]

namespace Path

variable
  {launch : κ → Coroutine κ α ε}
  {initial final : Moment κ α ε}
  {trace : Trace κ α ε}

/-- Nothing happens to a scheduler that is gone. -/
theorem about_eq_nil
    (path : Path launch initial trace final)
    (coherent : initial.Coherent)
    (flagged : initial.Flagged)
    {number : Nat}
    (made : number < initial.world.slots.length)
    (gone : initial.world.scheduler? number = none) :
    trace.about number = [] := by
  induction path with
  | nil => rfl
  | @snoc middle _ _ _ earlier move inductionHypothesis =>
      have absent : middle.world.scheduler? number = none :=
        earlier.scheduler?_eq_none coherent made gone
      have idle : middle.world.isDriven number = false :=
        (earlier.flagged coherent flagged).isDriven_eq_false absent
      rw [Trace.about_append, inductionHypothesis,
        move.about_eq_nil (earlier.coherent coherent) absent idle]
      rfl

end Path

/-- A scheduler that has left its slot is detached for good. -/
theorem Run.detached
    {launch : κ → Coroutine κ α ε}
    {trace later : Trace κ α ε}
    {moment moment' : Moment κ α ε}
    (run : Run launch trace moment)
    (patience : Nat)
    {number : Nat}
    (made : number < moment.world.slots.length)
    (gone : moment.world.scheduler? number = none)
    (path : Path launch moment later moment') :
    moment'.world.Detached launch patience number ∧
      later.about number = [] := by
  have coherent : moment.Coherent := run.tracked.coherent
  refine ⟨?_, ?_⟩
  · apply World.detached_of_gone
    exact path.scheduler?_eq_none coherent made gone
  · exact path.about_eq_nil coherent run.flagged made gone

/--
As long as a scheduler is alive, at whatever moment of whatever run, each task
that is added to it is accepted under the number of tasks added before, whether
its owner adds it, a spawner or a running task, and nothing else changes. Once
the scheduler has been dropped or consumed, its spawners are detached at every
later moment, and nothing happens to it any more.
-/
theorem tasks_numbered
    (launch : κ → Coroutine κ α ε)
    (patience number : Nat) :
    (∀ {trace : Trace κ α ε} {moment : Moment κ α ε}
      {scheduler : Scheduler κ α ε},
      Run launch trace moment →
      moment.world.scheduler? number = some scheduler →
      ∃ count,
        (trace.about number).added.map Prod.fst =
            (List.range count).map TaskId.mk ∧
          moment.world.Admitting launch patience number ⟨count⟩) ∧
      (∀ {trace : Trace κ α ε} {moment : Moment κ α ε}
        {scheduler : Scheduler κ α ε} {world : World κ α ε},
        Run launch trace moment →
        moment.world.scheduler? number = some scheduler →
        moment.world.isDriven number = false →
        world = moment.world.drop number ∨
          world = moment.world.consume number →
        (∀ other,
          other ≠ number →
          world.slots[other]? = moment.world.slots[other]?) ∧
          ∀ {later : Trace κ α ε} {moment' : Moment κ α ε},
            Path launch ⟨world, moment.layers⟩ later moment' →
            moment'.world.Detached launch patience number ∧
              later.about number = []) ∧
      ∀ {world : World κ α ε},
        Reachable launch world →
        ∃ trace, Run launch trace ⟨world, []⟩ := by
  refine ⟨?_, ?_, ?_⟩
  · intro trace moment scheduler run alive
    exact
      ⟨_, (run.life alive).added_ids, run.admitting patience alive⟩
  · intro trace moment scheduler world run alive idle left
    have move : Move launch moment [] ⟨world, moment.layers⟩ := by
      rcases left with rfl | rfl
      · exact .dropped idle
      · exact .consumed idle
    have gone : world.scheduler? number = none := by
      rcases left with rfl | rfl <;> simp
    have made : number < world.slots.length :=
      Nat.lt_of_lt_of_le (World.lt_length_slots alive)
        move.length_slots_le
    refine ⟨?_, ?_⟩
    · intro other different
      rcases left with rfl | rfl
      · exact World.slots_modifySlot_of_ne _ different _
      · exact World.slots_modifySlot_of_ne _ different _
    · intro later moment' path
      exact
        (run.append (.single move)).detached patience made gone path
  · intro world reachable
    exact reachable.run

/--
A scheduler is given a task by its owner and one by a spawner and is dropped; a
task that is then added to another scheduler is nothing to it.
-/
theorem tasks_numbered_until_drop :
    ∃ trace later : Trace Job Value TaskError,
      ∃ (world : World Job Value TaskError)
        (moment : Moment Job Value TaskError),
        Run Job.launch trace ⟨world, []⟩ ∧
          (world.scheduler? 0).isSome ∧
          world.isDriven 0 = false ∧
          (trace.about 0).added.map Prod.fst = [⟨0⟩, ⟨1⟩] ∧
          world.Admitting Job.launch 0 0 ⟨2⟩ ∧
          Path Job.launch ⟨world.drop 0, []⟩ later moment ∧
          (later.about 1).added.map Prod.fst = [⟨0⟩] ∧
          moment.world.Detached Job.launch 0 0 ∧
          later.about 0 = [] := by
  let task : Coroutine Job Value TaskError :=
    .ofResults fun _ => .ok .suspended
  have opened : Run Job.launch _ _ :=
    (Run.start rfl rfl).append
      (.single
        (.opened
          (show (World.empty none).openScheduler {} = .ok (_, 0)
            from rfl)))
  have another : Run Job.launch _ _ :=
    opened.append
      (.single
        (.opened (show World.openScheduler _ {} = .ok (_, 1) from rfl)))
  have added : Run Job.launch _ _ :=
    another.append
      (.single
        (.added rfl
          (show World.add? _ 0 task = some (_, ⟨0⟩) from rfl)))
  have spawned : Run Job.launch _ _ :=
    added.append (.single (.spawned _ 0 task []))
  have numbered := tasks_numbered Job.launch 0 0
  obtain ⟨count, ids, admitting⟩ := numbered.1 spawned rfl
  have two : 2 = count := (congrArg List.length ids).trans (by simp)
  subst two
  refine
    ⟨_, _, _, _, spawned, rfl, rfl, ids, admitting,
      .single
        (.added rfl
          (show World.add? _ 1 task = some (_, ⟨0⟩) from rfl)),
      rfl, ?_⟩
  apply (numbered.2.1 spawned rfl rfl (.inl rfl)).2
  exact .single (.added rfl rfl)

end RoundRobin
