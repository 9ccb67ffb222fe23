import RoundRobin.Proofs.Pass
import RoundRobin.Proofs.Run.Draining

namespace RoundRobin

/-!
# Unwinding out of a drive

When a task panics, the drive that resumed it unwinds. The turns that were
taken before stay as they are, and so do the tasks that arrived while the task
ran; of the task itself nothing is left but its identity among the abandoned.
Whoever catches the panic can go on: the scheduler takes the remaining tasks in
their order and never comes back to one that was abandoned.
-/

/-- What the panic of a task leaves of its scheduler once the drive has unwound. -/
structure Scheduler.Unwound
    (scheduler : Scheduler κ α ε)
    (task : Task κ α ε)
    (arrivals : List (TaskId × Coroutine κ α ε))
    (scheduler' : Scheduler κ α ε) :
    Prop where
  /-- The task is gone from the front, and what arrived is at the back. -/
  ready :
    ∃ rest,
      scheduler.ready.toList = task :: rest ∧
        scheduler'.ready.toList =
          rest ++ arrivals.map fun (id, coroutine) => .new id coroutine
  issued :
    scheduler'.ids.handedOut =
      scheduler.ids.handedOut ++ arrivals.map Prod.fst
  others :
    scheduler' =
      { scheduler with
        ready := scheduler'.ready
        ids := scheduler'.ids
        abandoned := scheduler.abandoned.push task.id
        draining := false }

/-- The next ready task panics when it is resumed, its requests being answered. -/
def World.Strikes
    (answer : World.Answerer κ α ε)
    (number : Nat)
    (world : World κ α ε)
    (panic : Panic) :
    Prop :=
  ∃ (task : Task κ α ε) (rest : Scheduler κ α ε)
    (stopped : World κ α ε) (coroutine : Coroutine κ α ε),
    (world.scheduler? number).bind Scheduler.dequeue? =
        some (task, rest) ∧
      task.coroutine.resume.conduct answer
          (world.started number rest task) =
        some (stopped, coroutine, .error panic)

/--
A path from just before a task of a scheduler is resumed to just after its
panic has been caught, with the tasks that the scheduler was given meanwhile.
-/
structure PanicCaught
    (launch : κ → Coroutine κ α ε)
    (number : Nat)
    (before : Moment κ α ε)
    (panic : Panic)
    (after : Moment κ α ε) :
    Prop where
  accounted :
    ∃ (trace : Trace κ α ε) (task : Task κ α ε)
      (arrivals : List (TaskId × Coroutine κ α ε))
      (scheduler scheduler' : Scheduler κ α ε),
      Path launch before trace after ∧
        trace.about number =
          Episode.history ⟨task.id, arrivals, .error panic⟩ ∧
        before.world.scheduler? number = some scheduler ∧
        after.world.scheduler? number = some scheduler' ∧
        scheduler.Unwound task arrivals scheduler'

/-- Arrivals change nothing but the queue and the identities. -/
theorem Arrivals.unchanged
    {scheduler scheduler' : Scheduler κ α ε}
    {history : History κ α ε}
    (arrivals : Arrivals scheduler history scheduler') :
    scheduler' =
      { scheduler with
        ready := scheduler'.ready
        ids := scheduler'.ids } := by
  induction arrivals with
  | nil => rfl
  | snoc _ coroutine inductionHypothesis =>
      unfold Scheduler.enqueue
      rw [inductionHypothesis]

/-- A turn in which the task panics leaves the scheduler to be unwound. -/
theorem TurnTaken.unwound
    {number : Nat}
    {world world' : World κ α ε}
    {trace : Trace κ α ε}
    {panic : Panic}
    (taken : TurnTaken number world trace world' (.error panic))
    (driven : world.isDriven number) :
    ∃ task arrivals scheduler scheduler',
      trace.about number =
          Episode.history ⟨task.id, arrivals, .error panic⟩ ∧
        world.scheduler? number = some scheduler ∧
        world'.scheduler? number = some scheduler' ∧
        scheduler'.draining = scheduler.draining ∧
        scheduler.Unwound task arrivals
          { scheduler' with draining := false } := by
  generalize reported : Except.error panic = result at taken
  cases taken with
  | idle empty => cases reported
  | @resumed task rest during stopped coroutine ended next conducted =>
      rcases ended with gone | outcome
      · cases reported
        obtain ⟨scheduler, alive, dequeued⟩ :=
          Option.bind_eq_some_iff.mp next
        obtain ⟨front, unchanged⟩ := Scheduler.dequeue?_eq_some dequeued
        obtain ⟨final, alive', arrivals⟩ :=
          conducted.arrivals number rest driven (by simp [alive])
        have others := arrivals.unchanged
        rw [unchanged] at others
        refine
          ⟨task, (during.about number).added, scheduler,
            final.abandon task.id, ?_, alive, ?_, ?_,
            ⟨⟨_, front, ?_⟩, ?_, ?_⟩⟩
        · simp [Episode.history, ← arrivals.history_eq]
        · simp [alive', Scheduler.conclude]
        · rw [others]
          rfl
        · exact arrivals.ready
        · have issued := arrivals.handedOut
          rw [unchanged] at issued
          exact issued
        · rw [others]
          rfl
      · cases reported

namespace World

variable
  {launch : κ → Coroutine κ α ε}
  {answer : Answerer κ α ε}
  {number : Nat}
  {world world' : World κ α ε}

/-- A turn panics exactly if the next ready task does. -/
theorem takeTurn_panics_iff {panic : Panic} :
    (∃ world',
        takeTurn answer number world = some (world', .error panic)) ↔
      Strikes answer number world panic := by
  rw [takeTurn_eq]
  unfold Strikes
  cases next : (world.scheduler? number).bind Scheduler.dequeue? with
  | none => simp
  | some pair =>
      obtain ⟨task, rest⟩ := pair
      constructor
      · rintro ⟨world', taken⟩
        simp only [Option.map_eq_some_iff, Prod.mk.injEq] at taken
        obtain ⟨⟨stopped, coroutine, ended⟩, conducted, -, reported⟩ :=
          taken
        rcases ended with gone | outcome
        · cases reported
          exact ⟨task, rest, stopped, coroutine, rfl, conducted⟩
        · cases reported
      · rintro ⟨_, _, stopped, coroutine, same, conducted⟩
        cases same
        simp [conducted, Turn.ofResult, Except.map]

/-- A turn that reports no panic reports the first of the ready tasks. -/
theorem takeTurn_front
    {scheduler : Scheduler κ α ε}
    (alive : world.scheduler? number = some scheduler)
    {turn : Option Turn}
    (taken : takeTurn answer number world = some (world', .ok turn)) :
    turn.map Turn.id = scheduler.readyIds.head? := by
  rw [takeTurn_eq] at taken
  simp only [alive, Option.bind_some] at taken
  cases next : scheduler.dequeue? with
  | none =>
      simp only [next, Option.some.injEq, Prod.mk.injEq] at taken
      obtain ⟨rfl, reported⟩ := taken
      cases reported
      have nothing := Scheduler.dequeue?_eq_none_iff.mp next
      simp [Scheduler.readyIds, Queue.ids, nothing]
  | some pair =>
      obtain ⟨task, rest⟩ := pair
      simp only [next, Option.map_eq_some_iff, Prod.mk.injEq] at taken
      obtain ⟨⟨stopped, coroutine, ended⟩, -, -, reported⟩ := taken
      rw [Scheduler.readyIds_of_dequeue? next]
      rcases ended with panic | outcome
      · cases reported
      · cases reported
        rfl

/-- A turn that finds no task ready does nothing. -/
theorem eq_of_takeTurn_none
    (taken : takeTurn answer number world = some (world', .ok none)) :
    world' = world := by
  rw [takeTurn_eq] at taken
  cases next : (world.scheduler? number).bind Scheduler.dequeue? with
  | none =>
      simp only [next, Option.some.injEq, Prod.mk.injEq] at taken
      exact taken.1.symm
  | some pair =>
      simp only [next, Option.map_eq_some_iff, Prod.mk.injEq] at taken
      obtain ⟨⟨stopped, coroutine, ended⟩, -, -, reported⟩ := taken
      rcases ended with panic | outcome
      · cases reported
      · cases reported

end World

/-- No step takes a task from the abandoned or resumes one of them. -/
theorem Step.abandoned
    {scheduler scheduler' : Scheduler κ α ε}
    {running running' : Option (Task κ α ε)}
    {history : History κ α ε}
    (step : Step scheduler running history scheduler' running')
    (partitioned : scheduler.Partitioned (running.map Task.id))
    {id : TaskId}
    (member : id ∈ scheduler.abandoned.toList) :
    id ∈ scheduler'.abandoned.toList ∧ id ∉ history.begun := by
  cases step with
  | still => exact ⟨member, by simp [History.begun]⟩
  | added => exact ⟨by simpa using member, by simp⟩
  | began next =>
      have unchanged := (Scheduler.dequeue?_eq_some next).2
      refine ⟨by rw [unchanged]; exact member, ?_⟩
      have ready := Scheduler.readyIds_of_dequeue? next
      rw [History.begun_began, List.mem_singleton]
      rintro rfl
      exact
        partitioned.readyAbandoned
          (by rw [ready]; exact List.mem_cons_self) member
  | @ended _ coroutine result _ =>
      refine ⟨?_, by simp⟩
      rcases result with panic | _ | value | error
      · have kept := Array.mem_toList_iff.mp member
        simp [Scheduler.conclude, Scheduler.abandon, kept]
      · exact member
      · exact member
      · exact member
  | flagged => exact ⟨member, by simp [History.begun]⟩

/-- What was abandoned stays so and is never resumed again. -/
theorem Passage.abandoned
    {earlier history : History κ α ε}
    {scheduler scheduler' : Scheduler κ α ε}
    {running running' : Option (Task κ α ε)}
    (passage : Passage scheduler running history scheduler' running')
    (life : Life earlier scheduler running)
    {id : TaskId}
    (member : id ∈ scheduler.abandoned.toList) :
    id ∈ scheduler'.abandoned.toList ∧ id ∉ history.begun := by
  induction passage with
  | nil => exact ⟨member, by simp [History.begun]⟩
  | snoc before step inductionHypothesis =>
      obtain ⟨kept, apart⟩ := inductionHypothesis
      obtain ⟨stillKept, stillApart⟩ :=
        step.abandoned (life.append before).partitioned kept
      rw [History.begun_append, List.mem_append, not_or]
      exact ⟨stillKept, apart, stillApart⟩

/-- The scheduler of the innermost drive is driven. -/
theorem Moment.Coherent.driven
    {world : World κ α ε}
    {layer : Layer κ α ε}
    {layers : List (Layer κ α ε)}
    (coherent : Coherent ⟨world, layer :: layers⟩) :
    world.isDriven layer.frame.scheduler := by
  have frames : world.frames = (layer :: layers).map Layer.frame :=
    coherent.frames
  simp [World.isDriven, frames]

namespace World

section Drives

variable
  {launch : κ → Coroutine κ α ε}
  {answer : Answerer κ α ε}
  {number : Nat}
  {world world' : World κ α ε}
  {layers : List (Layer κ α ε)}
  {panic : Panic}

/-- A turn that panics is accounted for once its drive has been left. -/
theorem panicCaught_of_takeTurn
    (follows : FollowsPaths launch answer)
    (driven : world.isDriven number)
    {turned : World κ α ε}
    (taken :
      takeTurn answer number world = some (turned, .error panic))
    {span : Option Nat}
    {after : Moment κ α ε}
    (left :
      Move launch
        ⟨turned, ⟨⟨number, span⟩, .after (.error panic)⟩ :: layers⟩ []
        after)
    (cleared :
      ∀ scheduler scheduler',
        world.scheduler? number = some scheduler →
        turned.scheduler? number = some scheduler' →
        scheduler'.draining = scheduler.draining →
        after.world.scheduler? number =
          some { scheduler' with draining := false }) :
    PanicCaught launch number
      ⟨world, ⟨⟨number, span⟩, .before⟩ :: layers⟩ panic after := by
  obtain ⟨trace, path, turnTaken⟩ :=
    takeTurn_path follows taken span layers
  obtain
    ⟨task, arrivals, scheduler, scheduler', about, alive, alive', flag,
      unwound⟩ :=
    turnTaken.unwound driven
  have whole := path.snoc left
  rw [List.append_nil] at whole
  exact
    ⟨trace, task, arrivals, scheduler, _, whole, about, alive,
      cleared scheduler scheduler' alive alive' flag, unwound⟩

/-- A step whose task panics unwinds, and the panic is accounted for. -/
theorem Strikes.stepOnce
    (follows : FollowsPaths launch answer)
    {trace : Trace κ α ε}
    (run : Run launch trace ⟨world, layers⟩)
    {next : Drive (Option Turn) → List (Layer κ α ε)}
    (asking : Asking layers (.step number) next)
    (idle : world.isDriven number = false)
    {scheduler : Scheduler κ α ε}
    (alive : world.scheduler? number = some scheduler)
    (strikes :
      Strikes answer number (world.enter ⟨number, none⟩) panic) :
    ∃ world',
      World.stepOnce answer number world =
          some (world', .panicked panic) ∧
        PanicCaught launch number
          ⟨world.enter ⟨number, none⟩,
            ⟨⟨number, none⟩, .before⟩ :: layers⟩
          panic ⟨world', next (.panicked panic)⟩ := by
  obtain ⟨turned, taken⟩ := takeTurn_panics_iff.mpr strikes
  refine ⟨turned.leave, ?_, ?_⟩
  · rw [stepOnce_eq answer idle alive, taken]
    rfl
  · refine
      panicCaught_of_takeTurn follows (by simp [isDriven]) taken
        (.stepLeft asking) ?_
    intro before after found found' flag
    have quiet : before.draining = false := by
      have shown := run.flagged.flag number before.draining
      rw [isDrained_eq_false_of_idle idle] at shown
      apply shown
      rw [scheduler?_enter] at found
      simp [flag?, found]
    rw [scheduler?_leave, found', ← quiet, ← flag]

/-- A step only unwinds if its task panics. -/
theorem strikes_of_stepOnce
    (idle : world.isDriven number = false)
    {scheduler : Scheduler κ α ε}
    (alive : world.scheduler? number = some scheduler)
    (stepped :
      World.stepOnce answer number world =
        some (world', .panicked panic)) :
    Strikes answer number (world.enter ⟨number, none⟩) panic := by
  rw [stepOnce_eq answer idle alive] at stepped
  simp only [Option.map_eq_some_iff, Prod.mk.injEq] at stepped
  obtain ⟨⟨turned, result⟩, taken, -, reported⟩ := stepped
  rcases result with gone | turn
  · cases reported
    exact takeTurn_panics_iff.mp ⟨turned, taken⟩
  · cases reported

/-- The turns of a drain follow a path from where the drain is made. -/
theorem draining_path
    (follows : FollowsPaths launch answer)
    {next : Drive Unit → List (Layer κ α ε)}
    (asking : Asking layers (.drain number) next)
    (idle : world.isDriven number = false)
    {scheduler : Scheduler κ α ε}
    (alive : world.scheduler? number = some scheduler)
    {times : Nat}
    {middle : World κ α ε}
    (turned :
      turnTimes (takeTurn answer number) times
          (world.draining number scheduler) =
        some middle) :
    ∃ trace,
      Path launch ⟨world, layers⟩ trace
        ⟨middle,
          ⟨⟨number, some scheduler.ready.length⟩, .before⟩ ::
            layers⟩ := by
  obtain ⟨trace, path, -⟩ :=
    turnTimes_path follows turned scheduler.ready.length
      (fun _ => False) id (fun _ absurd => absurd.elim) layers
  exact
    ⟨_, (Path.single (.drainEntered asking idle alive)).append path⟩

/--
A drain that comes to a task that panics unwinds, and the panic is accounted
for.
-/
theorem Strikes.drain
    (follows : FollowsPaths launch answer)
    {trace : Trace κ α ε}
    (run : Run launch trace ⟨world, layers⟩)
    {next : Drive Unit → List (Layer κ α ε)}
    (asking : Asking layers (.drain number) next)
    (idle : world.isDriven number = false)
    {scheduler : Scheduler κ α ε}
    (alive : world.scheduler? number = some scheduler)
    {patience times : Nat}
    (enough : times < patience)
    {middle : World κ α ε}
    (turned :
      turnTimes (takeTurn answer number) times
          (world.draining number scheduler) =
        some middle)
    (strikes : Strikes answer number middle panic) :
    ∃ world' earlier,
      World.drain answer patience number world =
          some (world', .panicked panic) ∧
        Path launch ⟨world, layers⟩ earlier
          ⟨middle,
            ⟨⟨number, some scheduler.ready.length⟩, .before⟩ ::
              layers⟩ ∧
        PanicCaught launch number
          ⟨middle,
            ⟨⟨number, some scheduler.ready.length⟩, .before⟩ :: layers⟩
          panic ⟨world', next (.panicked panic)⟩ := by
  obtain ⟨last, taken⟩ := takeTurn_panics_iff.mpr strikes
  have looped :
      drainLoop (takeTurn answer number) patience
          (world.draining number scheduler) =
        some (last, .error panic) :=
    drainLoop_eq_some_iff.mpr ⟨times, enough, middle, turned, taken⟩
  obtain ⟨earlier, path⟩ :=
    draining_path follows asking idle alive turned
  have coherent := path.coherent run.tracked.coherent
  refine
    ⟨last.drained number (.error panic), earlier, ?_, path, ?_⟩
  · rw [drain_eq answer patience idle alive, looped]
    rfl
  · refine
      panicCaught_of_takeTurn follows coherent.driven taken
        (.drainUnwound asking) ?_
    intro before after _ found' _
    simp [found']

/-- A drain only unwinds if it comes to a task that panics. -/
theorem strikes_of_drain
    {patience : Nat}
    (idle : world.isDriven number = false)
    {scheduler : Scheduler κ α ε}
    (alive : world.scheduler? number = some scheduler)
    (drained :
      World.drain answer patience number world =
        some (world', .panicked panic)) :
    ∃ times < patience,
    ∃ middle,
      turnTimes (takeTurn answer number) times
          (world.draining number scheduler) =
        some middle ∧
      Strikes answer number middle panic := by
  rw [drain_eq answer patience idle alive] at drained
  simp only [Option.map_eq_some_iff, Prod.mk.injEq] at drained
  obtain ⟨⟨turned, result⟩, looped, -, reported⟩ := drained
  rcases result with gone | done
  · cases reported
    obtain ⟨times, fewer, middle, before, last⟩ :=
      drainLoop_eq_some_iff.mp looped
    exact
      ⟨times, fewer, middle, before,
        takeTurn_panics_iff.mp ⟨turned, last⟩⟩
  · cases reported

/-- A step that returns has resumed the first of the ready tasks, if there was one. -/
theorem front_of_stepOnce
    (idle : world.isDriven number = false)
    {scheduler : Scheduler κ α ε}
    (alive : world.scheduler? number = some scheduler)
    {turn : Option Turn}
    (stepped :
      World.stepOnce answer number world =
        some (world', .finished turn)) :
    turn.map Turn.id = scheduler.readyIds.head? := by
  rw [stepOnce_eq answer idle alive] at stepped
  simp only [Option.map_eq_some_iff, Prod.mk.injEq] at stepped
  obtain ⟨⟨turned, result⟩, taken, -, reported⟩ := stepped
  rcases result with panic | report
  · cases reported
  · cases reported
    apply takeTurn_front _ taken
    rw [scheduler?_enter]
    exact alive

/-- A drain that returns leaves no task ready. -/
theorem readyIds_of_drain
    (follows : FollowsPaths launch answer)
    {trace : Trace κ α ε}
    (run : Run launch trace ⟨world, layers⟩)
    {next : Drive Unit → List (Layer κ α ε)}
    (asking : Asking layers (.drain number) next)
    (idle : world.isDriven number = false)
    {scheduler : Scheduler κ α ε}
    (alive : world.scheduler? number = some scheduler)
    {patience : Nat}
    (drained :
      World.drain answer patience number world =
        some (world', .finished ())) :
    ∃ scheduler',
      world'.scheduler? number = some scheduler' ∧
        scheduler'.readyIds = [] := by
  rw [drain_eq answer patience idle alive] at drained
  simp only [Option.map_eq_some_iff, Prod.mk.injEq] at drained
  obtain ⟨⟨turned, result⟩, looped, rfl, reported⟩ := drained
  rcases result with gone | done
  · cases reported
  · obtain ⟨times, -, middle, before, last⟩ :=
      drainLoop_eq_some_iff.mp looped
    obtain ⟨earlier, path⟩ :=
      draining_path follows asking idle alive before
    have coherent := path.coherent run.tracked.coherent
    have flagged := path.flagged run.tracked.coherent run.flagged
    obtain ⟨final, alive'⟩ :
        ∃ final, middle.scheduler? number = some final := by
      rw [← Option.ne_none_iff_exists']
      intro gone
      have idle' : middle.isDriven number = false :=
        flagged.isDriven_eq_false gone
      rw [coherent.driven] at idle'
      cases idle'
    have front := takeTurn_front alive' last
    rw [eq_of_takeTurn_none last]
    refine ⟨{ final with draining := false }, ?_, ?_⟩
    · simp [alive']
    · exact List.head?_eq_none_iff.mp front.symm

end Drives

end World

/-- How a scheduler goes on from a moment of a run. -/
structure GoesOn
    (launch : κ → Coroutine κ α ε)
    (patience number : Nat)
    (moment : Moment κ α ε)
    (scheduler : Scheduler κ α ε) :
    Prop where
  /-- Ready tasks are resumed in their order, those that come later behind them. -/
  order :
    ∀ {later : Trace κ α ε} {moment' : Moment κ α ε}
      {scheduler' : Scheduler κ α ε},
      Path launch moment later moment' →
      moment'.world.scheduler? number = some scheduler' →
      scheduler.readyIds ++ (later.about number).pushed =
        (later.about number).begun ++ scheduler'.readyIds
  abandoned :
    ∀ {later : Trace κ α ε} {moment' : Moment κ α ε}
      {scheduler' : Scheduler κ α ε},
      Path launch moment later moment' →
      moment'.world.scheduler? number = some scheduler' →
      ∀ id ∈ scheduler.abandoned.toList,
        id ∈ scheduler'.abandoned.toList ∧
          id ∉ (later.about number).begun
  step :
    ∀ {world : World κ α ε} {turn : Option Turn},
      moment.world.isDriven number = false →
      World.stepOnce (World.answer launch patience) number
          moment.world =
        some (world, .finished turn) →
      turn.map Turn.id = scheduler.readyIds.head?
  drain :
    ∀ {world : World κ α ε} {turns : Nat}
      {next : Drive Unit → List (Layer κ α ε)},
      moment.world.isDriven number = false →
      Asking moment.layers (.drain number) next →
      World.drain (World.answer launch patience) turns number
          moment.world =
        some (world, .finished ()) →
      ∃ scheduler',
        world.scheduler? number = some scheduler' ∧
          scheduler'.readyIds = []

/-- At every moment of every run a live scheduler goes on so. -/
theorem Run.goesOn
    {launch : κ → Coroutine κ α ε}
    {trace : Trace κ α ε}
    {moment : Moment κ α ε}
    (run : Run launch trace moment)
    (patience : Nat)
    {number : Nat}
    {scheduler : Scheduler κ α ε}
    (alive : moment.world.scheduler? number = some scheduler) :
    GoesOn launch patience number moment scheduler := by
  have coherent := run.tracked.coherent
  refine ⟨?_, ?_, ?_, ?_⟩
  · intro later moment' scheduler' path alive'
    exact (path.passage_of_alive coherent alive alive').queue
  · intro later moment' scheduler' path alive' id member
    have passage := path.passage_of_alive coherent alive alive'
    exact passage.abandoned (run.life alive) member
  · intro world turn idle stepped
    exact World.front_of_stepOnce idle alive stepped
  · intro world turns next idle asking drained
    exact
      World.readyIds_of_drain (World.answer_follows launch patience)
        run asking idle alive drained

/--
A step or a drain unwinds exactly if it comes to a task that panics. What it
leaves of the scheduler then is what was there just before this task was
resumed, except that the task has gone from the front of the queue to the
abandoned, that what it spawned is at the back of the queue, and that the
scheduler is not draining. From then on, as from any moment of any run, the
scheduler goes on with the ready tasks in their order and resumes no task that
was abandoned.
-/
theorem panic_accounted
    {launch : κ → Coroutine κ α ε}
    (patience turns : Nat)
    {number : Nat}
    {trace : Trace κ α ε}
    {moment : Moment κ α ε}
    {scheduler : Scheduler κ α ε}
    (run : Run launch trace moment)
    (alive : moment.world.scheduler? number = some scheduler) :
    (∀ {next : Drive (Option Turn) → List (Layer κ α ε)}
      {panic : Panic},
      moment.world.isDriven number = false →
      Asking moment.layers (.step number) next →
      (World.Strikes (World.answer launch patience) number
          (moment.world.enter ⟨number, none⟩) panic ↔
        ∃ world',
          World.stepOnce (World.answer launch patience) number
              moment.world =
            some (world', .panicked panic) ∧
          PanicCaught launch number
            ⟨moment.world.enter ⟨number, none⟩,
              ⟨⟨number, none⟩, .before⟩ :: moment.layers⟩
            panic ⟨world', next (.panicked panic)⟩)) ∧
      (∀ {next : Drive Unit → List (Layer κ α ε)},
        moment.world.isDriven number = false →
        Asking moment.layers (.drain number) next →
        (∀ {times : Nat} {middle : World κ α ε} {panic : Panic},
          times < turns →
          World.turnTimes
              (World.takeTurn (World.answer launch patience) number)
              times (moment.world.draining number scheduler) =
            some middle →
          World.Strikes (World.answer launch patience) number middle
            panic →
          ∃ world' earlier,
            World.drain (World.answer launch patience) turns number
                moment.world =
              some (world', .panicked panic) ∧
            Path launch moment earlier
              ⟨middle,
                ⟨⟨number, some scheduler.ready.length⟩, .before⟩ ::
                  moment.layers⟩ ∧
            PanicCaught launch number
              ⟨middle,
                ⟨⟨number, some scheduler.ready.length⟩, .before⟩ ::
                  moment.layers⟩
              panic ⟨world', next (.panicked panic)⟩) ∧
          ∀ {world' : World κ α ε} {panic : Panic},
            World.drain (World.answer launch patience) turns number
                moment.world =
              some (world', .panicked panic) →
            ∃ times < turns,
            ∃ middle,
              World.turnTimes
                  (World.takeTurn (World.answer launch patience)
                    number)
                  times (moment.world.draining number scheduler) =
                some middle ∧
              World.Strikes (World.answer launch patience) number
                middle panic) ∧
      GoesOn launch patience number moment scheduler := by
  have follows :
      World.FollowsPaths launch (World.answer launch patience) :=
    World.answer_follows launch patience
  refine ⟨?_, ?_, run.goesOn patience alive⟩
  · intro next panic idle asking
    constructor
    · intro strikes
      exact strikes.stepOnce follows run asking idle alive
    · rintro ⟨world', stepped, -⟩
      exact World.strikes_of_stepOnce idle alive stepped
  · intro next idle asking
    refine ⟨?_, ?_⟩
    · intro times middle panic enough turned strikes
      exact
        strikes.drain follows run asking idle alive enough turned
    · intro world' panic drained
      exact World.strikes_of_drain idle alive drained

/--
Two tasks are drained: the first suspends, and the second spawns a third and
panics. The third is ready then, behind the first, and the drain is over.
-/
theorem panic_accounted_with_orphan :
    ∃ (world middle world' : World Job Value TaskError)
      (earlier : Trace Job Value TaskError)
      (scheduler' : Scheduler Job Value TaskError),
      Reachable Job.launch world ∧
        World.drain (World.answer Job.launch 0) 4 0 world =
          some (world', .panicked ⟨"spawned and gone"⟩) ∧
        Path Job.launch ⟨world, []⟩ earlier
          ⟨middle, [⟨⟨0, some 2⟩, .before⟩]⟩ ∧
        PanicCaught Job.launch 0 ⟨middle, [⟨⟨0, some 2⟩, .before⟩]⟩
          ⟨"spawned and gone"⟩ ⟨world', []⟩ ∧
        world'.scheduler? 0 = some scheduler' ∧
        scheduler'.readyIds = [⟨0⟩, ⟨2⟩] ∧
        scheduler'.abandoned = #[⟨1⟩] ∧
        scheduler'.draining = false := by
  have opened : Reachable Job.launch _ :=
    .opened (.start rfl rfl)
      (show (World.empty none).openScheduler {} = .ok (_, 0) from rfl)
  have suspending : Reachable Job.launch _ :=
    .added opened
      (show
        World.add? _ 0 (.ofResults fun _ => .ok .suspended) =
          some (_, ⟨0⟩) from rfl)
  have panicking : Reachable Job.launch _ :=
    .added suspending
      (show
        World.add? _ 0
            { State := Unit
              state := ()
              advance := fun _ =>
                .ask
                  (.spawn 0
                    ⟨.suspendThen (.exactly 0) (.literal (.number 7)),
                      .number 0⟩)
                  fun _ => .done ((), .error ⟨"spawned and gone"⟩) } =
          some (_, ⟨1⟩) from rfl)
  obtain ⟨trace, run⟩ := panicking.run
  have accounted :=
    panic_accounted 0 4 run
      (show World.scheduler? _ 0 = some _ from rfl)
  have drains := accounted.2.1 rfl (.host _)
  obtain ⟨world', earlier, drained, path, caught⟩ :=
    drains.1 (show 1 < 4 by decide) rfl ⟨_, _, _, _, rfl, rfl⟩
  have same := drained
  cases same
  exact
    ⟨_, _, _, earlier, _, panicking, drained, path, caught, rfl, rfl,
      rfl, rfl⟩

end RoundRobin
