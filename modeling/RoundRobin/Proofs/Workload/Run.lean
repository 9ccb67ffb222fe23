import RoundRobin.Proofs.Lookup
import RoundRobin.Proofs.Workload.Report

namespace RoundRobin

/-!
# Running a workload

A workload runs on a scheduler of its own: its tasks are added, what it
announces is logged, and the scheduler is drained. So far as schedulers go the
first and the last are operations of a host. If the tasks are quiet and
complete, then nothing can go wrong but the reservation of room, and the report
is the one on tasks that have all completed.
-/

/-- A scheduler lives on while the host operates on schedulers. -/
theorem Life.operate
    {launch : κ → Coroutine κ α ε}
    {history : History κ α ε}
    {world world' : World κ α ε}
    {number : Nat}
    {scheduler scheduler' : Scheduler κ α ε}
    (life : Life history scheduler none)
    (frames : world.frames = [])
    (alive : world.scheduler? number = some scheduler)
    (operations :
      Relation.ReflTransGen (World.Operation launch) world world')
    (alive' : world'.scheduler? number = some scheduler') :
    ∃ history', Life history' scheduler' none := by
  have coherent : Moment.Coherent ⟨world, []⟩ := .of_idle frames
  obtain ⟨trace, path⟩ :=
    World.Operation.path_of_reflTransGen operations coherent
  exact ⟨_, life.append (path.passage_of_alive coherent alive alive')⟩

namespace World

/-- Of coroutines that are added, the first is added first. -/
theorem addAll?_cons
    {world added : World κ α ε}
    {number : Nat}
    {coroutine : Coroutine κ α ε}
    {rest : List (Coroutine κ α ε)}
    (adds : world.addAll? number (coroutine :: rest) = some added) :
    ∃ middle id,
      world.add? number coroutine = some (middle, id) ∧
        middle.addAll? number rest = some added := by
  simp only [addAll?, List.foldlM_cons, Option.bind_eq_bind,
    Option.bind_eq_some_iff, Option.map_eq_some_iff] at adds
  obtain ⟨_, ⟨⟨middle, id⟩, first, rfl⟩, others⟩ := adds
  exact ⟨middle, id, first, others⟩

/-- Adding coroutines is a sequence of operations of a host. -/
theorem operations_of_addAll?
    (launch : κ → Coroutine κ α ε)
    {world added : World κ α ε}
    {number : Nat}
    {coroutines : List (Coroutine κ α ε)}
    (adds : world.addAll? number coroutines = some added) :
    Relation.ReflTransGen (Operation launch) world added := by
  induction coroutines generalizing world with
  | nil =>
      cases adds
      exact .refl
  | cons coroutine rest inductionHypothesis =>
      obtain ⟨middle, id, first, others⟩ := addAll?_cons adds
      exact .head (.added first) (inductionHypothesis others)

/--
If its capacity can be reserved, a scheduler gets the next number, and
coroutines that are added to it become its ready tasks. It has lived since it
was made.
-/
theorem openScheduler_addAll?
    (launch : κ → Coroutine κ α ε)
    {config : SchedulerConfig}
    (roomy :
      config.initialCapacity * Queue.taskBytes ≤ Queue.reservableBytes)
    {world : World κ α ε}
    (idle : world.frames = [])
    (coroutines : List (Coroutine κ α ε)) :
    ∃ opened added scheduler history,
      world.openScheduler config = .ok (opened, world.slots.length) ∧
        opened.scheduler? world.slots.length =
          some { config := config } ∧
        opened.addAll? world.slots.length coroutines = some added ∧
        added.frames = [] ∧
        added.scheduler? world.slots.length = some scheduler ∧
        scheduler.Untouched ∧
        scheduler.ready.toList = Task.family 0 coroutines ∧
        Life history scheduler none := by
  have made :
      Scheduler.new config =
        .ok ({ config := config } : Scheduler κ α ε) := by
    simp [Scheduler.new, Queue.reserved?, roomy]
  obtain ⟨opened, opens⟩ :
      ∃ opened,
        world.openScheduler config = .ok (opened, world.slots.length) := by
    simp [openScheduler, made]
  obtain ⟨alive, frames⟩ := scheduler?_of_opened opens
  obtain
    ⟨added, scheduler, adds, alive', untouched, -, ready, frames', -⟩ :=
    addAll?_eq_some alive ⟨rfl, rfl, rfl, rfl, rfl⟩ (.refl _) coroutines
  obtain ⟨history, life⟩ :=
    (Life.made made).operate (frames.trans idle) alive
      (operations_of_addAll? launch adds) alive'
  exact
    ⟨opened, added, scheduler, history, opens, alive, adds,
      (frames'.trans frames).trans idle, alive', untouched, ready, life⟩

/-- A drain resolves ready tasks that keep the plans of a family. -/
theorem drain_resolves
    {launch : κ → Coroutine κ α ε}
    {patience number : Nat}
    {world : World κ α ε}
    {scheduler : Scheduler κ α ε}
    (idle : world.isDriven number = false)
    (alive : world.scheduler? number = some scheduler)
    (untouched : scheduler.Untouched)
    (placed : scheduler.Placed none)
    {count : Nat}
    {suspensions : Nat → Nat}
    {fate : Nat → Outcome α ε → Prop}
    (kept :
      List.Forall₂
        (Plan.Kept launch patience number fun _ => True)
        scheduler.ready.toList
        (Plan.family count suspensions fate))
    {turns : Nat}
    (enough :
      ((List.range count).map fun index => suspensions index + 1).sum <
        turns) :
    ∃ world' scheduler' outcome,
      drain (answer launch patience) turns number world =
          some (world', .finished ()) ∧
        world'.scheduler? number = some scheduler' ∧
        scheduler'.Resolved count suspensions outcome ∧
        ∀ index < count, fate index (outcome index) := by
  have entered :
      (world.draining number scheduler).scheduler? number =
        some { scheduler with draining := true } := by
    simp [alive]
  have untouchedEntered : { scheduler with draining := true }.Untouched :=
    ⟨untouched.resolutionOrder, untouched.completed, untouched.failed,
      untouched.abandoned, untouched.tally⟩
  obtain
    ⟨world', scheduler', outcome, suitable, turnsTo, length, alive',
      resolved⟩ :=
    (takesTurns_takeTurn.worksOff
      ⟨by simp [isDriven], trivial⟩ entered placed kept).schedule
        untouchedEntered
  refine
    ⟨_, { scheduler' with draining := false }, outcome,
      drain_of_turnsTo idle alive turnsTo (length ▸ enough), ?_, ?_,
      fun index below => (suitable index below).2⟩
  · simp [alive']
  · exact
      ⟨resolved.ready, resolved.resolutionOrder, resolved.completed,
        resolved.failed, resolved.abandoned, resolved.resumptions,
        resolved.suspensions⟩

end World

namespace Workload

variable
  {workload : Workload}
  {entries : List β}
  {label : β → String}
  {coroutine : β → Coroutine Job Value TaskError}
  {suspensions : β → Nat}
  {value : β → Value}

/-- Labelled tasks are added as coroutines are, and every label names its task. -/
theorem addTasks_eq
    {number : Nat}
    {world added : RecipeWorld}
    {scheduler : Scheduler Job Value TaskError}
    (alive : world.scheduler? number = some scheduler)
    (adds :
      world.addAll? number (entries.map coroutine) = some added) :
    addTasks number
        (entries.map fun entry => (label entry, coroutine entry)) world =
      (added,
        entries.mapIdx fun index entry =>
          (⟨scheduler.ids.issued + index⟩, label entry)) := by
  induction entries generalizing world scheduler with
  | nil =>
      cases adds
      rfl
  | cons entry rest inductionHypothesis =>
      obtain ⟨middle, id, first, others⟩ := World.addAll?_cons adds
      obtain ⟨_, found, rfl, same⟩ := World.add?_eq_some first
      rw [alive] at found
      cases found
      have alive' :
          middle.scheduler? number =
            some (scheduler.enqueue (coroutine entry)).1 := by
        simp [same, alive]
      simp only [List.map_cons, addTasks, first,
        inductionHypothesis alive' others]
      simp [Scheduler.enqueue, IdSource.next, List.mapIdx_cons,
        Nat.add_comm, Nat.add_left_comm]

/-- Quiet coroutines made from the entries of a list keep the plans of a family. -/
theorem kept_of_quiet
    (quiet :
      ∀ entry ∈ entries,
        (coroutine entry).Quiet
          (fun outcome => outcome = .completed (value entry))
          (suspensions entry))
    (patience number : Nat) :
    List.Forall₂
      (Plan.Kept Job.launch patience number fun _ => True)
      (Task.family 0 (entries.map coroutine))
      (Plan.family entries.length
        (fun index => (entries.map suspensions).getD index 0)
        fun index outcome =>
          ∀ entry,
            entries[index]? = some entry →
            outcome = .completed (value entry)) := by
  have length : (entries.map coroutine).length = entries.length :=
    List.length_map coroutine
  rw [← length]
  apply Plan.kept_family
  intro index made found
  rw [List.getElem?_map, Option.map_eq_some_iff] at found
  obtain ⟨entry, found, rfl⟩ := found
  have member : entry ∈ entries := List.mem_of_getElem? found
  simpa [found] using
    (quiet entry member).lasts Job.launch patience number fun _ => True

/--
A workload whose tasks are quiet and complete is run to its end with any
patience that exceeds the number of resumptions by two or more, and the report
shows that all tasks have completed.
-/
theorem run_of_quiet
    {config : SchedulerConfig}
    {world : RecipeWorld}
    (roomy :
      config.initialCapacity * Queue.taskBytes ≤ Queue.reservableBytes)
    (idle : world.frames = [])
    (tasks :
      workload.tasks world.slots.length =
        entries.map fun entry => (label entry, coroutine entry))
    (quiet :
      ∀ entry ∈ entries,
        (coroutine entry).Quiet
          (fun outcome => outcome = .completed (value entry))
          (suspensions entry))
    {patience : Nat}
    (enough :
      (entries.map fun entry => suspensions entry + 1).sum + 1 <
        patience) :
    ∃ world',
      workload.run patience config world =
        .ok (world', .allCompleted entries label suspensions value) := by
  obtain
    ⟨opened, added, scheduler, history, opens, alive, adds, frames,
      aliveAdded, untouched, ready, life⟩ :=
    World.openScheduler_addAll? Job.launch roomy idle
      (entries.map coroutine)
  have aliveAnnounced :
      (added.emit workload.announcement).scheduler?
          world.slots.length =
        some scheduler := by
    rw [World.scheduler?_emit, aliveAdded]
  obtain ⟨turns, rfl⟩ : ∃ turns, patience = turns + 1 :=
    Nat.exists_eq_add_of_le' (Nat.one_le_of_lt enough)
  have kept := kept_of_quiet quiet turns world.slots.length
  rw [← ready] at kept
  have resumptions :
      ((List.range entries.length).map fun index =>
          (entries.map suspensions).getD index 0 + 1).sum <
        turns := by
    rw [map_range_getD entries suspensions (· + 1)]
    exact Nat.lt_of_succ_lt_succ enough
  obtain
    ⟨drained, scheduler', outcome, drains, aliveDrained, resolved,
      completes⟩ :=
    World.drain_resolves (by simp [World.isDriven, frames])
      aliveAnnounced untouched life.placed kept resumptions
  obtain ⟨history', life'⟩ :=
    life.operate ((World.frames_emit _ _).trans frames) aliveAnnounced
      (.single (.drained drains)) aliveDrained
  have labelled :
      addTasks world.slots.length
          (workload.tasks world.slots.length) opened =
        (added,
          entries.mapIdx fun index entry => (⟨index⟩, label entry)) := by
    rw [tasks, addTasks_eq alive adds]
    simp
  have reported :
      Report.collect scheduler'
          (entries.mapIdx fun index entry => (⟨index⟩, label entry)) =
        .allCompleted entries label suspensions value := by
    apply resolved.collect life'
    intro index entry found
    obtain ⟨below, -⟩ := List.getElem?_eq_some_iff.mp found
    exact completes index below entry found
  refine ⟨drained, ?_⟩
  simp only [run, opens, labelled, World.answer, drains, aliveDrained,
    reported]

end Workload

end RoundRobin
