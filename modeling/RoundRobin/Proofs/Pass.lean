import RoundRobin.Proofs.Run.Passage
import RoundRobin.Proofs.Solo

namespace RoundRobin

/-!
# A pass over the ready tasks

As many steps in a row as tasks are ready resume exactly these tasks, in their
order, and none of those that come meanwhile. In the middle of such a pass the
queue has two parts: in front the tasks that are still to be resumed, behind
them what the earlier resumptions left. Every step takes the first task of the
front part and puts behind the back part what arrived during the resumption
and then, if it suspended, the task itself.
-/

/-- A resumption of a task, with the tasks that its scheduler was given meanwhile. -/
structure Episode (κ α ε : Type) where
  id : TaskId
  /-- The tasks that were added through spawners, in that order. -/
  arrivals : List (TaskId × Coroutine κ α ε)
  result : Guarded (Outcome α ε)

namespace Episode

/-- What happens to the scheduler in an episode. -/
def history (episode : Episode κ α ε) : History κ α ε :=
  [.began episode.id] ++
    (episode.arrivals.map fun (id, coroutine) => .added id coroutine) ++
      [.ended episode.id episode.result]

/-- What a step reports of an episode. -/
def drive (episode : Episode κ α ε) : Drive (Option Turn) :=
  World.driven (Turn.ofResult episode.id episode.result)

/-- The tasks that an episode leaves at the back of the queue. -/
def leaves (episode : Episode κ α ε) : List TaskId :=
  episode.arrivals.map Prod.fst ++
    match episode.result with
    | .ok .suspended => [episode.id]
    | _ => []

end Episode

namespace Arrivals

variable
  {scheduler scheduler' : Scheduler κ α ε}
  {history : History κ α ε}

/-- Nothing but additions is told of arrivals. -/
theorem history_eq (arrivals : Arrivals scheduler history scheduler') :
    history =
      history.added.map fun (id, coroutine) => .added id coroutine := by
  induction arrivals with
  | nil => rfl
  | snoc _ coroutine inductionHypothesis =>
      rw [History.added_append, History.added_added, List.map_append,
        ← inductionHypothesis]
      rfl

/-- What arrives goes to the back of the queue. -/
theorem ready (arrivals : Arrivals scheduler history scheduler') :
    scheduler'.ready.toList =
      scheduler.ready.toList ++
        history.added.map fun (id, coroutine) => .new id coroutine := by
  induction arrivals with
  | nil => simp [History.added]
  | snoc _ coroutine inductionHypothesis =>
      simp [inductionHypothesis]

/-- What arrives gets the next identities. -/
theorem handedOut (arrivals : Arrivals scheduler history scheduler') :
    scheduler'.ids.handedOut =
      scheduler.ids.handedOut ++ history.added.map Prod.fst := by
  induction arrivals with
  | nil => simp [History.added]
  | snoc _ coroutine inductionHypothesis =>
      simp [inductionHypothesis]

end Arrivals

/-- What an episode does to a scheduler, whose queue is given before and after. -/
structure Episode.Happens
    (episode : Episode κ α ε)
    (number : Nat)
    (scheduler : Scheduler κ α ε)
    (rest : List (Task κ α ε))
    (trace : Trace κ α ε)
    (world : World κ α ε) :
    Prop where
  about : trace.about number = episode.history
  after :
    ∃ scheduler' back,
      world.scheduler? number = some scheduler' ∧
        scheduler'.ready.toList = rest ++ back ∧
        back.map Task.id = episode.leaves ∧
        scheduler'.ids.handedOut =
          scheduler.ids.handedOut ++ episode.arrivals.map Prod.fst

/-- A turn of a scheduler with a ready task is an episode of the first one. -/
theorem TurnTaken.episode
    {number : Nat}
    {world world' : World κ α ε}
    {trace : Trace κ α ε}
    {result : Guarded (Option Turn)}
    (taken : TurnTaken number world trace world' result)
    (driven : world.isDriven number)
    {scheduler : Scheduler κ α ε}
    (alive : world.scheduler? number = some scheduler)
    {task : Task κ α ε}
    {rest : List (Task κ α ε)}
    (ready : scheduler.ready.toList = task :: rest) :
    ∃ episode : Episode κ α ε,
      episode.id = task.id ∧
        result = Turn.ofResult episode.id episode.result ∧
        world'.frames = world.frames ∧
        episode.Happens number scheduler rest trace world' := by
  cases taken with
  | idle empty =>
      have nothing : scheduler.ready.toList = [] := by
        apply Scheduler.dequeue?_eq_none_iff.mp
        simpa [alive] using empty
      simp [ready] at nothing
  | @resumed first popped trace stopped coroutine result next conducted =>
      have dequeued : scheduler.dequeue? = some (first, popped) := by
        simpa [alive] using next
      obtain ⟨shape, unchanged⟩ := Scheduler.dequeue?_eq_some dequeued
      rw [ready] at shape
      obtain ⟨rfl, rfl⟩ := List.cons.inj shape
      obtain ⟨scheduler', alive', arrivals⟩ :=
        conducted.arrivals number popped driven (by simp [alive])
      refine
        ⟨⟨task.id, (trace.about number).added, result⟩, rfl, rfl, ?_,
          ?_, ?_⟩
      · rw [World.frames_conclude, conducted.frames,
          World.frames_started]
      · simp [Episode.history, ← arrivals.history_eq]
      · refine
          ⟨scheduler'.conclude task coroutine result,
            ((trace.about number).added.map fun (id, coroutine) =>
                .new id coroutine) ++
              (match result with
              | .ok .suspended => [task.resumed coroutine]
              | _ => []),
            ?_, ?_, ?_, ?_⟩
        · simp [alive']
        · have queue :=
            scheduler'.ready_conclude task coroutine result
          rw [arrivals.ready, List.append_assoc] at queue
          exact queue
        · rcases result with panic | _ | value | error <;>
            simp [Episode.leaves, Task.new]
        · rw [Scheduler.ids_conclude, arrivals.handedOut, unchanged]

namespace World

/-- Drive a scheduler for a number of steps in a row. -/
def stepTimes
    (answer : Answerer κ α ε)
    (number : Nat) :
    (times : Nat) →
    World κ α ε →
    Option (World κ α ε × List (Drive (Option Turn)))
  | 0, world => some (world, [])
  | times + 1, world =>
      match stepOnce answer number world with
      | none => none
      | some (world, drive) =>
          (stepTimes answer number times world).map
            fun (world, drives) => (world, drive :: drives)

variable
  {launch : κ → Coroutine κ α ε}
  {answer : Answerer κ α ε}
  {number : Nat}
  {world world' : World κ α ε}
  {scheduler : Scheduler κ α ε}

/-- A step of a scheduler with a ready task is an episode of the first one. -/
theorem stepOnce_episode
    (follows : FollowsPaths launch answer)
    (idle : world.isDriven number = false)
    (alive : world.scheduler? number = some scheduler)
    {task : Task κ α ε}
    {rest : List (Task κ α ε)}
    (ready : scheduler.ready.toList = task :: rest)
    {drive : Drive (Option Turn)}
    (stepped : stepOnce answer number world = some (world', drive)) :
    ∃ (episode : Episode κ α ε) (trace : Trace κ α ε),
      episode.id = task.id ∧
        drive = episode.drive ∧
        world'.frames = world.frames ∧
        Path launch ⟨world, []⟩ trace ⟨world', []⟩ ∧
        episode.Happens number scheduler rest trace world' := by
  rw [stepOnce_eq answer idle alive] at stepped
  simp only [Option.map_eq_some_iff, Prod.mk.injEq] at stepped
  obtain ⟨⟨turned, result⟩, taken, rfl, rfl⟩ := stepped
  obtain ⟨trace, path, turnTaken⟩ := takeTurn_path follows taken none []
  obtain ⟨episode, sameId, rfl, frames, happens⟩ :=
    turnTaken.episode (by simp [isDriven]) alive ready
  refine ⟨episode, trace, sameId, rfl, ?_, ?_, ?_⟩
  · simp [frames]
  · have entered :=
      (Path.single
        (.stepEntered (.host (.step number)) idle alive)).append path
    have left := entered.snoc (.stepLeft (.host (.step number)))
    simpa using left
  · exact ⟨happens.about, happens.after⟩

/--
As many steps as the front part of the queue is long are an episode of each of
its tasks, and what the episodes leave comes behind the other part.
-/
theorem stepTimes_episodes
    (follows : FollowsPaths launch answer)
    (idle : world.isDriven number = false)
    (alive : world.scheduler? number = some scheduler)
    {front rest : List (Task κ α ε)}
    (ready : scheduler.ready.toList = front ++ rest)
    {drives : List (Drive (Option Turn))}
    (stepped :
      stepTimes answer number front.length world =
        some (world', drives)) :
    ∃ (episodes : List (Episode κ α ε)) (trace : Trace κ α ε)
      (scheduler' : Scheduler κ α ε) (back : List (Task κ α ε)),
      episodes.map Episode.id = front.map Task.id ∧
        drives = episodes.map Episode.drive ∧
        Path launch ⟨world, []⟩ trace ⟨world', []⟩ ∧
        trace.about number = episodes.flatMap Episode.history ∧
        world'.scheduler? number = some scheduler' ∧
        scheduler'.ready.toList = rest ++ back ∧
        back.map Task.id = episodes.flatMap Episode.leaves ∧
        scheduler'.ids.handedOut =
          scheduler.ids.handedOut ++
            episodes.flatMap fun episode =>
              episode.arrivals.map Prod.fst := by
  -- What an episode leaves lengthens the part that is not to be resumed.
  induction front generalizing world scheduler rest drives with
  | nil =>
      simp only [List.length_nil, stepTimes, Option.some.injEq,
        Prod.mk.injEq] at stepped
      obtain ⟨rfl, rfl⟩ := stepped
      exact
        ⟨[], [], scheduler, [], rfl, rfl, .nil _, rfl, alive,
          by simpa using ready, rfl, by simp⟩
  | cons task front inductionHypothesis =>
      rw [List.cons_append] at ready
      simp only [List.length_cons, stepTimes] at stepped
      cases first : stepOnce answer number world with
      | none => simp [first] at stepped
      | some pair =>
          obtain ⟨middle, drive⟩ := pair
          simp only [first, Option.map_eq_some_iff, Prod.mk.injEq]
            at stepped
          obtain ⟨⟨last, later⟩, remaining, rfl, rfl⟩ := stepped
          obtain
            ⟨episode, trace, sameId, rfl, frames, path, about, after⟩ :=
            stepOnce_episode follows idle alive ready first
          obtain ⟨scheduler', back, alive', ready', left, issued⟩ :=
            after
          have idle' : middle.isDriven number = false := by
            rw [isDriven_congr frames]
            exact idle
          rw [List.append_assoc] at ready'
          obtain
            ⟨episodes, trace', scheduler'', back', ids, rfl, path',
              about', alive'', ready'', left', issued'⟩ :=
            inductionHypothesis idle' alive' ready' remaining
          refine
            ⟨episode :: episodes, trace ++ trace', scheduler'',
              back ++ back', ?_, rfl, path.append path', ?_, alive'',
              ?_, ?_, ?_⟩
          · simp [sameId, ids]
          · simp [about, about']
          · rw [ready'', List.append_assoc]
          · simp [left, left']
          · simp [issued, issued', List.append_assoc]

/-- A step returns if the resumption that it makes drives no other scheduler. -/
theorem stepOnce_isSome
    (launch : κ → Coroutine κ α ε)
    (patience : Nat)
    (idle : world.isDriven number = false)
    (alive : world.scheduler? number = some scheduler)
    {task : Task κ α ε}
    {rest : List (Task κ α ε)}
    (ready : scheduler.ready.toList = task :: rest)
    (atOnce : task.coroutine.resume.AsksOnly Request.DrivesNone) :
    (stepOnce (World.answer launch patience) number world).isSome := by
  obtain ⟨popped, dequeued, -⟩ := Scheduler.dequeue?_of_ready ready
  have conducted :
      (task.coroutine.resume.conduct (World.answer launch patience)
        ((world.enter ⟨number, none⟩).started number popped
          task)).isSome :=
    Activity.conduct_isSome
      (fun _ state asked => answer_isSome asked patience state) atOnce _
  rw [stepOnce_eq _ idle alive, takeTurn_eq]
  simpa [alive, dequeued] using conducted

/-- Steps in a row return if the resumptions that they make drive no other scheduler. -/
theorem stepTimes_isSome
    (launch : κ → Coroutine κ α ε)
    (patience : Nat)
    (idle : world.isDriven number = false)
    (alive : world.scheduler? number = some scheduler)
    {front rest : List (Task κ α ε)}
    (ready : scheduler.ready.toList = front ++ rest)
    (atOnce :
      ∀ task ∈ front,
        task.coroutine.resume.AsksOnly Request.DrivesNone) :
    (stepTimes (World.answer launch patience) number front.length
      world).isSome := by
  induction front generalizing world scheduler rest with
  | nil => rfl
  | cons task front inductionHypothesis =>
      rw [List.cons_append] at ready
      obtain ⟨⟨middle, drive⟩, first⟩ :=
        Option.isSome_iff_exists.mp
          (stepOnce_isSome launch patience idle alive ready
            (atOnce task List.mem_cons_self))
      obtain ⟨episode, trace, -, -, frames, -, -, after⟩ :=
        stepOnce_episode (World.answer_follows launch patience) idle
          alive ready first
      obtain ⟨scheduler', back, alive', ready', -, -⟩ := after
      have idle' : middle.isDriven number = false := by
        rw [isDriven_congr frames]
        exact idle
      rw [List.append_assoc] at ready'
      have remaining :=
        inductionHypothesis idle' alive' ready'
          fun task member => atOnce task (List.mem_cons_of_mem _ member)
      simpa [stepTimes, first] using remaining

end World

/--
As many steps in a row as tasks are ready resume exactly these tasks, once each
and in their order. What is ready then is, for one resumption after the other,
the tasks that the scheduler was given during it, however it ended, and then
the resumed task itself if it suspended. The steps return unless a resumption
drives another scheduler.
-/
theorem pass_fair
    (launch : κ → Coroutine κ α ε)
    (patience number : Nat)
    {world : World κ α ε}
    {scheduler : Scheduler κ α ε}
    (idle : world.isDriven number = false)
    (alive : world.scheduler? number = some scheduler) :
    (∀ {world' : World κ α ε} {drives : List (Drive (Option Turn))},
      World.stepTimes (World.answer launch patience) number
          scheduler.readyIds.length world =
        some (world', drives) →
      ∃ (episodes : List (Episode κ α ε)) (trace : Trace κ α ε)
        (scheduler' : Scheduler κ α ε),
        episodes.map Episode.id = scheduler.readyIds ∧
          drives = episodes.map Episode.drive ∧
          Path launch ⟨world, []⟩ trace ⟨world', []⟩ ∧
          trace.about number = episodes.flatMap Episode.history ∧
          world'.scheduler? number = some scheduler' ∧
          scheduler'.readyIds = episodes.flatMap Episode.leaves ∧
          scheduler'.ids.handedOut =
            scheduler.ids.handedOut ++
              episodes.flatMap fun episode =>
                episode.arrivals.map Prod.fst) ∧
      ((∀ task ∈ scheduler.ready.toList,
          task.coroutine.resume.AsksOnly Request.DrivesNone) →
        (World.stepTimes (World.answer launch patience) number
          scheduler.readyIds.length world).isSome) := by
  have length :
      scheduler.readyIds.length = scheduler.ready.toList.length := by
    simp [Scheduler.readyIds, Queue.ids]
  have whole :
      scheduler.ready.toList = scheduler.ready.toList ++ [] := by
    simp
  rw [length]
  refine ⟨?_, ?_⟩
  · intro world' drives stepped
    obtain
      ⟨episodes, trace, scheduler', back, ids, reports, path, about,
        alive', ready, left, issued⟩ :=
      World.stepTimes_episodes (World.answer_follows launch patience)
        idle alive whole stepped
    refine
      ⟨episodes, trace, scheduler', ids, reports, path, about, alive',
        ?_, issued⟩
    rw [List.nil_append] at ready
    rw [Scheduler.readyIds, Queue.ids, ready, left]
  · intro atOnce
    exact
      World.stepTimes_isSome launch patience idle alive whole atOnce

/-- The first of two tasks spawns a third and panics, and the second suspends. -/
theorem pass_fair_with_orphan :
    ∃ world scheduler world' drives scheduler',
      ∃ episodes : List (Episode Job Value TaskError),
        Reachable Job.launch world ∧
          world.scheduler? 0 = some scheduler ∧
          scheduler.readyIds = [⟨0⟩, ⟨1⟩] ∧
          World.stepTimes (World.answer Job.launch 0) 0 2 world =
            some (world', drives) ∧
          episodes.map Episode.id = [⟨0⟩, ⟨1⟩] ∧
          world'.scheduler? 0 = some scheduler' ∧
          scheduler'.readyIds = episodes.flatMap Episode.leaves ∧
          scheduler'.readyIds = [⟨2⟩, ⟨1⟩] := by
  have opened : Reachable Job.launch _ :=
    .opened (.start rfl rfl)
      (show (World.empty none).openScheduler {} = .ok (_, 0) from rfl)
  have parent : Reachable Job.launch _ :=
    .added opened
      (show
        World.add? _ 0
            { State := Unit
              state := ()
              advance := fun _ =>
                .ask
                  (.spawn 0
                    ⟨.suspendThen (.exactly 0) (.literal (.number 7)),
                      .number 0⟩)
                  fun _ => .done ((), .error ⟨"spawned and gone"⟩) } =
          some (_, ⟨0⟩) from rfl)
  have added : Reachable Job.launch _ :=
    .added parent
      (show
        World.add? _ 0 (.ofResults fun _ => .ok .suspended) =
          some (_, ⟨1⟩) from rfl)
  have fair
      {world : World Job Value TaskError}
      {scheduler : Scheduler Job Value TaskError}
      (_ : Reachable Job.launch world)
      (idle : world.isDriven 0 = false)
      (alive : world.scheduler? 0 = some scheduler) :=
    pass_fair Job.launch 0 0 idle alive
  have passed := fair added rfl rfl
  have atOnce := passed.2 (by
    intro task member
    rcases member with _ | ⟨_, _ | ⟨_, absent⟩⟩
    · exact .ask ⟨by simp, by simp⟩ fun _ => .done _
    · exact .done _
    · cases absent)
  obtain ⟨⟨world', drives⟩, stepped⟩ :=
    Option.isSome_iff_exists.mp atOnce
  obtain
    ⟨episodes, trace, scheduler', ids, -, -, -, alive', ready, -⟩ :=
    passed.1 stepped
  refine
    ⟨_, _, world', drives, scheduler', episodes, added, rfl, rfl,
      stepped, ids, alive', ready, ?_⟩
  cases stepped
  cases alive'
  rfl

end RoundRobin
