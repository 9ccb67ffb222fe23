import RoundRobin.Proofs.Forest.Drain
import RoundRobin.Proofs.Forest.Endless

namespace RoundRobin

/-!
# When a drain ends

Both sides of the question: a drain ends after as many resumptions as the
forest of the ready tasks takes, and it never returns if one of the ready tasks
has no end.
-/

/--
If the ready tasks of a scheduler behave as the trees of a forest say, a drain
of it returns and has resolved the forest. If one of them suspends at every
resumption, it is ready whenever no task is being resumed, after any number of
steps in particular, and no drain returns.
-/
theorem drain_ends_with_forest
    (launch : κ → Coroutine κ α ε)
    (patience number : Nat)
    (holds : Surroundings κ α ε → Prop) :
    (∀ {trace : Trace κ α ε} {moment : Moment κ α ε}
      {scheduler : Scheduler κ α ε} {forest : List (Behaviour α ε)}
      {next : Drive Unit → List (Layer κ α ε)},
      Run launch trace moment →
      Asking moment.layers (.drain number) next →
      moment.world.isDriven number = false →
      moment.world.scheduler? number = some scheduler →
      holds (moment.world.around number) →
      List.Forall₂
        (fun task behaviour =>
          task.coroutine.Behaves launch patience number holds behaviour)
        scheduler.ready.toList forest →
      ∃ world' later scheduler' roots issued,
        (∀ turns,
          Behaviour.resumptions forest < turns →
          World.drain (World.answer launch patience) turns number
              moment.world =
            some (world', .finished ())) ∧
          Path launch moment later ⟨world', next (.finished ())⟩ ∧
          world'.scheduler? number = some scheduler' ∧
          ForestResolved launch patience number holds scheduler
            (later.about number) scheduler' forest roots issued) ∧
      ∀ {trace : Trace κ α ε} {moment : Moment κ α ε}
        {scheduler : Scheduler κ α ε} {task : Task κ α ε},
        Run launch trace moment →
        moment.world.scheduler? number = some scheduler →
        task ∈ scheduler.ready.toList →
        moment.Unending launch number task.id →
        (∀ {later : Trace κ α ε} {moment' : Moment κ α ε}
          {scheduler' : Scheduler κ α ε},
          Path launch moment later moment' →
          moment'.world.scheduler? number = some scheduler' →
          moment'.running? number = none →
          task.id ∈ scheduler'.readyIds) ∧
          (∀ {times : Nat} {world' : World κ α ε}
            {drives : List (Drive (Option Turn))},
            moment.layers = [] →
            World.stepTimes (World.answer launch patience) number times
                moment.world =
              some (world', drives) →
            ∃ scheduler',
              world'.scheduler? number = some scheduler' ∧
                task.id ∈ scheduler'.readyIds) ∧
          ∀ {next : Drive Unit → List (Layer κ α ε)} {turns : Nat}
            {world' : World κ α ε} {drive : Drive Unit},
            Asking moment.layers (.drain number) next →
            moment.world.isDriven number = false →
            World.drain (World.answer launch patience) turns number
                moment.world =
              some (world', drive) →
            ∃ panic, drive = .panicked panic := by
  refine ⟨?_, ?_⟩
  · intro trace moment scheduler forest next run asking idle alive held
      behave
    exact run.drain_resolved asking idle alive held behave
  · intro trace moment scheduler task run alive ready unending
    refine ⟨?_, ?_, ?_⟩
    · intro later moment' scheduler' path alive' resting
      exact
        run.ready_of_unending alive ready unending path alive' resting
    · intro times world' drives between stepped
      exact
        run.ready_of_stepTimes between alive ready unending stepped
    · intro next turns world' drive asking idle drained
      exact
        run.panicked_of_unending alive ready unending asking idle
          drained

/--
A task that spawns in both of its resumptions and another one: together with
what they spawn, they take six resumptions. With a task besides that always
suspends, a drain does not return, however many turns it may take.
-/
theorem drain_ends_with_forest_of_four :
    ∃ (world world' endless :
        World (Behaviour Value TaskError) Value TaskError)
      (later : Trace (Behaviour Value TaskError) Value TaskError)
      (scheduler scheduler' :
        Scheduler (Behaviour Value TaskError) Value TaskError)
      (forest : List (Behaviour Value TaskError))
      (roots issued : List (Member Value TaskError)),
      Reachable (Coroutine.ofBehaviour 0) world ∧
        world.scheduler? 0 = some scheduler ∧
        forest =
          [.spawns (.suspends (.ends (.ok (.number 1))))
              (.suspends
                (.spawns (.ends (.error (.raised "lost")))
                  (.ends (.ok (.number 2))))),
            .ends (.ok (.number 3))] ∧
        Behaviour.resumptions forest = 6 ∧
        World.drain (World.answer (Coroutine.ofBehaviour 0) 0) 7 0
            world =
          some (world', .finished ()) ∧
        world'.scheduler? 0 = some scheduler' ∧
        ForestResolved (Coroutine.ofBehaviour 0) 0 0 (fun _ => True)
          scheduler (later.about 0) scheduler' forest roots issued ∧
        Reachable (Coroutine.ofBehaviour 0) endless ∧
        ∀ turns world',
          World.drain (World.answer (Coroutine.ofBehaviour 0) 0) turns 0
              endless ≠
            some (world', .finished ()) := by
  have opened : Reachable (Coroutine.ofBehaviour 0) _ :=
    .opened (.start rfl rfl)
      (show
        (World.empty none :
              World (Behaviour Value TaskError) Value
                TaskError).openScheduler
            {} =
          .ok (_, 0) from rfl)
  have spawning : Reachable (Coroutine.ofBehaviour 0) _ :=
    .added opened
      (show
        World.add? _ 0
            (.ofBehaviour 0
              (.spawns (.suspends (.ends (.ok (.number 1))))
                (.suspends
                  (.spawns (.ends (.error (.raised "lost")))
                    (.ends (.ok (.number 2))))))) =
          some (_, ⟨0⟩) from rfl)
  have completing : Reachable (Coroutine.ofBehaviour 0) _ :=
    .added spawning
      (show
        World.add? _ 0 (.ofBehaviour 0 (.ends (.ok (.number 3)))) =
          some (_, ⟨1⟩) from rfl)
  have suspending : Reachable (Coroutine.ofBehaviour 0) _ :=
    .added completing
      (show
        World.add? _ 0 (.ofResults fun _ => .ok .suspended) =
          some (_, ⟨2⟩) from rfl)
  obtain ⟨trace, run⟩ := completing.run
  obtain
    ⟨world', later, scheduler', roots, issued, drained, -, alive',
      resolved⟩ :=
    (drain_ends_with_forest (Coroutine.ofBehaviour 0) 0 0
        fun _ => True).1
      run (.host (.drain 0)) rfl
      (show World.scheduler? _ 0 = some _ from rfl) trivial
      (.cons (Coroutine.behaves_ofBehaviour _)
        (.cons (Coroutine.behaves_ofBehaviour _) .nil))
  obtain ⟨endlessTrace, endlessRun⟩ := suspending.run
  have unending :=
    endlessRun.unending_of_suspends
      (show World.scheduler? _ 0 = some _ from rfl)
      (.tail _ (.tail _ (.head _)))
      (.of_described (Coroutine.described_ofResults _))
  have endless :=
    (drain_ends_with_forest (Coroutine.ofBehaviour 0) 0 0
        fun _ => True).2
      endlessRun (show World.scheduler? _ 0 = some _ from rfl)
      (.tail _ (.tail _ (.head _))) unending
  refine
    ⟨_, world', _, later, _, scheduler', _, roots, issued, completing, rfl,
      rfl, rfl, drained 7 (by decide), alive', resolved, suspending, ?_⟩
  intro turns last returned
  obtain ⟨panic, unwound⟩ := endless.2.2 (.host (.drain 0)) rfl returned
  cases unwound

end RoundRobin
