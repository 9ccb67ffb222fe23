import RoundRobin.Proofs.Isolation
import RoundRobin.Proofs.Unwinding

namespace RoundRobin

/-!
# Tasks without an end

A ready task that suspends at every resumption is ready again after each of
them, so it is ready whenever no task is being resumed. A drain only returns
once no task is ready; with such a task it does not return, though the panic of
another task may still unwind it.
-/

/-- Whatever is replied to it, the coroutine suspends at every resumption. -/
def Coroutine.Suspends (coroutine : Coroutine κ α ε) : Prop :=
  ∀ results coroutine',
    coroutine.Reaches results coroutine' →
    ∀ result ∈ results, result = .ok .suspended

namespace Coroutine.Suspends

/-- What a resumption leaves of such a coroutine is one again. -/
theorem ends
    {coroutine coroutine' : Coroutine κ α ε}
    {result : Guarded (Outcome α ε)}
    (suspends : coroutine.Suspends)
    (ends : coroutine.resume.Ends (coroutine', result)) :
    result = .ok .suspended ∧ coroutine'.Suspends := by
  refine ⟨?_, ?_⟩
  · exact
      suspends [result] coroutine' (.cons ends (.nil coroutine')) result
        List.mem_cons_self
  · intro results reached reaches later member
    exact
      suspends (result :: results) reached (.cons ends reaches) later
        (List.mem_cons_of_mem _ member)

/-- A coroutine that is described by suspensions alone is one. -/
theorem of_described
    {coroutine : Coroutine κ α ε}
    (described : coroutine.Described fun _ => .ok .suspended) :
    coroutine.Suspends := by
  intro results coroutine' reaches result member
  rw [described results coroutine' reaches] at member
  obtain ⟨turn, -, same⟩ := List.mem_map.mp member
  exact same.symm

end Coroutine.Suspends

/-- The tasks of an identity that are ready or being resumed suspend at every resumption. -/
def Scheduler.KeepsSuspending
    (scheduler : Scheduler κ α ε)
    (running : Option (Task κ α ε))
    (id : TaskId) :
    Prop :=
  id ∈ scheduler.ids.handedOut ∧
    ∀ task ∈ scheduler.live running,
      task.id = id →
      task.coroutine.Suspends

/-- Every step of a scheduler keeps such a task, and ends none but suspended resumptions of it. -/
theorem Step.keepsSuspending
    {scheduler scheduler' : Scheduler κ α ε}
    {running running' : Option (Task κ α ε)}
    {history : History κ α ε}
    {id : TaskId}
    (step : Step scheduler running history scheduler' running')
    (before : scheduler.KeepsSuspending running id) :
    (∀ result ∈ history.results id, result = .ok .suspended) ∧
      scheduler'.KeepsSuspending running' id := by
  obtain ⟨issued, suspend⟩ := before
  cases step with
  | still =>
      exact ⟨by simp [History.results], issued, suspend⟩
  | added _ coroutine =>
      refine ⟨by simp, ?_, ?_⟩
      · rw [Scheduler.handedOut_enqueue]
        exact List.mem_append_left _ issued
      · intro task member same
        rcases Scheduler.mem_live_enqueue.mp member with old | rfl
        · exact suspend task old same
        · subst same
          exact (scheduler.enqueue_fresh coroutine issued).elim
  | began next =>
      refine ⟨by simp, ?_, ?_⟩
      · rw [(Scheduler.dequeue?_eq_some next).2]
        exact issued
      · intro task member same
        exact
          suspend task ((Scheduler.mem_live_of_dequeue? next).mp member)
            same
  | @ended task coroutine result ends =>
      have ofTask (same : task.id = id) :
          result = .ok .suspended ∧ coroutine.Suspends :=
        (suspend task (by simp [Scheduler.live]) same).ends ends
      refine ⟨?_, ?_, ?_⟩
      · intro seen member
        by_cases same : task.id = id
        · subst same
          rw [History.results_ended_self, List.mem_singleton] at member
          exact member.trans (ofTask rfl).1
        · rw [History.results_ended_other same] at member
          cases member
      · rw [Scheduler.ids_conclude]
        exact issued
      · intro live member same
        rcases Scheduler.mem_live_conclude member with ready | rfl
        · exact suspend live (List.mem_append_left _ ready) same
        · exact (ofTask same).2
  | flagged =>
      exact ⟨by simp [History.results], issued, suspend⟩

/-- A whole passage of a scheduler does so too. -/
theorem Passage.keepsSuspending
    {scheduler scheduler' : Scheduler κ α ε}
    {running running' : Option (Task κ α ε)}
    {history : History κ α ε}
    {id : TaskId}
    (passage : Passage scheduler running history scheduler' running')
    (before : scheduler.KeepsSuspending running id) :
    (∀ result ∈ history.results id, result = .ok .suspended) ∧
      scheduler'.KeepsSuspending running' id := by
  induction passage with
  | nil => exact ⟨by simp [History.results], before⟩
  | snoc _ step inductionHypothesis =>
      obtain ⟨earlier, middle⟩ := inductionHypothesis
      obtain ⟨last, after⟩ := step.keepsSuspending middle
      refine ⟨?_, after⟩
      intro result member
      rw [History.results_append, List.mem_append] at member
      exact member.elim (earlier result) (last result)

/-- A turn leaves its scheduler alive. -/
theorem TurnTaken.alive
    {number : Nat}
    {world world' : World κ α ε}
    {scheduler : Scheduler κ α ε}
    {trace : Trace κ α ε}
    {result : Guarded (Option Turn)}
    (taken : TurnTaken number world trace world' result)
    (driven : world.isDriven number)
    (alive : world.scheduler? number = some scheduler) :
    ∃ scheduler', world'.scheduler? number = some scheduler' := by
  cases taken with
  | idle => exact ⟨scheduler, alive⟩
  | @resumed task rest trace stopped coroutine result next conducted =>
      obtain ⟨scheduler', alive', -⟩ :=
        conducted.arrivals number rest driven (by simp [alive])
      exact
        ⟨scheduler'.conclude task coroutine result, by simp [alive']⟩

namespace World

variable
  {launch : κ → Coroutine κ α ε}
  {answer : Answerer κ α ε}
  {number : Nat}
  {world world' : World κ α ε}
  {scheduler : Scheduler κ α ε}

/-- A step of a host leaves the scheduler alive and undriven, and follows a path. -/
theorem stepOnce_alive
    (follows : FollowsPaths launch answer)
    (idle : world.isDriven number = false)
    (alive : world.scheduler? number = some scheduler)
    {drive : Drive (Option Turn)}
    (stepped : stepOnce answer number world = some (world', drive)) :
    ∃ trace scheduler',
      Path launch ⟨world, []⟩ trace ⟨world', []⟩ ∧
        world'.isDriven number = false ∧
        world'.scheduler? number = some scheduler' := by
  obtain ⟨trace, path, conducted⟩ :=
    stepOnce_path follows stepped (.host (.step number))
  rw [stepOnce_eq answer idle alive] at stepped
  simp only [Option.map_eq_some_iff, Prod.mk.injEq] at stepped
  obtain ⟨⟨turned, result⟩, taken, rfl, -⟩ := stepped
  obtain ⟨_, _, turnTaken⟩ := takeTurn_path follows taken none []
  obtain ⟨scheduler', alive'⟩ :=
    turnTaken.alive (by simp [isDriven]) alive
  refine ⟨trace, scheduler', path, ?_, alive'⟩
  rw [isDriven_congr conducted.frames]
  exact idle

/-- So does any number of steps. -/
theorem stepTimes_path
    (follows : FollowsPaths launch answer)
    (idle : world.isDriven number = false)
    (alive : world.scheduler? number = some scheduler)
    {times : Nat}
    {drives : List (Drive (Option Turn))}
    (stepped :
      stepTimes answer number times world = some (world', drives)) :
    ∃ trace scheduler',
      Path launch ⟨world, []⟩ trace ⟨world', []⟩ ∧
        world'.scheduler? number = some scheduler' := by
  induction times generalizing world scheduler drives with
  | zero =>
      cases stepped
      exact ⟨[], scheduler, .nil _, alive⟩
  | succ times inductionHypothesis =>
      simp only [stepTimes] at stepped
      split at stepped
      · cases stepped
      · next middle drive first =>
          simp only [Option.map_eq_some_iff, Prod.mk.injEq] at stepped
          obtain ⟨⟨last, others⟩, remaining, rfl, -⟩ := stepped
          obtain ⟨trace, between, path, idle', alive'⟩ :=
            stepOnce_alive follows idle alive first
          obtain ⟨later, scheduler', laterPath, alive''⟩ :=
            inductionHypothesis idle' alive' remaining
          exact
            ⟨trace ++ later, scheduler', path.append laterPath, alive''⟩

end World

/-- From a moment on, no resumption of a task ends in anything but a suspension. -/
def Moment.Unending
    (launch : κ → Coroutine κ α ε)
    (moment : Moment κ α ε)
    (number : Nat)
    (id : TaskId) :
    Prop :=
  ∀ ⦃later : Trace κ α ε⦄ ⦃moment' : Moment κ α ε⦄
    ⦃scheduler' : Scheduler κ α ε⦄,
    Path launch moment later moment' →
    moment'.world.scheduler? number = some scheduler' →
    ∀ result ∈ (later.about number).results id, result = .ok .suspended

namespace Run

variable
  {launch : κ → Coroutine κ α ε}
  {number : Nat}
  {trace : Trace κ α ε}
  {moment : Moment κ α ε}
  {scheduler : Scheduler κ α ε}
  {task : Task κ α ε}

/-- A ready task is the only one of its identity. -/
theorem eq_of_live
    (run : Run launch trace moment)
    (alive : moment.world.scheduler? number = some scheduler)
    (ready : task ∈ scheduler.ready.toList)
    {other : Task κ α ε}
    (member : other ∈ scheduler.live (moment.running? number))
    (same : other.id = task.id) :
    other = task := by
  have partitioned := (run.life alive).partitioned
  rcases List.mem_append.mp member with otherReady | current
  · exact
      List.inj_on_of_nodup_map partitioned.readyNodup otherReady ready
        same
  · have isRunning :
        (moment.running? number).map Task.id = some task.id := by
      rw [Option.mem_toList] at current
      rw [Option.mem_def.mp current, Option.map_some, same]
    exact
      ((partitioned.runningApart _ isRunning).1
        (List.mem_map_of_mem ready)).elim

/-- A ready task whose coroutine suspends at every resumption is without an end. -/
theorem unending_of_suspends
    (run : Run launch trace moment)
    (alive : moment.world.scheduler? number = some scheduler)
    (ready : task ∈ scheduler.ready.toList)
    (suspends : task.coroutine.Suspends) :
    moment.Unending launch number task.id := by
  intro later moment' scheduler' path alive'
  have passage :=
    path.passage_of_alive run.tracked.coherent alive alive'
  refine (passage.keepsSuspending ⟨?_, ?_⟩).1
  · exact
      (run.life alive).partitioned.issued_of_live
        (List.mem_append_left _ ready)
  · intro other member same
    rw [run.eq_of_live alive ready member same]
    exact suspends

/-- A task without an end is ready whenever no task is being resumed. -/
theorem ready_of_unending
    (run : Run launch trace moment)
    (alive : moment.world.scheduler? number = some scheduler)
    (ready : task ∈ scheduler.ready.toList)
    (unending : moment.Unending launch number task.id)
    {later : Trace κ α ε}
    {moment' : Moment κ α ε}
    {scheduler' : Scheduler κ α ε}
    (path : Path launch moment later moment')
    (alive' : moment'.world.scheduler? number = some scheduler')
    (resting : moment'.running? number = none) :
    task.id ∈ scheduler'.readyIds := by
  have life := run.life alive
  have life' := (run.append path).life alive'
  rw [resting, Trace.about_append] at life'
  have before :
      (trace.about number).results task.id =
        suspensions task.resumptions :=
    life.recorded.live task (List.mem_append_left _ ready)
  have issued : task.id ∈ scheduler'.ids.handedOut := by
    have issuedBefore :=
      life.partitioned.issued_of_live (List.mem_append_left _ ready)
    rw [← life.recorded.added] at issuedBefore
    rw [← life'.recorded.added, History.added_append, List.map_append]
    exact List.mem_append_left _ issuedBefore
  have shows := life'.recorded.shows life'.partitioned issued
  refine shows.queued.mpr ⟨List.eq_replicate_of_mem ?_, by simp⟩
  intro result member
  rw [History.results_append, List.mem_append] at member
  rcases member with early | late
  · rw [before] at early
    exact List.eq_of_mem_replicate early
  · exact unending path alive' result late

/-- A number of steps in a row leave the scheduler alive, and such a task ready. -/
theorem ready_of_stepTimes
    (run : Run launch trace moment)
    (between : moment.layers = [])
    (alive : moment.world.scheduler? number = some scheduler)
    (ready : task ∈ scheduler.ready.toList)
    (unending : moment.Unending launch number task.id)
    {patience times : Nat}
    {world' : World κ α ε}
    {drives : List (Drive (Option Turn))}
    (stepped :
      World.stepTimes (World.answer launch patience) number times
          moment.world =
        some (world', drives)) :
    ∃ scheduler',
      world'.scheduler? number = some scheduler' ∧
        task.id ∈ scheduler'.readyIds := by
  obtain ⟨world, layers⟩ := moment
  subst between
  have idle : world.isDriven number = false :=
    run.tracked.coherent.idle number
  obtain ⟨later, scheduler', path, alive'⟩ :=
    World.stepTimes_path (World.answer_follows launch patience) idle
      alive stepped
  exact
    ⟨scheduler', alive',
      run.ready_of_unending alive ready unending path alive' rfl⟩

/-- A drain with a task without an end only ends by a panic. -/
theorem panicked_of_unending
    (run : Run launch trace moment)
    (alive : moment.world.scheduler? number = some scheduler)
    (ready : task ∈ scheduler.ready.toList)
    (unending : moment.Unending launch number task.id)
    {next : Drive Unit → List (Layer κ α ε)}
    (asking : Asking moment.layers (.drain number) next)
    (idle : moment.world.isDriven number = false)
    {patience turns : Nat}
    {world' : World κ α ε}
    {drive : Drive Unit}
    (drained :
      World.drain (World.answer launch patience) turns number
          moment.world =
        some (world', drive)) :
    ∃ panic, drive = .panicked panic := by
  have follows :
      World.FollowsPaths launch (World.answer launch patience) :=
    World.answer_follows launch patience
  obtain ⟨later, path, conducted⟩ :=
    World.drain_path follows drained asking
  have carriedOut := drained
  rw [World.drain_eq _ turns idle alive] at carriedOut
  simp only [Option.map_eq_some_iff, Prod.mk.injEq] at carriedOut
  obtain ⟨⟨turned, panic | _⟩, -, -, rfl⟩ := carriedOut
  · exact ⟨panic, rfl⟩
  · -- A drain that returned would have left no task ready.
    obtain ⟨scheduler', alive', empty⟩ :=
      World.readyIds_of_drain follows run asking idle alive drained
    have resting : (Moment.mk world' (next (.finished ()))).running?
        number = none := by
      rw [asking.running? _ moment.world]
      exact run.tracked.coherent.running?_eq_none idle moment.world
    have stillReady :=
      run.ready_of_unending alive ready unending path alive' resting
    rw [empty] at stillReady
    cases stillReady

end Run

end RoundRobin
