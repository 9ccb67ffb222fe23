import Mathlib.Data.List.Forall2
import RoundRobin.Proofs.Schedule.Lasting
import RoundRobin.Proofs.Schedule.Rota
import RoundRobin.Proofs.Run.History

namespace RoundRobin

/-!
# The schedule of tasks that last

Tasks that last are worked off pass for pass, whether the scheduler is stepped
until nothing is ready or drained at once. Each turn takes the first itinerary
off the queue; what it does to the ledgers and counters of the scheduler is
added up over all turns.
-/

/-- What is known beforehand of a task: how often it will suspend, and what it may end in. -/
structure Plan (α ε : Type) where
  id : TaskId
  suspensions : Nat
  fate : Outcome α ε → Prop

/-- The itinerary is one of those that were planned. -/
structure Plan.Fulfilled
    (plan : Plan α ε)
    (itinerary : Itinerary α ε) :
    Prop where
  id : itinerary.id = plan.id
  suspensions : itinerary.suspensions = plan.suspensions
  terminal : itinerary.outcome.isTerminal
  fated : plan.fate itinerary.outcome

/-- The value of a completion, under the task. -/
def completion? (event : TaskId × Outcome α ε) : Option (TaskId × α) :=
  match event.2 with
  | .suspended => none
  | .completed value => some (event.1, value)
  | .failed _ => none

/-- The error of a failure, under the task. -/
def failure? (event : TaskId × Outcome α ε) : Option (TaskId × ε) :=
  match event.2 with
  | .suspended => none
  | .completed _ => none
  | .failed error => some (event.1, error)

/-- A scheduler has recorded outcomes of resumptions, in that order. -/
structure Scheduler.Absorbs
    (scheduler : Scheduler κ α ε)
    (events : List (TaskId × Outcome α ε))
    (scheduler' : Scheduler κ α ε) :
    Prop where
  resolutionOrder :
    scheduler'.resolutionOrder.toList =
      scheduler.resolutionOrder.toList ++
        (events.filter fun event => event.2.isTerminal).map Prod.fst
  completed :
    scheduler'.completed.toList =
      scheduler.completed.toList ++ events.filterMap completion?
  failed :
    scheduler'.failed.toList =
      scheduler.failed.toList ++ events.filterMap failure?
  abandoned : scheduler'.abandoned = scheduler.abandoned
  ids : scheduler'.ids = scheduler.ids
  resumptions :
    scheduler'.tally.resumptions =
      scheduler.tally.resumptions + events.length
  suspensions :
    scheduler'.tally.suspensions =
      scheduler.tally.suspensions +
        events.countP fun event => !event.2.isTerminal

namespace Scheduler.Absorbs

theorem nil (scheduler : Scheduler κ α ε) :
    scheduler.Absorbs [] scheduler := by
  refine ⟨?_, ?_, ?_, rfl, rfl, rfl, rfl⟩
  all_goals simp

/-- Settling the task that was taken out records its outcome. -/
theorem single
    {scheduler rest : Scheduler κ α ε}
    {task resumed : Task κ α ε}
    (dequeued : scheduler.dequeue? = some (task, rest))
    (unrecorded : rest.Unrecorded task.id)
    (same : resumed.id = task.id)
    (outcome : Outcome α ε) :
    scheduler.Absorbs [(task.id, outcome)]
      (rest.settle resumed outcome) := by
  obtain ⟨completed, failed⟩ := unrecorded
  rw [(dequeue?_eq_some dequeued).2] at completed failed ⊢
  rcases outcome with _ | value | error
  all_goals
    refine ⟨?_, ?_, ?_, rfl, rfl, ?_, ?_⟩
    all_goals
      simp [settle, Tally.count, completion?, failure?,
        Outcome.isTerminal, Outcome.kind, same, completed, failed]

theorem append
    {scheduler scheduler' scheduler'' : Scheduler κ α ε}
    {leading trailing : List (TaskId × Outcome α ε)}
    (first : scheduler.Absorbs leading scheduler')
    (later : scheduler'.Absorbs trailing scheduler'') :
    scheduler.Absorbs (leading ++ trailing) scheduler'' where
  resolutionOrder := by
    rw [later.resolutionOrder, first.resolutionOrder]
    simp
  completed := by
    rw [later.completed, first.completed]
    simp
  failed := by
    rw [later.failed, first.failed]
    simp
  abandoned := later.abandoned.trans first.abandoned
  ids := later.ids.trans first.ids
  resumptions := by
    rw [later.resumptions, first.resumptions, List.length_append,
      Nat.add_assoc]
  suspensions := by
    rw [later.suspensions, first.suspensions, List.countP_append,
      Nat.add_assoc]

end Scheduler.Absorbs

/-- Turns are taken until no task is ready, and none of them panics. -/
inductive TurnsTo
    (turn :
      World κ α ε → Option (World κ α ε × Guarded (Option Turn))) :
    World κ α ε →
    List Turn →
    World κ α ε →
    Prop where
  | rest
      {world world' : World κ α ε}
      (rested : turn world = some (world', .ok none)) :
      TurnsTo turn world [] world'
  | more
      {world middle world' : World κ α ε}
      {taken : Turn}
      {turns : List Turn}
      (took : turn world = some (middle, .ok (some taken)))
      (later : TurnsTo turn middle turns world') :
      TurnsTo turn world (taken :: turns) world'

/-- What a turn reports of the outcome of a resumption. -/
def Turn.ofEvent (event : TaskId × Outcome α ε) : Turn where
  id := event.1
  kind := event.2.kind

section

variable
  (launch : κ → Coroutine κ α ε)
  (patience number : Nat)
  (holds : Surroundings κ α ε → Prop)

/-- The task of a plan lasts as planned. -/
def Plan.Kept
    (task : Task κ α ε)
    (plan : Plan α ε) :
    Prop :=
  task.id = plan.id ∧
    task.coroutine.Lasts launch patience number holds plan.fate
      plan.suspensions

/--
A way of taking turns in worlds that are fit for it: the first ready task is
resumed, and what it gives is settled.
-/
structure TakesTurns
    (turn :
      World κ α ε → Option (World κ α ε × Guarded (Option Turn)))
    (fit : World κ α ε → Prop) :
    Prop where
  resumes :
    ∀ {world scheduler task rest becomes},
      fit world →
      world.scheduler? number = some scheduler →
      scheduler.dequeue? = some (task, rest) →
      task.coroutine.Gives launch patience number holds becomes →
      ∃ world' coroutine outcome,
        turn world =
            some (world', .ok (some (.ofEvent (task.id, outcome)))) ∧
          fit world' ∧
          world'.scheduler? number =
            some (rest.settle (task.resumed coroutine) outcome) ∧
          becomes coroutine outcome
  rests :
    ∀ {world scheduler},
      fit world →
      world.scheduler? number = some scheduler →
      scheduler.dequeue? = none →
      turn world = some (world, .ok none)

end

section

variable
  {launch : κ → Coroutine κ α ε}
  {patience number : Nat}
  {holds : Surroundings κ α ε → Prop}
  {turn : World κ α ε → Option (World κ α ε × Guarded (Option Turn))}
  {fit : World κ α ε → Prop}

/-- A fulfilled plan leaves open just the outcome. -/
theorem Plan.Fulfilled.eq
    {plan : Plan α ε}
    {itinerary : Itinerary α ε}
    (fulfilled : plan.Fulfilled itinerary) :
    itinerary = ⟨plan.id, plan.suspensions, itinerary.outcome⟩ := by
  rw [← fulfilled.id, ← fulfilled.suspensions]

/-- The itineraries of plans of which the last is set apart. -/
theorem Plan.fulfilled_concat
    {plans : List (Plan α ε)}
    {plan : Plan α ε}
    {itineraries : List (Itinerary α ε)}
    (fulfilled :
      List.Forall₂ Plan.Fulfilled (plans ++ [plan]) itineraries) :
    ∃ earlier outcome,
      itineraries =
          earlier ++ [⟨plan.id, plan.suspensions, outcome⟩] ∧
        List.Forall₂ Plan.Fulfilled plans earlier ∧
        outcome.isTerminal ∧
        plan.fate outcome := by
  induction plans generalizing itineraries with
  | nil =>
      rw [List.nil_append] at fulfilled
      obtain ⟨last, rest, fulfills, nothing, rfl⟩ :=
        List.forall₂_cons_left_iff.mp fulfilled
      rw [List.forall₂_nil_left_iff] at nothing
      rw [nothing, fulfills.eq]
      exact
        ⟨[], last.outcome, rfl, .nil, fulfills.terminal, fulfills.fated⟩
  | cons first plans inductionHypothesis =>
      rw [List.cons_append] at fulfilled
      obtain ⟨itinerary, rest, fulfills, others, rfl⟩ :=
        List.forall₂_cons_left_iff.mp fulfilled
      obtain ⟨earlier, outcome, rfl, before, terminal, fated⟩ :=
        inductionHypothesis others
      exact
        ⟨itinerary :: earlier, outcome, rfl, .cons fulfills before,
          terminal, fated⟩

/-- The number of resumptions that the plans ask for. -/
def Plan.resumptions (plans : List (Plan α ε)) : Nat :=
  (plans.map fun plan => plan.suspensions + 1).sum

/--
Turns are taken until all plans are fulfilled, and the scheduler records the
outcomes in the order of the turns.
-/
def WorksOff
    (turn :
      World κ α ε → Option (World κ α ε × Guarded (Option Turn)))
    (number : Nat)
    (plans : List (Plan α ε))
    (world : World κ α ε)
    (scheduler : Scheduler κ α ε) :
    Prop :=
  ∃ itineraries events world' scheduler',
    List.Forall₂ Plan.Fulfilled plans itineraries ∧
      Itinerary.WorkedOff itineraries events ∧
      TurnsTo turn world (events.map Turn.ofEvent) world' ∧
      world'.scheduler? number = some scheduler' ∧
      scheduler'.ready.toList = [] ∧
      scheduler.Absorbs events scheduler'

namespace WorksOff

variable
  {world middle : World κ α ε}
  {scheduler rest : Scheduler κ α ε}
  {task resumed : Task κ α ε}
  {plans : List (Plan α ε)}
  {fate : Outcome α ε → Prop}

/-- The first task ends, and the others are worked off. -/
theorem ended
    (dequeued : scheduler.dequeue? = some (task, rest))
    (unrecorded : rest.Unrecorded task.id)
    (same : resumed.id = task.id)
    {outcome : Outcome α ε}
    (took :
      turn world =
        some (middle, .ok (some (.ofEvent (task.id, outcome)))))
    (terminal : outcome.isTerminal)
    (fated : fate outcome)
    (later :
      WorksOff turn number plans middle (rest.settle resumed outcome)) :
    WorksOff turn number (⟨task.id, 0, fate⟩ :: plans) world
      scheduler := by
  obtain
    ⟨itineraries, events, world', scheduler', fulfilled, worked, turns,
      alive, empty, absorbs⟩ := later
  exact
    ⟨⟨task.id, 0, outcome⟩ :: itineraries, (task.id, outcome) :: events,
      world', scheduler', .cons ⟨rfl, rfl, terminal, fated⟩ fulfilled,
      .ended worked, .more took turns, alive, empty,
      (Scheduler.Absorbs.single dequeued unrecorded same outcome).append
        absorbs⟩

/-- The first task suspends, and it is worked off behind the others. -/
theorem suspended
    (dequeued : scheduler.dequeue? = some (task, rest))
    (unrecorded : rest.Unrecorded task.id)
    (same : resumed.id = task.id)
    {fewer : Nat}
    (took :
      turn world =
        some (middle, .ok (some ⟨task.id, .suspended⟩)))
    (later :
      WorksOff turn number (plans ++ [⟨task.id, fewer, fate⟩]) middle
        (rest.settle resumed .suspended)) :
    WorksOff turn number (⟨task.id, fewer + 1, fate⟩ :: plans) world
      scheduler := by
  obtain
    ⟨itineraries, events, world', scheduler', fulfilled, worked, turns,
      alive, empty, absorbs⟩ := later
  obtain ⟨earlier, outcome, rfl, others, terminal, fated⟩ :=
    Plan.fulfilled_concat fulfilled
  exact
    ⟨⟨task.id, fewer + 1, outcome⟩ :: earlier,
      (task.id, .suspended) :: events, world', scheduler',
      .cons ⟨rfl, rfl, terminal, fated⟩ others, .suspended worked,
      .more took turns, alive, empty,
      (Scheduler.Absorbs.single dequeued unrecorded same
        .suspended).append absorbs⟩

end WorksOff

/-- Tasks that last as planned are worked off. -/
theorem TakesTurns.worksOff
    (takes : TakesTurns launch patience number holds turn fit)
    {plans : List (Plan α ε)}
    {world : World κ α ε}
    {scheduler : Scheduler κ α ε}
    (isFit : fit world)
    (alive : world.scheduler? number = some scheduler)
    (placed : scheduler.Placed none)
    (kept :
      List.Forall₂ (Plan.Kept launch patience number holds)
        scheduler.ready.toList plans) :
    WorksOff turn number plans world scheduler := by
  -- Each turn takes one off the resumptions that are still to come.
  generalize total : Plan.resumptions plans = resumptions
  induction resumptions using Nat.strongRecOn
    generalizing plans world scheduler with
  | ind resumptions inductionHypothesis =>
      subst total
      cases ready : scheduler.ready.toList with
      | nil =>
          rw [ready, List.forall₂_nil_left_iff] at kept
          subst kept
          have rested :=
            takes.rests isFit alive
              (Scheduler.dequeue?_eq_none_iff.mpr ready)
          exact
            ⟨[], [], world, scheduler, .nil, .nil, .rest rested, alive,
              ready, .nil scheduler⟩
      | cons task others =>
          rw [ready] at kept
          obtain ⟨⟨_, suspensions, fate⟩, plans, isKept, others', rfl⟩ :=
            List.forall₂_cons_left_iff.mp kept
          obtain ⟨rfl, lasts⟩ := isKept
          obtain ⟨rest, dequeued, ready'⟩ :=
            Scheduler.dequeue?_of_ready ready
          have apart := placed.dequeue dequeued
          have unrecorded := apart.partitioned.unrecorded
          cases suspensions with
          | zero =>
              obtain
                ⟨middle, coroutine, outcome, took, stillFit, alive',
                  terminal, fated⟩ :=
                takes.resumes isFit alive dequeued lasts
              have queued :
                  (rest.settle (task.resumed coroutine)
                    outcome).ready.toList = others := by
                rw [Scheduler.ready_settle, terminal, ready']
                rfl
              rw [← queued] at others'
              have fewer :
                  Plan.resumptions plans <
                    Plan.resumptions (⟨task.id, 0, fate⟩ :: plans) := by
                simp [Plan.resumptions]
              exact
                .ended dequeued unrecorded
                  (Task.id_resumed task coroutine) took terminal fated
                  (inductionHypothesis _ fewer stillFit alive'
                    (apart.conclude coroutine (.ok outcome)) others' rfl)
          | succ left =>
              obtain
                ⟨middle, coroutine, outcome, took, stillFit, alive',
                  rfl, later⟩ :=
                takes.resumes isFit alive dequeued lasts
              have behind :
                  List.Forall₂ (Plan.Kept launch patience number holds)
                    (others ++ [task.resumed coroutine])
                    (plans ++ [⟨task.id, left, fate⟩]) :=
                List.rel_append others' (.cons ⟨rfl, later⟩ .nil)
              have queued :
                  (rest.settle (task.resumed coroutine)
                    .suspended).ready.toList =
                    others ++ [task.resumed coroutine] := by
                rw [Scheduler.ready_settle, ready']
                rfl
              rw [← queued] at behind
              have fewer :
                  Plan.resumptions (plans ++ [⟨task.id, left, fate⟩]) <
                    Plan.resumptions
                      (⟨task.id, left + 1, fate⟩ :: plans) := by
                simp [Plan.resumptions]
                omega
              exact
                .suspended dequeued unrecorded
                  (Task.id_resumed task coroutine) took
                  (inductionHypothesis _ fewer stillFit alive'
                    (apart.conclude coroutine (.ok .suspended)) behind
                    rfl)

/-- A turn of a scheduler whose next task gives an outcome settles the outcome. -/
theorem World.takeTurn_gives
    {world : World κ α ε}
    {scheduler rest : Scheduler κ α ε}
    {task : Task κ α ε}
    {becomes : Coroutine κ α ε → Outcome α ε → Prop}
    (driven : world.isDriven number)
    (held : holds (world.around number))
    (alive : world.scheduler? number = some scheduler)
    (dequeued : scheduler.dequeue? = some (task, rest))
    (gives :
      task.coroutine.Gives launch patience number holds becomes) :
    ∃ world' coroutine outcome,
      takeTurn (answer launch patience) number world =
          some (world', .ok (some (.ofEvent (task.id, outcome)))) ∧
        world'.frames = world.frames ∧
        holds (world'.around number) ∧
        world'.scheduler? number =
          some (rest.settle (task.resumed coroutine) outcome) ∧
        becomes coroutine outcome := by
  have startedDriven :
      (world.started number rest task).isDriven number := by
    rw [isDriven_congr (frames_started world number rest task)]
    exact driven
  obtain
    ⟨stopped, coroutine, outcome, conducted, unchanged, held', became⟩ :=
    gives (world.started number rest task) startedDriven
      (by rw [around_started]; exact held)
  have frames : stopped.frames = world.frames := by
    obtain ⟨trace, -, kept⟩ :=
      answer_follows launch patience conducted ⟨number, none⟩
        rest.config task []
    rw [kept.frames, frames_started]
  refine
    ⟨stopped.conclude number rest.config task coroutine (.ok outcome),
      coroutine, outcome, ?_, ?_, ?_, ?_, became⟩
  · rw [takeTurn_eq]
    simp only [alive, Option.bind_some, dequeued, conducted]
    rfl
  · rw [frames_conclude, frames]
  · rw [around_conclude]
    exact held'
  · simp [unchanged, alive, Scheduler.conclude]

/-- The turns of a drain. -/
theorem takesTurns_takeTurn :
    TakesTurns launch patience number holds
      (World.takeTurn (World.answer launch patience) number)
      fun world =>
        world.isDriven number ∧ holds (world.around number) where
  resumes := by
    rintro world scheduler task rest becomes ⟨driven, held⟩ alive
      dequeued gives
    obtain
      ⟨world', coroutine, outcome, took, frames, held', alive',
        became⟩ :=
      World.takeTurn_gives driven held alive dequeued gives
    have driven' : world'.isDriven number := by
      rw [World.isDriven_congr frames]
      exact driven
    exact
      ⟨world', coroutine, outcome, took, ⟨driven', held'⟩, alive',
        became⟩
  rests := by
    intro world scheduler _ alive empty
    simp [World.takeTurn_eq, alive, empty]

/-- A step that is neither refused nor unwinds, as a turn. -/
def World.stepTurn
    (answer : Answerer κ α ε)
    (number : Nat)
    (world : World κ α ε) :
    Option (World κ α ε × Guarded (Option Turn)) :=
  match stepOnce answer number world with
  | some (world, .finished result) => some (world, .ok result)
  | _ => none

/-- Steps of a scheduler that is not driven already. -/
theorem takesTurns_stepTurn :
    TakesTurns launch patience number holds
      (World.stepTurn (World.answer launch patience) number)
      fun world =>
        world.isDriven number = false ∧ holds (world.around number) where
  resumes := by
    rintro world scheduler task rest becomes ⟨idle, held⟩ alive dequeued
      gives
    obtain
      ⟨turned, coroutine, outcome, took, frames, held', alive',
        became⟩ :=
      World.takeTurn_gives (by simp [World.isDriven])
        (by rw [World.around_enter]; exact held)
        (show (world.enter ⟨number, none⟩).scheduler? number = _ from
          alive)
        dequeued gives
    have framesLeft : turned.leave.frames = world.frames := by
      simp [frames]
    have aroundLeft :
        turned.leave.around number = turned.around number := by
      apply World.around_congr
      · intro other _
        rfl
      · simp [frames]
    refine
      ⟨turned.leave, coroutine, outcome, ?_, ⟨?_, ?_⟩, alive', became⟩
    · simp [World.stepTurn, World.stepOnce_eq _ idle alive, took,
        World.driven]
    · rw [World.isDriven_congr framesLeft]
      exact idle
    · rw [aroundLeft]
      exact held'
  rests := by
    rintro world scheduler ⟨idle, _⟩ alive empty
    simp only [World.stepTurn, World.stepOnce_eq _ idle alive,
      World.takeTurn_eq, World.scheduler?_enter, alive,
      Option.bind_some, empty, Option.map_some, World.driven]
    rfl

end

namespace World

/-- A drain is the turns that are taken until none is ready. -/
theorem drainLoop_of_turnsTo
    {turn :
      World κ α ε → Option (World κ α ε × Guarded (Option Turn))}
    {world world' : World κ α ε}
    {turns : List Turn}
    (turnsTo : TurnsTo turn world turns world')
    {patience : Nat}
    (enough : turns.length < patience) :
    drainLoop turn patience world = some (world', .ok ()) := by
  induction turnsTo generalizing patience with
  | rest rested =>
      cases patience with
      | zero => cases enough
      | succ fewer => simp [drainLoop, rested]
  | more took _ inductionHypothesis =>
      cases patience with
      | zero => cases enough
      | succ fewer =>
          simp only [drainLoop, took]
          exact inductionHypothesis (Nat.lt_of_succ_lt_succ enough)

/-- A drain of a scheduler that can be driven, if its turns come to an end. -/
theorem drain_of_turnsTo
    {answer : Answerer κ α ε}
    {number : Nat}
    {world world' : World κ α ε}
    {scheduler : Scheduler κ α ε}
    (idle : world.isDriven number = false)
    (alive : world.scheduler? number = some scheduler)
    {turns : List Turn}
    (turnsTo :
      TurnsTo (takeTurn answer number) (world.draining number scheduler)
        turns world')
    {patience : Nat}
    (enough : turns.length < patience) :
    drain answer patience number world =
      some (world'.drained number (.ok ()), .finished ()) := by
  rw [drain_eq answer patience idle alive,
    drainLoop_of_turnsTo turnsTo enough]
  rfl

/--
Step a scheduler until no task is ready, reporting the turns. There is no
result if a task panics, if the scheduler cannot be stepped, or if the patience
does not suffice.
-/
def stepToEnd
    (answer : Answerer κ α ε)
    (number : Nat) :
    (patience : Nat) →
    World κ α ε →
    Option (World κ α ε × List Turn)
  | 0, _ => none
  | patience + 1, world =>
      match stepOnce answer number world with
      | some (world, .finished none) => some (world, [])
      | some (world, .finished (some turn)) =>
          (stepToEnd answer number patience world).map
            fun (world, turns) => (world, turn :: turns)
      | _ => none

theorem stepOnce_of_stepTurn
    {answer : Answerer κ α ε}
    {number : Nat}
    {world world' : World κ α ε}
    {result : Option Turn}
    (took : stepTurn answer number world = some (world', .ok result)) :
    stepOnce answer number world = some (world', .finished result) := by
  unfold stepTurn at took
  split at took
  · next stepped =>
      cases took
      exact stepped
  · cases took

/-- Stepping to the end is the steps that are taken until none is ready. -/
theorem stepToEnd_of_turnsTo
    {answer : Answerer κ α ε}
    {number : Nat}
    {world world' : World κ α ε}
    {turns : List Turn}
    (turnsTo : TurnsTo (stepTurn answer number) world turns world')
    {patience : Nat}
    (enough : turns.length < patience) :
    stepToEnd answer number patience world = some (world', turns) := by
  induction turnsTo generalizing patience with
  | rest rested =>
      cases patience with
      | zero => cases enough
      | succ fewer =>
          simp [stepToEnd, stepOnce_of_stepTurn rested]
  | more took _ inductionHypothesis =>
      cases patience with
      | zero => cases enough
      | succ fewer =>
          have others :=
            inductionHypothesis (Nat.lt_of_succ_lt_succ enough)
          simp [stepToEnd, stepOnce_of_stepTurn took, others]

end World

end RoundRobin
