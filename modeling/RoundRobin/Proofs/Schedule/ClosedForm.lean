import RoundRobin.Proofs.Schedule.Turns
import RoundRobin.Proofs.Solo
import RoundRobin.Workload

namespace RoundRobin

/-!
# The schedule in closed form

A number of coroutines that last are added to a new scheduler. Whether the
scheduler is then stepped until nothing is ready or drained at once, the turns
are the passes of the rota, and the tasks end in the order of their numbers of
suspensions, equal ones in the order in which they were added.
-/

/--
The turns of so many tasks, pass for pass: who has suspended in all earlier
passes takes part, and suspends again if it is to.
-/
def schedule
    (count : Nat)
    (suspensions : Nat → Nat)
    (kind : Nat → TurnKind) :
    List Turn :=
  (List.range
      (((List.range count).map suspensions).foldr max 0 + 1)).flatMap
    fun pass =>
      ((List.range count).filter fun index =>
        pass ≤ suspensions index).map fun index =>
          { id := ⟨index⟩
            kind :=
              if pass < suspensions index then .suspended
              else kind index }

/-- What a scheduler shows when all its tasks have ended. -/
structure Scheduler.Resolved
    (scheduler : Scheduler κ α ε)
    (count : Nat)
    (suspensions : Nat → Nat)
    (outcome : Nat → Outcome α ε) :
    Prop where
  ready : scheduler.readyIds = []
  resolutionOrder :
    scheduler.resolutionOrder.toList =
      (sortedBy suspensions count).map TaskId.mk
  completed :
    scheduler.completed.toList =
      (sortedBy suspensions count).filterMap fun index =>
        completion? (⟨index⟩, outcome index)
  failed :
    scheduler.failed.toList =
      (sortedBy suspensions count).filterMap fun index =>
        failure? (⟨index⟩, outcome index)
  abandoned : scheduler.abandoned = #[]
  resumptions :
    scheduler.stats.resumptions =
      ((List.range count).map fun index => suspensions index + 1).sum
  suspensions :
    scheduler.stats.suspensions =
      ((List.range count).map suspensions).sum

/-- The plans of tasks that are numbered in the order of the queue. -/
def Plan.family
    (count : Nat)
    (suspensions : Nat → Nat)
    (fate : Nat → Outcome α ε → Prop) :
    List (Plan α ε) :=
  (List.range count).map fun index =>
    ⟨⟨index⟩, suspensions index, fate index⟩

namespace Itinerary

/-- The itineraries of tasks that are numbered in the order of the queue. -/
def family
    (count : Nat)
    (suspensions : Nat → Nat)
    (outcome : Nat → Outcome α ε) :
    List (Itinerary α ε) :=
  (List.range count).map fun index =>
    ⟨⟨index⟩, suspensions index, outcome index⟩

variable
  {count : Nat}
  {suspensions : Nat → Nat}
  {outcome : Nat → Outcome α ε}

theorem longest_family :
    longest (family count suspensions outcome) =
      ((List.range count).map suspensions).foldr max 0 := by
  simp [longest, family, Function.comp_def]

/-- The rota of a family, as it is reported. -/
theorem map_rota_family :
    (rota (family count suspensions outcome)).map Turn.ofEvent =
      schedule count suspensions fun index => (outcome index).kind := by
  unfold rota schedule
  rw [longest_family, List.map_flatMap]
  congr 1
  funext pass
  simp only [events, family, List.filter_map, List.map_map]
  apply List.map_congr_left
  intro index _
  by_cases goesOn : pass < suspensions index
  · simp [event, Turn.ofEvent, goesOn, Outcome.kind]
  · simp [event, Turn.ofEvent, goesOn]

theorem terminal_family
    (suspensions : Nat → Nat)
    (terminal : ∀ index < count, (outcome index).isTerminal) :
    ∀ itinerary ∈ family count suspensions outcome,
      itinerary.outcome.isTerminal := by
  intro itinerary member
  obtain ⟨index, below, rfl⟩ := List.mem_map.mp member
  exact terminal index (List.mem_range.mp below)

/-- The tasks of a family end in the order of their numbers of suspensions. -/
theorem filter_rota_family
    (terminal : ∀ index < count, (outcome index).isTerminal) :
    (rota (family count suspensions outcome)).filter
        (fun event => event.2.isTerminal) =
      (sortedBy suspensions count).map fun index =>
        (⟨index⟩, outcome index) := by
  have ends := terminal_family suspensions terminal
  have bounded
      (index : Nat)
      (below : index < count) :
      suspensions index ≤
        longest (family count suspensions outcome) :=
    le_longest
      (List.mem_map_of_mem
        (f := fun index =>
          (⟨⟨index⟩, suspensions index, outcome index⟩ :
            Itinerary α ε))
        (List.mem_range.mpr below))
  rw [← classwise_eq_sortedBy bounded]
  unfold rota classwise
  rw [List.filter_flatMap, List.map_flatMap]
  congr 1
  funext pass
  rw [filter_events ends]
  simp only [family, List.filter_map, List.map_map]
  rfl

/-- The plans of a family are fulfilled by a family. -/
theorem family_of_fulfilled
    {fate : Nat → Outcome α ε → Prop}
    {itineraries : List (Itinerary α ε)}
    (fulfilled :
      List.Forall₂ Plan.Fulfilled (Plan.family count suspensions fate)
        itineraries) :
    ∃ outcome : Nat → Outcome α ε,
      (∀ index < count,
        (outcome index).isTerminal ∧ fate index (outcome index)) ∧
        itineraries = family count suspensions outcome := by
  induction count generalizing itineraries with
  | zero =>
      have nothing : itineraries = [] :=
        List.forall₂_nil_left_iff.mp fulfilled
      subst nothing
      exact ⟨fun _ => .suspended, by simp, rfl⟩
  | succ count inductionHypothesis =>
      unfold Plan.family at fulfilled
      rw [List.range_succ, List.map_append] at fulfilled
      obtain ⟨earlier, last, rfl, before, terminal, fated⟩ :=
        Plan.fulfilled_concat fulfilled
      obtain ⟨outcome, suitable, rfl⟩ := inductionHypothesis before
      refine ⟨Function.update outcome count last, ?_, ?_⟩
      · intro index below
        rcases Nat.lt_succ_iff_lt_or_eq.mp below with earlier | rfl
        · rw [Function.update_of_ne (Nat.ne_of_lt earlier)]
          exact suitable index earlier
        · rw [Function.update_self]
          exact ⟨terminal, fated⟩
      · unfold family
        rw [List.range_succ, List.map_append, List.map_singleton,
          Function.update_self]
        congr 1
        apply List.map_congr_left
        intro index member
        have different : index ≠ count :=
          Nat.ne_of_lt (List.mem_range.mp member)
        rw [Function.update_of_ne different]

end Itinerary

/-- Nothing has been recorded yet. -/
structure Scheduler.Untouched (scheduler : Scheduler κ α ε) : Prop where
  resolutionOrder : scheduler.resolutionOrder = #[]
  completed : scheduler.completed = {}
  failed : scheduler.failed = {}
  abandoned : scheduler.abandoned = #[]
  tally : scheduler.tally = {}

/-- What is made of endings alone can be told from the endings. -/
theorem filterMap_terminal
    {make : TaskId × Outcome α ε → Option β}
    (silent : ∀ id, make (id, .suspended) = none)
    (events : List (TaskId × Outcome α ε)) :
    (events.filter fun event => event.2.isTerminal).filterMap make =
      events.filterMap make := by
  rw [List.filterMap_filter]
  congr 1
  funext event
  rcases event with ⟨id, _ | value | error⟩
  · exact (silent id).symm
  · rfl
  · rfl

/-- What is recorded of a family that was worked off. -/
theorem Scheduler.Absorbs.resolved
    {scheduler scheduler' : Scheduler κ α ε}
    {count : Nat}
    {suspensions : Nat → Nat}
    {outcome : Nat → Outcome α ε}
    {events : List (TaskId × Outcome α ε)}
    (absorbs : scheduler.Absorbs events scheduler')
    (untouched : scheduler.Untouched)
    (worked :
      Itinerary.WorkedOff
        (Itinerary.family count suspensions outcome) events)
    (terminal : ∀ index < count, (outcome index).isTerminal)
    (empty : scheduler'.ready.toList = []) :
    scheduler'.Resolved count suspensions outcome := by
  have endings :
      events.filter (fun event => event.2.isTerminal) =
        (sortedBy suspensions count).map fun index =>
          (⟨index⟩, outcome index) := by
    rw [worked.eq_rota]
    exact Itinerary.filter_rota_family terminal
  have completions :
      (events.filter fun event => event.2.isTerminal).filterMap
          completion? =
        events.filterMap completion? :=
    filterMap_terminal (fun _ => rfl) events
  have failures :
      (events.filter fun event => event.2.isTerminal).filterMap
          failure? =
        events.filterMap failure? :=
    filterMap_terminal (fun _ => rfl) events
  have ends := Itinerary.terminal_family suspensions terminal
  refine
    { ready := ?_
      resolutionOrder := ?_
      completed := ?_
      failed := ?_
      abandoned := ?_
      resumptions := ?_
      suspensions := ?_ }
  · simp [readyIds, Queue.ids, empty]
  · rw [absorbs.resolutionOrder, untouched.resolutionOrder, endings]
    simp [Function.comp_def]
  · rw [absorbs.completed, untouched.completed, ← completions, endings,
      List.filterMap_map]
    rfl
  · rw [absorbs.failed, untouched.failed, ← failures, endings,
      List.filterMap_map]
    rfl
  · rw [absorbs.abandoned, untouched.abandoned]
  · rw [stats, absorbs.resumptions, untouched.tally, worked.length_eq]
    simp [Itinerary.family, Function.comp_def]
  · rw [stats, absorbs.suspensions, untouched.tally,
      worked.countP_suspended ends]
    simp [Itinerary.family, Function.comp_def]

/-- A scheduler that was just made holds nothing, and no drive is made or left. -/
theorem World.scheduler?_of_opened
    {world opened : World κ α ε}
    {config : SchedulerConfig}
    {number : Nat}
    (opens : world.openScheduler config = .ok (opened, number)) :
    opened.scheduler? number = some { config := config } ∧
      opened.frames = world.frames := by
  obtain ⟨scheduler, made, rfl, rfl⟩ := openScheduler_eq_ok opens
  rw [Scheduler.eq_of_new_eq_ok made]
  refine ⟨?_, rfl⟩
  simp [scheduler?_append_slot, Slot.scheduler?]

/-- Add coroutines as the owner of a live scheduler, one after the other. -/
def World.addAll?
    (world : World κ α ε)
    (number : Nat)
    (coroutines : List (Coroutine κ α ε)) :
    Option (World κ α ε) :=
  coroutines.foldlM
    (fun world coroutine => (world.add? number coroutine).map Prod.fst)
    world

/-- The tasks of coroutines that are added, the next identity being given. -/
def Task.family
    (issued : Nat)
    (coroutines : List (Coroutine κ α ε)) :
    List (Task κ α ε) :=
  coroutines.mapIdx fun index coroutine =>
    .new ⟨issued + index⟩ coroutine

/-- Coroutines that are added become ready in turn, and nothing is recorded. -/
theorem World.addAll?_eq_some
    {world : World κ α ε}
    {number : Nat}
    {scheduler : Scheduler κ α ε}
    (alive : world.scheduler? number = some scheduler)
    (untouched : scheduler.Untouched)
    (placed : scheduler.Placed none)
    (coroutines : List (Coroutine κ α ε)) :
    ∃ added scheduler',
      world.addAll? number coroutines = some added ∧
        added.scheduler? number = some scheduler' ∧
        scheduler'.Untouched ∧
        scheduler'.Placed none ∧
        scheduler'.ready.toList =
          scheduler.ready.toList ++
            Task.family scheduler.ids.issued coroutines ∧
        added.frames = world.frames ∧
        added.around number = world.around number := by
  induction coroutines generalizing world scheduler with
  | nil =>
      exact
        ⟨world, scheduler, rfl, alive, untouched, placed,
          (List.append_nil _).symm, rfl, rfl⟩
  | cons coroutine rest inductionHypothesis =>
      obtain ⟨⟨middle, id⟩, first⟩ :
          ∃ pair, world.add? number coroutine = some pair := by
        simp [add?, alive]
      obtain ⟨_, -, rfl, same⟩ := add?_eq_some first
      have alive' :
          middle.scheduler? number =
            some (scheduler.enqueue coroutine).1 := by
        simp [same, alive]
      have untouched' : (scheduler.enqueue coroutine).1.Untouched :=
        ⟨untouched.resolutionOrder, untouched.completed,
          untouched.failed, untouched.abandoned, untouched.tally⟩
      have frames' : middle.frames = world.frames := by
        simp [same]
      have around' : middle.around number = world.around number := by
        apply around_congr
        · intro other different
          simp [same, Ne.symm different]
        · rw [frames']
      obtain
        ⟨added, scheduler', others, alive'', untouched'', placed'', ready,
          frames, around⟩ :=
        inductionHypothesis alive' untouched' (placed.enqueue coroutine)
      refine
        ⟨added, scheduler', ?_, alive'', untouched'', placed'', ?_,
          frames.trans frames', around.trans around'⟩
      · simpa [addAll?, first] using others
      · rw [ready, Scheduler.ready_enqueue, List.append_assoc]
        simp [Task.family, Scheduler.enqueue, IdSource.next,
          List.mapIdx_cons, Nat.add_comm, Nat.add_left_comm]

/-- The tasks of coroutines that last keep the plans of a family. -/
theorem Plan.kept_family
    {launch : κ → Coroutine κ α ε}
    {patience number : Nat}
    {holds : Surroundings κ α ε → Prop}
    {coroutines : List (Coroutine κ α ε)}
    {suspensions : Nat → Nat}
    {fate : Nat → Outcome α ε → Prop}
    (lasts :
      ∀ (index : Nat) (coroutine : Coroutine κ α ε),
        coroutines[index]? = some coroutine →
        coroutine.Lasts launch patience number holds (fate index)
          (suspensions index)) :
    List.Forall₂ (Plan.Kept launch patience number holds)
      (Task.family 0 coroutines)
      (Plan.family coroutines.length suspensions fate) := by
  rw [List.forall₂_iff_get]
  refine ⟨?_, ?_⟩
  · simp [Task.family, Plan.family]
  · intro index below _
    have bound : index < coroutines.length := by
      simpa [Task.family] using below
    have lasting :=
      lasts index coroutines[index] (List.getElem?_eq_getElem bound)
    simpa [Plan.Kept, Task.family, Plan.family, Task.new] using lasting

/-- A family that was worked off was worked off by its schedule. -/
theorem WorksOff.schedule
    {turn :
      World κ α ε → Option (World κ α ε × Guarded (Option Turn))}
    {number count : Nat}
    {suspensions : Nat → Nat}
    {fate : Nat → Outcome α ε → Prop}
    {world : World κ α ε}
    {scheduler : Scheduler κ α ε}
    (untouched : scheduler.Untouched)
    (works :
      WorksOff turn number (Plan.family count suspensions fate) world
        scheduler) :
    ∃ world' scheduler' outcome,
      (∀ index < count,
        (outcome index).isTerminal ∧ fate index (outcome index)) ∧
        TurnsTo turn world
          (RoundRobin.schedule count suspensions fun index =>
            (outcome index).kind)
          world' ∧
        (RoundRobin.schedule count suspensions fun index =>
            (outcome index).kind).length =
          ((List.range count).map fun index =>
            suspensions index + 1).sum ∧
        world'.scheduler? number = some scheduler' ∧
        scheduler'.Resolved count suspensions outcome := by
  obtain
    ⟨itineraries, events, world', scheduler', fulfilled, worked, turns,
      alive, empty, absorbs⟩ := works
  obtain ⟨outcome, suitable, rfl⟩ :=
    Itinerary.family_of_fulfilled fulfilled
  refine ⟨world', scheduler', outcome, suitable, ?_, ?_, alive, ?_⟩
  · rw [← Itinerary.map_rota_family, ← worked.eq_rota]
    exact turns
  · rw [← Itinerary.map_rota_family, ← worked.eq_rota, List.length_map,
      worked.length_eq]
    simp [Itinerary.family, Function.comp_def]
  · exact
      absorbs.resolved untouched worked
        (fun index below => (suitable index below).1) empty

/--
Coroutines that last are added to a new scheduler. However many more turns are
allowed than there are resumptions, stepping the scheduler until no task is
ready reports the schedule in closed form, and a drain ends as well; then the
tasks have ended in the order of their numbers of suspensions, equal ones in
the order in which they were added. The order does not depend on what the
coroutines end in.
-/
theorem schedule_closed
    (launch : κ → Coroutine κ α ε)
    (patience : Nat)
    {config : SchedulerConfig}
    {world opened : World κ α ε}
    {number : Nat}
    (idle : world.isDriven number = false)
    (opens : world.openScheduler config = .ok (opened, number))
    {holds : Surroundings κ α ε → Prop}
    (held : holds (opened.around number))
    {coroutines : List (Coroutine κ α ε)}
    {suspensions : Nat → Nat}
    {fate : Nat → Outcome α ε → Prop}
    (lasts :
      ∀ (index : Nat) (coroutine : Coroutine κ α ε),
        coroutines[index]? = some coroutine →
        coroutine.Lasts launch patience number holds (fate index)
          (suspensions index)) :
    ∃ added,
      opened.addAll? number coroutines = some added ∧
        ∀ turns,
          ((List.range coroutines.length).map fun index =>
              suspensions index + 1).sum < turns →
          (∃ world' scheduler outcome,
            (∀ index < coroutines.length,
              (outcome index).isTerminal ∧
                fate index (outcome index)) ∧
              World.stepToEnd (World.answer launch patience) number
                  turns added =
                some
                  (world',
                    schedule coroutines.length suspensions
                      fun index => (outcome index).kind) ∧
              world'.scheduler? number = some scheduler ∧
              scheduler.Resolved coroutines.length suspensions
                outcome) ∧
            ∃ world' scheduler outcome,
              (∀ index < coroutines.length,
                (outcome index).isTerminal ∧
                  fate index (outcome index)) ∧
                World.drain (World.answer launch patience) turns number
                    added =
                  some (world', .finished ()) ∧
                world'.scheduler? number = some scheduler ∧
                scheduler.Resolved coroutines.length suspensions
                  outcome := by
  obtain ⟨alive, frames⟩ := World.scheduler?_of_opened opens
  obtain
    ⟨added, scheduler, adds, alive', untouched, placed, ready, frames',
      around⟩ :=
    World.addAll?_eq_some alive ⟨rfl, rfl, rfl, rfl, rfl⟩ (.refl _)
      coroutines
  have kept :
      List.Forall₂ (Plan.Kept launch patience number holds)
        scheduler.ready.toList
        (Plan.family coroutines.length suspensions fate) := by
    rw [ready]
    exact Plan.kept_family lasts
  have idle' : added.isDriven number = false := by
    rw [World.isDriven_congr (frames'.trans frames)]
    exact idle
  have held' : holds (added.around number) := by
    rw [around]
    exact held
  refine ⟨added, adds, ?_⟩
  intro turns enough
  refine ⟨?_, ?_⟩
  · obtain
      ⟨world', scheduler', outcome, suitable, turnsTo, length, alive'',
        resolved⟩ :=
      (takesTurns_stepTurn.worksOff ⟨idle', held'⟩ alive' placed
        kept).schedule untouched
    refine
      ⟨world', scheduler', outcome, suitable, ?_, alive'', resolved⟩
    apply World.stepToEnd_of_turnsTo turnsTo
    rw [length]
    exact enough
  · have entered :
        (added.draining number scheduler).scheduler? number =
          some { scheduler with draining := true } := by
      simp [alive']
    have heldEntered :
        holds ((added.draining number scheduler).around number) := by
      rw [World.around_draining]
      exact held'
    have untouchedEntered :
        { scheduler with draining := true }.Untouched :=
      ⟨untouched.resolutionOrder, untouched.completed,
        untouched.failed, untouched.abandoned, untouched.tally⟩
    obtain
      ⟨world', scheduler', outcome, suitable, turnsTo, length, alive'',
        resolved⟩ :=
      (takesTurns_takeTurn.worksOff
        ⟨by simp [World.isDriven], heldEntered⟩ entered placed
        kept).schedule untouchedEntered
    refine
      ⟨_, { scheduler' with draining := false }, outcome, suitable,
        World.drain_of_turnsTo idle' alive' turnsTo ?_, ?_, ?_⟩
    · rw [length]
      exact enough
    · simp [alive'']
    · exact
        ⟨resolved.ready, resolved.resolutionOrder, resolved.completed,
          resolved.failed, resolved.abandoned, resolved.resumptions,
          resolved.suspensions⟩

/-- Three tasks that suspend twice, never and once, the second of which fails. -/
theorem schedule_closed_for_three :
    ∃ opened added world' scheduler,
      (World.empty none : World Job Value TaskError).openScheduler {} =
          .ok (opened, 0) ∧
        opened.addAll? 0
            [.suspendThen 2 (.number 7),
              .ofResults fun _ => .ok (.failed .notFound),
              .suspendThen 1 (.number 8)] =
          some added ∧
        World.stepToEnd (World.answer Job.launch 0) 0 7 added =
          some
            (world',
              [⟨⟨0⟩, .suspended⟩, ⟨⟨1⟩, .failed⟩, ⟨⟨2⟩, .suspended⟩,
                ⟨⟨0⟩, .suspended⟩, ⟨⟨2⟩, .completed⟩,
                ⟨⟨0⟩, .completed⟩]) ∧
        world'.scheduler? 0 = some scheduler ∧
        scheduler.resolutionOrder.toList = [⟨1⟩, ⟨2⟩, ⟨0⟩] := by
  have lasts
      (index : Nat)
      (coroutine : Coroutine Job Value TaskError)
      (found :
        [.suspendThen 2 (.number 7),
          .ofResults fun _ => .ok (.failed .notFound),
          .suspendThen 1 (.number 8)][index]? = some coroutine) :
      coroutine.Lasts Job.launch 0 0 (fun _ => True)
        (fun outcome =>
          [.completed (.number 7), .failed .notFound,
            .completed (.number 8)][index]? = some outcome)
        ([2, 0, 1].getD index 0) := by
    apply Coroutine.Quiet.lasts
    match index, found with
    | 0, found =>
        cases found
        simpa [eq_comm] using Coroutine.quiet_suspendThen 2 _
    | 1, found =>
        cases found
        refine ⟨.done _, ?_⟩
        intro ended ends
        rw [Activity.ends_done.mp ends]
        exact ⟨_, rfl, rfl, rfl⟩
    | 2, found =>
        cases found
        simpa [eq_comm] using Coroutine.quiet_suspendThen 1 _
  obtain ⟨added, adds, closed⟩ :=
    schedule_closed Job.launch 0
      (show (World.empty none).isDriven 0 = false from rfl)
      (show (World.empty none).openScheduler {} = .ok (_, 0) from rfl)
      trivial lasts
  obtain
    ⟨world', scheduler, outcome, suitable, stepped, alive, resolved⟩ :=
    (closed 7 (by decide)).1
  have kinds :
      schedule 3 (fun index => [2, 0, 1].getD index 0)
          (fun index => (outcome index).kind) =
        [⟨⟨0⟩, .suspended⟩, ⟨⟨1⟩, .failed⟩, ⟨⟨2⟩, .suspended⟩,
          ⟨⟨0⟩, .suspended⟩, ⟨⟨2⟩, .completed⟩,
          ⟨⟨0⟩, .completed⟩] := by
    have first := (suitable 0 (by decide)).2
    have second := (suitable 1 (by decide)).2
    have third := (suitable 2 (by decide)).2
    simp only [List.getElem?_cons_zero, List.getElem?_cons_succ,
      Option.some.injEq] at first second third
    change
      ([⟨⟨0⟩, .suspended⟩, ⟨⟨1⟩, (outcome 1).kind⟩, ⟨⟨2⟩, .suspended⟩,
        ⟨⟨0⟩, .suspended⟩, ⟨⟨2⟩, (outcome 2).kind⟩,
        ⟨⟨0⟩, (outcome 0).kind⟩] : List Turn) = _
    rw [← first, ← second, ← third]
    rfl
  have order :
      sortedBy (fun index => [2, 0, 1].getD index 0) 3 = [1, 2, 0] := by
    have bounded : ∀ index < 3, [2, 0, 1].getD index 0 ≤ 2 := by
      decide
    rw [← classwise_eq_sortedBy bounded]
    rfl
  rw [List.length_cons, List.length_cons, List.length_singleton, kinds]
    at stepped
  exact
    ⟨_, added, world', scheduler, rfl, adds, stepped, alive,
      by rw [resolved.resolutionOrder]; exact congrArg _ order⟩

end RoundRobin
