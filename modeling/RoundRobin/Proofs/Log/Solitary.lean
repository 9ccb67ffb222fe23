import RoundRobin.Proofs.Log.Faithful
import RoundRobin.Proofs.Lookup

namespace RoundRobin

/-!
# The log of a world with one scheduler

Events do not name the scheduler they are about, so what a log says is looked
at in worlds that have only ever had one. If the log captures everything and
the scheduler logs its resumptions, then every move of a run tells of what it
does to the scheduler. Once the scheduler has been dropped or consumed nothing
more is told of its tasks.
-/

/-- What may have become of a scheduler since it was in its last state. -/
inductive Scheduler.Became (scheduler : Scheduler κ α ε) :
    Slot κ α ε →
    Prop where
  | live : Became scheduler (.live scheduler)
  | consumed :
      Became scheduler (.consumed scheduler.completed scheduler.failed)
  | gone : Became scheduler .gone

namespace World

/-- The events that were logged, in order. -/
def logged (world : World κ α ε) : Log :=
  world.log.toList.map Entry.event

/--
A world that logs everything and has had one scheduler, the given one when it
was last there.
-/
structure Solitary
    (world : World κ α ε)
    (scheduler : Scheduler κ α ε) :
    Prop where
  captured : world.threshold = some .debug
  became : ∃ slot, world.slots = [slot] ∧ scheduler.Became slot

@[simp] theorem threshold_emit
    (world : World κ α ε)
    (event : LogEvent) :
    (world.emit event).threshold = world.threshold := by
  unfold emit
  split
  · rfl
  · split <;> rfl

namespace Solitary

variable
  {world : World κ α ε}
  {scheduler : Scheduler κ α ε}

/-- The scheduler that is alive is the one. -/
theorem alive
    (solitary : world.Solitary scheduler)
    {number : Nat}
    {other : Scheduler κ α ε}
    (found : world.scheduler? number = some other) :
    number = 0 ∧ other = scheduler ∧ world.slots = [.live scheduler] := by
  obtain ⟨-, slot, slots, became⟩ := solitary
  have first : number = 0 := by
    simpa [slots] using lt_length_slots found
  subst first
  rw [scheduler?, slots] at found
  cases became with
  | live => exact ⟨rfl, (Option.some.inj found).symm, slots⟩
  | consumed => cases found
  | gone => cases found

/-- What is logged is added to what was. -/
theorem logged_emit
    (solitary : world.Solitary scheduler)
    (event : LogEvent) :
    (world.emit event).logged = world.logged ++ [event] := by
  simp [emit, solitary.captured, Level.admits, Level.rank, logged]

theorem emit
    (solitary : world.Solitary scheduler)
    (event : LogEvent) :
    (world.emit event).Solitary scheduler := by
  refine ⟨?_, ?_⟩
  · rw [threshold_emit]
    exact solitary.captured
  · rw [slots_emit]
    exact solitary.became

/-- The scheduler may change while it is alive. -/
theorem modifyScheduler
    (solitary : world.Solitary scheduler)
    {number : Nat}
    {other : Scheduler κ α ε}
    (found : world.scheduler? number = some other)
    (change : Scheduler κ α ε → Scheduler κ α ε) :
    (world.modifyScheduler number change).Solitary (change scheduler) := by
  obtain ⟨rfl, -, slots⟩ := solitary.alive found
  refine ⟨solitary.captured, .live (change scheduler), ?_, .live⟩
  simp [World.modifyScheduler, modifySlot, slots]

/-- Where there is no scheduler none is changed. -/
theorem modifyScheduler_of_absent
    (solitary : world.Solitary scheduler)
    {number : Nat}
    (absent : world.scheduler? number = none)
    (change : Scheduler κ α ε → Scheduler κ α ε) :
    (world.modifyScheduler number change).Solitary scheduler := by
  obtain ⟨captured, slot, slots, became⟩ := solitary
  refine ⟨captured, slot, ?_, became⟩
  cases number with
  | zero =>
      rw [scheduler?, slots] at absent
      cases became with
      | live => cases absent
      | consumed => simp [World.modifyScheduler, modifySlot, slots]
      | gone => simp [World.modifyScheduler, modifySlot, slots]
  | succ number => simp [World.modifyScheduler, modifySlot, slots]

theorem setDraining
    (solitary : world.Solitary scheduler)
    (number : Nat)
    (draining : Bool) :
    ∃ flag,
      (world.setDraining number draining).Solitary
        { scheduler with draining := flag } := by
  cases found : world.scheduler? number with
  | none =>
      exact
        ⟨scheduler.draining, solitary.modifyScheduler_of_absent found _⟩
  | some other => exact ⟨draining, solitary.modifyScheduler found _⟩

/-- The scheduler may go. -/
theorem modifySlot
    (solitary : world.Solitary scheduler)
    (number : Nat)
    {change : Slot κ α ε → Slot κ α ε}
    (became :
      ∀ slot, scheduler.Became slot → scheduler.Became (change slot)) :
    (world.modifySlot number change).Solitary scheduler := by
  obtain ⟨captured, slot, slots, before⟩ := solitary
  cases number with
  | zero =>
      exact
        ⟨captured, change slot, by simp [World.modifySlot, slots],
          became slot before⟩
  | succ number =>
      exact ⟨captured, slot, by simp [World.modifySlot, slots], before⟩

end Solitary

/--
A world becomes another one with what has happened to its scheduler told by an
event at most.
-/
def Tells
    (world : World κ α ε)
    (scheduler : Scheduler κ α ε)
    (running : Option (Task κ α ε))
    (world' : World κ α ε)
    (running' : Option (Task κ α ε)) :
    Prop :=
  ∃ told scheduler',
    world'.Solitary scheduler' ∧
      world'.logged = world.logged ++ told.toList ∧
      Telling scheduler running told scheduler' running'

namespace Tells

variable
  {world world' : World κ α ε}
  {scheduler : Scheduler κ α ε}
  {running running' : Option (Task κ α ε)}

/-- Nothing need be told where nothing happens to tasks. -/
theorem silently
    (flag : Bool)
    (solitary : world'.Solitary { scheduler with draining := flag })
    (logged : world'.logged = world.logged) :
    world.Tells scheduler running world' running := by
  refine ⟨none, _, solitary, ?_, .aside _ _ _ (by simp)⟩
  rw [logged, Option.toList_none, List.append_nil]

/-- Other events may be told besides. -/
theorem aside
    (flag : Bool)
    {event : LogEvent}
    (apart : event.task? = none)
    (solitary : world'.Solitary { scheduler with draining := flag })
    (logged : world'.logged = world.logged ++ [event]) :
    world.Tells scheduler running world' running :=
  ⟨some event, _, solitary, logged, .aside _ _ _ (by simp [apart])⟩

/-- A new task of the scheduler is told of. -/
theorem enqueue
    (solitary : world.Solitary scheduler)
    {number : Nat}
    {other : Scheduler κ α ε}
    (found : world.scheduler? number = some other)
    (coroutine : Coroutine κ α ε)
    {event : LogEvent}
    (issues : event.issued? = some (other.enqueue coroutine).2) :
    world.Tells scheduler running
      ((world.modifyScheduler number fun scheduler =>
        (scheduler.enqueue coroutine).1).emit event)
      running := by
  obtain ⟨-, rfl, -⟩ := solitary.alive found
  have changed :=
    solitary.modifyScheduler found fun scheduler =>
      (scheduler.enqueue coroutine).1
  exact
    ⟨some event, _, changed.emit event, changed.logged_emit event,
      .issued _ _ coroutine issues⟩

/-- Every use of a spawner is told. -/
theorem spawn
    (solitary : world.Solitary scheduler)
    (number : Nat)
    (coroutine : Coroutine κ α ε) :
    world.Tells scheduler running (world.spawn number coroutine).1
      running := by
  unfold World.spawn
  cases found : world.scheduler? number with
  | none =>
      exact
        aside scheduler.draining rfl
          (solitary.emit .spawnRefused)
          (solitary.logged_emit .spawnRefused)
  | some other => exact enqueue solitary found coroutine rfl

/-- Whatever else is answered at once is told if it is to be logged. -/
theorem answer
    (solitary : world.Solitary scheduler)
    {launch : κ → Coroutine κ α ε}
    {request : Request κ}
    {reply : request.Reply}
    (answered :
      World.answer launch 0 request world = some (world', reply)) :
    world.Tells scheduler running world' running := by
  cases request with
  | spawn number job =>
      simp only [World.answer, Option.some.injEq] at answered
      have same : (world.spawn number (launch job)).1 = world' :=
        congrArg Prod.fst answered
      exact same ▸ spawn solitary number (launch job)
  | inspect number =>
      cases answered
      exact silently scheduler.draining solitary rfl
  | step number => cases answered
  | drain number => cases answered
  | observe observation =>
      cases answered
      exact
        silently scheduler.draining
          ⟨solitary.captured, solitary.became⟩ rfl
  | announce severity text =>
      cases answered
      exact
        aside scheduler.draining rfl (solitary.emit _)
          (solitary.logged_emit _)
  | readClock =>
      cases answered
      exact
        silently scheduler.draining
          ⟨solitary.captured, solitary.became⟩ rfl

/-- The beginning of a resumption is told, if the scheduler logs it. -/
theorem started
    (solitary : world.Solitary scheduler)
    {number : Nat}
    {task : Task κ α ε}
    {rest : Scheduler κ α ε}
    (next :
      (world.scheduler? number).bind Scheduler.dequeue? =
        some (task, rest))
    (verbose : rest.config.logResumptions = true) :
    world.Tells scheduler none (world.started number rest task)
      (some task) := by
  obtain ⟨other, found, dequeued⟩ := Option.bind_eq_some_iff.mp next
  obtain ⟨-, rfl, -⟩ := solitary.alive found
  have changed := solitary.modifyScheduler found fun _ => rest
  unfold World.started emitResumption
  rw [if_pos verbose]
  exact
    ⟨some _, _, changed.emit _, changed.logged_emit _, .began dequeued⟩

/-- An outcome is logged whatever it is, if suspensions are logged too. -/
theorem conclude_of_verbose
    (number : Nat)
    {config : SchedulerConfig}
    (verbose : config.logResumptions = true)
    {task : Task κ α ε}
    {coroutine : Coroutine κ α ε}
    {outcome : Outcome α ε} :
    world.conclude number config task coroutine (.ok outcome) =
      (world.modifyScheduler number fun scheduler =>
          scheduler.settle (task.resumed coroutine) outcome).emit
        (.ofResult task.id (task.resumptions + 1)
          (.ok outcome : Guarded (Outcome α ε))) := by
  rcases outcome with _ | value | error
  · exact if_pos verbose
  · rfl
  · rfl

/-- The result of a resumption is told, if the scheduler logs it. -/
theorem conclude
    (solitary : world.Solitary scheduler)
    {number : Nat}
    {other : Scheduler κ α ε}
    (found : world.scheduler? number = some other)
    {config : SchedulerConfig}
    (verbose : config.logResumptions = true)
    {task : Task κ α ε}
    {coroutine : Coroutine κ α ε}
    {result : Guarded (Outcome α ε)}
    (ends : task.coroutine.resume.Ends (coroutine, result)) :
    world.Tells scheduler (some task)
      (world.conclude number config task coroutine result) none := by
  obtain ⟨-, rfl, -⟩ := solitary.alive found
  have telling := Telling.ended other ends
  rcases result with panic | outcome
  · have emitted := solitary.emit (.taskPanicked task.id)
    refine ⟨_, _, ?_, ?_, telling⟩
    · exact
        emitted.modifyScheduler (by simpa using found)
          fun scheduler => scheduler.abandon task.id
    · exact solitary.logged_emit _
  · have changed :=
      solitary.modifyScheduler found fun scheduler =>
        scheduler.settle (task.resumed coroutine) outcome
    rw [conclude_of_verbose number verbose]
    exact ⟨_, _, changed.emit _, changed.logged_emit _, telling⟩

end Tells

end World

end RoundRobin
