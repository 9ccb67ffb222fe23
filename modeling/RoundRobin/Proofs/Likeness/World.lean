import RoundRobin.Proofs.Alike
import RoundRobin.Proofs.Run.Basic
import RoundRobin.Proofs.Scheduler

namespace RoundRobin

/-!
# Worlds that are like each other

Worlds are like each other if they agree in everything that can be observed of
them: in the drives under way, in their observations and clocks, and scheduler
by scheduler in identities, ledgers, counters and the order of the queue. A
`Likeness` says in what they may differ: in the coroutines of their tasks, in
the settings of their schedulers, and in log entries of events that need not be
shown in both. Whatever is done to like worlds leaves them alike.
-/

/-- In what two worlds may differ. -/
structure Likeness (κ α ε : Type) where
  /-- Coroutines in the one and in the other, when they become tasks. -/
  added : Coroutine κ α ε → Coroutine κ α ε → Prop
  /-- Coroutines in the one and in the other, as long as they are tasks. -/
  coroutines : Coroutine κ α ε → Coroutine κ α ε → Prop
  configs : SchedulerConfig → SchedulerConfig → Prop
  /-- The events that are shown in both logs if in one. -/
  shown : LogEvent → Bool
  coroutines_of_added :
    ∀ {coroutine coroutine' : Coroutine κ α ε},
      added coroutine coroutine' →
      coroutines coroutine coroutine'
  /-- Tasks are resumed alike, and stay alike if they suspend. -/
  resumed :
    ∀ {coroutine coroutine' : Coroutine κ α ε},
      coroutines coroutine coroutine' →
      coroutine.resume.Like (Advanced coroutines) coroutine'.resume
  /-- Either both log resumptions, or these need not be shown. -/
  running :
    ∀ {config config' : SchedulerConfig},
      configs config config' →
      config.logResumptions = config'.logResumptions ∨
        ∀ id resumption, shown (.taskRunning id resumption) = false
  suspended :
    ∀ {config config' : SchedulerConfig},
      configs config config' →
      config.logResumptions = config'.logResumptions ∨
        ∀ id, shown (.taskSuspended id) = false

/-- The worlds differ in the same, the one and the other being exchanged. -/
def Likeness.symm (likeness : Likeness κ α ε) : Likeness κ α ε where
  added := flip likeness.added
  coroutines := flip likeness.coroutines
  configs := flip likeness.configs
  shown := likeness.shown
  coroutines_of_added := likeness.coroutines_of_added
  resumed alike := by
    apply (likeness.resumed alike).symm.mono
    rintro reached reached' ⟨same, goesOn⟩
    exact ⟨same.symm, fun suspends => goesOn (same.trans suspends)⟩
  running configs := (likeness.running configs).imp_left Eq.symm
  suspended configs := (likeness.suspended configs).imp_left Eq.symm

/-- An event about a resumption is logged, or nothing happens. -/
theorem World.emitResumption_cases
    (world : World κ α ε)
    (config : SchedulerConfig)
    (event : LogEvent) :
    world.emitResumption config event = world ∨
      ∃ spans,
        world.emitResumption config event =
          { world with
            log := world.log.push { spans := spans, event := event } } := by
  unfold emitResumption emit
  split
  · split
    · exact .inl rfl
    · split
      · exact .inr ⟨_, rfl⟩
      · exact .inl rfl
  · exact .inl rfl

namespace Likeness

variable (likeness : Likeness κ α ε)

/-- Tasks that differ in their coroutines only. -/
inductive Tasks : Task κ α ε → Task κ α ε → Prop where
  | mk
      {id : TaskId}
      {coroutine coroutine' : Coroutine κ α ε}
      {resumptions : Nat}
      (alike : likeness.coroutines coroutine coroutine') :
      Tasks ⟨id, coroutine, resumptions⟩ ⟨id, coroutine', resumptions⟩

/-- Schedulers that differ in their settings and tasks only. -/
inductive Schedulers : Scheduler κ α ε → Scheduler κ α ε → Prop where
  | mk
      {scheduler : Scheduler κ α ε}
      {config : SchedulerConfig}
      {ready : Queue (Task κ α ε)}
      (configs : likeness.configs scheduler.config config)
      (tasks :
        List.Forall₂ likeness.Tasks scheduler.ready.toList
          ready.toList) :
      Schedulers scheduler
        { scheduler with config := config, ready := ready }

/-- Slots of which both hold a scheduler or none. -/
inductive Slots : Slot κ α ε → Slot κ α ε → Prop where
  | live
      {scheduler scheduler' : Scheduler κ α ε}
      (schedulers : likeness.Schedulers scheduler scheduler') :
      Slots (.live scheduler) (.live scheduler')
  | consumed
      (completed : Ledger α)
      (failed : Ledger ε) :
      Slots (.consumed completed failed) (.consumed completed failed)
  | gone : Slots .gone .gone

/-- The entries of a log that are shown in both. -/
def entries (log : Array Entry) : List Entry :=
  log.toList.filter fun entry => likeness.shown entry.event

/-- Worlds that differ in their slots and logs only. -/
inductive Worlds : World κ α ε → World κ α ε → Prop where
  | mk
      {world : World κ α ε}
      {slots : List (Slot κ α ε)}
      {log : Array Entry}
      (slotwise : List.Forall₂ likeness.Slots world.slots slots)
      (logs : likeness.entries world.log = likeness.entries log) :
      Worlds world { world with slots := slots, log := log }

variable {likeness}

namespace Tasks

variable
  {task task' : Task κ α ε}
  {coroutine coroutine' : Coroutine κ α ε}

theorem id (tasks : likeness.Tasks task task') : task'.id = task.id := by
  cases tasks
  rfl

theorem resumptions (tasks : likeness.Tasks task task') :
    task'.resumptions = task.resumptions := by
  cases tasks
  rfl

/-- A resumption that suspends leaves tasks alike. -/
theorem resumed
    (tasks : likeness.Tasks task task')
    (alike : likeness.coroutines coroutine coroutine') :
    likeness.Tasks (task.resumed coroutine) (task'.resumed coroutine') := by
  cases tasks
  exact .mk alike

end Tasks

namespace Schedulers

variable
  {scheduler scheduler' : Scheduler κ α ε}

theorem configs (schedulers : likeness.Schedulers scheduler scheduler') :
    likeness.configs scheduler.config scheduler'.config := by
  cases schedulers with
  | mk configs _ => exact configs

theorem length_ready
    (schedulers : likeness.Schedulers scheduler scheduler') :
    scheduler'.ready.length = scheduler.ready.length := by
  cases schedulers with
  | mk _ tasks =>
      rw [← Queue.length_toList, ← Queue.length_toList]
      exact tasks.length_eq.symm

/-- Both take a task out of the queue, or neither has one. -/
theorem dequeue?_cases
    (schedulers : likeness.Schedulers scheduler scheduler') :
    (scheduler.dequeue? = none ∧ scheduler'.dequeue? = none) ∨
      ∃ task task' rest rest',
        scheduler.dequeue? = some (task, rest) ∧
          scheduler'.dequeue? = some (task', rest') ∧
          likeness.Tasks task task' ∧
          likeness.Schedulers rest rest' := by
  cases schedulers with
  | @mk config ready configs tasks =>
      generalize queued : scheduler.ready.toList = list at tasks
      generalize queued' : ready.toList = list' at tasks
      cases tasks with
      | nil =>
          left
          exact
            ⟨Scheduler.dequeue?_eq_none_iff.mpr queued,
              Scheduler.dequeue?_eq_none_iff.mpr queued'⟩
      | @cons task task' _ _ head tail =>
          right
          obtain ⟨rest, dequeued, others⟩ :=
            Scheduler.dequeue?_of_ready queued
          obtain ⟨rest', dequeued', others'⟩ :=
            Scheduler.dequeue?_of_ready
              (show
                { scheduler with
                    config := config
                    ready := ready }.ready.toList =
                  _ from queued')
          refine ⟨task, task', rest, rest', dequeued, dequeued', head, ?_⟩
          have unchanged := (Scheduler.dequeue?_eq_some dequeued).2
          have unchanged' := (Scheduler.dequeue?_eq_some dequeued').2
          rw [← others, ← others'] at tail
          rw [unchanged, unchanged']
          exact .mk configs tail

/-- Enqueueing alike coroutines gives them the same identity. -/
theorem enqueue
    (schedulers : likeness.Schedulers scheduler scheduler')
    {coroutine coroutine' : Coroutine κ α ε}
    (alike : likeness.coroutines coroutine coroutine') :
    likeness.Schedulers (scheduler.enqueue coroutine).1
        (scheduler'.enqueue coroutine').1 ∧
      (scheduler'.enqueue coroutine').2 =
        (scheduler.enqueue coroutine).2 := by
  cases schedulers with
  | @mk config ready configs tasks =>
      refine ⟨.mk configs ?_, rfl⟩
      rw [Scheduler.ready_enqueue, Queue.toList_push]
      exact List.rel_append tasks (.cons (.mk alike) .nil)

/-- The same result puts alike tasks in the same place. -/
theorem conclude
    (schedulers : likeness.Schedulers scheduler scheduler')
    {task task' : Task κ α ε}
    (tasks : likeness.Tasks task task')
    {coroutine coroutine' : Coroutine κ α ε}
    {result : Guarded (Outcome α ε)}
    (alike :
      result = .ok .suspended →
      likeness.coroutines coroutine coroutine') :
    likeness.Schedulers (scheduler.conclude task coroutine result)
      (scheduler'.conclude task' coroutine' result) := by
  cases schedulers with
  | @mk config ready configs queued =>
      cases tasks with
      | mk _ =>
          rcases result with panic | _ | value | error
          · exact .mk configs queued
          · refine .mk configs ?_
            rw [Scheduler.ready_conclude, Queue.toList_push]
            exact
              List.rel_append queued (.cons (.mk (alike rfl)) .nil)
          · exact .mk configs queued
          · exact .mk configs queued

end Schedulers

namespace Worlds

variable
  {world world' : World κ α ε}
  {number : Nat}

/-- Both have a slot of the number, or neither. -/
theorem slot_cases
    (worlds : likeness.Worlds world world')
    (number : Nat) :
    (world.slots[number]? = none ∧ world'.slots[number]? = none) ∨
      ∃ slot slot',
        world.slots[number]? = some slot ∧
          world'.slots[number]? = some slot' ∧
          likeness.Slots slot slot' := by
  cases worlds with
  | @mk slots log slotwise _ =>
      simp only
      generalize world.slots = list at slotwise ⊢
      induction slotwise generalizing number with
      | nil => left; simp
      | cons head _ inductionHypothesis =>
          cases number with
          | zero => right; simpa using head
          | succ number => simpa using inductionHypothesis number

/-- Both have a live scheduler of the number, or neither. -/
theorem scheduler?_cases
    (worlds : likeness.Worlds world world')
    (number : Nat) :
    (world.scheduler? number = none ∧
        world'.scheduler? number = none) ∨
      ∃ scheduler scheduler',
        world.scheduler? number = some scheduler ∧
          world'.scheduler? number = some scheduler' ∧
          likeness.Schedulers scheduler scheduler' := by
  unfold World.scheduler?
  rcases worlds.slot_cases number with
    ⟨absent, absent'⟩ | ⟨slot, slot', found, found', slots⟩
  · left
    simp [absent, absent']
  · rw [found, found']
    cases slots with
    | live schedulers => exact .inr ⟨_, _, rfl, rfl, schedulers⟩
    | consumed => exact .inl ⟨rfl, rfl⟩
    | gone => exact .inl ⟨rfl, rfl⟩

/-- A live scheduler has a counterpart. -/
theorem alive
    (worlds : likeness.Worlds world world')
    {scheduler : Scheduler κ α ε}
    (alive : world.scheduler? number = some scheduler) :
    ∃ scheduler',
      world'.scheduler? number = some scheduler' ∧
        likeness.Schedulers scheduler scheduler' := by
  rcases worlds.scheduler?_cases number with
    ⟨absent, -⟩ | ⟨found, scheduler', shown, alive', schedulers⟩
  · rw [alive] at absent
    cases absent
  · rw [alive] at shown
    cases shown
    exact ⟨scheduler', alive', schedulers⟩

/-- Both have the same next task, or neither has one. -/
theorem next_cases
    (worlds : likeness.Worlds world world')
    (number : Nat) :
    ((world.scheduler? number).bind Scheduler.dequeue? = none ∧
        (world'.scheduler? number).bind Scheduler.dequeue? = none) ∨
      ∃ task task' rest rest',
        (world.scheduler? number).bind Scheduler.dequeue? =
            some (task, rest) ∧
          (world'.scheduler? number).bind Scheduler.dequeue? =
            some (task', rest') ∧
          likeness.Tasks task task' ∧
          likeness.Schedulers rest rest' := by
  rcases worlds.scheduler?_cases number with
    ⟨absent, absent'⟩ | ⟨scheduler, scheduler', found, found', schedulers⟩
  · left
    simp [absent, absent']
  · rw [found, found']
    exact schedulers.dequeue?_cases

theorem frames (worlds : likeness.Worlds world world') :
    world'.frames = world.frames := by
  cases worlds
  rfl

theorem isDriven
    (worlds : likeness.Worlds world world')
    (number : Nat) :
    world'.isDriven number = world.isDriven number :=
  World.isDriven_congr worlds.frames number

theorem length_slots (worlds : likeness.Worlds world world') :
    world'.slots.length = world.slots.length := by
  cases worlds with
  | mk slotwise _ => exact slotwise.length_eq.symm

/-- Neither can be driven, for the same reason. -/
theorem refusal?
    (ρ : Type)
    (worlds : likeness.Worlds world world')
    (number : Nat) :
    (world'.refusal? number : Option (Drive ρ)) =
      world.refusal? number := by
  unfold World.refusal?
  rw [worlds.isDriven]
  rcases worlds.scheduler?_cases number with
    ⟨absent, absent'⟩ | ⟨_, _, found, found', -⟩
  · rw [absent, absent']
  · rw [found, found']
    rfl

/-- The same is told of a scheduler. -/
theorem attachment
    (worlds : likeness.Worlds world world')
    (number : Nat) :
    world'.attachment number = world.attachment number := by
  unfold World.attachment
  rcases worlds.scheduler?_cases number with
    ⟨absent, absent'⟩ | ⟨_, _, found, found', ⟨_, _⟩⟩
  · rw [absent, absent']
  · rw [found, found']

/-- The same change of a slot keeps worlds alike. -/
theorem modifySlot
    (worlds : likeness.Worlds world world')
    (number : Nat)
    {change change' : Slot κ α ε → Slot κ α ε}
    (changes :
      ∀ slot slot',
        likeness.Slots slot slot' →
        likeness.Slots (change slot) (change' slot')) :
    likeness.Worlds (world.modifySlot number change)
      (world'.modifySlot number change') := by
  cases worlds with
  | @mk slots log slotwise logs =>
      refine .mk ?_ logs
      simp only [World.modifySlot]
      generalize world.slots = list at slotwise ⊢
      induction slotwise generalizing number with
      | nil => simp
      | @cons slot slot' _ _ head tail inductionHypothesis =>
          cases number with
          | zero => exact .cons (changes slot slot' head) tail
          | succ number =>
              exact .cons head (inductionHypothesis number)

/-- The same change of a scheduler keeps worlds alike. -/
theorem modifyScheduler
    (worlds : likeness.Worlds world world')
    (number : Nat)
    {change change' : Scheduler κ α ε → Scheduler κ α ε}
    (changes :
      ∀ scheduler scheduler',
        likeness.Schedulers scheduler scheduler' →
        likeness.Schedulers (change scheduler) (change' scheduler')) :
    likeness.Worlds (world.modifyScheduler number change)
      (world'.modifyScheduler number change') := by
  apply worlds.modifySlot
  intro slot slot' slots
  cases slots with
  | live schedulers => exact .live (changes _ _ schedulers)
  | consumed completed failed => exact .consumed completed failed
  | gone => exact .gone

/-- Logging the same keeps worlds alike. -/
theorem emit
    (worlds : likeness.Worlds world world')
    (event : LogEvent) :
    likeness.Worlds (world.emit event) (world'.emit event) := by
  cases worlds with
  | @mk slots log slotwise logs =>
      obtain ⟨_, _, threshold, _, _, _, _⟩ := world
      unfold World.emit
      cases threshold with
      | none => exact .mk slotwise logs
      | some threshold =>
          simp only
          by_cases admits : threshold.admits event.severity
          · simp only [admits, ↓reduceIte]
            refine .mk slotwise ?_
            unfold entries at logs ⊢
            simp only [Array.toList_push, List.filter_append, logs]
            rfl
          · simp only [admits, Bool.false_eq_true, ↓reduceIte]
            exact .mk slotwise logs

/-- Logs may differ in what need not be shown. -/
theorem relog
    (worlds : likeness.Worlds world world')
    {log log' : Array Entry}
    (logs : likeness.entries log = likeness.entries log') :
    likeness.Worlds { world with log := log }
      { world' with log := log' } := by
  cases worlds with
  | mk slotwise _ => exact .mk slotwise logs

theorem entries_eq (worlds : likeness.Worlds world world') :
    likeness.entries world.log = likeness.entries world'.log := by
  cases worlds with
  | mk _ logs => exact logs

/-- A resumption that one of them logs need not be shown. -/
theorem emitResumption
    (worlds : likeness.Worlds world world')
    {config config' : SchedulerConfig}
    {event : LogEvent}
    (either :
      config.logResumptions = config'.logResumptions ∨
        likeness.shown event = false) :
    likeness.Worlds (world.emitResumption config event)
      (world'.emitResumption config' event) := by
  rcases either with same | hidden
  · unfold World.emitResumption
    rw [same]
    split
    · exact worlds.emit event
    · exact worlds
  · have logs := worlds.entries_eq
    have unseen (log : Array Entry) (spans : List Nat) :
        likeness.entries (log.push { spans := spans, event := event }) =
          likeness.entries log := by
      simp [entries, hidden]
    rcases world.emitResumption_cases config event with
      quiet | ⟨spans, logged⟩
    all_goals
      rcases world'.emitResumption_cases config' event with
        quiet' | ⟨spans', logged'⟩
    · rw [quiet, quiet']
      exact worlds
    · rw [quiet, logged']
      exact worlds.relog (logs.trans (unseen _ _).symm)
    · rw [logged, quiet']
      exact worlds.relog ((unseen _ _).trans logs)
    · rw [logged, logged']
      exact
        worlds.relog ((unseen _ _).trans (logs.trans (unseen _ _).symm))

theorem enter
    (worlds : likeness.Worlds world world')
    (frame : Frame) :
    likeness.Worlds (world.enter frame) (world'.enter frame) := by
  cases worlds with
  | mk slotwise logs => exact .mk slotwise logs

theorem leave (worlds : likeness.Worlds world world') :
    likeness.Worlds world.leave world'.leave := by
  cases worlds with
  | mk slotwise logs => exact .mk slotwise logs

theorem observe
    (worlds : likeness.Worlds world world')
    (observation : Observation) :
    likeness.Worlds (world.observe observation)
      (world'.observe observation) := by
  cases worlds with
  | mk slotwise logs => exact .mk slotwise logs

/-- Both read the same off their clocks. -/
theorem readClock (worlds : likeness.Worlds world world') :
    likeness.Worlds world.readClock.1 world'.readClock.1 ∧
      world'.readClock.2 = world.readClock.2 := by
  cases worlds with
  | mk slotwise logs => exact ⟨.mk slotwise logs, rfl⟩

theorem setDraining
    (worlds : likeness.Worlds world world')
    (number : Nat)
    (draining : Bool) :
    likeness.Worlds (world.setDraining number draining)
      (world'.setDraining number draining) := by
  apply worlds.modifyScheduler
  intro scheduler scheduler' schedulers
  cases schedulers with
  | mk configs tasks => exact .mk configs tasks

theorem emitDrained
    (worlds : likeness.Worlds world world')
    (number : Nat) :
    likeness.Worlds (world.emitDrained number)
      (world'.emitDrained number) := by
  unfold World.emitDrained
  rcases worlds.scheduler?_cases number with
    ⟨absent, absent'⟩ | ⟨_, _, found, found', ⟨_, _⟩⟩
  · rw [absent, absent']
    exact worlds
  · rw [found, found']
    exact worlds.emit _

theorem drop
    (worlds : likeness.Worlds world world')
    (number : Nat) :
    likeness.Worlds (world.drop number) (world'.drop number) :=
  worlds.modifySlot number fun _ _ _ => .gone

theorem consume
    (worlds : likeness.Worlds world world')
    (number : Nat) :
    likeness.Worlds (world.consume number) (world'.consume number) := by
  apply worlds.modifySlot
  intro slot slot' slots
  cases slots with
  | live schedulers =>
      cases schedulers with
      | mk _ _ => exact .consumed _ _
  | consumed completed failed => exact .consumed completed failed
  | gone => exact .gone

/-- A scheduler is made in both, with settings that may differ. -/
theorem openScheduler
    (worlds : likeness.Worlds world world')
    {config config' : SchedulerConfig}
    (configs : likeness.configs config config')
    {scheduler' : Scheduler κ α ε}
    (made' : Scheduler.new config' = .ok scheduler')
    {opened : World κ α ε}
    (opens : world.openScheduler config = .ok (opened, number)) :
    ∃ opened',
      world'.openScheduler config' = .ok (opened', number) ∧
        likeness.Worlds opened opened' := by
  obtain ⟨scheduler, made, rfl, rfl⟩ := World.openScheduler_eq_ok opens
  refine
    ⟨{ world' with slots := world'.slots ++ [.live scheduler'] }, ?_, ?_⟩
  · simp [World.openScheduler, made', worlds.length_slots]
  · have schedulers : likeness.Schedulers scheduler scheduler' := by
      rw [Scheduler.eq_of_new_eq_ok made,
        Scheduler.eq_of_new_eq_ok made']
      exact .mk configs .nil
    cases worlds with
    | mk slotwise logs =>
        exact
          .mk (List.rel_append slotwise (.cons (.live schedulers) .nil))
            logs

/-- Enqueueing alike coroutines and logging it keeps worlds alike. -/
theorem enqueue
    (worlds : likeness.Worlds world world')
    {coroutine coroutine' : Coroutine κ α ε}
    (alike : likeness.coroutines coroutine coroutine')
    (number : Nat)
    (event : LogEvent) :
    likeness.Worlds
      ((world.modifyScheduler number fun scheduler =>
          (scheduler.enqueue coroutine).1).emit event)
      ((world'.modifyScheduler number fun scheduler =>
          (scheduler.enqueue coroutine').1).emit event) := by
  apply emit
  apply worlds.modifyScheduler
  intro scheduler scheduler' schedulers
  exact (schedulers.enqueue alike).1

/-- Owners add alike coroutines under the same identity. -/
theorem add?
    (worlds : likeness.Worlds world world')
    {coroutine coroutine' : Coroutine κ α ε}
    (alike : likeness.coroutines coroutine coroutine')
    {id : TaskId}
    {added : World κ α ε}
    (adds : world.add? number coroutine = some (added, id)) :
    ∃ added',
      world'.add? number coroutine' = some (added', id) ∧
        likeness.Worlds added added' := by
  obtain ⟨scheduler, found, rfl, rfl⟩ := World.add?_eq_some adds
  obtain ⟨scheduler', found', schedulers⟩ := worlds.alive found
  have same := (schedulers.enqueue alike).2
  refine ⟨_, ?_, worlds.enqueue alike number _⟩
  simp [World.add?, found', same]

/-- Spawners add alike coroutines under the same identity, or refuse both. -/
theorem spawn
    (worlds : likeness.Worlds world world')
    (number : Nat)
    {coroutine coroutine' : Coroutine κ α ε}
    (alike :
      ∀ scheduler,
        world.scheduler? number = some scheduler →
        likeness.coroutines coroutine coroutine') :
    likeness.Worlds (world.spawn number coroutine).1
        (world'.spawn number coroutine').1 ∧
      (world'.spawn number coroutine').2 =
        (world.spawn number coroutine).2 := by
  unfold World.spawn
  rcases worlds.scheduler?_cases number with
    ⟨absent, absent'⟩ | ⟨scheduler, _, found, found', schedulers⟩
  · rw [absent, absent']
    exact ⟨worlds.emit _, rfl⟩
  · have alike := alike scheduler found
    obtain ⟨-, same⟩ := schedulers.enqueue alike
    rw [found, found']
    simp only [same, and_true]
    exact worlds.enqueue alike number _

/-- The resumptions of alike tasks begin in alike worlds. -/
theorem started
    (worlds : likeness.Worlds world world')
    (number : Nat)
    {scheduler scheduler' : Scheduler κ α ε}
    (schedulers : likeness.Schedulers scheduler scheduler')
    {task task' : Task κ α ε}
    (tasks : likeness.Tasks task task') :
    likeness.Worlds (world.started number scheduler task)
      (world'.started number scheduler' task') := by
  unfold World.started
  rw [tasks.id, tasks.resumptions]
  refine emitResumption (worlds.modifyScheduler number ?_) ?_
  · intro _ _ _
    exact schedulers
  · exact
      (likeness.running schedulers.configs).imp_right fun hidden =>
        hidden _ _

/-- Resumptions that end in the same result leave worlds alike. -/
theorem conclude
    (worlds : likeness.Worlds world world')
    (number : Nat)
    {config config' : SchedulerConfig}
    (configs : likeness.configs config config')
    {task task' : Task κ α ε}
    (tasks : likeness.Tasks task task')
    {coroutine coroutine' : Coroutine κ α ε}
    {result : Guarded (Outcome α ε)}
    (alike :
      result = .ok .suspended →
      likeness.coroutines coroutine coroutine') :
    likeness.Worlds
      (world.conclude number config task coroutine result)
      (world'.conclude number config' task' coroutine' result) := by
  have changes (scheduler scheduler' : Scheduler κ α ε)
      (schedulers : likeness.Schedulers scheduler scheduler') :=
    schedulers.conclude tasks alike
  cases tasks with
  | mk _ =>
      rcases result with panic | _ | value | error
      · exact (worlds.emit _).modifyScheduler number changes
      · refine
          emitResumption (worlds.modifyScheduler number changes) ?_
        exact
          (likeness.suspended configs).imp_right fun hidden => hidden _
      · exact (worlds.modifyScheduler number changes).emit _
      · exact (worlds.modifyScheduler number changes).emit _

end Worlds

end Likeness

end RoundRobin
