import RoundRobin.World.Drive

namespace RoundRobin.World

/-!
# Reading a world back

What each change of a world does to the schedulers in it, to the drives under
way, and to the number of slots. Later proofs use these equations and never
open the changes themselves.
-/

/-- A world shows a scheduler changed exactly where it was changed. -/
@[simp] theorem scheduler?_modifyScheduler
    (world : World κ α ε)
    (changed number : Nat)
    (change : Scheduler κ α ε → Scheduler κ α ε) :
    (world.modifyScheduler changed change).scheduler? number =
      if changed = number then
        (world.scheduler? number).map change
      else
        world.scheduler? number := by
  simp only [scheduler?, modifyScheduler, modifySlot,
    List.getElem?_modify]
  cases world.slots[number]? with
  | none => simp
  | some slot =>
      by_cases same : changed = number
      · cases slot <;> simp [same, Slot.scheduler?]
      · simp [same]

@[simp] theorem frames_modifyScheduler
    (world : World κ α ε)
    (changed : Nat)
    (change : Scheduler κ α ε → Scheduler κ α ε) :
    (world.modifyScheduler changed change).frames = world.frames :=
  rfl

@[simp] theorem length_slots_modifyScheduler
    (world : World κ α ε)
    (changed : Nat)
    (change : Scheduler κ α ε → Scheduler κ α ε) :
    (world.modifyScheduler changed change).slots.length =
      world.slots.length := by
  simp [modifyScheduler, modifySlot]

/-- Logging changes no slot. -/
@[simp] theorem slots_emit
    (world : World κ α ε)
    (event : LogEvent) :
    (world.emit event).slots = world.slots := by
  unfold emit
  split
  · rfl
  · split <;> rfl

@[simp] theorem frames_emit
    (world : World κ α ε)
    (event : LogEvent) :
    (world.emit event).frames = world.frames := by
  unfold emit
  split
  · rfl
  · split <;> rfl

@[simp] theorem scheduler?_emit
    (world : World κ α ε)
    (event : LogEvent)
    (number : Nat) :
    (world.emit event).scheduler? number =
      world.scheduler? number := by
  simp [scheduler?]

@[simp] theorem slots_emitResumption
    (world : World κ α ε)
    (config : SchedulerConfig)
    (event : LogEvent) :
    (world.emitResumption config event).slots = world.slots := by
  unfold emitResumption
  split <;> simp

@[simp] theorem frames_emitResumption
    (world : World κ α ε)
    (config : SchedulerConfig)
    (event : LogEvent) :
    (world.emitResumption config event).frames = world.frames := by
  unfold emitResumption
  split <;> simp

@[simp] theorem scheduler?_emitResumption
    (world : World κ α ε)
    (config : SchedulerConfig)
    (event : LogEvent)
    (number : Nat) :
    (world.emitResumption config event).scheduler? number =
      world.scheduler? number := by
  simp [scheduler?]

@[simp] theorem slots_emitDrained
    (world : World κ α ε)
    (drained : Nat) :
    (world.emitDrained drained).slots = world.slots := by
  unfold emitDrained
  split <;> simp

@[simp] theorem frames_emitDrained
    (world : World κ α ε)
    (drained : Nat) :
    (world.emitDrained drained).frames = world.frames := by
  unfold emitDrained
  split <;> simp

@[simp] theorem scheduler?_emitDrained
    (world : World κ α ε)
    (drained number : Nat) :
    (world.emitDrained drained).scheduler? number =
      world.scheduler? number := by
  simp [scheduler?]

@[simp] theorem scheduler?_enter
    (world : World κ α ε)
    (frame : Frame)
    (number : Nat) :
    (world.enter frame).scheduler? number =
      world.scheduler? number :=
  rfl

@[simp] theorem frames_enter
    (world : World κ α ε)
    (frame : Frame) :
    (world.enter frame).frames = frame :: world.frames :=
  rfl

@[simp] theorem slots_enter
    (world : World κ α ε)
    (frame : Frame) :
    (world.enter frame).slots = world.slots :=
  rfl

@[simp] theorem scheduler?_leave
    (world : World κ α ε)
    (number : Nat) :
    world.leave.scheduler? number = world.scheduler? number :=
  rfl

@[simp] theorem frames_leave (world : World κ α ε) :
    world.leave.frames = world.frames.tail :=
  rfl

@[simp] theorem slots_leave (world : World κ α ε) :
    world.leave.slots = world.slots :=
  rfl

@[simp] theorem scheduler?_setDraining
    (world : World κ α ε)
    (changed number : Nat)
    (draining : Bool) :
    (world.setDraining changed draining).scheduler? number =
      if changed = number then
        (world.scheduler? number).map fun scheduler =>
          { scheduler with draining := draining }
      else
        world.scheduler? number := by
  simp [setDraining]

@[simp] theorem frames_setDraining
    (world : World κ α ε)
    (changed : Nat)
    (draining : Bool) :
    (world.setDraining changed draining).frames = world.frames :=
  rfl

@[simp] theorem length_slots_setDraining
    (world : World κ α ε)
    (changed : Nat)
    (draining : Bool) :
    (world.setDraining changed draining).slots.length =
      world.slots.length := by
  simp [setDraining]

/-- Settling a resumption changes its scheduler alone. -/
@[simp] theorem scheduler?_settle
    (world : World κ α ε)
    (changed number : Nat)
    (config : SchedulerConfig)
    (task : Task κ α ε)
    (outcome : Outcome α ε) :
    (world.settle changed config task outcome).scheduler? number =
      if changed = number then
        (world.scheduler? number).map fun scheduler =>
          scheduler.settle task outcome
      else
        world.scheduler? number := by
  cases outcome <;> simp [settle]

@[simp] theorem frames_settle
    (world : World κ α ε)
    (changed : Nat)
    (config : SchedulerConfig)
    (task : Task κ α ε)
    (outcome : Outcome α ε) :
    (world.settle changed config task outcome).frames =
      world.frames := by
  cases outcome <;> simp [settle]

@[simp] theorem length_slots_settle
    (world : World κ α ε)
    (changed : Nat)
    (config : SchedulerConfig)
    (task : Task κ α ε)
    (outcome : Outcome α ε) :
    (world.settle changed config task outcome).slots.length =
      world.slots.length := by
  cases outcome <;> simp [settle]

/-- A scheduler that is gone is not found, and the others are as they were. -/
@[simp] theorem scheduler?_drop
    (world : World κ α ε)
    (dropped number : Nat) :
    (world.drop dropped).scheduler? number =
      if dropped = number then none else world.scheduler? number := by
  simp only [scheduler?, drop, modifySlot, List.getElem?_modify]
  cases world.slots[number]? with
  | none => simp
  | some slot =>
      by_cases same : dropped = number <;>
        simp [same, Slot.scheduler?]

@[simp] theorem scheduler?_consume
    (world : World κ α ε)
    (consumed number : Nat) :
    (world.consume consumed).scheduler? number =
      if consumed = number then none else world.scheduler? number := by
  simp only [scheduler?, consume, modifySlot, List.getElem?_modify]
  cases world.slots[number]? with
  | none => simp
  | some slot =>
      by_cases same : consumed = number
      · cases slot <;> simp [same, Slot.scheduler?]
      · simp [same]

/-- Which schedulers are driven is a matter of the drives alone. -/
theorem isDriven_congr
    {world world' : World κ α ε}
    (frames : world'.frames = world.frames)
    (number : Nat) :
    world'.isDriven number = world.isDriven number := by
  unfold isDriven
  rw [frames]

/-- No drive under way is of a scheduler that is not driven. -/
theorem ne_of_isDriven_eq_false
    {world : World κ α ε}
    {number : Nat}
    (idle : world.isDriven number = false)
    {frame : Frame}
    (member : frame ∈ world.frames) :
    frame.scheduler ≠ number := by
  simp only [isDriven, List.any_eq_false, beq_iff_eq] at idle
  exact idle frame member

/-- A live scheduler has a slot. -/
theorem lt_length_slots
    {world : World κ α ε}
    {number : Nat}
    {scheduler : Scheduler κ α ε}
    (alive : world.scheduler? number = some scheduler) :
    number < world.slots.length := by
  obtain ⟨slot, found, _⟩ := Option.bind_eq_some_iff.mp alive
  exact (List.getElem?_eq_some_iff.mp found).1

/-- A task that is added through a spawner stands in its scheduler alone. -/
@[simp] theorem scheduler?_spawn
    (world : World κ α ε)
    (addressed number : Nat)
    (coroutine : Coroutine κ α ε) :
    (world.spawn addressed coroutine).1.scheduler? number =
      if addressed = number then
        (world.scheduler? number).map fun scheduler =>
          (scheduler.enqueue coroutine).1
      else
        world.scheduler? number := by
  unfold spawn
  cases found : world.scheduler? addressed with
  | none =>
      by_cases same : addressed = number
      · subst same
        simp [found]
      · simp [same]
  | some scheduler => simp

@[simp] theorem frames_spawn
    (world : World κ α ε)
    (addressed : Nat)
    (coroutine : Coroutine κ α ε) :
    (world.spawn addressed coroutine).1.frames = world.frames := by
  unfold spawn
  cases world.scheduler? addressed <;> simp

@[simp] theorem length_slots_spawn
    (world : World κ α ε)
    (addressed : Nat)
    (coroutine : Coroutine κ α ε) :
    (world.spawn addressed coroutine).1.slots.length =
      world.slots.length := by
  unfold spawn
  cases world.scheduler? addressed <;> simp

/-- A live scheduler takes a task of its owner, and nothing else changes. -/
theorem add?_eq_some
    {world world' : World κ α ε}
    {number : Nat}
    {coroutine : Coroutine κ α ε}
    {id : TaskId}
    (added : world.add? number coroutine = some (world', id)) :
    ∃ scheduler,
      world.scheduler? number = some scheduler ∧
        id = (scheduler.enqueue coroutine).2 ∧
        world' =
          (world.modifyScheduler number fun scheduler =>
            (scheduler.enqueue coroutine).1).emit (.taskAdded id) := by
  simp only [add?, Option.map_eq_some_iff] at added
  obtain ⟨scheduler, alive, same⟩ := added
  simp only [Prod.mk.injEq] at same
  obtain ⟨rfl, rfl⟩ := same
  exact ⟨scheduler, alive, rfl, rfl⟩

/-- A new scheduler gets the next number, and nothing else changes. -/
theorem openScheduler_eq_ok
    {world world' : World κ α ε}
    {config : SchedulerConfig}
    {number : Nat}
    (opened : world.openScheduler config = .ok (world', number)) :
    ∃ scheduler,
      Scheduler.new config = .ok scheduler ∧
        number = world.slots.length ∧
        world' =
          { world with
            slots := world.slots ++ [.live scheduler] } := by
  unfold openScheduler at opened
  split at opened
  · cases opened
  · next scheduler made =>
      cases opened
      exact ⟨scheduler, made, rfl, rfl⟩

/-- The schedulers of a world to which a slot has been added. -/
theorem scheduler?_append_slot
    (world : World κ α ε)
    (slot : Slot κ α ε)
    (number : Nat) :
    scheduler? { world with slots := world.slots ++ [slot] } number =
      if number = world.slots.length then slot.scheduler?
      else world.scheduler? number := by
  unfold scheduler?
  rcases Nat.lt_trichotomy number world.slots.length with
      before | same | after
  · simp [List.getElem?_append_left before, Nat.ne_of_lt before]
  · simp [same]
  · have beyond : number - world.slots.length ≠ 0 :=
      Nat.sub_ne_zero_of_lt after
    rw [List.getElem?_append_right (Nat.le_of_lt after),
      List.getElem?_eq_none (Nat.le_of_lt after),
      List.getElem?_eq_none (by simp; omega)]
    simp [Nat.ne_of_gt after]

/--
A request that is answered at once adds a task through a spawner or leaves all
schedulers and drives as they are.
-/
theorem answer_zero_cases
    {launch : κ → Coroutine κ α ε}
    {request : Request κ}
    {world world' : World κ α ε}
    {reply : request.Reply}
    (answered : answer launch 0 request world = some (world', reply)) :
    (∃ number job,
      request = .spawn number job ∧
        world' = (world.spawn number (launch job)).1) ∨
      ((∀ number job, request ≠ .spawn number job) ∧
        world'.slots = world.slots ∧
        world'.frames = world.frames) := by
  cases request with
  | spawn number job =>
      simp only [answer, Option.some.injEq] at answered
      exact .inl ⟨number, job, rfl, by rw [answered]⟩
  | inspect number =>
      cases answered
      exact .inr ⟨by simp, rfl, rfl⟩
  | step number => cases answered
  | drain number => cases answered
  | observe observation =>
      cases answered
      exact .inr ⟨by simp, rfl, rfl⟩
  | announce severity text =>
      cases answered
      exact .inr ⟨by simp, by simp, by simp⟩
  | readClock =>
      cases answered
      exact .inr ⟨by simp, rfl, rfl⟩

end RoundRobin.World
