import RoundRobin.Proofs.Likeness.Run

namespace RoundRobin

/-!
# Worlds whose schedulers have other settings

Worlds that differ in the settings of their schedulers are like each other, if
the events that depend on the settings are left out of account. The log of the
second has none of these events to begin with, if none of its schedulers logs
its resumptions; so it is the first log without them.
-/

/-- Whether an event is logged whatever the settings of its scheduler are. -/
def LogEvent.unconditional : LogEvent → Bool
  | taskRunning _ _ => false
  | taskSuspended _ => false
  | _ => true

/-- The settings of the schedulers are paired, and all else is the same. -/
def Likeness.reconfigured
    (pairs : SchedulerConfig → SchedulerConfig → Prop) :
    Likeness κ α ε where
  added := Eq
  coroutines := Eq
  configs := pairs
  shown := LogEvent.unconditional
  coroutines_of_added same := same
  resumed := by
    rintro coroutine _ rfl
    exact .refl (fun _ => ⟨rfl, fun _ => rfl⟩) _
  running _ := .inr fun _ _ => rfl
  suspended _ := .inr fun _ => rfl

/-- The log has no event that depends on settings. -/
def World.Quiet (world : World κ α ε) : Prop :=
  ∀ entry ∈ world.log, entry.event.unconditional = true

namespace World.Quiet

variable {world : World κ α ε}

theorem emit
    (quiet : world.Quiet)
    {event : LogEvent}
    (unconditional : event.unconditional = true) :
    (world.emit event).Quiet := by
  unfold World.emit
  split
  · exact quiet
  · split
    · intro entry member
      rcases Array.mem_push.mp member with earlier | rfl
      · exact quiet entry earlier
      · exact unconditional
    · exact quiet

theorem emitResumption
    (quiet : world.Quiet)
    {config : SchedulerConfig}
    (silent : config.logResumptions = false)
    (event : LogEvent) :
    (world.emitResumption config event).Quiet := by
  simpa [World.emitResumption, silent] using quiet

theorem modifyScheduler
    (quiet : world.Quiet)
    (number : Nat)
    (change : Scheduler κ α ε → Scheduler κ α ε) :
    (world.modifyScheduler number change).Quiet :=
  quiet

/-- The beginning of a resumption is not logged. -/
theorem started
    (quiet : world.Quiet)
    (number : Nat)
    {scheduler : Scheduler κ α ε}
    (silent : scheduler.config.logResumptions = false)
    (task : Task κ α ε) :
    (world.started number scheduler task).Quiet :=
  (quiet.modifyScheduler number _).emitResumption silent _

/-- The end of a resumption is logged unless it is a suspension. -/
theorem conclude
    (quiet : world.Quiet)
    (number : Nat)
    {config : SchedulerConfig}
    (silent : config.logResumptions = false)
    (task : Task κ α ε)
    (coroutine : Coroutine κ α ε)
    (result : Guarded (Outcome α ε)) :
    (world.conclude number config task coroutine result).Quiet := by
  rcases result with panic | _ | value | error
  · exact quiet.emit rfl
  · exact (quiet.modifyScheduler number _).emitResumption silent _
  · exact (quiet.modifyScheduler number _).emit rfl
  · exact (quiet.modifyScheduler number _).emit rfl

theorem spawn
    (quiet : world.Quiet)
    (number : Nat)
    (coroutine : Coroutine κ α ε) :
    (world.spawn number coroutine).1.Quiet := by
  unfold World.spawn
  split
  · exact quiet.emit rfl
  · exact (quiet.modifyScheduler number _).emit rfl

theorem emitDrained
    (quiet : world.Quiet)
    (number : Nat) :
    (world.emitDrained number).Quiet := by
  unfold World.emitDrained
  split
  · exact quiet
  · exact quiet.emit rfl

/-- What is asked for and answered at once is no resumption. -/
theorem answer
    (quiet : world.Quiet)
    {launch : κ → Coroutine κ α ε}
    {request : Request κ}
    {world' : World κ α ε}
    {reply : request.Reply}
    (answered :
      World.answer launch 0 request world = some (world', reply)) :
    world'.Quiet := by
  cases request with
  | spawn number job =>
      have same : (world.spawn number (launch job)).1 = world' :=
        congrArg Prod.fst (Option.some.inj answered)
      exact same ▸ quiet.spawn number (launch job)
  | announce severity text =>
      cases answered
      exact quiet.emit rfl
  | step number => cases answered
  | drain number => cases answered
  | _ =>
      cases answered
      exact quiet

end World.Quiet

/--
Worlds that differ in settings only. If none of the second settings asks for
it, no resumption is logged in the second world.
-/
structure Reconfigured
    (pairs : SchedulerConfig → SchedulerConfig → Prop)
    (world world' : World κ α ε) :
    Prop where
  worlds : (Likeness.reconfigured pairs).Worlds world world'
  quiet :
    (∀ config config',
      pairs config config' →
      config'.logResumptions = false) →
    world'.Quiet

/-- Tasks that are like each other but for settings are the same. -/
theorem Likeness.eq_of_reconfigured
    {pairs : SchedulerConfig → SchedulerConfig → Prop}
    {task task' : Task κ α ε}
    (tasks : (Likeness.reconfigured pairs).Tasks task task') :
    task' = task := by
  cases tasks with
  | mk same =>
      cases same
      rfl

namespace Reconfigured

variable
  {pairs : SchedulerConfig → SchedulerConfig → Prop}
  {world world' : World κ α ε}

/-- Worlds of which both logs stay as they are. -/
theorem unlogged
    (reconfigured : Reconfigured pairs world world')
    {changed changed' : World κ α ε}
    (worlds : (Likeness.reconfigured pairs).Worlds changed changed')
    (unlogged : changed'.log = world'.log) :
    Reconfigured pairs changed changed' := by
  refine ⟨worlds, fun silent => ?_⟩
  unfold World.Quiet
  rw [unlogged]
  exact reconfigured.quiet silent

theorem emit
    (reconfigured : Reconfigured pairs world world')
    {event : LogEvent}
    (unconditional : event.unconditional = true) :
    Reconfigured pairs (world.emit event) (world'.emit event) :=
  ⟨reconfigured.worlds.emit event,
    fun silent => (reconfigured.quiet silent).emit unconditional⟩

theorem enter
    (reconfigured : Reconfigured pairs world world')
    (frame : Frame) :
    Reconfigured pairs (world.enter frame) (world'.enter frame) :=
  reconfigured.unlogged (reconfigured.worlds.enter frame) rfl

theorem leave (reconfigured : Reconfigured pairs world world') :
    Reconfigured pairs world.leave world'.leave :=
  reconfigured.unlogged reconfigured.worlds.leave rfl

theorem setDraining
    (reconfigured : Reconfigured pairs world world')
    (number : Nat)
    (draining : Bool) :
    Reconfigured pairs (world.setDraining number draining)
      (world'.setDraining number draining) :=
  reconfigured.unlogged
    (reconfigured.worlds.setDraining number draining) rfl

theorem emitDrained
    (reconfigured : Reconfigured pairs world world')
    (number : Nat) :
    Reconfigured pairs (world.emitDrained number)
      (world'.emitDrained number) :=
  ⟨reconfigured.worlds.emitDrained number,
    fun silent => (reconfigured.quiet silent).emitDrained number⟩

/-- The same coroutine is spawned in both, or refused in both. -/
theorem spawn
    (reconfigured : Reconfigured pairs world world')
    (number : Nat)
    (coroutine : Coroutine κ α ε) :
    Reconfigured pairs (world.spawn number coroutine).1
        (world'.spawn number coroutine).1 ∧
      (world'.spawn number coroutine).2 =
        (world.spawn number coroutine).2 := by
  obtain ⟨worlds, same⟩ :=
    reconfigured.worlds.spawn number fun _ _ => rfl
  exact
    ⟨⟨worlds,
        fun silent => (reconfigured.quiet silent).spawn number coroutine⟩,
      same⟩

/-- The resumption of the same task begins in both. -/
theorem started
    (reconfigured : Reconfigured pairs world world')
    (number : Nat)
    {scheduler scheduler' : Scheduler κ α ε}
    (schedulers :
      (Likeness.reconfigured pairs).Schedulers scheduler scheduler')
    (task : Task κ α ε) :
    Reconfigured pairs (world.started number scheduler task)
      (world'.started number scheduler' task) :=
  ⟨reconfigured.worlds.started number schedulers (.mk rfl),
    fun silent =>
      (reconfigured.quiet silent).started number
        (silent _ _ schedulers.configs) task⟩

/-- The resumption of the same task ends in both. -/
theorem conclude
    (reconfigured : Reconfigured pairs world world')
    (number : Nat)
    {config config' : SchedulerConfig}
    (configs : pairs config config')
    (task : Task κ α ε)
    (coroutine : Coroutine κ α ε)
    (result : Guarded (Outcome α ε)) :
    Reconfigured pairs
      (world.conclude number config task coroutine result)
      (world'.conclude number config' task coroutine result) :=
  ⟨reconfigured.worlds.conclude number configs (.mk rfl) fun _ => rfl,
    fun silent =>
      (reconfigured.quiet silent).conclude number
        (silent _ _ configs) task coroutine result⟩

end Reconfigured

end RoundRobin
