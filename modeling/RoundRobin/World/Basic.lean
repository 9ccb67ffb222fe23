import RoundRobin.Log.Entry
import RoundRobin.Scheduler.Basic

namespace RoundRobin

/-!
# Worlds of schedulers

A world holds any number of schedulers, named by number in the order they were
made. A scheduler can be dropped, or consumed for its ledgers; its number is
not used again. The world also keeps the drives that are under way, the
captured log, the observations that coroutines wanted to have noted, and a
clock.
-/

/-- What has become of a scheduler. -/
inductive Slot (κ α ε : Type) where
  | live (scheduler : Scheduler κ α ε)
  /-- It was consumed; its ledgers are kept. -/
  | consumed (completed : Ledger α) (failed : Ledger ε)
  | gone

/-- The live scheduler in a slot. -/
def Slot.scheduler? : Slot κ α ε → Option (Scheduler κ α ε)
  | live scheduler => some scheduler
  | consumed _ _ => none
  | gone => none

/-- A drive under way. -/
structure Frame where
  scheduler : Nat
  /-- For a drain, the number of tasks ready when it began; `none` for a single turn. -/
  span : Option Nat
  deriving DecidableEq, Repr

/-- Schedulers with what surrounds them. -/
structure World (κ α ε : Type) where
  slots : List (Slot κ α ε) := []
  /-- The drives under way, the innermost first. -/
  frames : List Frame := []
  /-- The threshold of the log; `none` captures nothing. -/
  threshold : Option Level := none
  log : Array Entry := #[]
  observations : Array Observation := #[]
  /-- What the clock shows at each reading, in nanoseconds. -/
  clock : Nat → Nat
  readings : Nat := 0

namespace World

/-- The live scheduler of a number. -/
def scheduler?
    (world : World κ α ε)
    (number : Nat) :
    Option (Scheduler κ α ε) :=
  world.slots[number]?.bind Slot.scheduler?

/-- Change a slot of the world. -/
def modifySlot
    (world : World κ α ε)
    (number : Nat)
    (change : Slot κ α ε → Slot κ α ε) :
    World κ α ε :=
  { world with slots := world.slots.modify number change }

/-- Change a live scheduler. -/
def modifyScheduler
    (world : World κ α ε)
    (number : Nat)
    (change : Scheduler κ α ε → Scheduler κ α ε) :
    World κ α ε :=
  world.modifySlot number fun slot =>
    match slot with
    | .live scheduler => .live (change scheduler)
    | .consumed completed failed => .consumed completed failed
    | .gone => .gone

/-- The drains under way, the outermost first. -/
def spans (world : World κ α ε) : List Nat :=
  (world.frames.filterMap Frame.span).reverse

/-- Log an event, if the threshold admits it; drains show at the lowest threshold only. -/
def emit
    (world : World κ α ε)
    (event : LogEvent) :
    World κ α ε :=
  match world.threshold with
  | none => world
  | some threshold =>
      if threshold.admits event.severity then
        let spans := if threshold.admits .debug then world.spans else []
        { world with log := world.log.push { spans := spans, event := event } }
      else
        world

/-- Log an event about a scheduler's resumptions, if its settings ask for it. -/
def emitResumption
    (world : World κ α ε)
    (config : SchedulerConfig)
    (event : LogEvent) :
    World κ α ε :=
  if config.logResumptions then world.emit event else world

/-- Whether a scheduler is being driven. -/
def isDriven
    (world : World κ α ε)
    (number : Nat) :
    Bool :=
  world.frames.any fun frame => frame.scheduler == number

/-- What a spawner of a scheduler tells about it. -/
def attachment
    (world : World κ α ε)
    (number : Nat) :
    Attachment :=
  match world.scheduler? number with
  | none => { attached := false, draining := false }
  | some scheduler => { attached := true, draining := scheduler.draining }

/-- Make a new scheduler; its number is returned. -/
def openScheduler
    (world : World κ α ε)
    (config : SchedulerConfig) :
    Guarded (World κ α ε × Nat) :=
  match Scheduler.new config with
  | .error panic => .error panic
  | .ok scheduler =>
      .ok
        ({ world with slots := world.slots ++ [.live scheduler] },
          world.slots.length)

/-- Add a task as the owner of a live scheduler. -/
def add?
    (world : World κ α ε)
    (number : Nat)
    (coroutine : Coroutine κ α ε) :
    Option (World κ α ε × TaskId) :=
  (world.scheduler? number).map fun scheduler =>
    let id := (scheduler.enqueue coroutine).2
    ((world.modifyScheduler number fun scheduler =>
        (scheduler.enqueue coroutine).1).emit (.taskAdded id),
      id)

/-- Add a task through a spawner. -/
def spawn
    (world : World κ α ε)
    (number : Nat)
    (coroutine : Coroutine κ α ε) :
    World κ α ε × Except SpawnError TaskId :=
  match world.scheduler? number with
  | none => (world.emit .spawnRefused, .error .detached)
  | some scheduler =>
      let id := (scheduler.enqueue coroutine).2
      ((world.modifyScheduler number fun scheduler =>
          (scheduler.enqueue coroutine).1).emit (.taskSpawned id),
        .ok id)

/-- Drop a scheduler with all it holds. -/
def drop
    (world : World κ α ε)
    (number : Nat) :
    World κ α ε :=
  world.modifySlot number fun _ => .gone

/-- Consume a scheduler, keeping only its ledgers. -/
def consume
    (world : World κ α ε)
    (number : Nat) :
    World κ α ε :=
  world.modifySlot number fun slot =>
    match slot with
    | .live scheduler => .consumed scheduler.completed scheduler.failed
    | .consumed completed failed => .consumed completed failed
    | .gone => .gone

/-- The ledgers kept from a scheduler that was consumed. -/
def kept?
    (world : World κ α ε)
    (number : Nat) :
    Option (Ledger α × Ledger ε) :=
  match world.slots[number]? with
  | some (.consumed completed failed) => some (completed, failed)
  | _ => none

/-- Change the ledgers kept from a scheduler. -/
def setKept
    (world : World κ α ε)
    (number : Nat)
    (completed : Ledger α)
    (failed : Ledger ε) :
    World κ α ε :=
  world.modifySlot number fun _ => .consumed completed failed

/-- Read the clock. -/
def readClock (world : World κ α ε) : World κ α ε × Nat :=
  ({ world with readings := world.readings + 1 }, world.clock world.readings)

/-- Note an observation. -/
def observe
    (world : World κ α ε)
    (observation : Observation) :
    World κ α ε :=
  { world with observations := world.observations.push observation }

end World

end RoundRobin
