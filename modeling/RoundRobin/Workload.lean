import RoundRobin.Recipe.Basic
import RoundRobin.Report.Basic
import RoundRobin.World.Drive

namespace RoundRobin

/-!
# Workloads

A workload is a list of labelled tasks for a scheduler of its own. Running it
adds the tasks, drains the scheduler and reports. Three workloads are ready
made: searches for long Lucas numbers, the primes among the first Lucas
numbers, and a demonstration of everything that can become of a task.
-/

/-- Worlds whose tasks follow recipes. -/
abbrev RecipeWorld :=
  World Job Value TaskError

/-- A clock that moves on by a microsecond from one reading to the next. -/
def World.steadyClock (reading : Nat) : Nat :=
  1000000000 + reading * 1000

/-- A world without schedulers that captures log events as the threshold says. -/
def World.empty (threshold : Option Level) : World κ α ε :=
  { threshold := threshold, clock := World.steadyClock }

/-- Labelled tasks for a scheduler of their own. -/
structure Workload where
  /-- The tasks, given the number of the scheduler. -/
  tasks : (scheduler : Nat) → List (String × Coroutine Job Value TaskError)
  /-- What is logged before the tasks run. -/
  announcement : LogEvent

/-- Why a workload gave no report. -/
inductive WorkloadError where
  /-- A search for a number of so many digits cannot succeed. -/
  | tooManyDigits (digits : Nat)
  | panicked (panic : Panic)
  /-- The patience did not suffice. -/
  | unfinished
  deriving DecidableEq, Repr

/-- The wording of why a workload gave no report. -/
def WorkloadError.message : WorkloadError → String
  | tooManyDigits digits =>
      "cannot search for " ++ digits.repr ++
        " digits: the longest representable Lucas number has " ++
        Lucas.maxDigits.repr
  | panicked panic => panic.message
  | unfinished => "unfinished"

namespace Workload

/-- Add labelled tasks to a scheduler; the labels come back with the tasks' names. -/
def addTasks
    (scheduler : Nat) :
    List (String × Coroutine Job Value TaskError) →
    RecipeWorld →
    RecipeWorld × List (TaskId × String)
  | [], emptied => (emptied, [])
  | (label, coroutine) :: rest, world =>
      match world.add? scheduler coroutine with
      | none => (world, [])
      | some (world, id) =>
          let (added, labels) := addTasks scheduler rest world
          (added, (id, label) :: labels)

/-- Run a workload on a new scheduler of a world. -/
def run
    (workload : Workload)
    (patience : Nat)
    (config : SchedulerConfig)
    (world : RecipeWorld) :
    Except WorkloadError (RecipeWorld × Report) :=
  match world.openScheduler config with
  | .error panic => .error (.panicked panic)
  | .ok (world, number) =>
      let (world, labels) := addTasks number (workload.tasks number) world
      match
        World.answer Job.launch patience (.drain number)
          (world.emit workload.announcement) with
      | none => .error .unfinished
      | some (_, .panicked panic) => .error (.panicked panic)
      | some (world, _) =>
          match world.scheduler? number with
          | none => .error .unfinished
          | some scheduler => .ok (world, .collect scheduler labels)

/-- The search for the first Lucas number of a number of digits. -/
def lucasSearch (digits : Nat) : Recipe :=
  .search (.lucas 0 none) (.digitsAtLeast digits)

/-- The collection of the primes among the first Lucas numbers. -/
def lucasPrimes (count : Nat) : Recipe :=
  .collect (.lucas 0 (some count)) { kind := .prime, test := .always }

/-- The coroutine of a recipe that has nothing carried over to it. -/
def coroutineOf (recipe : Recipe) : Coroutine Job Value TaskError :=
  recipe.build (.list [])

/-- The label of a search. -/
def searchLabel (digits : Nat) : String :=
  "search(digits >= " ++ digits.repr ++ ")"

/-- The label of a collection of primes. -/
def primesLabel (count : Nat) : String :=
  "primes(first " ++ count.repr ++ ")"

/-- One search task for each number of digits. -/
def search (thresholds : List Nat) : Workload where
  tasks := fun _ =>
    thresholds.map fun digits =>
      (searchLabel digits, coroutineOf (lucasSearch digits))
  announcement := .searchStarted thresholds.length

/-- A task that collects the primes among the first `count` Lucas numbers. -/
def primes (count : Nat) : Workload where
  tasks := fun _ => [(primesLabel count, coroutineOf (lucasPrimes count))]
  announcement := .primesStarted count

/-- A generator that breaks the rules by yielding how often it was stepped. -/
def countingGenerator : Generator (Option Datum) Value TaskError where
  State := Nat
  state := 0
  call := fun steps _ =>
    (steps + 1, .ok (.yielded (some (.integer (steps + 1)))))

/-- The coroutine that spawns a job and, resumed again, completes with its number. -/
def launcher
    (scheduler : Nat)
    (job : Job) :
    Coroutine Job Value TaskError where
  State := Option Nat
  state := none
  advance := fun child? =>
    match child? with
    | some child => .done (some child, .ok (.completed (.number child)))
    | none =>
        .ask (.spawn scheduler job) fun
          | .ok id => .done (some id.index, .ok .suspended)
          | .error reason => .done (none, .ok (.failed (.raised reason.message)))

/-- Tasks that complete, fail, break the rules, sleep and spawn. -/
def demonstration : Workload where
  tasks := fun scheduler =>
    [(searchLabel 7, coroutineOf (lucasSearch 7)),
      (searchLabel 9, coroutineOf (lucasSearch 9)),
      (primesLabel 12, coroutineOf (lucasPrimes 12)),
      ("repeat_message",
        coroutineOf
          (.repeatMessage "Unattended baggage will be destroyed"
            (.ofMilliseconds 5) 2)),
      ("search(first 10, >= 7)",
        coroutineOf (.search (.lucas 0 (some 10)) (.digitsAtLeast 7))),
      ("malformed", .routine countingGenerator),
      ("launcher",
        launcher scheduler
          { recipe := lucasSearch 11, carriedOver := .list [] })]
  announcement := .demoStarted 7

end Workload

/-- Search for Lucas numbers of given lengths; lengths that none has are rejected first. -/
def runSearch
    (patience : Nat)
    (config : SchedulerConfig)
    (thresholds : List Nat)
    (world : RecipeWorld) :
    Except WorkloadError (RecipeWorld × Report) :=
  match thresholds.find? fun digits => Lucas.maxDigits < digits with
  | some digits => .error (.tooManyDigits digits)
  | none => (Workload.search thresholds).run patience config world

/-- Collect the primes among the first `count` Lucas numbers. -/
def runPrimes
    (patience : Nat)
    (config : SchedulerConfig)
    (count : Nat)
    (world : RecipeWorld) :
    Except WorkloadError (RecipeWorld × Report) :=
  (Workload.primes count).run patience config world

/-- Run the demonstration. -/
def runDemo
    (patience : Nat)
    (config : SchedulerConfig)
    (world : RecipeWorld) :
    Except WorkloadError (RecipeWorld × Report) :=
  Workload.demonstration.run patience config world

end RoundRobin
