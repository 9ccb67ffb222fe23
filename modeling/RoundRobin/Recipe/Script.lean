import RoundRobin.Coroutine.Basic
import RoundRobin.TaskError
import RoundRobin.Value

namespace RoundRobin

/-!
# Scripted coroutines

A script is a list of steps, one for each resumption. A step first performs
its actions in order, each of which has what it saw noted as an observation,
and then ends as its finish says. A script may start over at its end;
otherwise it fails once it is exhausted.
-/

namespace Script

/-- What a step can do before it ends. -/
inductive Action (κ : Type) where
  | spawn (scheduler : Nat) (job : κ)
  | look (scheduler : Nat)
  | step (scheduler : Nat)
  | run (scheduler : Nat)
  | note (text : String)

/-- How a step ends. -/
inductive Finish (ν : Type) where
  | suspend
  | complete (value : ν)
  /-- Complete with the identities of the tasks spawned so far. -/
  | completeChildren
  /-- Complete with the number of resumptions so far. -/
  | completeCalls
  | fail (error : TaskError)
  | panic (message : String)

/-- One step of a script. -/
structure Step (κ ν : Type) where
  actions : List (Action κ)
  finish : Finish ν

/-- Rename the jobs that an action spawns. -/
def Action.map
    (rename : κ → κ') :
    Action κ →
    Action κ'
  | spawn scheduler job => spawn scheduler (rename job)
  | look scheduler => look scheduler
  | step scheduler => step scheduler
  | run scheduler => run scheduler
  | note text => note text

/-- Transform the value that a step completes with. -/
def Finish.map
    (transform : ν → ν') :
    Finish ν →
    Finish ν'
  | suspend => suspend
  | complete value => complete (transform value)
  | completeChildren => completeChildren
  | completeCalls => completeCalls
  | fail error => fail error
  | panic message => panic message

/-- Rename the jobs that a step spawns and transform the value it completes with. -/
def Step.map
    (rename : κ → κ')
    (transform : ν → ν')
    (step : Step κ ν) :
    Step κ' ν' where
  actions := step.actions.map (Action.map rename)
  finish := step.finish.map transform

/-- Where a script stands. -/
structure Progress where
  /-- How often the script has been resumed. -/
  resumptions : Nat := 0
  /-- The numbers of the tasks it has spawned. -/
  children : List Nat := []
  deriving DecidableEq, Repr

/-- Have an observation noted and go on. -/
def observing
    (observation : Observation)
    (next : Activity κ ρ) :
    Activity κ ρ :=
  .ask (.observe observation) fun _ => next

/-- Perform actions in order; the result lists the numbers of the tasks spawned. -/
def perform : List (Action κ) → Activity κ (List Nat)
  | [] => .done []
  | .spawn scheduler job :: rest =>
      .ask (.spawn scheduler job) fun
        | .ok id =>
            observing (.spawned id)
              ((perform rest).map fun children => id.index :: children)
        | .error reason => observing (.spawnRefused reason) (perform rest)
  | .look scheduler :: rest =>
      .ask (.inspect scheduler) fun seen =>
        observing (.attachment seen) (perform rest)
  | .step scheduler :: rest =>
      .ask (.step scheduler) fun drive =>
        observing (.stepped drive) (perform rest)
  | .run scheduler :: rest =>
      .ask (.drain scheduler) fun drive =>
        observing (.drained drive) (perform rest)
  | .note text :: rest => observing (.note text) (perform rest)

/-- The end of a step, given where the script stands after it. -/
def Finish.result
    (progress : Progress) :
    Finish Value →
    Guarded (Outcome Value TaskError)
  | suspend => .ok .suspended
  | complete value => .ok (.completed value)
  | completeChildren => .ok (.completed (.list progress.children))
  | completeCalls => .ok (.completed (.number progress.resumptions))
  | fail error => .ok (.failed error)
  | panic message => .error { message := message }

/-- The failure of a script that is resumed past its last step. -/
def exhausted : TaskError :=
  .raised "script exhausted"

/-- The step for a resumption, numbered from zero. -/
def stepAt?
    (steps : Array (Step κ ν))
    (loops : Bool)
    (resumption : Nat) :
    Option (Step κ ν) :=
  if loops then steps[resumption % steps.size]? else steps[resumption]?

end Script

/-- The coroutine that follows a script. -/
def Coroutine.script
    (steps : Array (Script.Step κ Value))
    (loops : Bool) :
    Coroutine κ Value TaskError where
  State := Script.Progress
  state := {}
  advance := fun progress =>
    let resumed := { progress with resumptions := progress.resumptions + 1 }
    match Script.stepAt? steps loops progress.resumptions with
    | none => .done (resumed, .ok (.failed Script.exhausted))
    | some step =>
        (Script.perform step.actions).map fun children =>
          let reached :=
            { resumed with children := resumed.children ++ children }
          (reached, step.finish.result reached)

end RoundRobin
