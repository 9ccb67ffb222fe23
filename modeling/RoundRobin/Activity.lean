import RoundRobin.Log.Level
import RoundRobin.Outcome
import RoundRobin.Task.Id

namespace RoundRobin

/-!
# Activities

Between being resumed and giving up control a coroutine can talk to its
surroundings: add tasks to schedulers, look at schedulers, drive other
schedulers, read the clock, write to the log. Each thing it can ask for is a
`Request` with its own type of reply. An `Activity` is one such exchange: a
finite alternation of requests and replies that ends in a result.

Schedulers are named by number. A task is added by naming a *job*, of a type
`κ` that the surroundings know how to turn into a coroutine; so coroutines may
spawn coroutines without end.
-/

/-- Why a spawner could not add a task. -/
inductive SpawnError where
  /-- The scheduler behind the spawner is gone. -/
  | detached
  deriving DecidableEq, Repr

/-- The wording of a refusal to spawn. -/
def SpawnError.message : SpawnError → String
  | detached => "scheduler is gone; spawner is detached"

/-- What a spawner can tell about its scheduler. -/
structure Attachment where
  attached : Bool
  draining : Bool
  deriving DecidableEq, Repr

/-- How a recorded resumption ended. -/
inductive TurnKind where
  | suspended
  | completed
  | failed
  deriving DecidableEq, Repr

/-- The lowercase name of a kind. -/
def TurnKind.name : TurnKind → String
  | suspended => "suspended"
  | completed => "completed"
  | failed => "failed"

/-- The kind of an outcome. -/
def Outcome.kind : Outcome α ε → TurnKind
  | suspended => .suspended
  | completed _ => .completed
  | failed _ => .failed

/-- One task's turn: which task was resumed and how that ended. -/
structure Turn where
  id : TaskId
  kind : TurnKind
  deriving DecidableEq, Repr

/-- How an attempt to drive a scheduler went. -/
inductive Drive (ρ : Type) where
  | gone
  /-- The scheduler is being driven already, around this very attempt. -/
  | busy
  /-- A task panicked and the panic was caught here. -/
  | panicked (panic : Panic)
  | finished (result : ρ)
  deriving DecidableEq, Repr

/-- What a running coroutine has observed and wants to have noted. -/
inductive Observation where
  | spawned (id : TaskId)
  | spawnRefused (reason : SpawnError)
  | attachment (seen : Attachment)
  | stepped (drive : Drive (Option Turn))
  | drained (drive : Drive Unit)
  | note (text : String)
  deriving DecidableEq, Repr

/-- What a running coroutine can ask of its surroundings. -/
inductive Request (κ : Type) where
  /-- Add a task to a scheduler through its spawner. -/
  | spawn (scheduler : Nat) (job : κ)
  /-- Look at a scheduler through its spawner. -/
  | inspect (scheduler : Nat)
  /-- Let the next ready task of a scheduler take its turn. -/
  | step (scheduler : Nat)
  /-- Drain the ready queue of a scheduler. -/
  | drain (scheduler : Nat)
  | observe (observation : Observation)
  | announce (severity : Level) (text : String)
  /-- Read the clock, in nanoseconds. -/
  | readClock

/-- The type of the reply to a request. -/
abbrev Request.Reply : Request κ → Type
  | spawn _ _ => Except SpawnError TaskId
  | inspect _ => Attachment
  | step _ => Drive (Option Turn)
  | drain _ => Drive Unit
  | observe _ => Unit
  | announce _ _ => Unit
  | readClock => Nat

/-- A finite exchange of requests and replies that ends in a result. -/
inductive Activity (κ : Type) (ρ : Type u) : Type u where
  | done (result : ρ)
  | ask (request : Request κ) (next : request.Reply → Activity κ ρ)

namespace Activity

/-- Go on with a second activity once the first is done. -/
def bind
    {ρ : Type u}
    {τ : Type v} :
    Activity κ ρ →
    (ρ → Activity κ τ) →
    Activity κ τ
  | done result, next => next result
  | ask request reply, next => ask request fun answer => (reply answer).bind next

/-- Transform the result of an activity. -/
def map
    {ρ : Type u}
    {τ : Type v}
    (transform : ρ → τ)
    (activity : Activity κ ρ) :
    Activity κ τ :=
  activity.bind fun result => done (transform result)

/-- A single request, its reply being the result. -/
def request (asked : Request κ) : Activity κ asked.Reply :=
  ask asked done

/-- Going on from a finished activity is just going on. -/
@[simp] theorem bind_done
    {ρ : Type u}
    {τ : Type v}
    (result : ρ)
    (next : ρ → Activity κ τ) :
    (done result).bind next = next result :=
  rfl

/-- Ending where an activity ends changes nothing. -/
@[simp] theorem bind_pure
    {ρ : Type u}
    (activity : Activity κ ρ) :
    activity.bind done = activity := by
  induction activity with
  | done result => rfl
  | ask request reply inductionHypothesis =>
      simp only [bind, inductionHypothesis]

/-- It does not matter how a sequence of three activities is bracketed. -/
theorem bind_assoc
    {ρ : Type u}
    {τ : Type v}
    {υ : Type w}
    (activity : Activity κ ρ)
    (second : ρ → Activity κ τ)
    (third : τ → Activity κ υ) :
    (activity.bind second).bind third =
      activity.bind fun result => (second result).bind third := by
  induction activity with
  | done result => rfl
  | ask request reply inductionHypothesis =>
      simp only [bind, inductionHypothesis]

/--
Carry an activity through, letting `answer` deal with each request in a state
of type `ω`. There is no result where `answer` has none.
-/
def conduct
    {ω : Type v}
    {ρ : Type u}
    (answer : (request : Request κ) → ω → Option (ω × request.Reply)) :
    Activity κ ρ →
    ω →
    Option (ω × ρ)
  | done result, state => some (state, result)
  | ask request next, state =>
      match answer request state with
      | none => none
      | some (state', reply) => (next reply).conduct answer state'

/-- Carrying through a sequence is carrying through its parts one after the other. -/
theorem conduct_bind
    {ω : Type v}
    {ρ : Type u}
    {τ : Type w}
    (answer : (request : Request κ) → ω → Option (ω × request.Reply))
    (activity : Activity κ ρ)
    (next : ρ → Activity κ τ)
    (state : ω) :
    (activity.bind next).conduct answer state =
      match activity.conduct answer state with
      | none => none
      | some (state', result) => (next result).conduct answer state' := by
  induction activity generalizing state with
  | done result => rfl
  | ask request reply inductionHypothesis =>
      simp only [bind, conduct]
      cases answer request state with
      | none => rfl
      | some pair => exact inductionHypothesis pair.2 pair.1

end Activity

end RoundRobin
