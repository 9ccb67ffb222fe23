import RoundRobin.Coroutine.Combinators
import RoundRobin.Coroutine.Search
import RoundRobin.Coroutine.Sleep
import RoundRobin.Datum
import RoundRobin.Recipe.Functions
import RoundRobin.Recipe.Script

namespace RoundRobin

/-!
# Recipes for coroutines

A recipe describes a coroutine as data, so that it can be written down and
handed to a scheduler by a running coroutine. `Recipe.build` makes the
coroutine. Inside the continuation of `andThen` a recipe may refer to the value
that the first stage completed with; a `Job` is a recipe together with that
value.
-/

/-- A value in a recipe: given, or carried over from the first stage of a chain. -/
inductive Operand where
  | literal (value : Value)
  | carried
  deriving DecidableEq, Repr

/-- The value of an operand, given the one carried over. -/
def Operand.eval
    (carriedOver : Value) :
    Operand →
    Value
  | literal value => value
  | carried => carriedOver

/-- The length of a list; a number counts as itself. -/
def Value.magnitude : Value → Nat
  | .number n => n
  | .list items => items.length

/-- A number of suspensions in a recipe: given, or drawn from the value carried over. -/
inductive Count where
  | exactly (n : Nat)
  | carried
  deriving DecidableEq, Repr

/-- The number that a count stands for; of a carried number the last three digits. -/
def Count.eval
    (carriedOver : Value) :
    Count →
    Nat
  | exactly n => n
  | carried =>
      match carriedOver with
      | .number n => n % 1000
      | .list items => items.length

/-- One step of a generator in a recipe. -/
inductive GeneratorMove where
  /-- Yield a payload, or the empty one. -/
  | yield (payload : Option Datum)
  | giveBack (value : Operand)
  | raise (error : TaskError)
  | panic (message : String)

/-- One step of a generator, given the value carried over. -/
def GeneratorMove.step
    (carriedOver : Value) :
    GeneratorMove →
    Guarded (GeneratorStep (Option Datum) Value TaskError)
  | yield payload => .ok (.yielded payload)
  | giveBack value => .ok (.returned (value.eval carriedOver))
  | raise error => .ok (.raised error)
  | panic message => .error { message := message }

/-- The generator that makes the given moves and then yields nothing for ever. -/
def GeneratorMove.generator
    (moves : List GeneratorMove)
    (carriedOver : Value) :
    Generator (Option Datum) Value TaskError where
  State := List GeneratorMove
  state := moves
  call := fun left _ =>
    match left with
    | [] => ([], .ok (.yielded none))
    | move :: rest => (rest, move.step carriedOver)

/-- A source of numbers in a recipe. -/
inductive Items where
  | list (items : List Nat)
  | range (first last : Nat)
  /-- Lucas numbers after some that are skipped, at most so many. -/
  | lucas (skipped : Nat) (count : Option Nat)
  /-- One pull after the other. -/
  | pulls (answers : List (Option Nat))
  deriving DecidableEq, Repr

/-- The described source. -/
def Items.source : Items → Source Nat
  | list items => .ofList items
  | range first last => .range first last
  | lucas skipped none => .lucas (Lucas.start.skip skipped)
  | lucas skipped (some count) =>
      (Source.lucas (Lucas.start.skip skipped)).take count
  | pulls answers => .ofPulls answers

/-- A description of a coroutine. -/
inductive Recipe where
  | suspendThen (times : Count) (value : Operand)
  | script (steps : List (Script.Step Recipe Operand)) (loops : Bool)
  | generator (moves : List GeneratorMove)
  | search (items : Items) (test : NumberTest)
  | collect (items : Items) (judges : JudgeRecipe)
  | isPrime (candidate : Operand)
  | sleep (duration : Duration)
  | repeatMessage (message : String) (interval : Duration) (times : Nat)
  | map (inner : Recipe) (transform : ValueTransform) (layers : Nat)
  | mapError (inner : Recipe) (transform : ErrorTransform) (layers : Nat)
  | andThen (inner next : Recipe) (layers : Nat)
  /-- A chain whose second stage can never be built. -/
  | thenPanic (inner : Recipe) (message : String) (layers : Nat)

/-- A recipe and the value carried over to it. -/
structure Job where
  recipe : Recipe
  carriedOver : Value

namespace Recipe

/-- The coroutine that a recipe describes, given the value carried over. -/
def build :
    Recipe →
    (carriedOver : Value) →
    Coroutine Job Value TaskError
  | suspendThen times value, carriedOver =>
      .suspendThen (times.eval carriedOver) (value.eval carriedOver)
  | script steps loops, carriedOver =>
      .script
        (steps.map
          (Script.Step.map
            (fun recipe => { recipe := recipe, carriedOver := carriedOver })
            (Operand.eval carriedOver))).toArray
        loops
  | generator moves, carriedOver =>
      .routine (GeneratorMove.generator moves carriedOver)
  | search items test, _ =>
      (Coroutine.search items.source test.procedure).map
        (.ofFunction .number)
  | collect items judges, _ =>
      (Coroutine.collect items.source judges.maker).map
        (.ofFunction .list)
  | isPrime candidate, carriedOver =>
      (Coroutine.isPrime (candidate.eval carriedOver).magnitude).map
        (.ofFunction fun prime => .number (if prime then 1 else 0))
  | sleep duration, _ =>
      (Coroutine.sleep duration).map (.ofFunction fun _ => .list [])
  | repeatMessage message interval times, _ =>
      (Coroutine.repeatMessage message interval times).map
        (.ofFunction .number)
  | map inner transform layers, carriedOver =>
      (inner.build carriedOver).layered
        (fun coroutine => coroutine.map transform.procedure) layers
  | mapError inner transform layers, carriedOver =>
      (inner.build carriedOver).layered
        (fun coroutine => coroutine.mapError transform.procedure) layers
  | andThen inner next layers, carriedOver =>
      (inner.build carriedOver).layered
        (fun coroutine =>
          coroutine.andThen
            { refusal := fun _ => none
              build := fun value => next.build value })
        layers
  | thenPanic inner message layers, carriedOver =>
      (inner.build carriedOver).layered
        (fun coroutine =>
          coroutine.andThen
            { refusal := fun _ => some { message := message }
              build := fun value => .suspendThen 0 value })
        layers

end Recipe

/-- The coroutine of a job. -/
def Job.launch (job : Job) : Coroutine Job Value TaskError :=
  job.recipe.build job.carriedOver

end RoundRobin
