import RoundRobin.Coroutine.Routine
import RoundRobin.Proofs.Alike

namespace RoundRobin

/-!
# Watching over every coroutine of a tree

A tree tells how a coroutine is built from base coroutines by the combinators.
To see whether a coroutine anywhere in it is ever resumed after it has ended or
panicked, each of them is watched: on its first result that is no suspension a
flag goes up, and if it were resumed once more an *alarm* would sound instead.
The alarm is any activity one likes, so it may log, spawn tasks or panic. As it
turns out, a watched tree cannot be told from the tree itself, whatever the
alarm is, and as long as it suspends no flag is up in it.
-/

/-- What is done instead of resuming a coroutine that has ended. -/
abbrev Alarm (κ : Type) : Type 1 :=
  ∀ {α ε : Type} (coroutine : Coroutine κ α ε),
    coroutine.State →
    Activity κ (coroutine.State × Guarded (Outcome α ε))

/-- Whether the result of a resumption is no suspension. -/
def isFinal : Guarded (Outcome α ε) → Bool
  | .ok .suspended => false
  | _ => true

namespace Coroutine

/-- The coroutine, but the alarm sounds if it is resumed after its final result. -/
def watched
    (alarm : Alarm κ)
    (coroutine : Coroutine κ α ε) :
    Coroutine κ α ε where
  State := coroutine.State × Bool
  state := (coroutine.state, false)
  advance := fun (state, flag) =>
    if flag then
      (alarm coroutine state).map fun (state', result) =>
        ((state', true), result)
    else
      (coroutine.advance state).map fun (state', result) =>
        ((state', isFinal result), result)

/--
Watching one of two alike coroutines leaves them alike: as long as they suspend
the flag stays down.
-/
theorem Alike.watched
    {coroutine coroutine' : Coroutine κ α ε}
    {states : coroutine.State → coroutine'.State → Prop}
    (alike : coroutine.Alike coroutine' states)
    (alarm : Alarm κ) :
    coroutine.Alike (coroutine'.watched alarm)
      fun state (state', flag) => states state state' ∧ flag = false := by
  refine ⟨⟨alike.initial, rfl⟩, ?_⟩
  rintro state ⟨state', _⟩ ⟨related, rfl⟩
  apply (alike.advance related).map_right
  rintro ⟨reached, result⟩ ⟨reached', _⟩ ⟨rfl, goesOn⟩
  refine ⟨rfl, ?_⟩
  rintro rfl
  exact ⟨goesOn rfl, rfl⟩

/-- A routine, but what it does once it has terminated is given. -/
def routineOr
    [Payload π]
    [OfViolation ε]
    (generator : Generator π α ε)
    (afterwards :
      RoutineState generator.State →
        Activity κ
          (RoutineState generator.State × Guarded (Outcome α ε))) :
    Coroutine κ α ε where
  State := RoutineState generator.State
  state := { generator := generator.state, terminated := false }
  advance := fun state =>
    if state.terminated then afterwards state
    else (routine generator).advance state

/-- As long as a routine suspends it has not terminated. -/
theorem routine_alike
    [Payload π]
    [OfViolation ε]
    (generator : Generator π α ε)
    (afterwards :
      RoutineState generator.State →
        Activity κ
          (RoutineState generator.State × Guarded (Outcome α ε))) :
    (routine generator).Alike (routineOr generator afterwards)
      fun state state' => state' = state ∧ state.terminated = false := by
  refine ⟨⟨rfl, rfl⟩, ?_⟩
  rintro ⟨memory, terminated⟩ _ ⟨rfl, rfl : terminated = false⟩
  simp only [routineOr, routine, Bool.false_eq_true, ↓reduceIte]
  rcases generator.call memory () with ⟨memory', panic | step⟩
  · exact .done (.ended (by simp) _ _)
  · rcases step with payload | value | error
    · by_cases empty : Payload.isEmpty payload
      · simp only [empty, ↓reduceIte]
        exact .done (.suspended ⟨rfl, rfl⟩)
      · simp only [empty, Bool.false_eq_true, ↓reduceIte]
        exact .ask fun _ => .done (.ended (by simp) _ _)
    · exact .done (.ended (by simp) _ _)
    · exact .done (.ended (by simp) _ _)

end Coroutine

/-- How a coroutine is built; boxing it is no construction of its own. -/
inductive Tree (κ : Type) : Type → Type → Type 1 where
  | base
      {α ε : Type}
      (coroutine : Coroutine κ α ε) :
      Tree κ α ε
  | routine
      {π α ε : Type}
      [Payload π]
      [OfViolation ε]
      (generator : Generator π α ε) :
      Tree κ α ε
  | map
      {α β ε : Type}
      (inner : Tree κ α ε)
      (transform : Procedure α β) :
      Tree κ β ε
  | mapError
      {α ε φ : Type}
      (inner : Tree κ α ε)
      (transform : Procedure ε φ) :
      Tree κ α φ
  | andThen
      {α β ε : Type}
      (first : Tree κ α ε)
      (refusal : α → Option Panic)
      (second : α → Tree κ β ε) :
      Tree κ β ε
  | collect
      {α ε σ : Type}
      (items : Source α)
      (memory : σ)
      (call : σ → α → σ × Option Panic)
      (judge : σ → α → Tree κ Bool ε) :
      Tree κ (List α) ε
  | repeatMessage
      (message : String)
      (interval : Duration)
      (times : Nat) :
      Tree κ Nat TaskError

namespace Tree

/-- The coroutine that is built so. -/
def coroutine : Tree κ α ε → Coroutine κ α ε
  | base coroutine => coroutine
  | routine generator => .routine generator
  | map inner transform => inner.coroutine.map transform
  | mapError inner transform => inner.coroutine.mapError transform
  | andThen first refusal second =>
      first.coroutine.andThen
        { refusal := refusal
          build := fun value => (second value).coroutine }
  | collect items memory call judge =>
      .collect items
        { State := _
          state := memory
          call := call
          judge := fun made item => (judge made item).coroutine }
  | repeatMessage message interval times =>
      .repeatMessage message interval times

/--
The coroutine that is built so from watched coroutines, and watched itself. A
routine sounds the alarm too if it is stepped after it has terminated.
-/
def watched (alarm : Alarm κ) : Tree κ α ε → Coroutine κ α ε
  | base coroutine => coroutine.watched alarm
  | routine generator =>
      (Coroutine.routineOr generator
        (alarm (Coroutine.routine generator))).watched alarm
  | map inner transform =>
      ((inner.watched alarm).map transform).watched alarm
  | mapError inner transform =>
      ((inner.watched alarm).mapError transform).watched alarm
  | andThen first refusal second =>
      ((first.watched alarm).andThen
        { refusal := refusal
          build := fun value => (second value).watched alarm }).watched
        alarm
  | collect items memory call judge =>
      (Coroutine.collect items
        { State := _
          state := memory
          call := call
          judge := fun made item =>
            (judge made item).watched alarm }).watched alarm
  | repeatMessage message interval times =>
      (Coroutine.repeatBetween
        ((Coroutine.sleep interval).watched alarm) message
        times).watched alarm

/--
The states of a tree and of the watched tree correspond, and no flag is up: no
coroutine that is in place in the tree has ended.
-/
def Ongoing
    (alarm : Alarm κ) :
    (tree : Tree κ α ε) →
    tree.coroutine.State →
    (tree.watched alarm).State →
    Prop
  | base _ => fun state (state', flag) => state = state' ∧ flag = false
  | routine _ => fun state (state', flag) =>
      (state' = state ∧ state.terminated = false) ∧ flag = false
  | map inner _ => fun (state, memory) ((state', memory'), flag) =>
      (inner.Ongoing alarm state state' ∧ memory = memory') ∧
        flag = false
  | mapError inner _ => fun (state, memory) ((state', memory'), flag) =>
      (inner.Ongoing alarm state state' ∧ memory = memory') ∧
        flag = false
  | andThen first _ second => fun stage (stage', flag) =>
      stage.Alike (first.Ongoing alarm)
          (fun value => (second value).Ongoing alarm) stage' ∧
        flag = false
  | collect _ _ _ judge => fun collection (collection', flag) =>
      Collection.Alike
          (fun memory item => (judge memory item).Ongoing alarm)
          collection collection' ∧
        flag = false
  | repeatMessage _ _ _ => fun repetition (repetition', flag) =>
      repetition.Alike
          (fun state (state', flag) => state = state' ∧ flag = false)
          repetition' ∧
        flag = false

/--
A tree cannot be told from the watched tree, and no coroutine that is in place
in it has ended as long as it suspends.
-/
theorem alike_watched
    (alarm : Alarm κ)
    (tree : Tree κ α ε) :
    tree.coroutine.Alike (tree.watched alarm) (tree.Ongoing alarm) := by
  induction tree with
  | base coroutine =>
      exact (Coroutine.Alike.refl coroutine).watched alarm
  | routine generator =>
      exact (Coroutine.routine_alike generator _).watched alarm
  | map inner transform inductionHypothesis =>
      exact (inductionHypothesis.map transform).watched alarm
  | mapError inner transform inductionHypothesis =>
      exact (inductionHypothesis.mapError transform).watched alarm
  | andThen first refusal second firstHypothesis secondHypothesis =>
      exact (firstHypothesis.andThen secondHypothesis).watched alarm
  | collect items memory call judge inductionHypothesis =>
      exact
        (Coroutine.Alike.collect items memory call
          inductionHypothesis).watched alarm
  | repeatMessage message interval times =>
      have sleeps :=
        (Coroutine.Alike.refl
          (Coroutine.sleep interval : Coroutine κ Unit TaskError)).watched
          alarm
      exact (sleeps.repeatBetween message times).watched alarm

end Tree

end RoundRobin
