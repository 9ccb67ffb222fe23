import RoundRobin.Coroutine.Combinators
import RoundRobin.Proofs.Combinators.Equivalence

namespace RoundRobin

/-!
# How often the transforming procedures are called

A procedure remembers its calls, so its memory tells with which arguments it was
called, and in which order. Resuming a coroutine whose values are transformed
resumes the coroutine itself just as often; the procedure is called on each
value that it completed with, in the order of the completions, and never else.
Swapping values and errors carries all this over to the transformation of
errors.
-/

namespace Procedure

/-- The procedure as it is after a call. -/
def called
    (procedure : Procedure α β)
    (argument : α) :
    Procedure α β :=
  { procedure with state := (procedure.call procedure.state argument).1 }

/-- What a call of the procedure gives, as it is. -/
def gives
    (procedure : Procedure α β)
    (argument : α) :
    Guarded β :=
  (procedure.call procedure.state argument).2

/-- The procedure as it is after having been called on one argument after the other. -/
def calledOn
    (procedure : Procedure α β)
    (arguments : List α) :
    Procedure α β :=
  arguments.foldl called procedure

/-- What calls on one argument after the other return; a call that panics returns nothing. -/
def returns :
    Procedure α β →
    List α →
    List β
  | _, [] => []
  | procedure, argument :: rest =>
      (procedure.gives argument).toOption.toList ++
        (procedure.called argument).returns rest

/-- The procedure that never panics and returns its argument. -/
def identity : Procedure α α :=
  .ofFunction id

/-- Call the second procedure on what the first returns. -/
def followedBy
    (first : Procedure α β)
    (second : Procedure β γ) :
    Procedure α γ where
  State := first.State × second.State
  state := (first.state, second.state)
  call := fun (memory, memory') argument =>
    let reached := first.call memory argument
    match reached.2 with
    | .error panic => ((reached.1, memory'), .error panic)
    | .ok value =>
        let reached' := second.call memory' value
        ((reached.1, reached'.1), reached'.2)

end Procedure

/-- The value of a completion. -/
def completedValue? : Guarded (Outcome α ε) → Option α
  | .ok (.completed value) => some value
  | _ => none

/-- The error of a failure. -/
def failedError? : Guarded (Outcome α ε) → Option ε
  | .ok (.failed error) => some error
  | _ => none

namespace Procedure

/--
What becomes of a result when the procedure transforms its value, if it has one,
and of the procedure.
-/
def transform
    (procedure : Procedure α β) :
    Guarded (Outcome α ε) →
    Procedure α β × Guarded (Outcome β ε)
  | .error panic => (procedure, .error panic)
  | .ok .suspended => (procedure, .ok .suspended)
  | .ok (.failed error) => (procedure, .ok (.failed error))
  | .ok (.completed value) =>
      (procedure.called value, (procedure.gives value).map .completed)

/-- What becomes of results, one after the other, when the procedure transforms their values. -/
def transformAll :
    Procedure α β →
    List (Guarded (Outcome α ε)) →
    List (Guarded (Outcome β ε))
  | _, [] => []
  | procedure, result :: rest =>
      (procedure.transform result).2 ::
        (procedure.transform result).1.transformAll rest

/-- The procedure is called on the value of a completion, and on nothing else. -/
theorem calledOn_completedValues
    (procedure : Procedure α β)
    (result : Guarded (Outcome α ε))
    (rest : List (Guarded (Outcome α ε))) :
    procedure.calledOn ((result :: rest).filterMap completedValue?) =
      (procedure.transform result).1.calledOn
        (rest.filterMap completedValue?) := by
  rcases result with panic | _ | value | error
  all_goals rfl

/-- The values of the transformed results are what the procedure returned. -/
theorem completedValues_transformAll
    (procedure : Procedure α β)
    (results : List (Guarded (Outcome α ε))) :
    (procedure.transformAll results).filterMap completedValue? =
      procedure.returns (results.filterMap completedValue?) := by
  induction results generalizing procedure with
  | nil => rfl
  | cons result rest inductionHypothesis =>
      have later := inductionHypothesis (procedure.transform result).1
      rcases result with panic | _ | value | error
      · exact later
      · exact later
      · simp only [transformAll, List.filterMap_cons, completedValue?,
          transform, returns]
        rw [transform] at later
        rw [later]
        cases procedure.gives value with
        | ok returned => rfl
        | error panic => rfl
      · exact later

end Procedure

namespace Coroutine

variable
  {ω : Type v}
  {answer : (request : Request κ) → ω → Option (ω × request.Reply)}

/-- A resumption of the transformed coroutine is one of the coroutine itself. -/
theorem resume_map
    (coroutine : Coroutine κ α ε)
    (procedure : Procedure α β) :
    (coroutine.map procedure).resume =
      coroutine.resume.map fun (coroutine', result) =>
        (coroutine'.map (procedure.transform result).1,
          (procedure.transform result).2) := by
  unfold resume
  rw [Activity.map_map, map, Activity.map_map]
  congr 1
  funext ended
  rcases ended with ⟨state, panic | _ | value | error⟩
  all_goals rfl

/--
Resuming the transformed coroutine resumes the coroutine itself as often, and
calls the procedure on each value it completed with.
-/
theorem resumeTimes_map
    (times : Nat)
    (coroutine : Coroutine κ α ε)
    (procedure : Procedure α β)
    (state : ω) :
    (coroutine.map procedure).resumeTimes answer times state =
      (coroutine.resumeTimes answer times state).map
        fun (state', coroutine', results) =>
          (state',
            coroutine'.map
              (procedure.calledOn (results.filterMap completedValue?)),
            procedure.transformAll results) := by
  induction times generalizing coroutine procedure state with
  | zero => rfl
  | succ times inductionHypothesis =>
      rw [resumeTimes_succ, resumeTimes_succ, resume_map,
        Activity.conduct_map, Option.bind_map, Option.map_bind]
      congr 1
      funext ⟨state', coroutine', result⟩
      simp only [Function.comp_apply, inductionHypothesis, Option.map_map]
      congr 1
      funext ⟨state'', coroutine'', results⟩
      simp only [Function.comp_apply, procedure.calledOn_completedValues,
        Procedure.transformAll]

end Coroutine

/-- The outcome with values taken for errors and errors for values. -/
def Outcome.swap : Outcome α ε → Outcome ε α
  | suspended => suspended
  | completed value => failed value
  | failed error => completed error

/-- Results with values taken for errors and errors for values. -/
def swapAll
    (results : List (Guarded (Outcome α ε))) :
    List (Guarded (Outcome ε α)) :=
  results.map (Except.map Outcome.swap)

theorem map_swap_map_swap (result : Guarded (Outcome α ε)) :
    (result.map Outcome.swap).map Outcome.swap = result := by
  rcases result with panic | _ | value | error
  all_goals rfl

theorem swapAll_swapAll (results : List (Guarded (Outcome α ε))) :
    swapAll (swapAll results) = results := by
  simp only [swapAll, List.map_map]
  exact List.map_id'' map_swap_map_swap results

theorem completedValues_swapAll
    (results : List (Guarded (Outcome α ε))) :
    (swapAll results).filterMap completedValue? =
      results.filterMap failedError? := by
  rw [swapAll, List.filterMap_map]
  congr 1
  funext result
  rcases result with panic | _ | value | error
  all_goals rfl

/-- What becomes of results, one after the other, when a procedure transforms their errors. -/
def Procedure.transformErrors
    (procedure : Procedure ε φ)
    (results : List (Guarded (Outcome α ε))) :
    List (Guarded (Outcome α φ)) :=
  swapAll (procedure.transformAll (swapAll results))

namespace Coroutine

/-- The coroutine that completes where the given one fails, and the other way round. -/
def swapped (coroutine : Coroutine κ α ε) : Coroutine κ ε α where
  State := coroutine.State
  state := coroutine.state
  advance := fun state =>
    (coroutine.advance state).map fun (state', result) =>
      (state', result.map Outcome.swap)

theorem swapped_swapped (coroutine : Coroutine κ α ε) :
    coroutine.swapped.swapped = coroutine := by
  rcases coroutine with ⟨State, state, advance⟩
  simp only [swapped, Activity.map_map, map_swap_map_swap]
  congr 1
  funext state
  exact Activity.bind_pure _

/-- To transform errors is to transform values where the two are swapped. -/
theorem swapped_map_swapped
    (coroutine : Coroutine κ α ε)
    (procedure : Procedure ε φ) :
    (coroutine.swapped.map procedure).swapped =
      coroutine.mapError procedure := by
  unfold mapError
  unfold swapped map
  simp only [Activity.map_map]
  congr 1
  funext state
  congr 1
  funext ended
  rcases ended with ⟨state, panic | _ | value | error⟩
  · rfl
  · rfl
  · rfl
  · simp only [Except.map, Outcome.swap]
    cases (procedure.call _ error).2 with
    | ok given => rfl
    | error panic => rfl

variable
  {ω : Type v}
  {answer : (request : Request κ) → ω → Option (ω × request.Reply)}

/-- Swapping values and errors swaps them in all results. -/
theorem resumeTimes_swapped
    (times : Nat)
    (coroutine : Coroutine κ α ε)
    (state : ω) :
    coroutine.swapped.resumeTimes answer times state =
      (coroutine.resumeTimes answer times state).map
        fun (state', coroutine', results) =>
          (state', coroutine'.swapped, swapAll results) := by
  apply resumeTimes_of_resume answer swapped (Except.map Outcome.swap)
  intro coroutine
  unfold resume
  rw [swapped, Activity.map_map, Activity.map_map]
  rfl

/--
Resuming a coroutine whose errors are transformed resumes the coroutine itself
as often, and calls the procedure on each error it failed with.
-/
theorem resumeTimes_mapError
    (times : Nat)
    (coroutine : Coroutine κ α ε)
    (procedure : Procedure ε φ)
    (state : ω) :
    (coroutine.mapError procedure).resumeTimes answer times state =
      (coroutine.resumeTimes answer times state).map
        fun (state', coroutine', results) =>
          (state',
            coroutine'.mapError
              (procedure.calledOn (results.filterMap failedError?)),
            procedure.transformErrors results) := by
  rw [← swapped_map_swapped, resumeTimes_swapped, resumeTimes_map,
    resumeTimes_swapped]
  rcases coroutine.resumeTimes answer times state with
    _ | ⟨state', coroutine', results⟩
  · rfl
  · simp only [Option.map_some, completedValues_swapAll,
      swapped_map_swapped, Procedure.transformErrors]

end Coroutine

end RoundRobin
