import RoundRobin.Proofs.Combinators.Chain

namespace RoundRobin

/-!
# Laws of the combinators

Chains can be regrouped, what transforms the values or errors of a chain can be
moved into its stages, transformations of values can be fused, and they commute
with those of errors. A coroutine that completes at once is neutral in a chain.
Each law says that two coroutines are equivalent, so it holds past failures and
panics too, unless something else is said.
-/

/-- Build a coroutine and modify it. -/
def Continuation.modified
    (continuation : Continuation κ α β ε)
    (modify : Coroutine κ β ε → Coroutine κ γ φ) :
    Continuation κ α γ φ where
  refusal := continuation.refusal
  build := fun value => modify (continuation.build value)

/-- The continuation that gives the value back at once. -/
def Continuation.immediate [OfViolation ε] : Continuation κ α α ε where
  refusal := fun _ => none
  build := Coroutine.suspendThen 0

/-- Procedures each of which takes what the one before returns. -/
inductive Pipeline : Type → Type → Type 1 where
  | nil : Pipeline α α
  | cons
      (procedure : Procedure α β)
      (rest : Pipeline β γ) :
      Pipeline α γ

namespace Pipeline

/-- Call one procedure after the other, each on what the one before returns. -/
def composed : Pipeline α β → Procedure α β
  | nil => .identity
  | cons procedure rest => procedure.followedBy rest.composed

/-- Transform values by one procedure after the other, each in a layer of its own. -/
def map : Pipeline α β → Coroutine κ α ε → Coroutine κ β ε
  | nil, coroutine => coroutine
  | cons procedure rest, coroutine => rest.map (coroutine.map procedure)

/-- Transform errors by one procedure after the other, each in a layer of its own. -/
def mapError : Pipeline ε φ → Coroutine κ α ε → Coroutine κ α φ
  | nil, coroutine => coroutine
  | cons procedure rest, coroutine =>
      rest.mapError (coroutine.mapError procedure)

end Pipeline

namespace Procedure

/-- Transforming a result by two procedures is transforming it by one after the other. -/
theorem transform_followedBy
    (first : Procedure α β)
    (second : Procedure β γ)
    (result : Guarded (Outcome α ε)) :
    (first.followedBy second).transform result =
      ((first.transform result).1.followedBy
          (second.transform (first.transform result).2).1,
        (second.transform (first.transform result).2).2) := by
  rcases result with panic | _ | value | error
  · rfl
  · rfl
  · simp only [transform, called, gives, followedBy]
    rcases first.call first.state value with ⟨memory, panic | returned⟩
    · rfl
    · rfl
  · rfl

theorem transformAll_followedBy
    (first : Procedure α β)
    (second : Procedure β γ)
    (results : List (Guarded (Outcome α ε))) :
    (first.followedBy second).transformAll results =
      second.transformAll (first.transformAll results) := by
  induction results generalizing first second with
  | nil => rfl
  | cons result rest inductionHypothesis =>
      simp only [transformAll, transform_followedBy, inductionHypothesis]

/-- The errors of the transformed results are what the procedure returned. -/
theorem failedErrors_transformErrors
    (procedure : Procedure ε φ)
    (results : List (Guarded (Outcome α ε))) :
    (procedure.transformErrors results).filterMap failedError? =
      procedure.returns (results.filterMap failedError?) := by
  rw [transformErrors, ← completedValues_swapAll, swapAll_swapAll,
    completedValues_transformAll, completedValues_swapAll]

theorem transformAll_identity (results : List (Guarded (Outcome α ε))) :
    identity.transformAll results = results := by
  induction results with
  | nil => rfl
  | cons result rest inductionHypothesis =>
      rcases result with panic | _ | value | error
      all_goals exact congrArg _ inductionHypothesis

/-- Values and errors can be transformed in either order. -/
theorem transformErrors_transformAll
    (procedure : Procedure α β)
    (onError : Procedure ε φ)
    (results : List (Guarded (Outcome α ε))) :
    onError.transformErrors (procedure.transformAll results) =
      procedure.transformAll (onError.transformErrors results) := by
  induction results generalizing procedure onError with
  | nil => rfl
  | cons result rest inductionHypothesis =>
      have later :=
        inductionHypothesis (procedure.transform result).1
          (onError.transform (result.map Outcome.swap)).1
      rcases result with panic | _ | value | error
      · exact congrArg _ later
      · exact congrArg _ later
      · have tail :
            onError.transformErrors
                ((procedure.transform (.ok (.completed value))).2 ::
                  (procedure.called value).transformAll rest) =
              (procedure.transform (.ok (.completed value))).2 ::
                onError.transformErrors
                  ((procedure.called value).transformAll rest) := by
          simp only [transform]
          cases procedure.gives value with
          | error panic => rfl
          | ok returned => rfl
        exact tail.trans (congrArg _ later)
      · have tail :
            procedure.transformAll
                ((onError.transform (.ok (.completed error))).2.map
                    Outcome.swap ::
                  (onError.called error).transformErrors rest) =
              (onError.transform (.ok (.completed error))).2.map
                    Outcome.swap ::
                procedure.transformAll
                  ((onError.called error).transformErrors rest) := by
          simp only [transform]
          cases onError.gives error with
          | error panic => rfl
          | ok returned => rfl
        exact (congrArg _ later).trans tail.symm

end Procedure

namespace Coroutine

/-- Three coroutines stand alike, the first two or the last two of which form a chain. -/
inductive Regrouped
    (coroutine : Coroutine κ α ε)
    (second : Continuation κ α β ε)
    (third : Continuation κ β γ ε) :
    ((coroutine.andThen second).andThen third).State →
    (coroutine.andThen
      (second.modified fun built => built.andThen third)).State →
    Prop where
  | first (state : coroutine.State) (builderUsed : Bool) :
      Regrouped coroutine second third
        (.first (.first state builderUsed) false)
        (.first state builderUsed)
  | second
      (value : α)
      (state : (second.build value).State)
      (builderUsed : Bool) :
      Regrouped coroutine second third
        (.first (.second value state) builderUsed)
        (.second value (.first state builderUsed))
  | third (value : α) (value' : β) (state : (third.build value').State) :
      Regrouped coroutine second third
        (.second value' state)
        (.second value (.second value' state))

/-- The last two of three coroutines go on alike, however the three are grouped. -/
theorem like_regrouped_second
    (coroutine : Coroutine κ α ε)
    (second : Continuation κ α β ε)
    (third : Continuation κ β γ ε)
    (value : α)
    (state : (second.build value).State)
    (builderUsed : Bool) :
    (((coroutine.andThen second).andThen third).advance
        (.first (.second value state) builderUsed)).Like
      (fun reached reached' =>
        reached.2 = reached'.2 ∧
          Regrouped coroutine second third reached.1 reached'.1)
      ((coroutine.andThen
          (second.modified fun built => built.andThen third)).advance
        (.second value (.first state builderUsed))) := by
  simp only [andThen, Continuation.modified, Activity.map,
    Activity.bind_assoc, Activity.bind_done]
  apply Activity.Like.bind_same
  rintro ⟨reached, panic | _ | value' | error⟩
  · exact .done ⟨rfl, .second _ _ _⟩
  · exact .done ⟨rfl, .second _ _ _⟩
  · cases builderUsed
    · simp only [Bool.false_eq_true, ↓reduceIte]
      cases third.refusal value' with
      | some panic => exact .done ⟨rfl, .second _ _ _⟩
      | none =>
          simp only [Activity.bind_assoc]
          exact Activity.Like.bind_same fun _ => .done ⟨rfl, .third _ _ _⟩
    · exact .done ⟨rfl, .second _ _ _⟩
  · exact .done ⟨rfl, .second _ _ _⟩

/-- Chains can be regrouped. -/
theorem andThen_andThen
    (coroutine : Coroutine κ α ε)
    (second : Continuation κ α β ε)
    (third : Continuation κ β γ ε) :
    ((coroutine.andThen second).andThen third).Equivalent
      (coroutine.andThen
        (second.modified fun built => built.andThen third)) := by
  suffices
      bisimilar :
        ((coroutine.andThen second).andThen third).Bisimilar
          (coroutine.andThen
            (second.modified fun built => built.andThen third))
          (Regrouped coroutine second third) from
    bisimilar.equivalent
  refine ⟨.first _ _, ?_⟩
  rintro _ _ (⟨state, used⟩ | ⟨value, state, used⟩ | ⟨value, value', state⟩)
  · simp only [andThen, Activity.bind_assoc]
    apply Activity.Like.bind_same
    rintro ⟨reached, panic | _ | value | error⟩
    · exact .done ⟨rfl, .first _ _⟩
    · exact .done ⟨rfl, .first _ _⟩
    · cases used
      · simp only [Continuation.modified, Bool.false_eq_true, ↓reduceIte]
        cases second.refusal value with
        | some panic => exact .done ⟨rfl, .first _ _⟩
        | none =>
            exact like_regrouped_second coroutine second third value
              (second.build value).state false
      · exact .done ⟨rfl, .first _ _⟩
    · exact .done ⟨rfl, .first _ _⟩
  · exact like_regrouped_second coroutine second third value state used
  · simp only [andThen, Continuation.modified, Activity.map,
      Activity.bind_assoc, Activity.bind_done]
    exact Activity.Like.bind_same fun _ => .done ⟨rfl, .third _ _ _⟩

/--
A chain stands alike, whether the procedure transforms the values of all of it or
only those of its second stage.
-/
inductive MapMoved
    (coroutine : Coroutine κ α ε)
    (second : Continuation κ α β ε)
    (procedure : Procedure β γ) :
    ((coroutine.andThen second).map procedure).State →
    (coroutine.andThen
      (second.modified fun built => built.map procedure)).State →
    Prop where
  | first (state : coroutine.State) (builderUsed : Bool) :
      MapMoved coroutine second procedure
        (.first state builderUsed, procedure.state)
        (.first state builderUsed)
  | second
      (value : α)
      (state : (second.build value).State)
      (memory : procedure.State) :
      MapMoved coroutine second procedure
        (.second value state, memory)
        (.second value (state, memory))

/-- What transforms the values of a chain can be moved into its second stage. -/
theorem andThen_map
    (coroutine : Coroutine κ α ε)
    (second : Continuation κ α β ε)
    (procedure : Procedure β γ) :
    ((coroutine.andThen second).map procedure).Equivalent
      (coroutine.andThen
        (second.modified fun built => built.map procedure)) := by
  suffices
      bisimilar :
        ((coroutine.andThen second).map procedure).Bisimilar
          (coroutine.andThen
            (second.modified fun built => built.map procedure))
          (MapMoved coroutine second procedure) from
    bisimilar.equivalent
  refine ⟨.first _ _, ?_⟩
  rintro _ _ (⟨state, used⟩ | ⟨value, state, memory⟩)
  · simp only [andThen, map, Continuation.modified, Activity.map,
      Activity.bind_assoc]
    apply Activity.Like.bind_same
    rintro ⟨reached, panic | _ | value | error⟩
    · exact .done ⟨rfl, .first _ _⟩
    · exact .done ⟨rfl, .first _ _⟩
    · cases used
      · simp only [Bool.false_eq_true, ↓reduceIte]
        cases second.refusal value with
        | some panic => exact .done ⟨rfl, .first _ _⟩
        | none =>
            simp only [Activity.bind_assoc, Activity.bind_done]
            apply Activity.Like.bind_same
            rintro ⟨started, panic | _ | value' | error⟩
            all_goals exact .done ⟨rfl, .second _ _ _⟩
      · exact .done ⟨rfl, .first _ _⟩
    · exact .done ⟨rfl, .first _ _⟩
  · simp only [andThen, map, Continuation.modified, Activity.map,
      Activity.bind_assoc, Activity.bind_done]
    apply Activity.Like.bind_same
    rintro ⟨reached, panic | _ | value' | error⟩
    all_goals exact .done ⟨rfl, .second _ _ _⟩

/--
A chain stands alike, whether a function transforms the errors of all of it or
those of each stage.
-/
inductive MapErrorMoved
    (coroutine : Coroutine κ α ε)
    (second : Continuation κ α β ε)
    (function : ε → Guarded φ) :
    ((coroutine.andThen second).mapError (.ofGuarded function)).State →
    ((coroutine.mapError (.ofGuarded function)).andThen
      (second.modified fun built =>
        built.mapError (.ofGuarded function))).State →
    Prop where
  | first (state : coroutine.State) (builderUsed : Bool) :
      MapErrorMoved coroutine second function
        (.first state builderUsed, ())
        (.first (state, ()) builderUsed)
  | second (value : α) (state : (second.build value).State) :
      MapErrorMoved coroutine second function
        (.second value state, ())
        (.second value (state, ()))

/-- What transforms the errors of a chain by a function can be moved into its stages. -/
theorem andThen_mapError
    (coroutine : Coroutine κ α ε)
    (second : Continuation κ α β ε)
    (function : ε → Guarded φ) :
    ((coroutine.andThen second).mapError (.ofGuarded function)).Equivalent
      ((coroutine.mapError (.ofGuarded function)).andThen
        (second.modified fun built =>
          built.mapError (.ofGuarded function))) := by
  suffices
      bisimilar :
        ((coroutine.andThen second).mapError
            (.ofGuarded function)).Bisimilar
          ((coroutine.mapError (.ofGuarded function)).andThen
            (second.modified fun built =>
              built.mapError (.ofGuarded function)))
          (MapErrorMoved coroutine second function) from
    bisimilar.equivalent
  refine ⟨.first _ _, ?_⟩
  rintro _ _ (⟨state, used⟩ | ⟨value, state⟩)
  · simp only [andThen, mapError, Continuation.modified, Activity.map,
      Activity.bind_assoc, Activity.bind_done]
    apply Activity.Like.bind_same
    rintro ⟨reached, panic | _ | value | error⟩
    · exact .done ⟨rfl, .first _ _⟩
    · exact .done ⟨rfl, .first _ _⟩
    · cases used
      · simp only [Bool.false_eq_true, ↓reduceIte]
        cases second.refusal value with
        | some panic => exact .done ⟨rfl, .first _ _⟩
        | none =>
            simp only [Activity.bind_assoc, Activity.bind_done]
            apply Activity.Like.bind_same
            rintro ⟨started, panic | _ | value' | error⟩
            all_goals exact .done ⟨rfl, .second _ _⟩
      · exact .done ⟨rfl, .first _ _⟩
    · simp only [Procedure.ofGuarded]
      cases given : function error with
      | error panic =>
          exact .done ⟨congrArg (Except.map Outcome.failed) given, .first _ _⟩
      | ok error' =>
          exact .done ⟨congrArg (Except.map Outcome.failed) given, .first _ _⟩
  · simp only [andThen, mapError, Continuation.modified, Activity.map,
      Activity.bind_assoc, Activity.bind_done]
    apply Activity.Like.bind_same
    rintro ⟨reached, panic | _ | value' | error⟩
    all_goals exact .done ⟨rfl, .second _ _⟩

/-- The outcomes of a coroutine whose values are transformed. -/
theorem outcomes_map
    {ω : Type}
    (answer : (request : Request κ) → ω → Option (ω × request.Reply))
    (times : Nat)
    (coroutine : Coroutine κ α ε)
    (procedure : Procedure α β)
    (state : ω) :
    (coroutine.map procedure).outcomes answer times state =
      (coroutine.outcomes answer times state).map
        fun (state', results) =>
          (state', procedure.transformAll results) := by
  simp only [outcomes, resumeTimes_map, Option.map_map]
  rfl

/-- The outcomes of a coroutine whose errors are transformed. -/
theorem outcomes_mapError
    {ω : Type}
    (answer : (request : Request κ) → ω → Option (ω × request.Reply))
    (times : Nat)
    (coroutine : Coroutine κ α ε)
    (procedure : Procedure ε φ)
    (state : ω) :
    (coroutine.mapError procedure).outcomes answer times state =
      (coroutine.outcomes answer times state).map
        fun (state', results) =>
          (state', procedure.transformErrors results) := by
  simp only [outcomes, resumeTimes_mapError, Option.map_map]
  rfl

/-- Transforming values twice is transforming them once, by one procedure after the other. -/
theorem map_map
    (coroutine : Coroutine κ α ε)
    (first : Procedure α β)
    (second : Procedure β γ) :
    ((coroutine.map first).map second).Equivalent
      (coroutine.map (first.followedBy second)) := by
  intro ω answer times state
  simp only [outcomes_map, Option.map_map, Function.comp_def,
    Procedure.transformAll_followedBy]

/-- A procedure that returns its argument changes no values. -/
theorem map_identity (coroutine : Coroutine κ α ε) :
    coroutine.Equivalent (coroutine.map .identity) := by
  intro ω answer times state
  simp only [outcomes_map, Procedure.transformAll_identity]
  exact (congrFun Option.map_id _).symm

/-- Many layers that transform values are as good as one. -/
theorem pipeline_map
    (procedures : Pipeline α β)
    (coroutine : Coroutine κ α ε) :
    (procedures.map coroutine).Equivalent
      (coroutine.map procedures.composed) := by
  induction procedures with
  | nil => exact coroutine.map_identity
  | cons procedure rest inductionHypothesis =>
      exact
        (inductionHypothesis (coroutine.map procedure)).trans
          (coroutine.map_map procedure rest.composed)

/-- Swapping values and errors keeps coroutines equivalent. -/
theorem Equivalent.swapped
    {coroutine coroutine' : Coroutine κ α ε}
    (equivalent : coroutine.Equivalent coroutine') :
    coroutine.swapped.Equivalent coroutine'.swapped := by
  intro ω answer times state
  have swap (coroutine : Coroutine κ α ε) :
      coroutine.swapped.outcomes answer times state =
        (coroutine.outcomes answer times state).map
          fun (state', results) => (state', swapAll results) := by
    simp only [outcomes, resumeTimes_swapped, Option.map_map]
    rfl
  rw [swap, swap, equivalent]

/-- Transforming errors twice is transforming them once, by one procedure after the other. -/
theorem mapError_mapError
    (coroutine : Coroutine κ α ε)
    (first : Procedure ε φ)
    (second : Procedure φ ψ) :
    ((coroutine.mapError first).mapError second).Equivalent
      (coroutine.mapError (first.followedBy second)) := by
  have swapped := (coroutine.swapped.map_map first second).swapped
  simpa only [← swapped_map_swapped, swapped_swapped] using swapped

/-- A pipeline that transforms errors is one of values where the two are swapped. -/
theorem swapped_pipeline_map_swapped
    (procedures : Pipeline ε φ)
    (coroutine : Coroutine κ α ε) :
    (procedures.map coroutine.swapped).swapped =
      procedures.mapError coroutine := by
  induction procedures with
  | nil => exact coroutine.swapped_swapped
  | cons procedure rest inductionHypothesis =>
      rw [Pipeline.map, Pipeline.mapError, ← inductionHypothesis,
        ← swapped_map_swapped, swapped_swapped]

/-- Many layers that transform errors are as good as one. -/
theorem pipeline_mapError
    (procedures : Pipeline ε φ)
    (coroutine : Coroutine κ α ε) :
    (procedures.mapError coroutine).Equivalent
      (coroutine.mapError procedures.composed) := by
  rw [← swapped_pipeline_map_swapped, ← swapped_map_swapped]
  exact (pipeline_map procedures coroutine.swapped).swapped

/-- Transforming values and transforming errors do not get in each other's way. -/
theorem map_mapError
    (coroutine : Coroutine κ α ε)
    (procedure : Procedure α β)
    (onError : Procedure ε φ) :
    ((coroutine.map procedure).mapError onError).Equivalent
      ((coroutine.mapError onError).map procedure) := by
  intro ω answer times state
  simp only [outcomes_map, outcomes_mapError, Option.map_map,
    Function.comp_def, Procedure.transformErrors_transformAll]

/-- A chain that starts by completing at once is what its builder builds. -/
theorem suspendThen_andThen
    [OfViolation ε]
    {second : Continuation κ α β ε}
    {value : α}
    (accepted : second.refusal value = none) :
    ((suspendThen 0 value).andThen second).Equivalent
      (second.build value) := by
  intro ω answer times state
  cases times with
  | zero => rfl
  | succ more => exact outcomes_andThen_of_completed rfl accepted more

end Coroutine

/-- What is no completion is passed on as it is. -/
theorem relay_of_uncompleted
    {result : Guarded (Outcome α ε)}
    (uncompleted : completedValue? result = none) :
    relay result = result := by
  rcases result with panic | _ | value | error
  · rfl
  · rfl
  · cases uncompleted
  · rfl

namespace Coroutine

/-- A chain that ends by completing at once is its first coroutine until that completes. -/
theorem outcomes_andThen_immediate
    [OfViolation ε]
    {ω : Type}
    {answer : (request : Request κ) → ω → Option (ω × request.Reply)}
    {times : Nat}
    {coroutine coroutine' : Coroutine κ α ε}
    {state state' : ω}
    {results : List (Guarded (Outcome α ε))}
    (resumed :
      coroutine.resumeTimes answer times state =
        some (state', coroutine', results))
    (uncompleted : results.filterMap completedValue? = []) :
    (coroutine.andThen .immediate).outcomes answer (times + 1) state =
      coroutine.outcomes answer (times + 1) state := by
  have passed := resumeTimes_chained .immediate false resumed uncompleted
  have unchanged : results.map relay = results := by
    conv => rhs; rw [← List.map_id results]
    apply List.map_congr_left
    intro result member
    exact
      relay_of_uncompleted
        (List.filterMap_eq_nil_iff.mp uncompleted result member)
  -- What is left is the one resumption in which the coroutine may complete.
  have last :
      (coroutine'.chained .immediate false).outcomes answer 1 state' =
        coroutine'.outcomes answer 1 state' := by
    rw [outcomes_succ, outcomes_succ]
    rcases conducted : coroutine'.resume.conduct answer state' with
      _ | ⟨state'', coroutine'', result⟩
    · rw [resume_chained, Activity.conduct_bind, conducted]
    · rcases result with panic | _ | value | error
      · rw [conduct_chained .immediate false conducted rfl]
        rfl
      · rw [conduct_chained .immediate false conducted rfl]
        rfl
      · rw [resume_chained, Activity.conduct_bind, conducted]
        rfl
      · rw [conduct_chained .immediate false conducted rfl]
        rfl
  change (coroutine.chained .immediate false).outcomes answer _ state = _
  rw [outcomes_add, outcomes_add, passed, resumed]
  simp only [Option.bind_some, last, unchanged]

end Coroutine

/--
The combinators obey the laws of an algebra. Every law holds of the outcomes of
all resumptions, those after failures and panics included.
-/
structure CombinatorLaws : Prop where
  /-- Chains can be regrouped. -/
  andThen_assoc :
    ∀ {κ α β γ ε : Type}
      (coroutine : Coroutine κ α ε)
      (second : Continuation κ α β ε)
      (third : Continuation κ β γ ε),
      ((coroutine.andThen second).andThen third).Equivalent
        (coroutine.andThen
          (second.modified fun built => built.andThen third))
  /-- What transforms the values of a chain can be moved into its second stage. -/
  map_andThen :
    ∀ {κ α β γ ε : Type}
      (coroutine : Coroutine κ α ε)
      (second : Continuation κ α β ε)
      (procedure : Procedure β γ),
      ((coroutine.andThen second).map procedure).Equivalent
        (coroutine.andThen
          (second.modified fun built => built.map procedure))
  /-- What transforms errors and has no memory can be moved into both stages. -/
  mapError_andThen :
    ∀ {κ α β ε φ : Type}
      (coroutine : Coroutine κ α ε)
      (second : Continuation κ α β ε)
      (function : ε → Guarded φ),
      ((coroutine.andThen second).mapError (.ofGuarded function)).Equivalent
        ((coroutine.mapError (.ofGuarded function)).andThen
          (second.modified fun built =>
            built.mapError (.ofGuarded function)))
  /-- Transforming values twice is doing so once, by both procedures in turn. -/
  map_fused :
    ∀ {κ α β γ ε : Type}
      (coroutine : Coroutine κ α ε)
      (first : Procedure α β)
      (second : Procedure β γ),
      ((coroutine.map first).map second).Equivalent
        (coroutine.map (first.followedBy second))
  /--
  The first procedure is called once per completion of the coroutine, on its
  value, the second once per return of the first, on what that returned, and
  neither is called else.
  -/
  map_calls :
    ∀ {κ α β γ ε ω : Type}
      (coroutine : Coroutine κ α ε)
      (first : Procedure α β)
      (second : Procedure β γ)
      (answer : (request : Request κ) → ω → Option (ω × request.Reply))
      (times : Nat)
      (state : ω),
      ((coroutine.map first).map second).resumeTimes answer times state =
        (coroutine.resumeTimes answer times state).map
          fun (state', coroutine', results) =>
            let values := results.filterMap completedValue?
            (state',
              (coroutine'.map (first.calledOn values)).map
                (second.calledOn (first.returns values)),
              second.transformAll (first.transformAll results))
  /-- Transforming errors twice is doing so once, by both procedures in turn. -/
  mapError_fused :
    ∀ {κ α ε φ ψ : Type}
      (coroutine : Coroutine κ α ε)
      (first : Procedure ε φ)
      (second : Procedure φ ψ),
      ((coroutine.mapError first).mapError second).Equivalent
        (coroutine.mapError (first.followedBy second))
  /--
  The first procedure is called once per failure of the coroutine, on its error,
  the second once per return of the first, on what that returned, and neither is
  called else.
  -/
  mapError_calls :
    ∀ {κ α ε φ ψ ω : Type}
      (coroutine : Coroutine κ α ε)
      (first : Procedure ε φ)
      (second : Procedure φ ψ)
      (answer : (request : Request κ) → ω → Option (ω × request.Reply))
      (times : Nat)
      (state : ω),
      ((coroutine.mapError first).mapError second).resumeTimes
          answer times state =
        (coroutine.resumeTimes answer times state).map
          fun (state', coroutine', results) =>
            let errors := results.filterMap failedError?
            (state',
              (coroutine'.mapError (first.calledOn errors)).mapError
                (second.calledOn (first.returns errors)),
              second.transformErrors (first.transformErrors results))
  /-- Any number of layers that transform values are as good as one. -/
  map_layers :
    ∀ {κ α β ε : Type}
      (coroutine : Coroutine κ α ε)
      (procedures : Pipeline α β),
      (procedures.map coroutine).Equivalent
        (coroutine.map procedures.composed)
  /-- Any number of layers that transform errors are as good as one. -/
  mapError_layers :
    ∀ {κ α ε φ : Type}
      (coroutine : Coroutine κ α ε)
      (procedures : Pipeline ε φ),
      (procedures.mapError coroutine).Equivalent
        (coroutine.mapError procedures.composed)
  /-- Values and errors can be transformed in either order. -/
  map_mapError_comm :
    ∀ {κ α β ε φ : Type}
      (coroutine : Coroutine κ α ε)
      (procedure : Procedure α β)
      (onError : Procedure ε φ),
      ((coroutine.map procedure).mapError onError).Equivalent
        ((coroutine.mapError onError).map procedure)
  /-- Starting a chain by completing at once is starting with its second stage. -/
  immediate_andThen :
    ∀ {κ α β ε : Type} [OfViolation ε]
      (value : α)
      (second : Continuation κ α β ε),
      second.refusal value = none →
      ((Coroutine.suspendThen 0 value).andThen second).Equivalent
        (second.build value)
  /--
  Ending a chain by completing at once makes no difference up to and including
  the first completion: as long as there has been none, so is one resumption
  more.
  -/
  andThen_immediate :
    ∀ {κ α ε ω : Type} [OfViolation ε]
      {answer : (request : Request κ) → ω → Option (ω × request.Reply)}
      {times : Nat}
      {coroutine coroutine' : Coroutine κ α ε}
      {state state' : ω}
      {results : List (Guarded (Outcome α ε))},
      coroutine.resumeTimes answer times state =
        some (state', coroutine', results) →
      results.filterMap completedValue? = [] →
      (coroutine.andThen .immediate).outcomes answer (times + 1) state =
        coroutine.outcomes answer (times + 1) state

/-- The combinators obey their laws, whatever the coroutines and procedures do. -/
theorem combinator_laws : CombinatorLaws where
  andThen_assoc := Coroutine.andThen_andThen
  map_andThen := Coroutine.andThen_map
  mapError_andThen := Coroutine.andThen_mapError
  map_fused := Coroutine.map_map
  map_calls := by
    intro κ α β γ ε ω coroutine first second answer times state
    rw [Coroutine.resumeTimes_map, Coroutine.resumeTimes_map,
      Option.map_map]
    simp only [Function.comp_def,
      Procedure.completedValues_transformAll]
  mapError_fused := Coroutine.mapError_mapError
  mapError_calls := by
    intro κ α ε φ ψ ω coroutine first second answer times state
    rw [Coroutine.resumeTimes_mapError, Coroutine.resumeTimes_mapError,
      Option.map_map]
    simp only [Function.comp_def,
      Procedure.failedErrors_transformErrors]
  map_layers := fun coroutine procedures =>
    coroutine.pipeline_map procedures
  mapError_layers := fun coroutine procedures =>
    coroutine.pipeline_mapError procedures
  map_mapError_comm := Coroutine.map_mapError
  immediate_andThen := fun _ _ => Coroutine.suspendThen_andThen
  andThen_immediate := Coroutine.outcomes_andThen_immediate

/-- A coroutine that suspends, panics and fails before it completes. -/
def Coroutine.stumbling : Coroutine Unit Nat TaskError :=
  .ofStep Nat 0 fun turn =>
    match turn with
    | 0 => (1, .ok .suspended)
    | 1 => (2, .error { message := "lost" })
    | 2 => (3, .ok (.failed .notFound))
    | _ => (3, .ok (.completed 3))

/-- The continuation that refuses zero and suspends once for any other number. -/
def Continuation.unlessZero : Continuation Unit Nat Nat TaskError where
  refusal := fun value =>
    if value = 0 then some { message := "zero" } else none
  build := fun value => .suspendThen 1 (value + 4)

/--
Completing at once makes no difference in front of a continuation that does not
refuse the value, and none behind a coroutine that has not completed.
-/
theorem combinator_laws_of_immediate :
    ((Coroutine.suspendThen 0 3).andThen .unlessZero).Equivalent
        (.suspendThen 1 7) ∧
      (Coroutine.stumbling.andThen .immediate).outcomes
          (fun _ (_ : Unit) => none) 4 () =
        some
          ((),
            [.ok .suspended, .error { message := "lost" },
              .ok (.failed .notFound), .ok (.completed 3)]) := by
  have accepted : Continuation.unlessZero.refusal 3 = none := rfl
  have resumed :
      Coroutine.stumbling.resumeTimes (fun _ (_ : Unit) => none) 3 () =
        some
          ((), _,
            [.ok .suspended, .error { message := "lost" },
              .ok (.failed .notFound)]) :=
    rfl
  refine ⟨combinator_laws.immediate_andThen 3 .unlessZero accepted, ?_⟩
  rw [combinator_laws.andThen_immediate resumed rfl]
  rfl

end RoundRobin
