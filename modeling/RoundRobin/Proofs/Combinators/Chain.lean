import RoundRobin.Coroutine.Combinators
import RoundRobin.Coroutine.Routine
import RoundRobin.Proofs.Combinators.Calls
import RoundRobin.Proofs.Combinators.Equivalence

namespace RoundRobin

/-!
# What a chain passes on

As long as the first coroutine of a chain has not completed, resuming the chain
is resuming that coroutine, whose suspensions, failures and panics are passed
on. In the resumption in which it completes, the second coroutine is built from
its value and started, and from then on the chain is that coroutine. If the
value is refused by a panic, the first coroutine stays in place for good and
its completions are answered with suspensions.
-/

/-- A result of the first coroutine as a chain gives it that has nothing to go on with. -/
def relay : Guarded (Outcome α ε) → Guarded (Outcome β ε)
  | .error panic => .error panic
  | .ok .suspended => .ok .suspended
  | .ok (.completed _) => .ok .suspended
  | .ok (.failed error) => .ok (.failed error)

/-- What is no completion is passed on as a suspension only if it is one. -/
theorem eq_suspended_of_relay
    {result : Guarded (Outcome α ε)}
    (uncompleted : completedValue? result = none)
    (suspended :
      (relay result : Guarded (Outcome β ε)) = .ok .suspended) :
    result = .ok .suspended := by
  rcases result with panic | _ | value | error
  · cases suspended
  · rfl
  · cases uncompleted
  · cases suspended

namespace Coroutine

/-- A chain whose first coroutine is in place; its builder may have been used in vain. -/
def chained
    (first : Coroutine κ α ε)
    (second : Continuation κ α β ε)
    (builderUsed : Bool) :
    Coroutine κ β ε :=
  { first.andThen second with state := .first first.state builderUsed }

/-- A chain in which the second coroutine is in place, in the given state. -/
def succeeded
    (first : Coroutine κ α ε)
    (second : Continuation κ α β ε)
    (value : α)
    (state : (second.build value).State) :
    Coroutine κ β ε :=
  { first.andThen second with state := .second value state }

/-- How a chain goes on does not depend on where its first coroutine stood at the start. -/
theorem advance_andThen_at
    (first : Coroutine κ α ε)
    (second : Continuation κ α β ε)
    (state : first.State) :
    ({ first with state := state }.andThen second).advance =
      (first.andThen second).advance := by
  funext stage
  cases stage with
  | first _ _ => rfl
  | second _ _ => rfl

theorem chained_at
    (first : Coroutine κ α ε)
    (second : Continuation κ α β ε)
    (builderUsed : Bool)
    (state : first.State) :
    { first with state := state }.chained second builderUsed =
      { first.andThen second with state := .first state builderUsed } := by
  exact congrArg (Coroutine.mk _ _) (first.advance_andThen_at second state)

theorem succeeded_at
    (first : Coroutine κ α ε)
    (second : Continuation κ α β ε)
    (value : α)
    (state : first.State)
    (started : (second.build value).State) :
    { first with state := state }.succeeded second value started =
      { first.andThen second with state := .second value started } := by
  exact congrArg (Coroutine.mk _ _) (first.advance_andThen_at second state)

/-- Where its first coroutine does not complete, a chain passes on the result. -/
theorem resume_chained
    (first : Coroutine κ α ε)
    (second : Continuation κ α β ε)
    (builderUsed : Bool) :
    (first.chained second builderUsed).resume =
      first.resume.bind fun (first', result) =>
        match result with
        | .ok (.completed value) =>
            if builderUsed then
              .done (first'.chained second true, .ok .suspended)
            else
              match second.refusal value with
              | some panic =>
                  .done (first'.chained second true, .error panic)
              | none =>
                  ((second.build value).advance
                      (second.build value).state).map
                    fun (started, result) =>
                      (first'.succeeded second value started, result)
        | result => .done (first'.chained second builderUsed, relay result) := by
  let before := first.advance first.state
  refine (Activity.bind_assoc before _ _).trans ?_
  refine .trans ?_ (Activity.bind_assoc before _ _).symm
  congr 1
  funext ended
  obtain ⟨state, result⟩ := ended
  have stays (used : Bool) (given : Guarded (Outcome β ε)) :
      Activity.done
          ({ first.andThen second with state := .first state used }, given) =
        (Activity.done
          ({ first with state := state }.chained second used, given) :
          Activity κ _) := by
    rw [chained_at]
  rcases result with panic | _ | value | error
  · exact stays builderUsed _
  · exact stays builderUsed _
  · cases builderUsed
    · simp only [Activity.bind_done, Bool.false_eq_true, ↓reduceIte]
      cases second.refusal value with
      | some panic => exact stays true _
      | none =>
          simp only [succeeded_at]
          exact Activity.bind_assoc _ _ _
    · exact stays true _
  · exact stays builderUsed _

section Driven

variable
  {ω : Type v}
  {answer : (request : Request κ) → ω → Option (ω × request.Reply)}
  {first first' first'' : Coroutine κ α ε}
  {state state' state'' : ω}

/-- What is no completion is passed on, and the first coroutine stays in place. -/
theorem conduct_chained
    (second : Continuation κ α β ε)
    (builderUsed : Bool)
    {result : Guarded (Outcome α ε)}
    (resumed :
      first.resume.conduct answer state = some (state', first', result))
    (uncompleted : completedValue? result = none) :
    (first.chained second builderUsed).resume.conduct answer state =
      some (state', first'.chained second builderUsed, relay result) := by
  rw [resume_chained, Activity.conduct_bind, resumed]
  rcases result with panic | _ | value | error
  · rfl
  · rfl
  · cases uncompleted
  · rfl

/-- A chain passes on what its first coroutine gives as long as that does not complete. -/
theorem resumeTimes_chained
    (second : Continuation κ α β ε)
    (builderUsed : Bool)
    {times : Nat}
    {results : List (Guarded (Outcome α ε))}
    (resumed :
      first.resumeTimes answer times state =
        some (state', first', results))
    (uncompleted : results.filterMap completedValue? = []) :
    (first.chained second builderUsed).resumeTimes answer times state =
      some
        (state', first'.chained second builderUsed,
          results.map relay) := by
  -- None of the results is a completion, so each resumption finds the first in place.
  induction times generalizing first state results with
  | zero =>
      simp only [resumeTimes, Option.some.injEq, Prod.mk.injEq] at resumed
      obtain ⟨rfl, rfl, rfl⟩ := resumed
      rfl
  | succ times inductionHypothesis =>
      obtain ⟨middle, between, result, rest, conducted, later, rfl⟩ :=
        exists_first_of_resumeTimes resumed
      rw [List.filterMap_eq_nil_iff, List.forall_mem_cons] at uncompleted
      have once :=
        conduct_chained second builderUsed conducted uncompleted.1
      have others :=
        inductionHypothesis later
          (List.filterMap_eq_nil_iff.mpr uncompleted.2)
      exact resumeTimes_cons once others

/-- A value that is refused leaves the first coroutine in place, the builder being used. -/
theorem conduct_andThen_of_refused
    {second : Continuation κ α β ε}
    {value : α}
    {panic : Panic}
    (completed :
      first.resume.conduct answer state =
        some (state', first', .ok (.completed value)))
    (refused : second.refusal value = some panic) :
    (first.andThen second).resume.conduct answer state =
      some (state', first'.chained second true, .error panic) := by
  change (first.chained second false).resume.conduct answer state = _
  rw [resume_chained, Activity.conduct_bind, completed]
  simp only [Bool.false_eq_true, ↓reduceIte, refused]
  rfl

/-- Once its builder has been used in vain, a chain never gets past its first coroutine. -/
theorem resumeTimes_chained_true
    (times : Nat)
    (first : Coroutine κ α ε)
    (second : Continuation κ α β ε)
    (state : ω) :
    (first.chained second true).resumeTimes answer times state =
      (first.resumeTimes answer times state).map
        fun (state', first', results) =>
          (state', first'.chained second true, results.map relay) := by
  apply resumeTimes_of_resume answer
    (fun first => first.chained second true) relay
  intro first
  rw [resume_chained, Activity.map]
  congr 1
  funext ended
  rcases ended with ⟨first', panic | _ | value | error⟩
  all_goals rfl

end Driven

/-- A chain past its first coroutine is its second one. -/
theorem succeeded_simulates
    (first : Coroutine κ α ε)
    (second : Continuation κ α β ε)
    (value : α)
    (state : (second.build value).State) :
    (first.succeeded second value state).Simulates
      { second.build value with state := state } := by
  refine ⟨fun stage state => stage = .second value state, rfl, ?_⟩
  rintro _ state rfl
  have related :
      Activity.Like
        (fun reached reached' =>
          reached.2 = reached'.2 ∧ reached.1 = .second value reached'.1)
        ((first.andThen second).advance (.second value state))
        (((second.build value).advance state).bind .done) :=
    .bind_same fun _ => .done ⟨rfl, rfl⟩
  rwa [Activity.bind_pure] at related

/-- In the resumption in which its first coroutine completes, a chain starts its second. -/
theorem outcomes_andThen_of_completed
    {ω : Type}
    {answer : (request : Request κ) → ω → Option (ω × request.Reply)}
    {first first' : Coroutine κ α ε}
    {second : Continuation κ α β ε}
    {state state' : ω}
    {value : α}
    (completed :
      first.resume.conduct answer state =
        some (state', first', .ok (.completed value)))
    (accepted : second.refusal value = none)
    (more : Nat) :
    (first.andThen second).outcomes answer (more + 1) state =
      (second.build value).outcomes answer (more + 1) state' := by
  change (first.chained second false).outcomes answer _ state = _
  rw [outcomes_succ, outcomes_succ, resume_chained, Activity.conduct_bind,
    completed]
  simp only [Bool.false_eq_true, ↓reduceIte, accepted, resume,
    Activity.conduct_map]
  rcases (second.build value).advance (second.build value).state
      |>.conduct answer state' with _ | ⟨middle, started, result⟩
  · rfl
  · have goesOn :=
      (first'.succeeded_simulates second value started).equivalent answer
        more middle
    simp only [Option.map_some, Option.bind_some, goesOn]

section Outcomes

variable
  {ω : Type}
  {answer : (request : Request κ) → ω → Option (ω × request.Reply)}
  {first first' first'' : Coroutine κ α ε}
  {second : Continuation κ α β ε}
  {times : Nat}
  {state state' state'' : ω}
  {results : List (Guarded (Outcome α ε))}
  {value : α}

/-- What a chain passes on before its first coroutine completes comes before all else. -/
theorem outcomes_andThen_add
    (resumed :
      first.resumeTimes answer times state = some (state', first', results))
    (uncompleted : results.filterMap completedValue? = [])
    (more : Nat) :
    (first.andThen second).outcomes answer (times + more) state =
      ((first'.andThen second).outcomes answer more state').map
        (preceded (results.map relay)) := by
  have passed := resumeTimes_chained second false resumed uncompleted
  change (first.chained second false).outcomes answer _ state = _
  rw [outcomes_add, passed]
  rfl

/-- Once its builder has been used in vain, a chain gives what its first coroutine gives. -/
theorem outcomes_chained_true (more : Nat) :
    (first.chained second true).outcomes answer more state =
      (first.outcomes answer more state).map
        fun (final, later) => (final, later.map relay) := by
  unfold outcomes
  rw [resumeTimes_chained_true]
  simp only [Option.map_map]
  rfl

/-- If the builder panics, so does the chain, which then stays with its first coroutine. -/
theorem outcomes_andThen_of_refused
    {panic : Panic}
    (completed :
      first.resume.conduct answer state =
        some (state', first', .ok (.completed value)))
    (refused : second.refusal value = some panic)
    (more : Nat) :
    (first.andThen second).outcomes answer (more + 1) state =
      (first'.outcomes answer more state').map
        fun (final, later) => (final, .error panic :: later.map relay) := by
  rw [outcomes_succ, conduct_andThen_of_refused completed refused]
  simp only [Option.bind_some, outcomes_chained_true, Option.map_map]
  rfl

/-- If the last of several resumptions completes a coroutine, it was resumed before. -/
theorem exists_completion
    {earlier : List (Guarded (Outcome α ε))}
    (gave :
      first.outcomes answer (times + 1) state =
        some (state'', earlier ++ [.ok (.completed value)])) :
    ∃ state' first' first'',
      first.resumeTimes answer times state = some (state', first', earlier) ∧
        first'.resume.conduct answer state' =
          some (state'', first'', .ok (.completed value)) := by
  rw [outcomes_add] at gave
  rcases resumed : first.resumeTimes answer times state with
    _ | ⟨state', first', results⟩
  · simp [resumed] at gave
  simp only [resumed, Option.bind_some] at gave
  rw [outcomes_succ] at gave
  rcases conducted : first'.resume.conduct answer state' with
    _ | ⟨reached, first'', result⟩
  · simp [conducted] at gave
  simp only [conducted, Option.bind_some, outcomes, resumeTimes,
    Option.map_some, preceded, List.append_nil, Option.some.injEq,
    Prod.mk.injEq] at gave
  obtain ⟨rfl, same⟩ := gave
  obtain ⟨rfl, ends⟩ := List.append_inj' same rfl
  cases ends
  exact ⟨state', first', first'', rfl, conducted⟩

/-- The suspensions of the coroutines of a chain add up to those of the chain. -/
theorem outcomes_andThen_of_suspensions
    {suspensions suspensions' : Nat}
    {ending : Guarded (Outcome β ε)}
    (gave :
      first.outcomes answer (suspensions + 1) state =
        some
          (state',
            List.replicate suspensions (.ok .suspended) ++
              [.ok (.completed value)]))
    (accepted : second.refusal value = none)
    (gave' :
      (second.build value).outcomes answer (suspensions' + 1) state' =
        some
          (state'',
            List.replicate suspensions' (.ok .suspended) ++ [ending])) :
    (first.andThen second).outcomes answer
        (suspensions + (suspensions' + 1)) state =
      some
        (state'',
          List.replicate (suspensions + suspensions') (.ok .suspended) ++
            [ending]) := by
  obtain ⟨middle, first', first'', resumed, completed⟩ := exists_completion gave
  have uncompleted :
      (List.replicate suspensions
          (.ok .suspended : Guarded (Outcome α ε))).filterMap
        completedValue? = [] := by
    rw [List.filterMap_eq_nil_iff]
    intro result member
    rw [List.eq_of_mem_replicate member]
    rfl
  rw [outcomes_andThen_add resumed uncompleted,
    outcomes_andThen_of_completed completed accepted, gave']
  simp only [Option.map_some, preceded, List.map_replicate, relay,
    ← List.append_assoc, List.replicate_append_replicate]

end Outcomes

/--
A chain that is resumed otherwise once its builder has been used in vain, which
is where its answer could come from neither of its coroutines.
-/
def andThenOr
    (first : Coroutine κ α ε)
    (second : Continuation κ α β ε)
    (otherwise :
      first.State →
        Activity κ
          ((first.andThen second).State × Guarded (Outcome β ε))) :
    Coroutine κ β ε where
  State := Stage first.State fun value => (second.build value).State
  state := .first first.state false
  advance := fun stage =>
    match stage with
    | .first state true => otherwise state
    | stage => (first.andThen second).advance stage

/-- The stages of two chains are the same, and no builder has been used in vain. -/
inductive Intact
    (first : Coroutine κ α ε)
    (second : Continuation κ α β ε) :
    Stage first.State (fun value => (second.build value).State) →
    Stage first.State (fun value => (second.build value).State) →
    Prop where
  | first (state : first.State) :
      Intact first second (.first state false) (.first state false)
  | second (value : α) (state : (second.build value).State) :
      Intact first second (.second value state) (.second value state)

/-- A builder that refuses no value is never used in vain. -/
theorem equivalent_andThenOr
    (first : Coroutine κ α ε)
    {second : Continuation κ α β ε}
    (accepting : ∀ value, second.refusal value = none)
    (otherwise :
      first.State →
        Activity κ
          ((first.andThen second).State × Guarded (Outcome β ε))) :
    (first.andThen second).Equivalent
      (first.andThenOr second otherwise) := by
  suffices
      bisimilar :
        (first.andThen second).Bisimilar
          (first.andThenOr second otherwise) (Intact first second) from
    bisimilar.equivalent
  refine ⟨.first _, ?_⟩
  rintro _ _ (⟨state⟩ | ⟨value, state⟩)
  · apply Activity.Like.bind_same
    rintro ⟨reached, panic | _ | value | error⟩
    · exact .done ⟨rfl, .first _⟩
    · exact .done ⟨rfl, .first _⟩
    · simp only [Bool.false_eq_true, ↓reduceIte, accepting]
      exact Activity.Like.bind_same fun _ => .done ⟨rfl, .second _ _⟩
    · exact .done ⟨rfl, .first _⟩
  · exact Activity.Like.bind_same fun _ => .done ⟨rfl, .second _ _⟩

end Coroutine

/--
A chain does nothing of its own: first it is its first coroutine, and from the
first completion of that on it is the coroutine built from the value, unless the
builder panics.
-/
structure Coroutine.Delegates
    (first : Coroutine κ α ε)
    (second : Continuation κ α β ε) :
    Prop where
  /--
  As long as the first coroutine has not completed, a resumption of the chain is
  one of the first coroutine, and its result is passed on as it is. The builder
  has not been used.
  -/
  before :
    ∀ {ω : Type}
      {answer : (request : Request κ) → ω → Option (ω × request.Reply)}
      {times : Nat}
      {state state' : ω}
      {first' : Coroutine κ α ε}
      {results : List (Guarded (Outcome α ε))},
      first.resumeTimes answer times state =
        some (state', first', results) →
      results.filterMap completedValue? = [] →
      (first.andThen second).resumeTimes answer times state =
          some (state', first'.andThen second, results.map relay) ∧
        ∀ result ∈ results,
          (relay result : Guarded (Outcome β ε)) = .ok .suspended →
          result = .ok .suspended
  /--
  When the first coroutine then completes, the one that is built from its value
  is resumed in the same resumption, and everything that comes of this and of
  any further resumption is what comes of resuming that coroutine from its
  beginning, in the surroundings that the completion left.
  -/
  after :
    ∀ {ω : Type}
      {answer : (request : Request κ) → ω → Option (ω × request.Reply)}
      {times : Nat}
      {state state' state'' : ω}
      {first' first'' : Coroutine κ α ε}
      {results : List (Guarded (Outcome α ε))}
      {value : α},
      first.resumeTimes answer times state =
        some (state', first', results) →
      results.filterMap completedValue? = [] →
      first'.resume.conduct answer state' =
        some (state'', first'', .ok (.completed value)) →
      second.refusal value = none →
      ∀ more,
        (first.andThen second).outcomes answer (times + (more + 1)) state =
          ((second.build value).outcomes answer (more + 1) state'').map
            (preceded (results.map relay))
  /--
  When the builder panics instead, so does the resumption. Every later one is a
  resumption of the first coroutine, whose result is passed on, but for its
  completions, which are answered with suspensions. The builder is not used
  again.
  -/
  afterRefusal :
    ∀ {ω : Type}
      {answer : (request : Request κ) → ω → Option (ω × request.Reply)}
      {times : Nat}
      {state state' state'' : ω}
      {first' first'' : Coroutine κ α ε}
      {results : List (Guarded (Outcome α ε))}
      {value : α}
      {panic : Panic},
      first.resumeTimes answer times state =
        some (state', first', results) →
      results.filterMap completedValue? = [] →
      first'.resume.conduct answer state' =
        some (state'', first'', .ok (.completed value)) →
      second.refusal value = some panic →
      ∀ more,
        (first.andThen second).outcomes answer (times + (more + 1)) state =
          (first''.outcomes answer more state'').map
            fun (final, later) =>
              (final,
                results.map relay ++ .error panic :: later.map relay)
  /-- The suspensions of a chain are those of its coroutines. -/
  suspensions :
    ∀ {ω : Type}
      {answer : (request : Request κ) → ω → Option (ω × request.Reply)}
      {suspensions suspensions' : Nat}
      {state state' state'' : ω}
      {value : α}
      {ending : Guarded (Outcome β ε)},
      first.outcomes answer (suspensions + 1) state =
        some
          (state',
            List.replicate suspensions (.ok .suspended) ++
              [.ok (.completed value)]) →
      second.refusal value = none →
      (second.build value).outcomes answer (suspensions' + 1) state' =
        some
          (state'',
            List.replicate suspensions' (.ok .suspended) ++ [ending]) →
      (first.andThen second).outcomes answer
          (suspensions + (suspensions' + 1)) state =
        some
          (state'',
            List.replicate (suspensions + suspensions') (.ok .suspended) ++
              [ending])
  /--
  If the builder never panics, no resumption is answered by the chain itself:
  it would make no difference if it were answered otherwise.
  -/
  never :
    (∀ value, second.refusal value = none) →
    ∀ otherwise,
      (first.andThen second).Equivalent (first.andThenOr second otherwise)

/-- Every chain delegates, whatever its coroutines do and however often it is resumed. -/
theorem chain_delegates
    (first : Coroutine κ α ε)
    (second : Continuation κ α β ε) :
    first.Delegates second where
  before := by
    intro ω answer times state state' first' results resumed uncompleted
    refine
      ⟨Coroutine.resumeTimes_chained second false resumed uncompleted, ?_⟩
    intro result member
    exact
      eq_suspended_of_relay
        (List.filterMap_eq_nil_iff.mp uncompleted result member)
  after := by
    intro ω answer times state state' state'' first' first'' results value
      resumed uncompleted completed accepted more
    rw [Coroutine.outcomes_andThen_add resumed uncompleted,
      Coroutine.outcomes_andThen_of_completed completed accepted]
  afterRefusal := by
    intro ω answer times state state' state'' first' first'' results value
      panic resumed uncompleted completed refused more
    rw [Coroutine.outcomes_andThen_add resumed uncompleted,
      Coroutine.outcomes_andThen_of_refused completed refused, Option.map_map]
    rfl
  suspensions := Coroutine.outcomes_andThen_of_suspensions
  never := first.equivalent_andThenOr

/-- Two suspensions of the first coroutine and one of the second. -/
theorem chain_delegates_suspensions :
    ((Coroutine.suspendThen 2 3 : Coroutine Unit Nat TaskError).andThen
          { refusal := fun _ => none
            build := fun value => .suspendThen 1 (value + 4) }).outcomes
        (fun _ (_ : Unit) => none) 4 () =
      some
        ((),
          [.ok .suspended, .ok .suspended, .ok .suspended,
            .ok (.completed 7)]) := by
  have outcomes :
      (Coroutine.suspendThen 2 3 : Coroutine Unit Nat TaskError).outcomes
          (fun _ (_ : Unit) => none) (2 + 1) () =
        some
          ((),
            List.replicate 2 (.ok .suspended) ++ [.ok (.completed 3)]) :=
    rfl
  have outcomes' :
      (Coroutine.suspendThen 1 7 : Coroutine Unit Nat TaskError).outcomes
          (fun _ (_ : Unit) => none) (1 + 1) () =
        some
          ((),
            List.replicate 1 (.ok .suspended) ++ [.ok (.completed 7)]) :=
    rfl
  exact
    (chain_delegates _
        { refusal := fun _ => none
          build := fun value => .suspendThen 1 (value + 4) }).suspensions
      outcomes rfl outcomes'

end RoundRobin
