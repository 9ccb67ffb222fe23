import Mathlib.Logic.Function.Iterate
import RoundRobin.Proofs.Activity
import RoundRobin.Proofs.Resumption.Basic

namespace RoundRobin.Coroutine

/-!
# What a coroutine can give when it is resumed

`Reaches` collects what resuming a coroutine again and again can give, whatever
is replied to it meanwhile; driving it alone gives one of these. A coroutine is
`Described` by a sequence of results if there is no choice: a coroutine that
shares no state with others is, since it makes nothing of the replies.
-/

/-- Resumed once for each result, the coroutine can come to be as given. -/
inductive Reaches :
    Coroutine κ α ε →
    List (Guarded (Outcome α ε)) →
    Coroutine κ α ε →
    Prop where
  | nil
      (coroutine : Coroutine κ α ε) :
      Reaches coroutine [] coroutine
  | snoc
      {initial middle final : Coroutine κ α ε}
      {results : List (Guarded (Outcome α ε))}
      {result : Guarded (Outcome α ε)}
      (earlier : Reaches initial results middle)
      (ends : middle.resume.Ends (final, result)) :
      Reaches initial (results ++ [result]) final

/-- A resumption may also be put in front. -/
theorem Reaches.cons
    {initial middle final : Coroutine κ α ε}
    {result : Guarded (Outcome α ε)}
    {results : List (Guarded (Outcome α ε))}
    (ends : initial.resume.Ends (middle, result))
    (later : Reaches middle results final) :
    Reaches initial (result :: results) final := by
  induction later with
  | nil =>
      exact .snoc (.nil initial) ends
  | snoc _ last inductionHypothesis =>
      rw [← List.cons_append]
      exact .snoc inductionHypothesis last

/-- Whatever is replied to it, the coroutine gives the results of the sequence in turn. -/
def Described
    (coroutine : Coroutine κ α ε)
    (results : Nat → Guarded (Outcome α ε)) :
    Prop :=
  ∀ seen coroutine',
    coroutine.Reaches seen coroutine' →
    seen = (List.range seen.length).map results

variable
  {ω : Type v}
  {answer : (request : Request κ) → ω → Option (ω × request.Reply)}

/-- A coroutine that is driven alone gives what it can give. -/
theorem reaches_of_resumeTimes
    {times : Nat}
    {coroutine coroutine' : Coroutine κ α ε}
    {state state' : ω}
    {results : List (Guarded (Outcome α ε))}
    (resumed :
      coroutine.resumeTimes answer times state =
        some (state', coroutine', results)) :
    coroutine.Reaches results coroutine' ∧ results.length = times := by
  induction times generalizing coroutine state results with
  | zero =>
      simp only [resumeTimes, Option.some.injEq, Prod.mk.injEq] at resumed
      obtain ⟨-, rfl, rfl⟩ := resumed
      exact ⟨.nil coroutine, rfl⟩
  | succ times inductionHypothesis =>
      obtain ⟨_, _, _, _, conducted, later, rfl⟩ :=
        exists_first_of_resumeTimes resumed
      obtain ⟨reaches, length⟩ := inductionHypothesis later
      exact
        ⟨.cons (Activity.ends_of_conduct conducted) reaches,
          congrArg (· + 1) length⟩

/-- Where every request is answered, a coroutine can be driven alone. -/
theorem resumeTimes_isSome
    (answers : ∀ request state, (answer request state).isSome)
    (times : Nat)
    (coroutine : Coroutine κ α ε)
    (state : ω) :
    (coroutine.resumeTimes answer times state).isSome := by
  induction times generalizing coroutine state with
  | zero => rfl
  | succ times inductionHypothesis =>
      obtain ⟨⟨middle, after, result⟩, conducted⟩ :=
        Option.isSome_iff_exists.mp
          (Activity.conduct_isSome
            (fun request state _ => answers request state)
            coroutine.resume.asksOnly_any state)
      obtain ⟨⟨_, _, _⟩, later⟩ :=
        Option.isSome_iff_exists.mp (inductionHypothesis after middle)
      rw [resumeTimes_cons conducted later]
      rfl

/-- What is described is what a solo drive of any length gives. -/
theorem Described.resumeTimes_eq
    {coroutine : Coroutine κ α ε}
    {results : Nat → Guarded (Outcome α ε)}
    (described : coroutine.Described results)
    (answers : ∀ request state, (answer request state).isSome)
    (times : Nat)
    (state : ω) :
    ∃ state' coroutine',
      coroutine.resumeTimes answer times state =
        some (state', coroutine', (List.range times).map results) := by
  obtain ⟨⟨state', coroutine', seen⟩, resumed⟩ :=
    Option.isSome_iff_exists.mp
      (resumeTimes_isSome answers times coroutine state)
  obtain ⟨reaches, length⟩ := reaches_of_resumeTimes resumed
  have same : seen = (List.range times).map results := by
    rw [← length]
    exact described seen coroutine' reaches
  exact ⟨state', coroutine', same ▸ resumed⟩

/--
A coroutine each resumption of which is a function of its own state is
described by the iterates of that function.
-/
theorem described_of_advance
    {coroutine : Coroutine κ α ε}
    (step : coroutine.State → coroutine.State × Guarded (Outcome α ε))
    (alone :
      ∀ state ended,
        (coroutine.advance state).Ends ended →
        ended = step state) :
    coroutine.Described fun turn =>
      (step ((fun state => (step state).1)^[turn] coroutine.state)).2 := by
  intro seen coroutine' reaches
  -- Besides the results, the state reached is followed.
  suffices followed :
      coroutine' =
          { coroutine with
            state :=
              (fun state => (step state).1)^[seen.length]
                coroutine.state } ∧
        seen =
          (List.range seen.length).map fun turn =>
            (step
              ((fun state => (step state).1)^[turn]
                coroutine.state)).2 by
    exact followed.2
  induction reaches with
  | nil =>
      exact ⟨rfl, rfl⟩
  | snoc _ ends inductionHypothesis =>
      obtain ⟨reached, gave⟩ := inductionHypothesis
      subst reached
      obtain ⟨ended, ending, same⟩ := Activity.ends_map.mp ends
      rw [alone _ ended ending] at same
      cases same
      refine ⟨?_, ?_⟩
      · simp [Function.iterate_succ_apply']
      · simp only [List.length_append, List.length_singleton,
          List.range_succ, List.map_append, List.map_singleton]
        exact congrArg (· ++ _) gave

/-- Without requests, there are no replies that could matter. -/
theorem described_ofStep
    (State : Type)
    (state : State)
    (step : State → State × Guarded (Outcome α ε)) :
    (ofStep State state step : Coroutine κ α ε).Described fun turn =>
      (step ((fun current => (step current).1)^[turn] state)).2 :=
  @described_of_advance _ _ _ (ofStep State state step) step
    fun _ _ ends => Activity.ends_done.mp ends

/-- The coroutine that gives the results of a sequence in turn. -/
def ofResults
    (results : Nat → Guarded (Outcome α ε)) :
    Coroutine κ α ε :=
  ofStep Nat 0 fun turn => (turn + 1, results turn)

/-- Every sequence of results describes a coroutine. -/
theorem described_ofResults
    (results : Nat → Guarded (Outcome α ε)) :
    (ofResults results : Coroutine κ α ε).Described results := by
  have counted (turn : Nat) :
      (fun current : Nat => current + 1)^[turn] 0 = turn := by
    induction turn with
    | zero => rfl
    | succ turn inductionHypothesis =>
        rw [Function.iterate_succ_apply', inductionHypothesis]
  have described :
      (ofResults results : Coroutine κ α ε).Described fun turn =>
        results ((fun current : Nat => current + 1)^[turn] 0) :=
    described_ofStep Nat 0 fun turn => (turn + 1, results turn)
  simpa only [counted] using described

end RoundRobin.Coroutine
