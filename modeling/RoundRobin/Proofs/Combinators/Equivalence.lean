import RoundRobin.Proofs.Activity
import RoundRobin.Proofs.Alike
import RoundRobin.Proofs.Resumption.Basic

namespace RoundRobin

/-!
# Coroutines with the same outcomes

Two coroutines are equivalent if, however often they are resumed and whatever is
replied to them, they give the same results and bring their surroundings to the
same state. Unlike for coroutines that are merely alike, what happens after an
ending or after a panic counts as well. Coroutines are equivalent if their
states can be related so that related states stay related in every resumption.
-/

/-- Like activities are carried through alike. -/
theorem Activity.Like.conduct
    {related : ρ → τ → Prop}
    {activity : Activity κ ρ}
    {activity' : Activity κ τ}
    (like : Like related activity activity')
    (answer : (request : Request κ) → ω → Option (ω × request.Reply))
    (state : ω) :
    Option.Rel
      (fun reached reached' =>
        reached.1 = reached'.1 ∧ related reached.2 reached'.2)
      (activity.conduct answer state)
      (activity'.conduct answer state) := by
  induction like generalizing state with
  | done ends => exact .some ⟨rfl, ends⟩
  | @ask request _ _ _ inductionHypothesis =>
      simp only [Activity.conduct]
      cases answer request state with
      | none => exact .none
      | some replied => exact inductionHypothesis replied.2 replied.1

/-- Going on alike from the same result is going on alike. -/
theorem Activity.Like.bind_same
    {activity : Activity κ ρ}
    {related : τ → υ → Prop}
    {next : ρ → Activity κ τ}
    {next' : ρ → Activity κ υ}
    (later : ∀ result, Like related (next result) (next' result)) :
    Like related (activity.bind next) (activity.bind next') := by
  have same : Like Eq activity activity := refl (fun _ => rfl) activity
  apply same.bind
  rintro result _ rfl
  exact later result

namespace Coroutine

/--
What comes of resuming a coroutine a number of times: the surroundings in the
end, and the results.
-/
def outcomes
    (answer : (request : Request κ) → ω → Option (ω × request.Reply))
    (times : Nat)
    (coroutine : Coroutine κ α ε)
    (state : ω) :
    Option (ω × List (Guarded (Outcome α ε))) :=
  (coroutine.resumeTimes answer times state).map
    fun (state', _, results) => (state', results)

/-- Put earlier results in front of what comes of later resumptions. -/
def preceded
    (earlier : List (Guarded (Outcome α ε))) :
    ω × List (Guarded (Outcome α ε)) →
    ω × List (Guarded (Outcome α ε)) :=
  fun (state, results) => (state, earlier ++ results)

/-- The first of several resumptions comes before the others. -/
theorem outcomes_succ
    (answer : (request : Request κ) → ω → Option (ω × request.Reply))
    (times : Nat)
    (coroutine : Coroutine κ α ε)
    (state : ω) :
    coroutine.outcomes answer (times + 1) state =
      (coroutine.resume.conduct answer state).bind
        fun (state', coroutine', result) =>
          (coroutine'.outcomes answer times state').map (preceded [result]) := by
  rw [outcomes, resumeTimes_succ, Option.map_bind]
  congr 1
  funext ⟨state', coroutine', result⟩
  simp only [Function.comp_apply, outcomes, Option.map_map]
  rfl

/-- Some resumptions, and then others, are all of them. -/
theorem outcomes_add
    (answer : (request : Request κ) → ω → Option (ω × request.Reply))
    (times more : Nat)
    (coroutine : Coroutine κ α ε)
    (state : ω) :
    coroutine.outcomes answer (times + more) state =
      (coroutine.resumeTimes answer times state).bind
        fun (state', coroutine', results) =>
          (coroutine'.outcomes answer more state').map
            (preceded results) := by
  rw [outcomes, resumeTimes_add, Option.map_bind]
  congr 1
  funext ⟨state', coroutine', results⟩
  simp only [Function.comp_apply, outcomes, Option.map_map]
  rfl

/--
Where a resumption of the changed coroutine is one of the coroutine itself, with
the result converted, so are several.
-/
theorem resumeTimes_of_resume
    {ω : Type v}
    (answer : (request : Request κ) → ω → Option (ω × request.Reply))
    (change : Coroutine κ α ε → Coroutine κ β φ)
    (convert : Guarded (Outcome α ε) → Guarded (Outcome β φ))
    (once :
      ∀ coroutine,
        (change coroutine).resume =
          coroutine.resume.map fun (coroutine', result) =>
            (change coroutine', convert result))
    (times : Nat)
    (coroutine : Coroutine κ α ε)
    (state : ω) :
    (change coroutine).resumeTimes answer times state =
      (coroutine.resumeTimes answer times state).map
        fun (state', coroutine', results) =>
          (state', change coroutine', results.map convert) := by
  induction times generalizing coroutine state with
  | zero => rfl
  | succ times inductionHypothesis =>
      rw [resumeTimes_succ, resumeTimes_succ, once, Activity.conduct_map,
        Option.bind_map, Option.map_bind]
      congr 1
      funext ⟨state', coroutine', result⟩
      simp only [Function.comp_apply, inductionHypothesis, Option.map_map]
      rfl

/-- However often they are resumed, no surroundings can tell the coroutines apart. -/
def Equivalent (coroutine coroutine' : Coroutine κ α ε) : Prop :=
  ∀ ⦃ω : Type⦄
    (answer : (request : Request κ) → ω → Option (ω × request.Reply))
    (times : Nat)
    (state : ω),
    coroutine.outcomes answer times state =
      coroutine'.outcomes answer times state

/-- From related states come the same requests, the same result and related states. -/
structure Bisimilar
    (coroutine coroutine' : Coroutine κ α ε)
    (states : coroutine.State → coroutine'.State → Prop) :
    Prop where
  initial : states coroutine.state coroutine'.state
  advance :
    ∀ {state : coroutine.State} {state' : coroutine'.State},
      states state state' →
      (coroutine.advance state).Like
        (fun reached reached' =>
          reached.2 = reached'.2 ∧ states reached.1 reached'.1)
        (coroutine'.advance state')

/-- The states of the coroutines can be related. -/
def Simulates (coroutine coroutine' : Coroutine κ α ε) : Prop :=
  ∃ states, coroutine.Bisimilar coroutine' states

variable {coroutine coroutine' coroutine'' : Coroutine κ α ε}

/-- Resumed once, coroutines with related states give the same result and are such again. -/
theorem Simulates.resume (simulates : coroutine.Simulates coroutine') :
    coroutine.resume.Like
      (fun reached reached' =>
        reached.2 = reached'.2 ∧ reached.1.Simulates reached'.1)
      coroutine'.resume := by
  obtain ⟨states, bisimilar⟩ := simulates
  apply (bisimilar.advance bisimilar.initial).map
  rintro ⟨reached, result⟩ ⟨reached', _⟩ ⟨rfl, related⟩
  exact ⟨rfl, states, related, bisimilar.advance⟩

/-- Coroutines whose states can be related are equivalent. -/
theorem Simulates.equivalent (simulates : coroutine.Simulates coroutine') :
    coroutine.Equivalent coroutine' := by
  intro ω answer times state
  -- Each resumption leaves other coroutines behind, whose states are related again.
  induction times generalizing coroutine coroutine' state with
  | zero => rfl
  | succ times inductionHypothesis =>
      rw [outcomes_succ, outcomes_succ]
      have carried := simulates.resume.conduct answer state
      revert carried
      generalize coroutine.resume.conduct answer state = first
      generalize coroutine'.resume.conduct answer state = first'
      rintro (@⟨⟨state', _, result⟩, ⟨_, _, _⟩, rfl, rfl, again⟩ | ⟨⟩)
      · simp only [Option.bind_some, inductionHypothesis again]
      · rfl

/-- A relation that resumptions preserve makes coroutines equivalent. -/
theorem Bisimilar.equivalent
    {states : coroutine.State → coroutine'.State → Prop}
    (bisimilar : coroutine.Bisimilar coroutine' states) :
    coroutine.Equivalent coroutine' :=
  Simulates.equivalent ⟨states, bisimilar⟩

namespace Equivalent

theorem trans
    (first : coroutine.Equivalent coroutine')
    (second : coroutine'.Equivalent coroutine'') :
    coroutine.Equivalent coroutine'' :=
  fun _ answer times state =>
    (first answer times state).trans (second answer times state)

end Equivalent

end Coroutine

end RoundRobin
