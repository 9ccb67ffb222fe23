import RoundRobin.Coroutine.Solo

namespace RoundRobin

/-!
# What an activity can end in

An activity branches with every reply. `Ends` collects the results at the ends
of its branches, whatever the replies: carrying an activity through in any
surroundings takes it to one of them. An activity that drives no scheduler
along any branch is carried through wherever the other requests are answered.
-/

namespace Activity

/-- Some replies take the activity to the result. -/
inductive Ends : Activity κ ρ → ρ → Prop where
  | done
      (result : ρ) :
      Ends (.done result) result
  | ask
      {request : Request κ}
      {next : request.Reply → Activity κ ρ}
      {result : ρ}
      (reply : request.Reply)
      (later : Ends (next reply) result) :
      Ends (.ask request next) result

/-- A finished activity ends in its result alone. -/
@[simp] theorem ends_done
    {result reached : ρ} :
    (done result : Activity κ ρ).Ends reached ↔ reached = result := by
  constructor
  · intro ends
    cases ends
    rfl
  · intro same
    subst same
    exact .done reached

/-- A sequence of activities ends where the second can from an end of the first. -/
theorem ends_bind
    {activity : Activity κ ρ}
    {next : ρ → Activity κ τ}
    {reached : τ} :
    (activity.bind next).Ends reached ↔
      ∃ result, activity.Ends result ∧ (next result).Ends reached := by
  constructor
  · intro ends
    induction activity with
    | done result =>
        exact ⟨result, .done result, ends⟩
    | ask request reply inductionHypothesis =>
        cases ends with
        | ask answer later =>
            obtain ⟨result, inner, rest⟩ :=
              inductionHypothesis answer later
            exact ⟨result, .ask answer inner, rest⟩
  · rintro ⟨result, ends, rest⟩
    induction ends with
    | done result =>
        exact rest
    | ask reply later inductionHypothesis =>
        exact .ask reply (inductionHypothesis rest)

/-- A transformed activity ends in the transformed results. -/
theorem ends_map
    {transform : ρ → τ}
    {activity : Activity κ ρ}
    {reached : τ} :
    (activity.map transform).Ends reached ↔
      ∃ result, activity.Ends result ∧ reached = transform result := by
  unfold map
  simp only [ends_bind, ends_done]

/-- Results that are transformed twice are transformed by the composition. -/
theorem map_map
    (activity : Activity κ ρ)
    (first : ρ → τ)
    (second : τ → υ) :
    (activity.map first).map second =
      activity.map fun result => second (first result) := by
  unfold map
  rw [bind_assoc]
  rfl

/-- Transforming the result commutes with carrying through. -/
theorem conduct_map
    (answer : (request : Request κ) → ω → Option (ω × request.Reply))
    (transform : ρ → τ)
    (activity : Activity κ ρ)
    (state : ω) :
    (activity.map transform).conduct answer state =
      (activity.conduct answer state).map fun (reached, result) =>
        (reached, transform result) := by
  rw [map, conduct_bind]
  cases activity.conduct answer state with
  | none => rfl
  | some pair => rfl

/-- Carrying an activity through takes it to one of its ends. -/
theorem ends_of_conduct
    {answer : (request : Request κ) → ω → Option (ω × request.Reply)}
    {activity : Activity κ ρ}
    {state reached : ω}
    {result : ρ}
    (conducted :
      activity.conduct answer state = some (reached, result)) :
    activity.Ends result := by
  induction activity generalizing state with
  | done value =>
      simp only [conduct, Option.some.injEq, Prod.mk.injEq] at conducted
      rw [← conducted.2]
      exact .done value
  | ask request next inductionHypothesis =>
      simp only [conduct] at conducted
      cases answered : answer request state with
      | none => simp [answered] at conducted
      | some pair =>
          simp only [answered] at conducted
          exact .ask pair.2 (inductionHypothesis pair.2 conducted)

/-- Whatever the replies, the activity makes none but the allowed requests. -/
inductive AsksOnly (allowed : Request κ → Prop) :
    Activity κ ρ →
    Prop where
  | done
      (result : ρ) :
      AsksOnly allowed (.done result)
  | ask
      {request : Request κ}
      {next : request.Reply → Activity κ ρ}
      (asked : allowed request)
      (later : ∀ reply, AsksOnly allowed (next reply)) :
      AsksOnly allowed (.ask request next)

theorem asksOnly_any (activity : Activity κ ρ) :
    activity.AsksOnly fun _ => True := by
  induction activity with
  | done result =>
      exact .done result
  | ask request next inductionHypothesis =>
      exact .ask trivial inductionHypothesis

/-- Where the requests it makes are answered, an activity is carried through. -/
theorem conduct_isSome
    {allowed : Request κ → Prop}
    {answer : (request : Request κ) → ω → Option (ω × request.Reply)}
    (answers :
      ∀ request state,
        allowed request →
        (answer request state).isSome)
    {activity : Activity κ ρ}
    (asks : activity.AsksOnly allowed)
    (state : ω) :
    (activity.conduct answer state).isSome := by
  induction asks generalizing state with
  | done result => rfl
  | @ask request next asked later inductionHypothesis =>
      obtain ⟨⟨reached, reply⟩, answered⟩ :=
        Option.isSome_iff_exists.mp (answers request state asked)
      simp only [conduct, answered]
      exact inductionHypothesis reply reached

end Activity

/-- The request is not to drive a scheduler. -/
def Request.DrivesNone (request : Request κ) : Prop :=
  (∀ number, request ≠ .step number) ∧
    ∀ number, request ≠ .drain number

end RoundRobin
