import RoundRobin.Coroutine.Solo

namespace RoundRobin.Coroutine

/-!
# Resuming on and on

Nothing stops whoever drives a coroutine from resuming it when it has ended or
panicked, and it then goes on from the state that it was left in. What many
resumptions give is put together from what fewer give. Where it is known for
each turn what the coroutine has become by then, a run of any length is known.
-/

variable
  {ω : Type v}
  {answer : (request : Request κ) → ω → Option (ω × request.Reply)}

/-- The first resumption comes before the others. -/
theorem resumeTimes_succ
    (answer : (request : Request κ) → ω → Option (ω × request.Reply))
    (times : Nat)
    (coroutine : Coroutine κ α ε)
    (state : ω) :
    coroutine.resumeTimes answer (times + 1) state =
      (coroutine.resume.conduct answer state).bind
        fun (state', coroutine', result) =>
          (coroutine'.resumeTimes answer times state').map
            fun (state'', coroutine'', results) =>
              (state'', coroutine'', result :: results) := by
  rw [resumeTimes]
  rcases coroutine.resume.conduct answer state with
    _ | ⟨state', coroutine', result⟩
  · rfl
  · simp only [Option.bind_some]
    cases coroutine'.resumeTimes answer times state' with
    | none => rfl
    | some later => rfl

/-- Some resumptions and then others are all of them. -/
theorem resumeTimes_add
    (answer : (request : Request κ) → ω → Option (ω × request.Reply))
    (times more : Nat)
    (coroutine : Coroutine κ α ε)
    (state : ω) :
    coroutine.resumeTimes answer (times + more) state =
      (coroutine.resumeTimes answer times state).bind
        fun (state', coroutine', results) =>
          (coroutine'.resumeTimes answer more state').map
            fun (state'', coroutine'', later) =>
              (state'', coroutine'', results ++ later) := by
  induction times generalizing coroutine state with
  | zero =>
      rw [Nat.zero_add]
      exact (congrFun Option.map_id _).symm
  | succ times inductionHypothesis =>
      rw [Nat.succ_add, resumeTimes_succ, resumeTimes_succ,
        Option.bind_assoc]
      congr 1
      funext ⟨state', coroutine', result⟩
      simp only [inductionHypothesis, Option.map_bind, Option.bind_map,
        Function.comp_def, Option.map_map]
      rfl

/-- A single resumption. -/
theorem resumeTimes_one
    (answer : (request : Request κ) → ω → Option (ω × request.Reply))
    (coroutine : Coroutine κ α ε)
    (state : ω) :
    coroutine.resumeTimes answer 1 state =
      (coroutine.resume.conduct answer state).map
        fun (state', coroutine', result) => (state', coroutine', [result]) := by
  rw [resumeTimes_succ, Option.map_eq_bind]
  rfl

/-- Further resumptions give further results. -/
theorem resumeTimes_append
    {coroutine coroutine' coroutine'' : Coroutine κ α ε}
    {times more : Nat}
    {state state' state'' : ω}
    {results later : List (Guarded (Outcome α ε))}
    (resumed :
      coroutine.resumeTimes answer times state =
        some (state', coroutine', results))
    (resumedOn :
      coroutine'.resumeTimes answer more state' =
        some (state'', coroutine'', later)) :
    coroutine.resumeTimes answer (times + more) state =
      some (state'', coroutine'', results ++ later) := by
  simp only [resumeTimes_add, resumed, Option.bind_some, resumedOn,
    Option.map_some]

/-- One more resumption gives one more result. -/
theorem resumeTimes_concat
    {coroutine coroutine' coroutine'' : Coroutine κ α ε}
    {times : Nat}
    {state state' state'' : ω}
    {results : List (Guarded (Outcome α ε))}
    {result : Guarded (Outcome α ε)}
    (resumed :
      coroutine.resumeTimes answer times state =
        some (state', coroutine', results))
    (last :
      coroutine'.resume.conduct answer state' =
        some (state'', coroutine'', result)) :
    coroutine.resumeTimes answer (times + 1) state =
      some (state'', coroutine'', results ++ [result]) := by
  apply resumeTimes_append resumed
  rw [resumeTimes_one, last]
  rfl

section

variable
  {coroutine coroutine'' : Coroutine κ α ε}
  {times : Nat}
  {state state'' : ω}

/-- The first of the resumptions leaves a coroutine to the others. -/
theorem exists_first_of_resumeTimes
    {results : List (Guarded (Outcome α ε))}
    (resumed :
      coroutine.resumeTimes answer (times + 1) state =
        some (state'', coroutine'', results)) :
    ∃ state' coroutine' result later,
      coroutine.resume.conduct answer state =
          some (state', coroutine', result) ∧
        coroutine'.resumeTimes answer times state' =
          some (state'', coroutine'', later) ∧
        results = result :: later := by
  rw [resumeTimes_succ, Option.bind_eq_some_iff] at resumed
  obtain ⟨⟨state', coroutine', result⟩, first, resumed⟩ := resumed
  obtain ⟨⟨_, _, later⟩, others, same⟩ := Option.map_eq_some_iff.mp resumed
  cases same
  exact ⟨state', coroutine', result, later, first, others, rfl⟩

/-- The last of the resumptions is one of the coroutine that the others left. -/
theorem exists_last_of_resumeTimes
    {results : List (Guarded (Outcome α ε))}
    (resumed :
      coroutine.resumeTimes answer (times + 1) state =
        some (state'', coroutine'', results)) :
    ∃ state' coroutine' earlier result,
      coroutine.resumeTimes answer times state =
          some (state', coroutine', earlier) ∧
        coroutine'.resume.conduct answer state' =
          some (state'', coroutine'', result) ∧
        results = earlier ++ [result] := by
  rw [resumeTimes_add, Option.bind_eq_some_iff] at resumed
  obtain ⟨⟨state', coroutine', earlier⟩, others, resumed⟩ := resumed
  simp only [resumeTimes_one, Option.map_map] at resumed
  obtain ⟨⟨_, _, result⟩, last, same⟩ := Option.map_eq_some_iff.mp resumed
  cases same
  exact ⟨state', coroutine', earlier, result, others, last, rfl⟩

/-- A resumption and then others are all of them. -/
theorem resumeTimes_cons
    {coroutine' : Coroutine κ α ε}
    {state' : ω}
    {result : Guarded (Outcome α ε)}
    {later : List (Guarded (Outcome α ε))}
    (first :
      coroutine.resume.conduct answer state =
        some (state', coroutine', result))
    (others :
      coroutine'.resumeTimes answer times state' =
        some (state'', coroutine'', later)) :
    coroutine.resumeTimes answer (times + 1) state =
      some (state'', coroutine'', result :: later) := by
  simp only [resumeTimes_succ, first, Option.bind_some, others,
    Option.map_some]

end

/--
Where it is known how the coroutine and its surroundings stand before each turn,
so is what the turns give.
-/
theorem resumeTimes_of_stages
    (stages : Nat → Coroutine κ α ε)
    (states : Nat → ω)
    {results : Nat → Guarded (Outcome α ε)}
    {times : Nat}
    (passes :
      ∀ turn < times,
        (stages turn).resume.conduct answer (states turn) =
          some (states (turn + 1), stages (turn + 1), results turn)) :
    (stages 0).resumeTimes answer times (states 0) =
      some (states times, stages times, (List.range times).map results) := by
  induction times with
  | zero => rfl
  | succ times inductionHypothesis =>
      have earlier :=
        inductionHypothesis fun turn before =>
          passes turn (Nat.lt_succ_of_lt before)
      rw [List.range_succ, List.map_append, List.map_singleton]
      exact resumeTimes_concat earlier (passes times (Nat.lt_succ_self times))

end RoundRobin.Coroutine
