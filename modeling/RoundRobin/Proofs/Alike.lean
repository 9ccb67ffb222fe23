import Mathlib.Tactic.Choose
import RoundRobin.Coroutine.Collect
import RoundRobin.Coroutine.Combinators
import RoundRobin.Coroutine.Sleep

namespace RoundRobin

/-!
# Coroutines that nobody can tell apart

Two activities are like each other if they make the same requests, whatever the
replies, and end in related results. Two coroutines are alike if they behave
alike for as long as they suspend: each resumption makes the same requests and
ends in the same result, up to and including the first result that is no
suspension. What either would do after that does not matter. Combining alike
coroutines by the combinators makes alike coroutines.
-/

namespace Activity

/-- The same requests, whatever the replies, and related results in the end. -/
inductive Like
    (related : ρ → τ → Prop) :
    Activity κ ρ →
    Activity κ τ →
    Prop where
  | done
      {result : ρ}
      {result' : τ}
      (ends : related result result') :
      Like related (.done result) (.done result')
  | ask
      {request : Request κ}
      {next : request.Reply → Activity κ ρ}
      {next' : request.Reply → Activity κ τ}
      (later : ∀ reply, Like related (next reply) (next' reply)) :
      Like related (.ask request next) (.ask request next')

namespace Like

variable
  {related : ρ → τ → Prop}
  {activity : Activity κ ρ}
  {activity' : Activity κ τ}

/-- Going on alike from related results is going on alike. -/
theorem bind
    {further : ρ' → τ' → Prop}
    (like : Like related activity activity')
    {next : ρ → Activity κ ρ'}
    {next' : τ → Activity κ τ'}
    (later :
      ∀ result result',
        related result result' →
        Like further (next result) (next' result')) :
    Like further (activity.bind next) (activity'.bind next') := by
  induction like with
  | done ends => exact later _ _ ends
  | ask _ inductionHypothesis => exact .ask inductionHypothesis

/-- Transforming related results into related ones keeps activities alike. -/
theorem map
    {further : ρ' → τ' → Prop}
    (like : Like related activity activity')
    {transform : ρ → ρ'}
    {transform' : τ → τ'}
    (later :
      ∀ result result',
        related result result' →
        further (transform result) (transform' result')) :
    Like further (activity.map transform) (activity'.map transform') :=
  like.bind fun result result' ends => .done (later result result' ends)

/-- Every activity is like itself. -/
theorem refl
    {related : ρ → ρ → Prop}
    (reflexive : ∀ result, related result result)
    (activity : Activity κ ρ) :
    Like related activity activity := by
  induction activity with
  | done result => exact .done (reflexive result)
  | ask _ _ inductionHypothesis => exact .ask inductionHypothesis

/-- Transforming the results of the second only may keep activities alike. -/
theorem map_right
    {further : ρ → υ → Prop}
    (like : Like related activity activity')
    {transform : τ → υ}
    (later :
      ∀ result result',
        related result result' →
        further result (transform result')) :
    Like further activity (activity'.map transform) := by
  induction like with
  | done ends => exact .done (later _ _ ends)
  | ask _ inductionHypothesis => exact .ask inductionHypothesis

theorem symm (like : Like related activity activity') :
    Like (flip related) activity' activity := by
  induction like with
  | done ends => exact .done ends
  | ask _ inductionHypothesis => exact .ask inductionHypothesis

theorem mono
    {weaker : ρ → τ → Prop}
    (like : Like related activity activity')
    (implies :
      ∀ result result', related result result' → weaker result result') :
    Like weaker activity activity' := by
  induction like with
  | done ends => exact .done (implies _ _ ends)
  | ask _ inductionHypothesis => exact .ask inductionHypothesis

end Like

end Activity

/-- The same results, and related states as long as these are suspensions. -/
def Advanced
    (states : σ → τ → Prop)
    (reached : σ × Guarded (Outcome α ε))
    (reached' : τ × Guarded (Outcome α ε)) :
    Prop :=
  reached.2 = reached'.2 ∧
    (reached.2 = .ok .suspended → states reached.1 reached'.1)

/-- After the same result that is no suspension the states do not matter. -/
theorem Advanced.ended
    {states : σ → τ → Prop}
    {result : Guarded (Outcome α ε)}
    (ends : result ≠ .ok .suspended)
    (state : σ)
    (state' : τ) :
    Advanced states (state, result) (state', result) :=
  ⟨rfl, fun suspended => (ends suspended).elim⟩

theorem Advanced.suspended
    {states : σ → τ → Prop}
    {state : σ}
    {state' : τ}
    (related : states state state') :
    Advanced states (state, (.ok .suspended : Guarded (Outcome α ε)))
      (state', .ok .suspended) :=
  ⟨rfl, fun _ => related⟩

/-- A call whose value ends a coroutine does not suspend it, even if it panics. -/
theorem map_ne_suspended
    {ending : ι → Outcome α ε}
    (ends : ∀ value, ending value ≠ .suspended)
    (called : Guarded ι) :
    called.map ending ≠ .ok .suspended := by
  rcases called with panic | value
  · simp [Except.map]
  · simpa [Except.map] using ends value

/--
Two chains stand alike. Neither has used its builder in vain: then it would
have panicked.
-/
inductive Stage.Alike
    {σ σ' : Type}
    {τ τ' : α → Type}
    (firsts : σ → σ' → Prop)
    (seconds : ∀ value, τ value → τ' value → Prop) :
    Stage σ τ →
    Stage σ' τ' →
    Prop where
  | first
      {state : σ}
      {state' : σ'}
      (related : firsts state state') :
      Alike firsts seconds (.first state false) (.first state' false)
  | second
      {value : α}
      {state : τ value}
      {state' : τ' value}
      (related : seconds value state state') :
      Alike firsts seconds (.second value state) (.second value state')

/--
Two collections stand alike that differ in the judges which their makers
return.
-/
inductive Collection.Alike
    {items : Source α}
    {σ : Type}
    {initial : σ}
    {call : σ → α → σ × Option Panic}
    {judge judge' : σ → α → Coroutine κ Bool ε}
    (judges :
      ∀ memory item,
        (judge memory item).State →
        (judge' memory item).State →
        Prop) :
    Collection items (.mk σ initial call judge) →
    Collection items (.mk σ initial call judge') →
    Prop where
  | idle
      {place : items.State}
      {memory : σ}
      {accepted : List α} :
      Alike judges ⟨place, memory, none, accepted⟩
        ⟨place, memory, none, accepted⟩
  | judging
      {place : items.State}
      {memory made : σ}
      {item : α}
      {state : (judge made item).State}
      {state' : (judge' made item).State}
      {accepted : List α}
      (related : judges made item state state') :
      Alike judges ⟨place, memory, some ⟨made, item, state⟩, accepted⟩
        ⟨place, memory, some ⟨made, item, state'⟩, accepted⟩

/-- Two repetitions stand alike whose sleeps do. -/
inductive Repetition.Alike
    (sleeps : σ → τ → Prop) :
    Repetition σ →
    Repetition τ →
    Prop where
  | awake
      {remaining emitted : Nat} :
      Alike sleeps ⟨remaining, emitted, none⟩ ⟨remaining, emitted, none⟩
  | asleep
      {remaining emitted : Nat}
      {state : σ}
      {state' : τ}
      (related : sleeps state state') :
      Alike sleeps ⟨remaining, emitted, some state⟩
        ⟨remaining, emitted, some state'⟩

namespace Coroutine

/--
From related states the coroutines make the same requests and have the same
results. As long as these are suspensions, their states stay related.
-/
structure Alike
    (coroutine coroutine' : Coroutine κ α ε)
    (states : coroutine.State → coroutine'.State → Prop) :
    Prop where
  initial : states coroutine.state coroutine'.state
  advance :
    ∀ {state : coroutine.State} {state' : coroutine'.State},
      states state state' →
      (coroutine.advance state).Like (Advanced states)
        (coroutine'.advance state')

namespace Alike

variable
  {coroutine coroutine' : Coroutine κ α ε}
  {states : coroutine.State → coroutine'.State → Prop}

theorem refl (coroutine : Coroutine κ α ε) :
    coroutine.Alike coroutine Eq := by
  refine ⟨rfl, ?_⟩
  rintro state _ rfl
  exact .refl (fun _ => ⟨rfl, fun _ => rfl⟩) _

/-- Transforming values keeps coroutines alike. -/
theorem map
    (alike : coroutine.Alike coroutine' states)
    (transform : Procedure α β) :
    (coroutine.map transform).Alike (coroutine'.map transform)
      fun (state, memory) (state', memory') =>
        states state state' ∧ memory = memory' := by
  refine ⟨⟨alike.initial, rfl⟩, ?_⟩
  rintro ⟨state, memory⟩ ⟨state', _⟩ ⟨related, rfl⟩
  apply (alike.advance related).map
  rintro ⟨reached, result⟩ ⟨reached', _⟩ ⟨rfl, goesOn⟩
  rcases result with panic | _ | value | error
  · exact .ended (by simp) _ _
  · exact .suspended ⟨goesOn rfl, rfl⟩
  · exact .ended (map_ne_suspended (by simp) _) _ _
  · exact .ended (by simp) _ _

/-- Transforming errors keeps coroutines alike. -/
theorem mapError
    (alike : coroutine.Alike coroutine' states)
    (transform : Procedure ε φ) :
    (coroutine.mapError transform).Alike (coroutine'.mapError transform)
      fun (state, memory) (state', memory') =>
        states state state' ∧ memory = memory' := by
  refine ⟨⟨alike.initial, rfl⟩, ?_⟩
  rintro ⟨state, memory⟩ ⟨state', _⟩ ⟨related, rfl⟩
  apply (alike.advance related).map
  rintro ⟨reached, result⟩ ⟨reached', _⟩ ⟨rfl, goesOn⟩
  rcases result with panic | _ | value | error
  · exact .ended (by simp) _ _
  · exact .suspended ⟨goesOn rfl, rfl⟩
  · exact .ended (by simp) _ _
  · exact .ended (map_ne_suspended (by simp) _) _ _

/--
Chaining alike coroutines makes alike chains, if what is built from a value is
alike, and refused for the same values.
-/
theorem andThen
    (alike : coroutine.Alike coroutine' states)
    {refusal : α → Option Panic}
    {build build' : α → Coroutine κ β ε}
    {seconds :
      ∀ value, (build value).State → (build' value).State → Prop}
    (built :
      ∀ value, (build value).Alike (build' value) (seconds value)) :
    (coroutine.andThen ⟨refusal, build⟩).Alike
      (coroutine'.andThen ⟨refusal, build'⟩)
      (Stage.Alike states seconds) := by
  refine ⟨.first alike.initial, ?_⟩
  rintro _ _ (⟨related⟩ | ⟨related⟩)
  · apply (alike.advance related).bind
    rintro ⟨reached, result⟩ ⟨reached', _⟩ ⟨rfl, goesOn⟩
    rcases result with panic | _ | value | error
    · exact .done (.ended (by simp) _ _)
    · exact .done (.suspended (.first (goesOn rfl)))
    · simp only [Bool.false_eq_true, ↓reduceIte]
      cases refusal value with
      | some panic => exact .done (.ended (by simp) _ _)
      | none =>
          apply ((built value).advance (built value).initial).map
          rintro started started' ⟨same, goesOn⟩
          exact ⟨same, fun suspended => .second (goesOn suspended)⟩
    · exact .done (.ended (by simp) _ _)
  · apply ((built _).advance related).map
    rintro reached reached' ⟨same, goesOn⟩
    exact ⟨same, fun suspended => .second (goesOn suspended)⟩

section Judges

variable
  {items : Source α}
  {σ : Type}
  {initial : σ}
  {call : σ → α → σ × Option Panic}
  {judge judge' : σ → α → Coroutine κ Bool ε}
  {judges :
    ∀ memory item,
      (judge memory item).State →
      (judge' memory item).State →
      Prop}

/-- Alike judges, in collections that have set the item aside, judge alike. -/
theorem judgement
    (alike :
      ∀ memory item,
        (judge memory item).Alike (judge' memory item)
          (judges memory item))
    {collection : Collection items (.mk σ initial call judge)}
    {collection' : Collection items (.mk σ initial call judge')}
    (idle : collection.Alike judges collection')
    (vacant : collection.pending = none)
    {made : σ}
    {item : α}
    {state : (judge made item).State}
    {state' : (judge' made item).State}
    (related : judges made item state state') :
    (collection.judge ⟨made, item, state⟩).Like
      (Advanced (Collection.Alike judges))
      (collection'.judge ⟨made, item, state'⟩) := by
  cases idle with
  | judging => cases vacant
  | idle =>
      apply ((alike made item).advance related).map
      rintro ⟨reached, result⟩ ⟨reached', _⟩ ⟨rfl, goesOn⟩
      rcases result with panic | _ | verdict | error
      · exact .ended (by simp) _ _
      · exact .suspended (.judging (goesOn rfl))
      · cases verdict
        · exact .suspended .idle
        · exact .suspended .idle
      · exact .ended (by simp) _ _

/-- Collections are alike if the judges are that their makers return. -/
theorem collect
    (items : Source α)
    (initial : σ)
    (call : σ → α → σ × Option Panic)
    (alike :
      ∀ memory item,
        (judge memory item).Alike (judge' memory item)
          (judges memory item)) :
    (Coroutine.collect items (.mk σ initial call judge)).Alike
      (Coroutine.collect items (.mk σ initial call judge'))
      (Collection.Alike judges) := by
  refine ⟨.idle, ?_⟩
  rintro _ _ (⟨⟩ | ⟨related⟩)
  · rename_i place memory accepted
    simp only [Coroutine.collect, Collection.advance]
    rcases items.pull place with ⟨place', _ | item⟩
    · exact .done (.ended (by simp) _ _)
    · dsimp only
      rcases call memory item with ⟨memory', _ | panic⟩
      · exact judgement alike .idle rfl (alike memory item).initial
      · exact .done (.ended (by simp) _ _)
  · exact judgement alike .idle rfl related

end Judges

section Repeating

variable
  {sleep sleep' : Coroutine κ Unit TaskError}
  {sleeps : sleep.State → sleep'.State → Prop}

/-- Alike sleeps are waited for alike. -/
theorem afterWaiting
    (alike : sleep.Alike sleep' sleeps)
    {repetition : Repetition sleep.State}
    {repetition' : Repetition sleep'.State}
    (related : repetition.Alike sleeps repetition')
    {next :
      Activity κ
        (Repetition sleep.State × Guarded (Outcome Nat TaskError))}
    {next' :
      Activity κ
        (Repetition sleep'.State × Guarded (Outcome Nat TaskError))}
    (later : next.Like (Advanced (Repetition.Alike sleeps)) next') :
    (repetition.afterWaiting sleep next).Like
      (Advanced (Repetition.Alike sleeps))
      (repetition'.afterWaiting sleep' next') := by
  cases related with
  | awake => exact later
  | asleep related =>
      apply (alike.advance related).bind
      rintro ⟨reached, result⟩ ⟨reached', _⟩ ⟨rfl, goesOn⟩
      rcases result with panic | _ | ⟨⟩ | error
      · exact .done (.ended (by simp) _ _)
      · exact .done (.suspended (.asleep (goesOn rfl)))
      · exact later
      · exact .done (.ended (by simp) _ _)

/-- The loop goes alike from alike sleeps, and sleeps alike in the end. -/
theorem repetition
    (alike : sleep.Alike sleep' sleeps)
    (message : String)
    {remaining emitted : Nat}
    {waiting : Option sleep.State}
    {waiting' : Option sleep'.State}
    (related :
      Repetition.Alike sleeps ⟨remaining, emitted, waiting⟩
        ⟨remaining, emitted, waiting'⟩) :
    (Repetition.advance sleep message remaining emitted waiting).Like
      (Advanced (Repetition.Alike sleeps))
      (Repetition.advance sleep' message remaining emitted
        waiting') := by
  -- The loop comes round once for each message that is still to be logged.
  induction remaining generalizing emitted waiting waiting' with
  | zero =>
      apply alike.afterWaiting related
      exact .done (.ended (by simp) _ _)
  | succ remaining inductionHypothesis =>
      apply alike.afterWaiting related
      exact .ask fun _ => inductionHypothesis (.asleep alike.initial)

/-- Messages are repeated alike between alike sleeps. -/
theorem repeatBetween
    (alike : sleep.Alike sleep' sleeps)
    (message : String)
    (times : Nat) :
    (Coroutine.repeatBetween sleep message times).Alike
      (Coroutine.repeatBetween sleep' message times)
      (Repetition.Alike sleeps) := by
  refine ⟨.awake, ?_⟩
  rintro _ _ (⟨⟩ | ⟨related⟩)
  · exact alike.repetition message .awake
  · exact alike.repetition message (.asleep related)

end Repeating

end Alike

end Coroutine

end RoundRobin
