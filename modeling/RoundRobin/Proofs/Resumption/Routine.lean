import RoundRobin.Coroutine.Routine
import RoundRobin.Proofs.Combinators.Calls
import RoundRobin.Proofs.Resumption.Basic

namespace RoundRobin

/-!
# Routines enforce empty suspensions

Each resumption of a routine is one step of its generator, until a step returns,
raises or yields a payload. That step ends the routine in the same resumption.
From then on the generator is left alone and every resumption is answered with
the same violation. A step that panics ends nothing: the generator takes its next
step in the next resumption.
-/

namespace GeneratorStep

variable [Payload π]

/-- What a step of its generator amounts to for a routine. -/
def outcome [OfViolation ε] : GeneratorStep π α ε → Outcome α ε
  | yielded payload =>
      if Payload.isEmpty payload then .suspended
      else
        .failed
          (OfViolation.ofViolation
            (.nonEmptySuspension (Payload.describe payload)))
  | returned value => .completed value
  | raised error => .failed error

/-- The violation that a step is which yields a payload. -/
def violation? : GeneratorStep π α ε → Option ProtocolViolation
  | yielded payload =>
      if Payload.isEmpty payload then none
      else some (.nonEmptySuspension (Payload.describe payload))
  | _ => none

/-- The step returns, raises or yields a payload that is not empty. -/
def Ends : GeneratorStep π α ε → Prop
  | yielded payload => ¬ Payload.isEmpty payload
  | returned _ => True
  | raised _ => True

/-- The steps that end a routine are those that it answers with an ending. -/
theorem isTerminal_outcome_iff
    [OfViolation ε]
    {step : GeneratorStep π α ε} :
    step.outcome.isTerminal ↔ step.Ends := by
  cases step with
  | yielded payload =>
      simp only [outcome, Ends]
      split
      · next empty => simp [empty, Outcome.isTerminal]
      · next carries => simp [carries, Outcome.isTerminal]
  | returned value => exact iff_of_true rfl trivial
  | raised error => exact iff_of_true rfl trivial

/-- A routine suspends at the payloads that are empty and at no other step. -/
theorem outcome_eq_suspended_iff
    [OfViolation ε]
    {step : GeneratorStep π α ε} :
    step.outcome = .suspended ↔
      ∃ payload, step = .yielded payload ∧ Payload.isEmpty payload := by
  cases step with
  | yielded payload =>
      simp only [outcome, yielded.injEq, exists_eq_left']
      split
      · next empty => simp [empty]
      · next carries => simp [carries]
  | returned value => simp [outcome]
  | raised error => simp [outcome]

theorem outcome_of_violation?
    [OfViolation ε]
    {step : GeneratorStep π α ε}
    {violation : ProtocolViolation}
    (violates : step.violation? = some violation) :
    step.outcome = .failed (OfViolation.ofViolation violation) := by
  cases step with
  | yielded payload =>
      simp only [violation?] at violates
      split at violates
      · cases violates
      · next carries =>
          cases violates
          simp only [outcome, carries, Bool.false_eq_true, ↓reduceIte]
  | returned value => cases violates
  | raised error => cases violates

end GeneratorStep

namespace Generator

/-- The generator as it is after a number of steps. -/
def after (generator : Generator π α ε) : (steps : Nat) → Generator π α ε
  | 0 => generator
  | steps + 1 => (generator.after steps).called ()

/-- What a step of the generator gives; the steps are numbered from zero. -/
def stepAt
    (generator : Generator π α ε)
    (turn : Nat) :
    Guarded (GeneratorStep π α ε) :=
  (generator.after turn).gives ()

variable [Payload π]

/-- What a routine answers in the resumption in which its generator takes the step. -/
def answerAt
    [OfViolation ε]
    (generator : Generator π α ε)
    (turn : Nat) :
    Guarded (Outcome α ε) :=
  (generator.stepAt turn).map GeneratorStep.outcome

/-- The step does not panic, and it ends a routine. -/
def EndsAt
    (generator : Generator π α ε)
    (turn : Nat) :
    Prop :=
  ∃ step, generator.stepAt turn = .ok step ∧ step.Ends

/-- The violation that a step of the generator is, if it is one. -/
def violationAt?
    (generator : Generator π α ε)
    (turn : Nat) :
    Option ProtocolViolation :=
  (generator.stepAt turn).toOption.bind GeneratorStep.violation?

theorem answerAt_eq_suspended_iff
    [OfViolation ε]
    {generator : Generator π α ε}
    {turn : Nat} :
    generator.answerAt turn = .ok .suspended ↔
      ∃ payload,
        generator.stepAt turn = .ok (.yielded payload) ∧
          Payload.isEmpty payload := by
  rw [answerAt]
  cases generator.stepAt turn with
  | error panic => simp [Except.map]
  | ok step =>
      simpa [Except.map] using GeneratorStep.outcome_eq_suspended_iff

/-- No step at which a generator pauses ends a routine. -/
theorem not_endsAt_of_pause
    {generator : Generator Unit α ε}
    {turn : Nat}
    (pause : generator.stepAt turn = .ok (.yielded ())) :
    ¬ generator.EndsAt turn := by
  rintro ⟨step, stepped, ends⟩
  rw [pause] at stepped
  cases stepped
  exact ends rfl

end Generator

/-- Nothing is reported, or else the violation, as an error. -/
def Reported
    (answer : (request : Request κ) → ω → Option (ω × request.Reply))
    (violation? : Option ProtocolViolation)
    (state state' : ω) :
    Prop :=
  match violation? with
  | none => state' = state
  | some violation =>
      answer (.announce .error violation.message) state =
        some (state', ())

namespace Coroutine

section

variable [Payload π] [OfViolation ε]

/-- A routine whose generator stands as given and that may have terminated. -/
def routineAt
    (generator : Generator π α ε)
    (terminated : Bool) :
    Coroutine κ α ε :=
  { routine generator with
    state :=
      { generator := generator.state
        terminated := terminated } }

/-- A routine that has not terminated steps its generator, whatever that may give. -/
theorem advance_routine
    (generator : Generator π α ε)
    (memory : generator.State) :
    (routine generator : Coroutine κ α ε).advance ⟨memory, false⟩ =
      match (generator.call memory ()).2 with
      | .error panic =>
          .done (⟨(generator.call memory ()).1, false⟩, .error panic)
      | .ok step =>
          match step.violation? with
          | none =>
              .done
                (⟨(generator.call memory ()).1, step.outcome.isTerminal⟩,
                  .ok step.outcome)
          | some violation =>
              .ask (.announce .error violation.message) fun _ =>
                .done
                  (⟨(generator.call memory ()).1, true⟩,
                    .ok step.outcome) := by
  simp only [routine, Bool.false_eq_true, ↓reduceIte]
  rcases generator.call memory () with
    ⟨memory, panic | payload | value | error⟩
  · rfl
  · simp only [GeneratorStep.violation?, GeneratorStep.outcome]
    by_cases empty : Payload.isEmpty payload
    · simp only [empty, ↓reduceIte]
      rfl
    · simp only [empty, ↓reduceIte, Bool.false_eq_true]
  · rfl
  · rfl

/-- How a routine goes on does not depend on where its generator stood at the start. -/
theorem advance_routine_called (generator : Generator π α ε) :
    (routine (generator.called ()) : Coroutine κ α ε).advance =
      (routine generator).advance := by
  funext ⟨memory, terminated⟩
  cases terminated with
  | false =>
      exact
        (advance_routine (generator.called ()) memory).trans
          (advance_routine generator memory).symm
  | true => rfl

theorem routineAt_called
    (generator : Generator π α ε)
    (terminated : Bool) :
    (routineAt (generator.called ()) terminated :
        Coroutine κ α ε) =
      { routine generator with
        state :=
          { generator := (generator.call generator.state ()).1
            terminated := terminated } } :=
  congrArg (Coroutine.mk _ _) (advance_routine_called generator)

/-- A resumption of a routine that has not terminated is a step of its generator. -/
theorem resume_routineAt (generator : Generator π α ε) :
    (routineAt generator false : Coroutine κ α ε).resume =
      match generator.gives () with
      | .error panic =>
          .done (routineAt (generator.called ()) false, .error panic)
      | .ok step =>
          match step.violation? with
          | none =>
              .done
                (routineAt (generator.called ()) step.outcome.isTerminal,
                  .ok step.outcome)
          | some violation =>
              .ask (.announce .error violation.message) fun _ =>
                .done
                  (routineAt (generator.called ()) true,
                    .ok step.outcome) := by
  change ((routine generator).advance ⟨generator.state, false⟩).map _ = _
  simp only [advance_routine, routineAt_called, Procedure.gives]
  split
  · rfl
  · split
    · rfl
    · rfl

end

section Driven

variable
  [Payload π]
  [OfViolation ε]
  {ω : Type v}
  {answer : (request : Request κ) → ω → Option (ω × request.Reply)}
  {generator : Generator π α ε}
  {turn times last : Nat}
  {state state' : ω}

/-- A step that does not end the routine is all that there is to a resumption. -/
theorem conduct_routineAt_of_not_endsAt
    (goesOn : ¬ generator.EndsAt turn)
    (state : ω) :
    (routineAt (generator.after turn) false).resume.conduct answer state =
      some
        (state, routineAt (generator.after (turn + 1)) false,
          generator.answerAt turn) := by
  rw [resume_routineAt, Generator.answerAt, Generator.stepAt]
  unfold Generator.EndsAt Generator.stepAt at goesOn
  cases stepped : (generator.after turn).gives () with
  | error panic => rfl
  | ok step =>
      have unended : ¬ step.outcome.isTerminal := fun terminal =>
        goesOn ⟨step, stepped, GeneratorStep.isTerminal_outcome_iff.mp terminal⟩
      cases violates : step.violation? with
      | some violation =>
          rw [GeneratorStep.outcome_of_violation? violates] at unended
          exact (unended rfl).elim
      | none =>
          rw [Bool.not_eq_true] at unended
          simp only [violates, unended]
          rfl

/-- A step that ends the routine is reported if it is a violation. -/
theorem conduct_routineAt_of_endsAt
    (ends : generator.EndsAt turn)
    (reported : Reported answer (generator.violationAt? turn) state state') :
    (routineAt (generator.after turn) false).resume.conduct answer state =
      some
        (state', routineAt (generator.after (turn + 1)) true,
          generator.answerAt turn) := by
  obtain ⟨step, stepped, ending⟩ := ends
  have answered : generator.answerAt turn = .ok step.outcome := by
    rw [Generator.answerAt, stepped]
    rfl
  have violates : generator.violationAt? turn = step.violation? := by
    rw [Generator.violationAt?, stepped]
    rfl
  rw [violates] at reported
  rw [Generator.stepAt] at stepped
  rw [resume_routineAt, stepped, answered]
  simp only
  cases found : step.violation? with
  | none =>
      rw [found] at reported
      obtain rfl : state' = state := reported
      rw [GeneratorStep.isTerminal_outcome_iff.mpr ending]
      rfl
  | some violation =>
      rw [found] at reported
      have replied :
          answer (.announce .error violation.message) state =
            some (state', ()) :=
        reported
      simp only [Activity.conduct, replied]
      rfl

/-- As long as no step ends it, resuming a routine is stepping its generator. -/
theorem resumeTimes_routine_of_running
    (running : ∀ turn < times, ¬ generator.EndsAt turn)
    (state : ω) :
    (routine generator).resumeTimes answer times state =
      some
        (state, routineAt (generator.after times) false,
          (List.range times).map generator.answerAt) :=
  resumeTimes_of_stages
    (fun turn => routineAt (generator.after turn) false)
    (fun _ => state)
    fun turn before =>
      conduct_routineAt_of_not_endsAt (running turn before) state

/-- A routine that has terminated stays as it is and gives the same answer for ever. -/
theorem resumeTimes_routineAt_of_terminated
    (generator : Generator π α ε)
    (times : Nat)
    (state : ω) :
    (routineAt generator true).resumeTimes answer times state =
      some
        (state, routineAt generator true,
          List.replicate times
            (.ok
              (.failed
                (OfViolation.ofViolation .resumedAfterTermination)))) := by
  have stays :=
    resumeTimes_of_stages
      (fun _ => (routineAt generator true : Coroutine κ α ε))
      (fun _ => state)
      (fun turn (_ : turn < times) =>
        (rfl :
          (routineAt generator true).resume.conduct answer state =
            some
              (state, routineAt generator true,
                .ok
                  (.failed
                    (OfViolation.ofViolation .resumedAfterTermination)))))
  rwa [List.map_const', List.length_range] at stays

/-- Once a step has ended it, a routine leaves its generator alone. -/
theorem resumeTimes_routine_of_ended
    (running : ∀ turn < last, ¬ generator.EndsAt turn)
    (ends : generator.EndsAt last)
    (reported : Reported answer (generator.violationAt? last) state state')
    (more : Nat) :
    (routine generator).resumeTimes answer (last + 1 + more) state =
      some
        (state', routineAt (generator.after (last + 1)) true,
          (List.range (last + 1)).map generator.answerAt ++
            List.replicate more
              (.ok
                (.failed
                  (OfViolation.ofViolation .resumedAfterTermination)))) := by
  have before : (routine generator).resumeTimes answer last state = _ :=
    resumeTimes_routine_of_running running state
  have upToEnd :=
    resumeTimes_concat before (conduct_routineAt_of_endsAt ends reported)
  have afterwards :
      (routineAt (generator.after (last + 1)) true).resumeTimes
          answer more state' = _ :=
    resumeTimes_routineAt_of_terminated _ more state'
  rw [List.range_succ, List.map_append, List.map_singleton]
  exact resumeTimes_append upToEnd afterwards

end Driven

/-- What a coroutine gives turn by turn that suspends so often and then completes. -/
def pausesThen
    [OfViolation ε]
    (times : Nat)
    (value : α)
    (turn : Nat) :
    Guarded (Outcome α ε) :=
  if turn < times then .ok .suspended
  else if turn = times then .ok (.completed value)
  else .ok (.failed (OfViolation.ofViolation .resumedAfterTermination))

theorem map_range_pausesThen
    [OfViolation ε]
    (times more : Nat)
    (value : α) :
    (List.range (times + 1 + more)).map
        (pausesThen times value : Nat → Guarded (Outcome α ε)) =
      (List.range (times + 1)).map (pausesThen times value) ++
        List.replicate more
          (.ok
            (.failed
              (OfViolation.ofViolation .resumedAfterTermination))) := by
  rw [List.range_add, List.map_append, List.map_map]
  congr 1
  rw [List.eq_replicate_iff]
  refine ⟨by rw [List.length_map, List.length_range], ?_⟩
  intro result member
  obtain ⟨turn, -, rfl⟩ := List.mem_map.mp member
  have past : ¬ times + 1 + turn < times := by omega
  have other : times + 1 + turn ≠ times := by omega
  rw [Function.comp_apply, pausesThen, if_neg past, if_neg other]

/-- The countdown whose value can be taken only once; what it gives afterwards is open. -/
def countdownOnce
    (times : Nat)
    (value : α)
    (afterwards : Guarded (GeneratorStep Unit α ε)) :
    Generator Unit α ε where
  State := Nat × Option α
  state := (times, some value)
  call := fun (left, value?) _ =>
    match left, value? with
    | fewer + 1, value? => ((fewer, value?), .ok (.yielded ()))
    | 0, some value => ((0, none), .ok (.returned value))
    | 0, none => ((0, none), afterwards)

section Countdown

variable
  [OfViolation ε]
  {ω : Type v}
  {answer : (request : Request κ) → ω → Option (ω × request.Reply)}
  {generator : Generator Unit α ε}
  {times : Nat}
  {value : α}

theorem answerAt_eq_pausesThen
    (pauses : ∀ turn < times, generator.stepAt turn = .ok (.yielded ()))
    (returns : generator.stepAt times = .ok (.returned value))
    {turn : Nat}
    (within : turn ≤ times) :
    generator.answerAt turn = pausesThen times value turn := by
  unfold Generator.answerAt pausesThen
  rcases Nat.lt_or_eq_of_le within with before | rfl
  · rw [pauses turn before, if_pos before]
    rfl
  · rw [returns, if_neg (Nat.lt_irrefl turn), if_pos rfl]
    rfl

/-- Of a generator that pauses and then returns, what it would do next does not matter. -/
theorem outcomes_routine_of_pauses
    (pauses : ∀ turn < times, generator.stepAt turn = .ok (.yielded ()))
    (returns : generator.stepAt times = .ok (.returned value))
    (count : Nat)
    (state : ω) :
    (routine generator).outcomes answer count state =
      some (state, (List.range count).map (pausesThen times value)) := by
  have answers {upTo : Nat} (within : upTo ≤ times + 1) :
      (List.range upTo).map generator.answerAt =
        (List.range upTo).map (pausesThen times value) := by
    apply List.map_congr_left
    intro turn member
    apply answerAt_eq_pausesThen pauses returns
    have before := List.mem_range.mp member
    omega
  rw [outcomes]
  rcases Nat.lt_or_ge times count with ended | unended
  · obtain ⟨more, rfl⟩ := Nat.exists_eq_add_of_lt ended
    have ends : generator.EndsAt times := ⟨.returned value, returns, trivial⟩
    have silent :
        Reported answer (generator.violationAt? times) state state := by
      rw [Generator.violationAt?, returns]
      rfl
    rw [Nat.add_right_comm,
      resumeTimes_routine_of_ended
        (fun turn before =>
          Generator.not_endsAt_of_pause (pauses turn before))
        ends silent more,
      answers (Nat.le_refl _), map_range_pausesThen]
    rfl
  · rw [resumeTimes_routine_of_running
        (fun turn before =>
          Generator.not_endsAt_of_pause
            (pauses turn (Nat.lt_of_lt_of_le before unended)))
        state,
      answers (Nat.le_succ_of_le unended)]
    rfl

/-- It is enough to follow the states of such a generator. -/
theorem outcomes_routine_of_states
    (states : Nat → generator.State)
    (initial : states 0 = generator.state)
    (pauses :
      ∀ turn < times,
        generator.call (states turn) () =
          (states (turn + 1), .ok (.yielded ())))
    (returns :
      (generator.call (states times) ()).2 = .ok (.returned value))
    (count : Nat)
    (state : ω) :
    (routine generator).outcomes answer count state =
      some (state, (List.range count).map (pausesThen times value)) := by
  have reached (steps : Nat) (within : steps ≤ times) :
      generator.after steps = { generator with state := states steps } := by
    induction steps with
    | zero => rw [initial, Generator.after]
    | succ steps inductionHypothesis =>
        rw [Generator.after, inductionHypothesis (Nat.le_of_lt within),
          Procedure.called, pauses steps within]
  apply outcomes_routine_of_pauses
  · intro turn before
    rw [Generator.stepAt, reached turn (Nat.le_of_lt before),
      Procedure.gives, pauses turn before]
  · rw [Generator.stepAt, reached times (Nat.le_refl times)]
    exact returns

/-- The coroutine that is to pause and then to complete does so, and once. -/
theorem outcomes_suspendThen
    (times : Nat)
    (value : α)
    (count : Nat)
    (state : ω) :
    (suspendThen times value : Coroutine κ α ε).outcomes
        answer count state =
      some (state, (List.range count).map (pausesThen times value)) := by
  apply outcomes_routine_of_states fun turn => times - turn
  · exact Nat.sub_zero times
  · intro turn before
    have left : times - turn = times - (turn + 1) + 1 := by omega
    simp only [left]
    rfl
  · simp only [Nat.sub_self]
    rfl

/-- A countdown does not need its value a second time. -/
theorem outcomes_countdownOnce
    (times : Nat)
    (value : α)
    (afterwards : Guarded (GeneratorStep Unit α ε))
    (count : Nat)
    (state : ω) :
    (routine (countdownOnce times value afterwards)).outcomes
        answer count state =
      some (state, (List.range count).map (pausesThen times value)) := by
  apply outcomes_routine_of_states fun turn => (times - turn, some value)
  · rfl
  · intro turn before
    have left : times - turn = times - (turn + 1) + 1 := by omega
    simp only [left]
    rfl
  · simp only [Nat.sub_self]
    rfl

end Countdown

end Coroutine

/--
Routines enforce that suspensions are empty. All holds of any number of
resumptions, and in any surroundings.
-/
structure PayloadsEnforced : Prop where
  /-- The payload of a generator that only pauses is empty. -/
  unit : ∀ payload : Unit, Payload.isEmpty payload
  /-- Of payloads that may be there, those that are not there are empty, and no others. -/
  option :
    ∀ {π : Type} [Describe π] (payload : Option π),
      Payload.isEmpty payload ↔ payload = none
  /-- The answer to a step is a suspension if it yields an empty payload, and else never. -/
  suspended :
    ∀ {π α ε : Type} [Payload π] [OfViolation ε]
      {generator : Generator π α ε}
      {turn : Nat},
      generator.answerAt turn = .ok .suspended ↔
        ∃ payload,
          generator.stepAt turn = .ok (.yielded payload) ∧
            Payload.isEmpty payload
  /--
  As long as no step of the generator returns, raises or yields a payload that
  is not empty, each resumption is one step and gives the answer to it, and the
  routine has not terminated. That includes steps that panic: the panic is passed
  on, and in the next resumption comes the next step.
  -/
  running :
    ∀ {κ π α ε ω : Type} [Payload π] [OfViolation ε]
      {answer : (request : Request κ) → ω → Option (ω × request.Reply)}
      {generator : Generator π α ε}
      {times : Nat}
      (state : ω),
      (∀ turn < times, ¬ generator.EndsAt turn) →
      (Coroutine.routine generator).resumeTimes answer times state =
        some
          (state, Coroutine.routineAt (generator.after times) false,
            (List.range times).map generator.answerAt)
  /--
  The first step that does ends the routine in its own resumption, which is
  answered with the value, the error or, after it has been reported, the
  violation. From then on the routine has terminated: every resumption is
  answered with the same violation and makes no request, and the generator is
  never stepped again.
  -/
  ended :
    ∀ {κ π α ε ω : Type} [Payload π] [OfViolation ε]
      {answer : (request : Request κ) → ω → Option (ω × request.Reply)}
      {generator : Generator π α ε}
      {last : Nat}
      {state state' : ω},
      (∀ turn < last, ¬ generator.EndsAt turn) →
      generator.EndsAt last →
      Reported answer (generator.violationAt? last) state state' →
      ∀ more,
        (Coroutine.routine generator).resumeTimes
            answer (last + 1 + more) state =
          some
            (state', Coroutine.routineAt (generator.after (last + 1)) true,
              (List.range (last + 1)).map generator.answerAt ++
                List.replicate more
                  (.ok
                    (.failed
                      (OfViolation.ofViolation
                        .resumedAfterTermination))))
  /--
  A coroutine that is to suspend some times and then to complete suspends just
  so often, completes once, and is in breach of the rules ever after.
  -/
  countdown :
    ∀ {κ α ε ω : Type} [OfViolation ε]
      (answer : (request : Request κ) → ω → Option (ω × request.Reply))
      (times : Nat)
      (value : α)
      (count : Nat)
      (state : ω),
      (Coroutine.suspendThen times value : Coroutine κ α ε).outcomes
          answer count state =
        some
          (state,
            (List.range count).map fun turn =>
              if turn < times then .ok .suspended
              else if turn = times then .ok (.completed value)
              else
                .ok
                  (.failed
                    (OfViolation.ofViolation .resumedAfterTermination)))
  /--
  So its generator needs the value only once: it would make no difference what
  it did when it had given the value away.
  -/
  once :
    ∀ {κ α ε : Type} [OfViolation ε]
      (times : Nat)
      (value : α)
      (afterwards : Guarded (GeneratorStep Unit α ε)),
      (Coroutine.suspendThen times value : Coroutine κ α ε).Equivalent
        (Coroutine.routine
          (Coroutine.countdownOnce times value afterwards))

/-- Whatever its generator yields, and wherever it panics, a routine enforces the rules. -/
theorem payloads_enforced : PayloadsEnforced where
  unit := fun _ => rfl
  option := fun _ => Option.isNone_iff_eq_none
  suspended := Generator.answerAt_eq_suspended_iff
  running := fun state running =>
    Coroutine.resumeTimes_routine_of_running running state
  ended := fun running ends reported more =>
    Coroutine.resumeTimes_routine_of_ended running ends reported more
  countdown := fun _ times value count state =>
    Coroutine.outcomes_suspendThen times value count state
  once := by
    intro κ α ε _ times value afterwards ω answer count state
    rw [Coroutine.outcomes_suspendThen, Coroutine.outcomes_countdownOnce]

/-- Surroundings that take down what is announced and answer nothing else. -/
def takingDown :
    (request : Request κ) →
    List String →
    Option (List String × request.Reply)
  | .announce _ text, log => some (log ++ [text], ())
  | .spawn _ _, _ => none
  | .inspect _, _ => none
  | .step _, _ => none
  | .drain _, _ => none
  | .observe _, _ => none
  | .readClock, _ => none

/-- A generator that first panics, then yields nothing, and then a payload each time. -/
def slipping : Generator (Option Unit) Nat TaskError where
  State := Nat
  state := 0
  call := fun turn _ =>
    match turn with
    | 0 => (1, .error { message := "lost" })
    | 1 => (2, .ok (.yielded none))
    | _ => (2, .ok (.yielded (some ())))

/-- The payload of the third step ends the routine, which is resumed twice more. -/
theorem payloads_enforced_past_panic :
    (Coroutine.routine slipping : Coroutine Unit Nat TaskError).outcomes
        takingDown 5 [] =
      some
        (["suspension carried a payload: Some(())"],
          [.error { message := "lost" },
            .ok .suspended,
            .ok (.failed (.protocol (.nonEmptySuspension "Some(())"))),
            .ok (.failed (.protocol .resumedAfterTermination)),
            .ok (.failed (.protocol .resumedAfterTermination))]) := by
  have running : ∀ turn < 2, ¬ Generator.EndsAt slipping turn := by
    intro turn before
    match turn, before with
    | 0, _ =>
        rintro ⟨step, stepped, -⟩
        cases stepped
    | 1, _ =>
        rintro ⟨step, stepped, ends⟩
        cases stepped
        exact ends rfl
  have ends : Generator.EndsAt slipping 2 :=
    ⟨.yielded (some ()), rfl, Bool.false_ne_true⟩
  have reported :
      Reported
        (takingDown : (request : Request Unit) → _)
        (Generator.violationAt? slipping 2)
        []
        ["suspension carried a payload: Some(())"] :=
    rfl
  rw [Coroutine.outcomes, payloads_enforced.ended running ends reported 2]
  rfl

end RoundRobin
