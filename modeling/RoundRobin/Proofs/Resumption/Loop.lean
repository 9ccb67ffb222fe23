import RoundRobin.Coroutine.Sleep
import RoundRobin.Proofs.Activity

namespace RoundRobin

/-!
# The loop of a repetition

A turn of the loop waits for the sleep that is under way, logs the message and lies
down to sleep again; then the loop comes round. A resumption is turns of the loop until
one gives a result. Sleeps that wait for the clock never end in the resumption in which
they begin, so with them two turns are enough.
-/

namespace Duration

/-- What a sleep gives that begins now: it suspends, if the clock reaches its deadline. -/
def started
    (duration : Duration)
    (now : Nat) :
    Guarded (Outcome α ε) :=
  match duration.deadline? now with
  | some _ => .ok .suspended
  | none => .error overflow

section

variable
  {duration : Duration}
  {now deadline : Nat}

theorem started_of_some (reached : duration.deadline? now = some deadline) :
    (duration.started now : Guarded (Outcome α ε)) = .ok .suspended := by
  simp only [started, reached]

theorem started_of_none (unreached : duration.deadline? now = none) :
    (duration.started now : Guarded (Outcome α ε)) = .error overflow := by
  simp only [started, unreached]

/-- A sleep of no length is over by the time that it begins. -/
theorem deadline?_of_zero
    (instant : duration.nanoseconds = 0)
    (inRange : now / 1000000000 < clockSeconds) :
    duration.deadline? now = some now := by
  simp only [deadline?, instant, Nat.add_zero, inRange, ↓reduceIte]

/-- A sleep for which all of the clock is too short cannot begin at any time. -/
theorem deadline?_of_endless
    (endless : clockSeconds ≤ duration.nanoseconds / 1000000000)
    (now : Nat) :
    duration.deadline? now = none :=
  if_neg
    (Nat.not_lt.mpr
      (Nat.le_trans endless (Nat.div_le_div_right (Nat.le_add_left _ now))))

end

end Duration

/-- A sleep without a deadline sets it, if there is one, and does not end. -/
theorem Coroutine.advance_sleep_none (duration : Duration) :
    (sleep duration : Coroutine κ Unit TaskError).advance
        (none : Option Nat) =
      .ask .readClock fun now =>
        .done (duration.deadline? now, duration.started now) := by
  apply congrArg (Activity.ask _)
  funext now
  rw [Duration.started]
  cases duration.deadline? now with
  | none => rfl
  | some deadline => rfl

namespace Repetition

/-- What is left of a turn of the loop when there is no sleep to wait for. -/
def onward
    (sleep : Coroutine κ Unit TaskError)
    (message : String)
    (repetition : Repetition sleep.State) :
    Activity κ
      (Repetition sleep.State × Option (Guarded (Outcome Nat TaskError))) :=
  match repetition.remaining with
  | 0 => .done (repetition, some (.ok (.completed repetition.emitted)))
  | fewer + 1 =>
      .ask (.announce .info message) fun _ =>
        .done
          ({ remaining := fewer
             emitted := repetition.emitted + 1
             waiting := some sleep.state },
            none)

/-- One turn of the loop: either it gives a result or the loop comes round again. -/
def turn
    (sleep : Coroutine κ Unit TaskError)
    (message : String)
    (repetition : Repetition sleep.State) :
    Activity κ
      (Repetition sleep.State × Option (Guarded (Outcome Nat TaskError))) :=
  match repetition.waiting with
  | none => repetition.onward sleep message
  | some waiting =>
      (sleep.advance waiting).bind fun (waiting', result) =>
        let kept := { repetition with waiting := some waiting' }
        match result with
        | .error panic => .done (kept, some (.error panic))
        | .ok .suspended => .done (kept, some (.ok .suspended))
        | .ok (.failed error) => .done (kept, some (.ok (.failed error)))
        | .ok (.completed ()) =>
            Repetition.onward sleep message
              { repetition with waiting := none }

/-- Some turns of the loop, or fewer if one gives a result. -/
def turns
    (sleep : Coroutine κ Unit TaskError)
    (message : String) :
    (count : Nat) →
    Repetition sleep.State →
    Activity κ
      (Repetition sleep.State × Option (Guarded (Outcome Nat TaskError)))
  | 0, repetition => .done (repetition, none)
  | count + 1, repetition =>
      (repetition.turn sleep message).bind fun (repetition', result?) =>
        match result? with
        | none => turns sleep message count repetition'
        | some result => .done (repetition', some result)

section

variable
  {sleep : Coroutine κ Unit TaskError}
  {message : String}
  {count remaining emitted : Nat}
  {waiting : Option sleep.State}

/-- A resumption waits for the sleep that is under way and goes on as if there were none. -/
theorem advance_eq_afterWaiting
    (sleep : Coroutine κ Unit TaskError)
    (message : String)
    (remaining emitted : Nat)
    (waiting : Option sleep.State) :
    advance sleep message remaining emitted waiting =
      afterWaiting sleep ⟨remaining, emitted, waiting⟩
        (advance sleep message remaining emitted none) := by
  cases remaining with
  | zero => rfl
  | succ fewer => rfl

/-- What comes behind the sleep decides how the loop goes on. -/
theorem turns_succ
    {next :
      Activity κ
        (Repetition sleep.State × Guarded (Outcome Nat TaskError))}
    (goesOn :
      ((onward sleep message ⟨remaining, emitted, none⟩).bind
          fun (repetition, result?) =>
            match result? with
            | none => turns sleep message count repetition
            | some result => .done (repetition, some result)) =
        next.map fun (repetition, result) => (repetition, some result)) :
    turns sleep message (count + 1) ⟨remaining, emitted, waiting⟩ =
      (afterWaiting sleep ⟨remaining, emitted, waiting⟩ next).map
        fun (repetition, result) => (repetition, some result) := by
  cases waiting with
  | none => exact goesOn
  | some waiting =>
      simp only [turns, turn, afterWaiting, Activity.map,
        Activity.bind_assoc]
      congr 1
      funext ⟨waiting', result⟩
      rcases result with panic | _ | ⟨⟩ | error
      · rfl
      · rfl
      · exact goesOn
      · rfl

end

section

variable
  {interval : Duration}
  {message : String}
  {count remaining emitted : Nat}

/-- The message has been logged if need be, and a sleep without a deadline is tried. -/
def lyingDown
    (interval : Duration)
    (remaining emitted : Nat) :
    Activity κ
      (Repetition (Option Nat) × Guarded (Outcome Nat TaskError)) :=
  .ask .readClock fun now =>
    .done
      (⟨remaining, emitted, some (interval.deadline? now)⟩,
        interval.started now)

/-- A sleep without a deadline does not end, so what comes behind it does not matter. -/
theorem afterWaiting_none
    (next :
      Activity κ
        (Repetition (Option Nat) × Guarded (Outcome Nat TaskError))) :
    afterWaiting (Coroutine.sleep interval)
        ⟨remaining, emitted, some (none : Option Nat)⟩ next =
      lyingDown interval remaining emitted := by
  simp only [afterWaiting, Coroutine.advance_sleep_none, Activity.bind, lyingDown]
  congr 1
  funext now
  unfold Duration.started
  cases interval.deadline? now with
  | none => rfl
  | some deadline => rfl

theorem advance_none :
    (advance (Coroutine.sleep interval) message remaining emitted
          (some (none : Option Nat)) :
        Activity κ
          (Repetition (Option Nat) × Guarded (Outcome Nat TaskError))) =
      lyingDown interval remaining emitted :=
  (advance_eq_afterWaiting ..).trans (afterWaiting_none _)

/-- So the turn in which such a sleep is tried is the last. -/
theorem turns_none :
    (turns (Coroutine.sleep interval) message (count + 1)
          ⟨remaining, emitted, some (none : Option Nat)⟩ :
        Activity κ
          (Repetition (Option Nat) ×
            Option (Guarded (Outcome Nat TaskError)))) =
      (lyingDown interval remaining emitted).map
        fun (repetition, result) => (repetition, some result) := by
  simp only [turns, turn, Coroutine.advance_sleep_none, Activity.bind,
    lyingDown, Activity.map]
  congr 1
  funext now
  unfold Duration.started
  cases interval.deadline? now with
  | none => rfl
  | some deadline => rfl

/-- Some turns of the loop that sleeps for `interval` after each message. -/
def loop
    (interval : Duration)
    (message : String)
    (count : Nat)
    (repetition : Repetition (Option Nat)) :
    Activity κ
      (Repetition (Option Nat) ×
        Option (Guarded (Outcome Nat TaskError))) :=
  turns (Coroutine.sleep interval) message count repetition

/-- Two turns of the loop, or one, are a resumption. -/
theorem loop_two
    (interval : Duration)
    (message : String)
    (repetition : Repetition (Option Nat)) :
    (loop interval message 2 repetition :
        Activity κ
          (Repetition (Option Nat) ×
            Option (Guarded (Outcome Nat TaskError)))) =
      (advance (Coroutine.sleep interval) message repetition.remaining
            repetition.emitted repetition.waiting).map
        fun (repetition', result) => (repetition', some result) := by
  rcases repetition with ⟨_ | fewer, emitted, waiting⟩
  · exact turns_succ rfl
  · apply turns_succ
    apply congrArg (Activity.ask _)
    funext _
    exact turns_none.trans (congrArg (Activity.map _) advance_none.symm)

end

end Repetition

end RoundRobin
