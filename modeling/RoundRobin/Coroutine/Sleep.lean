import RoundRobin.Coroutine.Basic
import RoundRobin.TaskError

namespace RoundRobin

/-!
# Waiting without blocking

`sleep` suspends until a deadline has passed. The clock starts at the first
resumption, which always suspends; each later one reads the clock again. A
deadline that lies beyond the range of the clock panics, and since none was
stored the next resumption tries anew.

`repeatMessage` logs a message a number of times and sleeps after each.
-/

/-- A length of time in nanoseconds. -/
structure Duration where
  nanoseconds : Nat
  deriving DecidableEq, Repr

namespace Duration

/-- A length of time in whole seconds. -/
def ofSeconds (seconds : Nat) : Duration where
  nanoseconds := seconds * 1000000000

/-- A length of time in whole milliseconds. -/
def ofMilliseconds (milliseconds : Nat) : Duration where
  nanoseconds := milliseconds * 1000000

/-- The clock has room for this many seconds: two to the power of 63. -/
def clockSeconds : Nat :=
  9223372036854775808

/-- The point in time that lies `duration` after `now`, if the clock reaches it. -/
def deadline?
    (duration : Duration)
    (now : Nat) :
    Option Nat :=
  let deadline := now + duration.nanoseconds
  if deadline / 1000000000 < clockSeconds then some deadline else none

/-- The panic about a deadline beyond the range of the clock. -/
def overflow : Panic where
  message := "overflow when adding duration to instant"

end Duration

/-- One resumption of a sleep, given its deadline if that is set. -/
def Duration.wait
    (duration : Duration)
    (deadline? : Option Nat) :
    Activity κ (Option Nat × Guarded (Outcome Unit TaskError)) :=
  .ask .readClock fun now =>
    match deadline? with
    | some deadline =>
        .done (some deadline, .ok (if deadline ≤ now then .completed () else .suspended))
    | none =>
        match duration.deadline? now with
        | some deadline => .done (some deadline, .ok .suspended)
        | none => .done (none, .error overflow)

/-- The coroutine that suspends until a length of time has passed. -/
def Coroutine.sleep (duration : Duration) : Coroutine κ Unit TaskError where
  State := Option Nat
  state := none
  advance := duration.wait

/-- Where a repeated message stands; the state of a sleep is in `σ`. -/
structure Repetition (σ : Type) where
  /-- How often the message is still to be logged. -/
  remaining : Nat
  /-- How often it has been logged. -/
  emitted : Nat
  /-- The sleep after the last message, while it lasts. -/
  waiting : Option σ
  deriving DecidableEq, Repr

namespace Repetition

/--
Resume the sleep that is under way, if any, and go on with `next` once it is
over.
-/
def afterWaiting
    (sleep : Coroutine κ Unit TaskError)
    (repetition : Repetition sleep.State)
    (next :
      Activity κ
        (Repetition sleep.State × Guarded (Outcome Nat TaskError))) :
    Activity κ
      (Repetition sleep.State × Guarded (Outcome Nat TaskError)) :=
  match repetition.waiting with
  | none => next
  | some waiting =>
      (sleep.advance waiting).bind fun (waiting', result) =>
        let kept := { repetition with waiting := some waiting' }
        match result with
        | .error panic => .done (kept, .error panic)
        | .ok .suspended => .done (kept, .ok .suspended)
        | .ok (.failed error) => .done (kept, .ok (.failed error))
        | .ok (.completed ()) => next

/-- Wait, log the message and start to wait again, until a sleep suspends. -/
def advance
    (sleep : Coroutine κ Unit TaskError)
    (message : String) :
    (remaining emitted : Nat) →
    (waiting : Option sleep.State) →
    Activity κ
      (Repetition sleep.State × Guarded (Outcome Nat TaskError))
  | 0, emitted, waiting =>
      let repetition : Repetition sleep.State :=
        { remaining := 0, emitted := emitted, waiting := waiting }
      repetition.afterWaiting sleep
        (.done
          ({ repetition with waiting := none }, .ok (.completed emitted)))
  | remaining + 1, emitted, waiting =>
      let repetition : Repetition sleep.State :=
        { remaining := remaining + 1, emitted := emitted, waiting := waiting }
      repetition.afterWaiting sleep
        (.ask (.announce .info message) fun _ =>
          advance sleep message remaining (emitted + 1)
            (some sleep.state))

end Repetition

namespace Coroutine

/-- The coroutine that logs a message `times` times, with a new `sleep` after each. -/
def repeatBetween
    (sleep : Coroutine κ Unit TaskError)
    (message : String)
    (times : Nat) :
    Coroutine κ Nat TaskError where
  State := Repetition sleep.State
  state := { remaining := times, emitted := 0, waiting := none }
  advance := fun repetition =>
    Repetition.advance sleep message
      repetition.remaining repetition.emitted repetition.waiting

/-- The coroutine that logs a message `times` times, sleeping after each. -/
def repeatMessage
    (message : String)
    (interval : Duration)
    (times : Nat) :
    Coroutine κ Nat TaskError :=
  repeatBetween (sleep interval) message times

end Coroutine

end RoundRobin
