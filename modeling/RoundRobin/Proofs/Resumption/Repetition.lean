import Mathlib.Order.Monotone.Basic
import RoundRobin.Proofs.Resumption.Basic
import RoundRobin.Proofs.Resumption.Loop

namespace RoundRobin

/-!
# Messages are counted as they are repeated

At most one message is logged in a resumption. What is logged and what is still to be
logged are always as many as were asked for, wherever a sleep panics. How far it has
come after a number of resumptions is known where there are no pauses, where the
first pause never ends and where the clock has no room for a pause.
-/

/-- Surroundings that tell the time and take down what is announced, and no more. -/
structure Timekeeper where
  /-- What the clock shows at each reading, in nanoseconds. -/
  clock : Nat → Nat
  readings : Nat := 0
  announced : List (Level × String) := []

namespace Timekeeper

/-- What the clock shows at the next reading. -/
def now (keeper : Timekeeper) : Nat :=
  keeper.clock keeper.readings

/-- The clock has been read once more. -/
def read (keeper : Timekeeper) : Timekeeper :=
  { keeper with readings := keeper.readings + 1 }

/-- Something has been announced. -/
def hear
    (keeper : Timekeeper)
    (severity : Level)
    (text : String) :
    Timekeeper :=
  { keeper with announced := keeper.announced ++ [(severity, text)] }

/-- Deal with what is asked of the clock and with what is announced. -/
def answer :
    (request : Request κ) →
    Timekeeper →
    Option (Timekeeper × request.Reply)
  | .readClock, keeper => some (keeper.read, keeper.now)
  | .announce severity text, keeper => some (keeper.hear severity text, ())
  | .spawn _ _, _ => none
  | .inspect _, _ => none
  | .step _, _ => none
  | .drain _, _ => none
  | .observe _, _ => none

/-- The clock never goes back, and shows no time that it has no room for. -/
structure Steady (clock : Nat → Nat) : Prop where
  monotone : Monotone clock
  inRange :
    ∀ reading, clock reading / 1000000000 < Duration.clockSeconds

end Timekeeper

namespace Repetition

/-- What one resumption does that leaves one repetition for another. -/
structure Counts
    (message : String)
    (repetition repetition' : Repetition (Option Nat))
    (keeper keeper' : Timekeeper) :
    Prop where
  /-- What has been logged and what is still to be logged stay as many together. -/
  total :
    repetition'.emitted + repetition'.remaining =
      repetition.emitted + repetition.remaining
  /-- Either nothing is announced, or the message is, once, and it is counted. -/
  announced :
    repetition'.emitted = repetition.emitted ∧
        keeper'.announced = keeper.announced ∨
      repetition'.emitted = repetition.emitted + 1 ∧
        keeper'.announced = keeper.announced ++ [(.info, message)]

section

variable
  {interval : Duration}
  {message : String}
  {remaining emitted deadline : Nat}
  {keeper : Timekeeper}

/-- Where there is nothing to wait for and nothing to log, the repetition completes. -/
theorem conduct_advance_zero :
    (advance (Coroutine.sleep interval : Coroutine κ Unit TaskError)
          message 0 emitted none).conduct Timekeeper.answer keeper =
      some (keeper, ⟨0, emitted, none⟩, .ok (.completed emitted)) :=
  rfl

/-- Where there is nothing to wait for, the message is logged and a sleep begins. -/
theorem conduct_advance_succ :
    (advance (Coroutine.sleep interval : Coroutine κ Unit TaskError)
          message (remaining + 1) emitted none).conduct
        Timekeeper.answer keeper =
      some
        ((keeper.hear .info message).read,
          ⟨remaining, emitted + 1, some (interval.deadline? keeper.now)⟩,
          interval.started keeper.now) := by
  change
    (advance (Coroutine.sleep interval : Coroutine κ Unit TaskError)
          message remaining (emitted + 1) (some (none : Option Nat))).conduct
        Timekeeper.answer (keeper.hear .info message) = _
  rw [advance_none]
  rfl

/-- A sleep that could not begin is tried again. -/
theorem conduct_advance_none :
    (advance (Coroutine.sleep interval : Coroutine κ Unit TaskError)
          message remaining emitted (some (none : Option Nat))).conduct
        Timekeeper.answer keeper =
      some
        (keeper.read,
          ⟨remaining, emitted, some (interval.deadline? keeper.now)⟩,
          interval.started keeper.now) := by
  rw [advance_none]
  rfl

/-- A sleep with a deadline is waited for; once it is over it is as if there were none. -/
theorem conduct_advance_some :
    (advance (Coroutine.sleep interval : Coroutine κ Unit TaskError)
          message remaining emitted (some (some deadline))).conduct
        Timekeeper.answer keeper =
      if deadline ≤ keeper.now then
        (advance (Coroutine.sleep interval : Coroutine κ Unit TaskError)
            message remaining emitted none).conduct
          Timekeeper.answer keeper.read
      else
        some
          (keeper.read, ⟨remaining, emitted, some (some deadline)⟩,
            .ok .suspended) := by
  have waits :
      (Coroutine.sleep interval : Coroutine κ Unit TaskError).advance
          (some deadline) =
        .ask .readClock fun now =>
          .done
            (some deadline,
              .ok (if deadline ≤ now then .completed () else .suspended)) :=
    rfl
  rw [advance_eq_afterWaiting]
  simp only [afterWaiting, waits, Activity.bind, Activity.conduct,
    Timekeeper.answer]
  by_cases elapsed : deadline ≤ keeper.now
  · simp only [elapsed, ↓reduceIte]
  · simp only [elapsed, ↓reduceIte]
    rfl

/-- Before the deadline there is nothing but to wait. -/
theorem conduct_advance_of_lt (early : keeper.now < deadline) :
    (advance (Coroutine.sleep interval : Coroutine κ Unit TaskError)
          message remaining emitted (some (some deadline))).conduct
        Timekeeper.answer keeper =
      some
        (keeper.read, ⟨remaining, emitted, some (some deadline)⟩,
          .ok .suspended) :=
  conduct_advance_some.trans (if_neg (Nat.not_le.mpr early))

/-- From the deadline on it is as if there were no sleep. -/
theorem conduct_advance_of_le (elapsed : deadline ≤ keeper.now) :
    (advance (Coroutine.sleep interval : Coroutine κ Unit TaskError)
          message remaining emitted (some (some deadline))).conduct
        Timekeeper.answer keeper =
      (advance (Coroutine.sleep interval : Coroutine κ Unit TaskError)
          message remaining emitted none).conduct
        Timekeeper.answer keeper.read :=
  conduct_advance_some.trans (if_pos elapsed)

/-- Where there is nothing to wait for, a resumption counts what it announces. -/
theorem counts_of_awake
    (interval : Duration)
    (message : String)
    (remaining emitted : Nat)
    (keeper : Timekeeper) :
    ∃ keeper' repetition' result,
      (advance (Coroutine.sleep interval : Coroutine κ Unit TaskError)
              message remaining emitted none).conduct
            Timekeeper.answer keeper =
          some (keeper', repetition', result) ∧
        Counts message ⟨remaining, emitted, none⟩ repetition' keeper
          keeper' := by
  cases remaining with
  | zero =>
      exact ⟨_, _, _, conduct_advance_zero, ⟨rfl, .inl ⟨rfl, rfl⟩⟩⟩
  | succ fewer =>
      refine
        ⟨_, _, _, conduct_advance_succ, ⟨?_, .inr ⟨rfl, rfl⟩⟩⟩
      exact (Nat.succ_add emitted fewer).trans (Nat.add_succ emitted fewer).symm

/-- Every resumption counts what it announces. -/
theorem exists_counts
    (interval : Duration)
    (message : String)
    (repetition : Repetition (Option Nat))
    (keeper : Timekeeper) :
    ∃ keeper' repetition' result,
      (advance (Coroutine.sleep interval : Coroutine κ Unit TaskError)
              message repetition.remaining repetition.emitted
              repetition.waiting).conduct
            Timekeeper.answer keeper =
          some (keeper', repetition', result) ∧
        Counts message repetition repetition' keeper keeper' := by
  rcases repetition with ⟨remaining, emitted, _ | _ | deadline⟩
  · exact counts_of_awake interval message remaining emitted keeper
  · exact ⟨_, _, _, conduct_advance_none, ⟨rfl, .inl ⟨rfl, rfl⟩⟩⟩
  · rcases Nat.lt_or_ge keeper.now deadline with early | elapsed
    · exact
        ⟨_, _, _, conduct_advance_of_lt early,
          ⟨rfl, .inl ⟨rfl, rfl⟩⟩⟩
    · obtain ⟨keeper', repetition', result, conducted, counts⟩ :=
        counts_of_awake (κ := κ) interval message remaining emitted
          keeper.read
      refine
        ⟨keeper', repetition', result,
          (conduct_advance_of_le elapsed).trans conducted, counts.total,
          counts.announced⟩

end

/-- How a repetition stands before a turn that need not wait for any sleep. -/
structure Paced
    (clock : Nat → Nat)
    (message : String)
    (times turn : Nat)
    (keeper : Timekeeper)
    (repetition : Repetition (Option Nat)) :
    Prop where
  clock : keeper.clock = clock
  announced :
    keeper.announced = List.replicate (min turn times) (.info, message)
  emitted : repetition.emitted = min turn times
  remaining : repetition.remaining = times - turn
  /-- The sleep that is under way is over. -/
  elapsed :
    ∀ sleep,
      repetition.waiting = some sleep →
      ∃ deadline ≤ keeper.now, sleep = some deadline

section

variable
  {interval : Duration}
  {message : String}
  {times turn : Nat}
  {clock : Nat → Nat}
  {keeper : Timekeeper}
  {repetition : Repetition (Option Nat)}

theorem paced_start
    (clock : Nat → Nat)
    (message : String)
    (times : Nat) :
    Paced clock message times 0 { clock := clock } ⟨times, 0, none⟩ where
  clock := rfl
  announced := by
    rw [Nat.zero_min]
    rfl
  emitted := (Nat.zero_min times).symm
  remaining := rfl
  elapsed := by
    intro sleep under
    cases under

/-- No time is lost with a sleep that is over. -/
theorem Paced.exists_awake
    (interval : Duration)
    (paced : Paced clock message times turn keeper repetition) :
    ∃ awake : Timekeeper,
      awake.clock = clock ∧
        awake.announced = keeper.announced ∧
        (advance (Coroutine.sleep interval : Coroutine κ Unit TaskError)
                message repetition.remaining repetition.emitted
                repetition.waiting).conduct
            Timekeeper.answer keeper =
          (advance (Coroutine.sleep interval : Coroutine κ Unit TaskError)
                message repetition.remaining repetition.emitted
                none).conduct
            Timekeeper.answer awake := by
  rcases waits : repetition.waiting with _ | sleep
  · exact ⟨keeper, paced.clock, rfl, rfl⟩
  · obtain ⟨deadline, elapsed, rfl⟩ := paced.elapsed sleep waits
    exact
      ⟨keeper.read, paced.clock, rfl, conduct_advance_of_le elapsed⟩

/-- Every turn logs the message as long as there are any to log, and then completes. -/
theorem Paced.next
    (instant : interval.nanoseconds = 0)
    (steady : Timekeeper.Steady clock)
    (paced : Paced clock message times turn keeper repetition) :
    ∃ keeper' repetition',
      (advance (Coroutine.sleep interval : Coroutine κ Unit TaskError)
              message repetition.remaining repetition.emitted
              repetition.waiting).conduct
            Timekeeper.answer keeper =
          some
            (keeper', repetition',
              if turn < times then .ok .suspended
              else .ok (.completed times)) ∧
        Paced clock message times (turn + 1) keeper' repetition' := by
  obtain ⟨awake, rfl, silent, goesOn⟩ :=
    paced.exists_awake (κ := κ) interval
  rw [goesOn, paced.remaining, paced.emitted]
  rcases Nat.lt_or_ge turn times with before | ended
  · obtain ⟨fewer, left⟩ :
        ∃ fewer, times - turn = fewer + 1 :=
      Nat.exists_eq_succ_of_ne_zero (Nat.sub_ne_zero_of_lt before)
    have reached : interval.deadline? awake.now = some awake.now :=
      Duration.deadline?_of_zero instant
        (steady.inRange awake.readings)
    rw [left, Nat.min_eq_left (Nat.le_of_lt before), if_pos before,
      conduct_advance_succ, reached, Duration.started_of_some reached]
    refine
      ⟨_, _, rfl,
        { clock := rfl
          announced := ?_
          emitted := ?_
          remaining := ?_
          elapsed := ?_ }⟩
    · rw [Nat.min_eq_left before, List.replicate_succ',
        ← Nat.min_eq_left (Nat.le_of_lt before), ← paced.announced,
        ← silent]
      rfl
    · exact (Nat.min_eq_left before).symm
    · change fewer = times - (turn + 1)
      omega
    · intro sleep under
      cases under
      exact
        ⟨awake.now, steady.monotone (Nat.le_succ awake.readings), rfl⟩
  · rw [Nat.sub_eq_zero_of_le ended, Nat.min_eq_right ended,
      if_neg (Nat.not_lt.mpr ended), conduct_advance_zero]
    have more := Nat.le_succ_of_le ended
    refine
      ⟨_, _, rfl,
        { clock := rfl
          announced := ?_
          emitted := ?_
          remaining := ?_
          elapsed := ?_ }⟩
    · rw [silent, paced.announced, Nat.min_eq_right ended,
        Nat.min_eq_right more]
    · exact (Nat.min_eq_right more).symm
    · exact (Nat.sub_eq_zero_of_le more).symm
    · intro sleep under
      cases under

end

end Repetition

namespace Coroutine

open Repetition

/-- A repetition that stands anywhere. -/
def repeating
    (message : String)
    (interval : Duration)
    (repetition : Repetition (Option Nat)) :
    Coroutine κ Nat TaskError :=
  { repeatMessage message interval 0 with state := repetition }

section

variable
  {message : String}
  {interval : Duration}
  {repetition repetition' : Repetition (Option Nat)}
  {keeper keeper' : Timekeeper}

/-- To resume a repetition is to go round its loop. -/
theorem resume_repeating
    (message : String)
    (interval : Duration)
    (repetition : Repetition (Option Nat)) :
    (repeating message interval repetition :
          Coroutine κ Nat TaskError).resume =
      (Repetition.advance (sleep interval) message repetition.remaining
            repetition.emitted repetition.waiting).map
        fun (repetition', result) =>
          (repeating message interval repetition', result) :=
  rfl

theorem conduct_resume_repeating
    {result : Guarded (Outcome Nat TaskError)}
    (conducted :
      (Repetition.advance (sleep interval : Coroutine κ Unit TaskError)
            message repetition.remaining repetition.emitted
            repetition.waiting).conduct
          Timekeeper.answer keeper =
        some (keeper', repetition', result)) :
    (repeating message interval repetition :
          Coroutine κ Nat TaskError).resume.conduct
        Timekeeper.answer keeper =
      some (keeper', repeating message interval repetition', result) := by
  rw [resume_repeating, Activity.conduct_map, conducted]
  rfl

/-- However often it is resumed, what was logged is counted. -/
theorem exists_resumeTimes_counted
    (message : String)
    (interval : Duration)
    (times resumptions : Nat)
    (clock : Nat → Nat) :
    ∃ keeper repetition results,
      (repeatMessage message interval times :
              Coroutine κ Nat TaskError).resumeTimes
            Timekeeper.answer resumptions { clock := clock } =
          some (keeper, repeating message interval repetition, results) ∧
        repetition.emitted + repetition.remaining = times ∧
        keeper.announced =
          List.replicate repetition.emitted (.info, message) := by
  induction resumptions with
  | zero =>
      exact
        ⟨_, ⟨times, 0, none⟩, [], rfl, Nat.zero_add times, rfl⟩
  | succ resumptions inductionHypothesis =>
      obtain ⟨keeper, repetition, results, resumed, total, announced⟩ :=
        inductionHypothesis
      obtain ⟨keeper', repetition', result, conducted, counts⟩ :=
        exists_counts (κ := κ) interval message repetition keeper
      refine
        ⟨keeper', repetition', results ++ [result],
          resumeTimes_concat resumed (conduct_resume_repeating conducted),
          counts.total.trans total, ?_⟩
      rcases counts.announced with ⟨same, silent⟩ | ⟨more, told⟩
      · rw [same, silent, announced]
      · rw [more, told, announced, List.replicate_succ']

/--
Where every turn gives what it should and leaves the repetition and its
surroundings ready for the next, so do the turns together.
-/
theorem exists_resumeTimes_of_ready
    {Ready : Nat → Timekeeper → Repetition (Option Nat) → Prop}
    {results : Nat → Guarded (Outcome Nat TaskError)}
    (passes :
      ∀ turn keeper repetition,
        Ready turn keeper repetition →
        ∃ keeper' repetition',
          (Repetition.advance (sleep interval : Coroutine κ Unit TaskError)
                  message repetition.remaining repetition.emitted
                  repetition.waiting).conduct
                Timekeeper.answer keeper =
              some (keeper', repetition', results turn) ∧
            Ready (turn + 1) keeper' repetition')
    (start : Ready 0 keeper repetition)
    (resumptions : Nat) :
    ∃ keeper' repetition',
      (repeating message interval repetition :
              Coroutine κ Nat TaskError).resumeTimes
            Timekeeper.answer resumptions keeper =
          some
            (keeper', repeating message interval repetition',
              (List.range resumptions).map results) ∧
        Ready resumptions keeper' repetition' := by
  induction resumptions with
  | zero => exact ⟨keeper, repetition, rfl, start⟩
  | succ resumptions inductionHypothesis =>
      obtain ⟨keeper', repetition', resumed, ready⟩ := inductionHypothesis
      obtain ⟨keeper'', repetition'', conducted, next⟩ :=
        passes resumptions keeper' repetition' ready
      refine ⟨keeper'', repetition'', ?_, next⟩
      rw [List.range_succ, List.map_append, List.map_singleton]
      exact
        resumeTimes_concat resumed (conduct_resume_repeating conducted)

/-- Without pauses the message is logged in turn after turn until none is left. -/
theorem exists_resumeTimes_paced
    (message : String)
    (times : Nat)
    {clock : Nat → Nat}
    (instant : interval.nanoseconds = 0)
    (steady : Timekeeper.Steady clock)
    (resumptions : Nat) :
    ∃ keeper repetition,
      (repeatMessage message interval times :
              Coroutine κ Nat TaskError).resumeTimes
            Timekeeper.answer resumptions { clock := clock } =
          some
            (keeper, repeating message interval repetition,
              (List.range resumptions).map fun turn =>
                if turn < times then .ok .suspended
                else .ok (.completed times)) ∧
        keeper.announced =
          List.replicate (min resumptions times) (.info, message) := by
  obtain ⟨keeper, repetition, resumed, paced⟩ :=
    exists_resumeTimes_of_ready (κ := κ)
      (fun _ _ _ paced => Paced.next instant steady paced)
      (paced_start clock message times) resumptions
  exact ⟨keeper, repetition, resumed, paced.announced⟩

/-- A repetition that every resumption leaves as it is gives the same for ever. -/
theorem exists_resumeTimes_of_lasting
    (repetition : Repetition (Option Nat))
    (keeper : Timekeeper)
    {Lasts : Timekeeper → Prop}
    {result : Guarded (Outcome Nat TaskError)}
    (lasting :
      ∀ keeper,
        Lasts keeper →
        ∃ keeper',
          (Repetition.advance (sleep interval : Coroutine κ Unit TaskError)
                  message repetition.remaining repetition.emitted
                  repetition.waiting).conduct
                Timekeeper.answer keeper =
              some (keeper', repetition, result) ∧
            Lasts keeper')
    (start : Lasts keeper)
    (resumptions : Nat) :
    ∃ keeper',
      (repeating message interval repetition :
              Coroutine κ Nat TaskError).resumeTimes
            Timekeeper.answer resumptions keeper =
          some
            (keeper', repeating message interval repetition,
              List.replicate resumptions result) ∧
        Lasts keeper' := by
  have passes :
      ∀ (_ : Nat) (keeper : Timekeeper) (standing : Repetition (Option Nat)),
        standing = repetition ∧ Lasts keeper →
        ∃ keeper' standing',
          (Repetition.advance (sleep interval : Coroutine κ Unit TaskError)
                  message standing.remaining standing.emitted
                  standing.waiting).conduct
                Timekeeper.answer keeper =
              some (keeper', standing', result) ∧
            standing' = repetition ∧ Lasts keeper' := by
    rintro _ keeper _ ⟨rfl, lasts⟩
    obtain ⟨keeper', conducted, later⟩ := lasting keeper lasts
    exact ⟨keeper', _, conducted, rfl, later⟩
  obtain ⟨keeper', _, resumed, rfl, lasts⟩ :=
    exists_resumeTimes_of_ready passes ⟨rfl, start⟩ resumptions
  rw [List.map_const', List.length_range] at resumed
  exact ⟨keeper', resumed, lasts⟩

/--
If the first sleep stays as it was when it was first tried, one message is logged,
and every resumption gives what the first gave.
-/
theorem exists_resumeTimes_of_stuck
    {clock : Nat → Nat}
    {fewer : Nat}
    (stuck :
      ∀ keeper : Timekeeper,
        keeper.clock = clock →
        0 < keeper.readings →
        (Repetition.advance (sleep interval : Coroutine κ Unit TaskError)
              message fewer 1
              (some (interval.deadline? (clock 0)))).conduct
            Timekeeper.answer keeper =
          some
            (keeper.read,
              ⟨fewer, 1, some (interval.deadline? (clock 0))⟩,
              interval.started (clock 0)))
    (resumptions : Nat) :
    ∃ keeper repetition,
      (repeatMessage message interval (fewer + 1) :
              Coroutine κ Nat TaskError).resumeTimes
            Timekeeper.answer resumptions { clock := clock } =
          some
            (keeper, repeating message interval repetition,
              List.replicate resumptions (interval.started (clock 0))) ∧
        keeper.announced =
          List.replicate (min resumptions 1) (.info, message) := by
  cases resumptions with
  | zero => exact ⟨_, ⟨fewer + 1, 0, none⟩, rfl, rfl⟩
  | succ resumptions =>
      have first :
          (repeating message interval ⟨fewer + 1, 0, none⟩ :
                Coroutine κ Nat TaskError).resume.conduct
              Timekeeper.answer { clock := clock } = _ :=
        conduct_resume_repeating conduct_advance_succ
      have lasting :
          ∀ keeper : Timekeeper,
            (keeper.clock = clock ∧
                0 < keeper.readings ∧
                keeper.announced = [(.info, message)]) →
            ∃ keeper' : Timekeeper,
              (Repetition.advance
                      (sleep interval : Coroutine κ Unit TaskError)
                      message fewer 1
                      (some (interval.deadline? (clock 0)))).conduct
                    Timekeeper.answer keeper =
                  some
                    (keeper',
                      ⟨fewer, 1, some (interval.deadline? (clock 0))⟩,
                      interval.started (clock 0)) ∧
                keeper'.clock = clock ∧
                0 < keeper'.readings ∧
                keeper'.announced = [(.info, message)] := by
        rintro keeper ⟨same, positive, announced⟩
        exact
          ⟨keeper.read, stuck keeper same positive, same,
            Nat.zero_lt_succ _, announced⟩
      obtain ⟨keeper, resumed, -, -, announced⟩ :=
        exists_resumeTimes_of_lasting
          ⟨fewer, 1, some (interval.deadline? (clock 0))⟩
          (({ clock := clock } : Timekeeper).hear .info message).read
          lasting ⟨rfl, Nat.zero_lt_one, rfl⟩ resumptions
      refine ⟨keeper, _, resumeTimes_cons first resumed, ?_⟩
      rw [announced, Nat.min_eq_right (Nat.le_add_left 1 resumptions)]
      rfl

/-- While the first pause lasts, a repetition has logged one message and suspends. -/
theorem exists_resumeTimes_of_unending
    (message : String)
    {times deadline : Nat}
    {clock : Nat → Nat}
    (positive : 0 < times)
    (reached : interval.deadline? (clock 0) = some deadline)
    (waits : ∀ reading, 0 < reading → clock reading < deadline)
    (resumptions : Nat) :
    ∃ keeper repetition,
      (repeatMessage message interval times :
              Coroutine κ Nat TaskError).resumeTimes
            Timekeeper.answer resumptions { clock := clock } =
          some
            (keeper, repeating message interval repetition,
              List.replicate resumptions (.ok .suspended)) ∧
        keeper.announced =
          List.replicate (min resumptions 1) (.info, message) := by
  obtain ⟨fewer, rfl⟩ :=
    Nat.exists_eq_succ_of_ne_zero (Nat.ne_of_gt positive)
  have suspends :
      (interval.started (clock 0) : Guarded (Outcome Nat TaskError)) =
        .ok .suspended :=
    Duration.started_of_some reached
  rw [← suspends]
  apply exists_resumeTimes_of_stuck
  intro keeper same later
  subst same
  rw [reached, suspends]
  exact conduct_advance_of_lt (waits keeper.readings later)

/-- While no pause can begin, a repetition has logged one message and panics. -/
theorem exists_resumeTimes_of_overflowing
    (message : String)
    {times : Nat}
    {clock : Nat → Nat}
    (positive : 0 < times)
    (unreached : ∀ reading, interval.deadline? (clock reading) = none)
    (resumptions : Nat) :
    ∃ keeper repetition,
      (repeatMessage message interval times :
              Coroutine κ Nat TaskError).resumeTimes
            Timekeeper.answer resumptions { clock := clock } =
          some
            (keeper, repeating message interval repetition,
              List.replicate resumptions (.error Duration.overflow)) ∧
        keeper.announced =
          List.replicate (min resumptions 1) (.info, message) := by
  obtain ⟨fewer, rfl⟩ :=
    Nat.exists_eq_succ_of_ne_zero (Nat.ne_of_gt positive)
  have panics :
      (interval.started (clock 0) : Guarded (Outcome Nat TaskError)) =
        .error Duration.overflow :=
    Duration.started_of_none (unreached 0)
  rw [← panics]
  apply exists_resumeTimes_of_stuck
  intro keeper same _
  subst same
  have again : interval.deadline? keeper.now = none :=
    unreached keeper.readings
  rw [unreached 0, panics, conduct_advance_none, again,
    Duration.started_of_none again]

/-- A repetition of nothing completes at once, again and again. -/
theorem exists_resumeTimes_of_none
    (message : String)
    (interval : Duration)
    (clock : Nat → Nat)
    (resumptions : Nat) :
    ∃ keeper repetition,
      (repeatMessage message interval 0 :
              Coroutine κ Nat TaskError).resumeTimes
            Timekeeper.answer resumptions { clock := clock } =
          some
            (keeper, repeating message interval repetition,
              List.replicate resumptions (.ok (.completed 0))) ∧
        keeper.announced = [] := by
  have lasting :
      ∀ keeper : Timekeeper,
        keeper.announced = [] →
        ∃ keeper' : Timekeeper,
          (Repetition.advance (sleep interval : Coroutine κ Unit TaskError)
                  message 0 0 none).conduct
                Timekeeper.answer keeper =
              some (keeper', ⟨0, 0, none⟩, .ok (.completed 0)) ∧
            keeper'.announced = [] :=
    fun keeper silent => ⟨keeper, conduct_advance_zero, silent⟩
  obtain ⟨keeper, resumed, silent⟩ :=
    exists_resumeTimes_of_lasting ⟨0, 0, none⟩ { clock := clock } lasting
      rfl resumptions
  exact ⟨keeper, _, resumed, silent⟩

end

end Coroutine

/-- How often a message is logged, and what its repetition gives, whatever the clock shows. -/
structure MessagesCounted
    (message : String)
    (interval : Duration)
    (times : Nat) :
    Prop where
  /--
  Every resumption comes to a result. What has been logged is the message as often
  as it is counted, and with what is still to be logged that is as often as asked for.
  -/
  counted :
    ∀ {κ : Type} (clock : Nat → Nat) (resumptions : Nat),
      ∃ keeper repetition results,
        (Coroutine.repeatMessage message interval times :
                Coroutine κ Nat TaskError).resumeTimes
              Timekeeper.answer resumptions { clock := clock } =
            some
              (keeper, Coroutine.repeating message interval repetition,
                results) ∧
          repetition.emitted + repetition.remaining = times ∧
          keeper.announced =
            List.replicate repetition.emitted (.info, message)
  /-- No resumption, however the repetition stands, logs more than the message, and that once. -/
  once :
    ∀ {κ : Type} (repetition : Repetition (Option Nat))
      (keeper : Timekeeper),
      ∃ keeper' repetition' result,
        (Coroutine.repeating message interval repetition :
                Coroutine κ Nat TaskError).resume.conduct
              Timekeeper.answer keeper =
            some
              (keeper', Coroutine.repeating message interval repetition',
                result) ∧
          Repetition.Counts message repetition repetition' keeper keeper'
  /-- It is over after two turns of the loop, or one, in any surroundings. -/
  turns :
    ∀ {κ : Type} (repetition : Repetition (Option Nat)),
      (Coroutine.repeating message interval repetition :
            Coroutine κ Nat TaskError).resume.map
          (fun (coroutine, result) => (coroutine, some result)) =
        (Repetition.loop interval message 2 repetition).map
          fun (repetition', result) =>
            (Coroutine.repeating message interval repetition', result)
  /--
  Without pauses, and with a clock that never goes back, the message is logged once
  in each of the first resumptions, which suspend; all others complete with the
  number of messages, and log nothing.
  -/
  unpaused :
    interval.nanoseconds = 0 →
    ∀ {κ : Type} {clock : Nat → Nat},
      Timekeeper.Steady clock →
      ∀ resumptions,
        ∃ keeper repetition,
          (Coroutine.repeatMessage message interval times :
                  Coroutine κ Nat TaskError).resumeTimes
                Timekeeper.answer resumptions { clock := clock } =
              some
                (keeper, Coroutine.repeating message interval repetition,
                  (List.range resumptions).map fun turn =>
                    if turn < times then .ok .suspended
                    else .ok (.completed times)) ∧
            keeper.announced =
              List.replicate (min resumptions times) (.info, message)
  /-- If the first pause never ends, the first resumption logs the message, and all suspend. -/
  unending :
    0 < times →
    ∀ {κ : Type} {clock : Nat → Nat} {deadline : Nat},
      interval.deadline? (clock 0) = some deadline →
      (∀ reading, 0 < reading → clock reading < deadline) →
      ∀ resumptions,
        ∃ keeper repetition,
          (Coroutine.repeatMessage message interval times :
                  Coroutine κ Nat TaskError).resumeTimes
                Timekeeper.answer resumptions { clock := clock } =
              some
                (keeper, Coroutine.repeating message interval repetition,
                  List.replicate resumptions (.ok .suspended)) ∧
            keeper.announced =
              List.replicate (min resumptions 1) (.info, message)
  /--
  If the clock never reaches the end of a pause, the first resumption logs the
  message, and all panic.
  -/
  overflowing :
    0 < times →
    ∀ {κ : Type} {clock : Nat → Nat},
      (∀ reading, interval.deadline? (clock reading) = none) →
      ∀ resumptions,
        ∃ keeper repetition,
          (Coroutine.repeatMessage message interval times :
                  Coroutine κ Nat TaskError).resumeTimes
                Timekeeper.answer resumptions { clock := clock } =
              some
                (keeper, Coroutine.repeating message interval repetition,
                  List.replicate resumptions (.error Duration.overflow)) ∧
            keeper.announced =
              List.replicate (min resumptions 1) (.info, message)
  /-- If nothing is asked for, nothing is logged, and all resumptions complete. -/
  nothing :
    times = 0 →
    ∀ {κ : Type} (clock : Nat → Nat) (resumptions : Nat),
      ∃ keeper repetition,
        (Coroutine.repeatMessage message interval times :
                Coroutine κ Nat TaskError).resumeTimes
              Timekeeper.answer resumptions { clock := clock } =
            some
              (keeper, Coroutine.repeating message interval repetition,
                List.replicate resumptions (.ok (.completed 0))) ∧
          keeper.announced = []

/-- Repetitions log as many messages as they are asked for, and keep count. -/
theorem messages_counted
    (message : String)
    (interval : Duration)
    (times : Nat) :
    MessagesCounted message interval times where
  counted := fun clock resumptions =>
    Coroutine.exists_resumeTimes_counted message interval times resumptions
      clock
  once := by
    intro κ repetition keeper
    obtain ⟨keeper', repetition', result, conducted, counts⟩ :=
      Repetition.exists_counts (κ := κ) interval message repetition keeper
    exact
      ⟨keeper', repetition', result,
        Coroutine.conduct_resume_repeating conducted, counts⟩
  turns := by
    intro κ repetition
    rw [Repetition.loop_two, Coroutine.resume_repeating,
      Activity.map_map, Activity.map_map]
  unpaused := fun instant _ _ steady resumptions =>
    Coroutine.exists_resumeTimes_paced message times instant steady
      resumptions
  unending := fun positive _ _ _ reached waits resumptions =>
    Coroutine.exists_resumeTimes_of_unending message positive reached waits
      resumptions
  overflowing := fun positive _ _ unreached resumptions =>
    Coroutine.exists_resumeTimes_of_overflowing message positive unreached
      resumptions
  nothing := by
    rintro rfl κ clock resumptions
    exact
      Coroutine.exists_resumeTimes_of_none message interval clock resumptions

/-- A clock that stops after a second. -/
def Timekeeper.stoppingClock (reading : Nat) : Nat :=
  min reading 1000000000

/--
Two messages without pauses, two with a pause of an hour on a clock that stops
before, and two with a pause for which the clock has no room.
-/
theorem messages_counted_in_three_resumptions :
    (∃ keeper repetition,
      (Coroutine.repeatMessage "tick" (Duration.ofSeconds 0) 2 :
              Coroutine Unit Nat TaskError).resumeTimes
            Timekeeper.answer 3 { clock := Timekeeper.stoppingClock } =
          some
            (keeper,
              Coroutine.repeating "tick" (Duration.ofSeconds 0) repetition,
              [.ok .suspended, .ok .suspended, .ok (.completed 2)]) ∧
        keeper.announced = [(.info, "tick"), (.info, "tick")]) ∧
      (∃ keeper repetition,
        (Coroutine.repeatMessage "tick" (Duration.ofSeconds 3600) 2 :
                Coroutine Unit Nat TaskError).resumeTimes
              Timekeeper.answer 3 { clock := Timekeeper.stoppingClock } =
            some
              (keeper,
                Coroutine.repeating "tick" (Duration.ofSeconds 3600)
                  repetition,
                [.ok .suspended, .ok .suspended, .ok .suspended]) ∧
          keeper.announced = [(.info, "tick")]) ∧
      ∃ keeper repetition,
        (Coroutine.repeatMessage "tick"
                (Duration.ofSeconds 18446744073709551615) 2 :
                Coroutine Unit Nat TaskError).resumeTimes
              Timekeeper.answer 3 { clock := Timekeeper.stoppingClock } =
            some
              (keeper,
                Coroutine.repeating "tick"
                  (Duration.ofSeconds 18446744073709551615) repetition,
                List.replicate 3 (.error Duration.overflow)) ∧
          keeper.announced = [(.info, "tick")] := by
  have stops (reading : Nat) :
      Timekeeper.stoppingClock reading ≤ 1000000000 :=
    Nat.min_le_right reading 1000000000
  have steady : Timekeeper.Steady Timekeeper.stoppingClock :=
    { monotone := fun _ _ before =>
        Nat.le_min.mpr
          ⟨(Nat.min_le_left _ _).trans before, Nat.min_le_right _ _⟩
      inRange := fun reading =>
        Nat.lt_of_le_of_lt (Nat.div_le_div_right (stops reading))
          (by decide) }
  have hour :
      (Duration.ofSeconds 3600).deadline? (Timekeeper.stoppingClock 0) =
        some 3600000000000 :=
    rfl
  exact
    ⟨(messages_counted "tick" (Duration.ofSeconds 0) 2).unpaused rfl
        steady 3,
      (messages_counted "tick" (Duration.ofSeconds 3600) 2).unending
        Nat.zero_lt_two hour
        (fun reading _ => Nat.lt_of_le_of_lt (stops reading) (by decide)) 3,
      (messages_counted "tick" (Duration.ofSeconds 18446744073709551615)
          2).overflowing
        Nat.zero_lt_two
        (fun _ => Duration.deadline?_of_endless (by decide) _) 3⟩

end RoundRobin