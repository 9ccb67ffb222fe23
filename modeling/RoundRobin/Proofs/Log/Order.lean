import Mathlib.Data.List.Basic
import Mathlib.Tactic.Tauto
import RoundRobin.Log.Entry
import RoundRobin.Outcome

namespace RoundRobin

/-!
# What a log says by itself

What a scheduler does to its tasks is told by events: that a task was added or
spawned, that a resumption of it begins, and what the resumption ended in. A
log that tells this in order is `Log.Orderly`: the beginnings and the ends of
resumptions take turns, the resumptions of each task are numbered from one on,
and nothing is told of a task before it is issued or after its end. Which
events may be told next depends on the log alone.
-/

/-- What was logged, in order. -/
abbrev Log :=
  List LogEvent

/-- Where the result of a resumption sends its task. -/
def TaskState.ofResult : Guarded (Outcome α ε) → TaskState
  | .ok .suspended => .ready
  | .ok (.completed _) => .completed
  | .ok (.failed _) => .failed
  | .error _ => .abandoned

namespace LogEvent

/-- The task that an event is about, if it is about one. -/
def task? : LogEvent → Option TaskId
  | taskAdded id => some id
  | taskSpawned id => some id
  | taskRunning id _ => some id
  | taskSuspended id => some id
  | taskCompleted id _ => some id
  | taskFailed id _ => some id
  | taskPanicked id => some id
  | _ => none

/-- The task that was issued, if this tells of one. -/
def issued? : LogEvent → Option TaskId
  | taskAdded id => some id
  | taskSpawned id => some id
  | _ => none

/-- Which resumption of the task begins, if this tells of one. -/
def resumption? (id : TaskId) : LogEvent → Option Nat
  | taskRunning running resumption =>
      if running = id then some resumption else none
  | _ => none

/-- The task whose resumption ended and left it in the given place. -/
def sentTo? : TaskState → LogEvent → Option TaskId
  | .ready, taskSuspended id => some id
  | .completed, taskCompleted id _ => some id
  | .failed, taskFailed id _ => some id
  | .abandoned, taskPanicked id => some id
  | _, _ => none

/-- The task that completed or failed, if this tells of one. -/
def resolved? : LogEvent → Option TaskId
  | taskCompleted id _ => some id
  | taskFailed id _ => some id
  | _ => none

/-- Whether an event tells of the beginning or the end of a resumption. -/
def ofResumption : LogEvent → Bool
  | taskRunning _ _ => true
  | taskSuspended _ => true
  | taskCompleted _ _ => true
  | taskFailed _ _ => true
  | taskPanicked _ => true
  | _ => false

/-- What tells of the result of a task's resumption, the given one. -/
def ofResult
    (id : TaskId)
    (resumption : Nat) :
    Guarded (Outcome α ε) →
    LogEvent
  | .ok .suspended => taskSuspended id
  | .ok (.completed _) => taskCompleted id resumption
  | .ok (.failed _) => taskFailed id resumption
  | .error _ => taskPanicked id

variable {event : LogEvent} {id : TaskId}

/-- What tells that a task was issued tells nothing else. -/
theorem issued?_cases (issues : event.issued? = some id) :
    event = taskAdded id ∨ event = taskSpawned id := by
  cases event <;> simp_all [issued?]

/-- What tells where a task went is about the task. -/
theorem task?_of_sentTo?
    {place : TaskState}
    (sent : event.sentTo? place = some id) :
    event.task? = some id := by
  cases place <;> cases event <;> simp_all [sentTo?, task?]

/-- What is about no task tells nothing of one. -/
theorem silent_of_apart (apart : event.task? = none) :
    event.issued? = none ∧
      (∀ id, event.resumption? id = none) ∧
      (∀ place, event.sentTo? place = none) ∧
      event.resolved? = none := by
  refine ⟨?_, ?_, ?_, ?_⟩
  · cases event <;> simp_all [issued?, task?]
  · intro id
    cases event <;> simp_all [resumption?, task?]
  · intro place
    cases event <;> cases place <;> simp_all [sentTo?, task?]
  · cases event <;> simp_all [resolved?, task?]

/-- What tells that a task was issued tells nothing else. -/
theorem silent_of_issues (issues : event.issued? = some id) :
    event.task? = some id ∧
      (∀ id, event.resumption? id = none) ∧
      (∀ place, event.sentTo? place = none) ∧
      event.resolved? = none := by
  rcases issued?_cases issues with rfl | rfl <;>
    exact ⟨rfl, fun _ => rfl, fun place => by cases place <;> rfl, rfl⟩

/-- What tells of a result tells neither of an addition nor of a beginning. -/
theorem silent_ofResult
    (id : TaskId)
    (resumption : Nat)
    (result : Guarded (Outcome α ε)) :
    (ofResult id resumption result).task? = some id ∧
      (ofResult id resumption result).issued? = none ∧
      ∀ other, (ofResult id resumption result).resumption? other = none := by
  rcases result with panic | _ | value | error <;>
    exact ⟨rfl, rfl, fun _ => rfl⟩

/-- What tells of a result tells where it sent the task. -/
theorem sentTo?_ofResult
    (id : TaskId)
    (resumption : Nat)
    (result : Guarded (Outcome α ε))
    (place : TaskState) :
    (ofResult id resumption result).sentTo? place =
      if TaskState.ofResult result = place then some id else none := by
  rcases result with panic | _ | value | error <;> cases place <;> rfl

@[simp] theorem ofResumption_ofResult
    (id : TaskId)
    (resumption : Nat)
    (result : Guarded (Outcome α ε)) :
    (ofResult id resumption result).ofResumption = true := by
  rcases result with panic | _ | value | error <;> rfl

end LogEvent

namespace Log

/-- The tasks that were issued, in order. -/
def issued (log : Log) : List TaskId :=
  log.filterMap LogEvent.issued?

/-- The numbers of the resumptions of a task that began, in order. -/
def resumptionsOf
    (log : Log)
    (id : TaskId) :
    List Nat :=
  log.filterMap (LogEvent.resumption? id)

/-- The tasks whose resumptions left them in the given place, in order. -/
def sentTo
    (log : Log)
    (place : TaskState) :
    List TaskId :=
  log.filterMap (LogEvent.sentTo? place)

/-- The tasks that completed or failed, in order. -/
def resolved (log : Log) : List TaskId :=
  log.filterMap LogEvent.resolved?

@[simp] theorem issued_concat
    (log : Log)
    (event : LogEvent) :
    Log.issued (log ++ [event]) =
      log.issued ++ event.issued?.toList := by
  cases issues : event.issued? <;> simp [issued, issues]

@[simp] theorem resumptionsOf_concat
    (log : Log)
    (event : LogEvent)
    (id : TaskId) :
    Log.resumptionsOf (log ++ [event]) id =
      log.resumptionsOf id ++ (event.resumption? id).toList := by
  cases begins : event.resumption? id <;> simp [resumptionsOf, begins]

@[simp] theorem sentTo_concat
    (log : Log)
    (event : LogEvent)
    (place : TaskState) :
    Log.sentTo (log ++ [event]) place =
      log.sentTo place ++ (event.sentTo? place).toList := by
  cases sends : event.sentTo? place <;> simp [sentTo, sends]

@[simp] theorem resolved_concat
    (log : Log)
    (event : LogEvent) :
    Log.resolved (log ++ [event]) =
      log.resolved ++ event.resolved?.toList := by
  cases resolves : event.resolved? <;> simp [resolved, resolves]

/--
A beginning of a resumption and the end of the same resumption take turns. The
task given is the one whose resumption has not ended.
-/
inductive Alternating : Log → Option TaskId → Prop where
  | nil : Alternating [] none
  | began
      {log : Log}
      (earlier : Alternating log none)
      (id : TaskId)
      (resumption : Nat) :
      Alternating (log ++ [.taskRunning id resumption]) (some id)
  | ended
      {log : Log}
      {id : TaskId}
      {event : LogEvent}
      {place : TaskState}
      (earlier : Alternating log (some id))
      (sent : event.sentTo? place = some id) :
      Alternating (log ++ [event]) none

/-- A resumption of the task has left it in a place that it does not leave. -/
def Over
    (log : Log)
    (id : TaskId) :
    Prop :=
  ∃ place, place ≠ .ready ∧ id ∈ log.sentTo place

/-- The order of a log, while the given task is being resumed. -/
structure Orderly
    (log : Log)
    (running : Option TaskId) :
    Prop where
  alternating :
    Alternating (log.filter LogEvent.ofResumption) running
  /-- The resumptions of each task are numbered from one on. -/
  numbered :
    ∀ id,
      log.resumptionsOf id =
        List.range' 1 (log.resumptionsOf id).length
  /-- The end of a task is told with the number of its resumptions. -/
  totalled :
    ∀ id total,
      .taskCompleted id total ∈ log ∨ .taskFailed id total ∈ log →
      total = (log.resumptionsOf id).length
  /-- Nothing is told of a task after its end. -/
  last :
    log.Pairwise fun earlier later =>
      ∀ id place,
        place ≠ .ready →
        earlier.sentTo? place = some id →
        later.task? ≠ some id
  /-- Nothing is told of a task before it is issued. -/
  first :
    log.Pairwise fun earlier later =>
      ∀ id,
        later.issued? = some id →
        earlier.task? ≠ some id

variable {log : Log} {running : Option TaskId} {id : TaskId}

theorem mem_sentTo {place : TaskState} :
    id ∈ log.sentTo place ↔
      ∃ event ∈ log, event.sentTo? place = some id := by
  simp [sentTo]

/-- A task that nothing is told of is not over. -/
theorem not_over_of_fresh
    (fresh : ∀ event ∈ log, event.task? ≠ some id) :
    ¬ log.Over id := by
  rintro ⟨place, -, member⟩
  obtain ⟨event, told, sent⟩ := mem_sentTo.mp member
  exact fresh event told (LogEvent.task?_of_sentTo? sent)

/-- A task that nothing is told of has not been resumed. -/
theorem resumptionsOf_of_fresh
    (fresh : ∀ event ∈ log, event.task? ≠ some id) :
    log.resumptionsOf id = [] := by
  rw [resumptionsOf, List.filterMap_eq_nil_iff]
  intro event member
  have other := fresh event member
  cases event <;> simp_all [LogEvent.resumption?, LogEvent.task?]

/-- The end of a task ends it. -/
theorem over_of_total
    {total : Nat}
    (told : .taskCompleted id total ∈ log ∨ .taskFailed id total ∈ log) :
    log.Over id := by
  rcases told with completed | failed
  · exact ⟨.completed, by simp, mem_sentTo.mpr ⟨_, completed, rfl⟩⟩
  · exact ⟨.failed, by simp, mem_sentTo.mpr ⟨_, failed, rfl⟩⟩

/-- Only the beginning of a resumption changes how many have begun. -/
theorem resumptionsOf_concat_of_ne
    {event : LogEvent}
    (other : ∀ resumption, event ≠ .taskRunning id resumption) :
    Log.resumptionsOf (log ++ [event]) id = log.resumptionsOf id := by
  have silent : event.resumption? id = none := by
    unfold LogEvent.resumption?
    split
    · next running resumption =>
        rw [if_neg]
        rintro rfl
        exact other resumption rfl
    · rfl
  simp [silent]

theorem resumptionsOf_concat_running (resumption : Nat) :
    Log.resumptionsOf (log ++ [.taskRunning id resumption]) id =
      log.resumptionsOf id ++ [resumption] := by
  simp [LogEvent.resumption?]

namespace Orderly

/-- What may be told next. -/
theorem tell
    (orderly : Orderly log running)
    {event : LogEvent}
    {running' : Option TaskId}
    (alternating :
      Alternating ((log ++ [event]).filter LogEvent.ofResumption)
        running')
    (alive : ∀ id, event.task? = some id → ¬ log.Over id)
    (fresh :
      ∀ id,
        event.issued? = some id →
        ∀ earlier ∈ log, earlier.task? ≠ some id)
    (numbered :
      ∀ id resumption,
        event = .taskRunning id resumption →
        resumption = (log.resumptionsOf id).length + 1)
    (totalled :
      ∀ id total,
        event = .taskCompleted id total ∨ event = .taskFailed id total →
        total = (log.resumptionsOf id).length) :
    Orderly (log ++ [event]) running' := by
  refine ⟨alternating, ?_, ?_, ?_, ?_⟩
  · intro id
    by_cases begins : ∃ resumption, event = .taskRunning id resumption
    · obtain ⟨resumption, rfl⟩ := begins
      rw [resumptionsOf_concat_running, List.length_append,
        List.length_singleton, List.range'_concat,
        ← orderly.numbered, numbered id resumption rfl]
      simp [Nat.add_comm]
    · rw [resumptionsOf_concat_of_ne (by simpa using begins)]
      exact orderly.numbered id
  · intro id total told
    by_cases before :
        .taskCompleted id total ∈ log ∨ .taskFailed id total ∈ log
    · rw [resumptionsOf_concat_of_ne]
      · exact orderly.totalled id total before
      · rintro resumption rfl
        exact alive id rfl (over_of_total before)
    · have now :
          event = .taskCompleted id total ∨
            event = .taskFailed id total := by
        simp only [List.mem_append, List.mem_singleton] at told
        tauto
      rw [resumptionsOf_concat_of_ne]
      · exact totalled id total now
      · rintro resumption rfl
        simp at now
  · rw [List.pairwise_append]
    refine ⟨orderly.last, List.pairwise_singleton _ _, ?_⟩
    intro earlier member later isEvent id place notReady sent about
    rw [List.mem_singleton] at isEvent
    subst isEvent
    exact
      alive id about
        ⟨place, notReady, mem_sentTo.mpr ⟨earlier, member, sent⟩⟩
  · rw [List.pairwise_append]
    refine ⟨orderly.first, List.pairwise_singleton _ _, ?_⟩
    intro earlier member later isEvent id issues
    rw [List.mem_singleton] at isEvent
    subst isEvent
    exact fresh id issues earlier member

/-- What is not about a task may be told at any time. -/
theorem aside
    (orderly : Orderly log running)
    {event : LogEvent}
    (apart : event.task? = none) :
    Orderly (log ++ [event]) running := by
  apply orderly.tell
  · have alternating := orderly.alternating
    cases event <;>
      simp_all [LogEvent.task?, LogEvent.ofResumption]
  · simp [apart]
  · intro id issues
    rcases LogEvent.issued?_cases issues with rfl | rfl <;>
      simp [LogEvent.task?] at apart
  · rintro id resumption rfl
    simp [LogEvent.task?] at apart
  · rintro id total (rfl | rfl) <;> simp [LogEvent.task?] at apart

/-- A task may be issued of which nothing has been told. -/
theorem issues
    (orderly : Orderly log running)
    {event : LogEvent}
    (issues : event.issued? = some id)
    (fresh : ∀ earlier ∈ log, earlier.task? ≠ some id) :
    Orderly (log ++ [event]) running := by
  have about := (LogEvent.silent_of_issues issues).1
  apply orderly.tell
  · have alternating := orderly.alternating
    rcases LogEvent.issued?_cases issues with rfl | rfl <;>
      simpa [LogEvent.ofResumption] using alternating
  · intro other same
    rw [about, Option.some_inj] at same
    subst same
    exact not_over_of_fresh fresh
  · intro other same
    rw [issues, Option.some_inj] at same
    subst same
    exact fresh
  · rintro other resumption rfl
    cases issues
  · rintro other total (rfl | rfl) <;> cases issues

/-- The next resumption of a task that is not over may begin. -/
theorem began
    (orderly : Orderly log none)
    (alive : ¬ log.Over id) :
    Orderly
      (log ++ [.taskRunning id ((log.resumptionsOf id).length + 1)])
      (some id) := by
  apply orderly.tell
  · rw [List.filter_append]
    exact .began orderly.alternating id _
  · intro other same
    cases same
    exact alive
  · intro other issues
    cases issues
  · intro other resumption same
    cases same
    rfl
  · rintro other total (same | same) <;> cases same

/-- The resumption that has begun may end. -/
theorem ended
    (orderly : Orderly log (some id))
    (alive : ¬ log.Over id)
    (result : Guarded (Outcome α ε)) :
    Orderly
      (log ++ [.ofResult id (log.resumptionsOf id).length result])
      none := by
  have alternating :
      Alternating
        (List.filter LogEvent.ofResumption
          (log ++ [.ofResult id (log.resumptionsOf id).length result]))
        none := by
    rw [List.filter_append, List.filter_singleton,
      LogEvent.ofResumption_ofResult]
    exact
      .ended orderly.alternating
        ((LogEvent.sentTo?_ofResult id _ result _).trans (if_pos rfl))
  rcases result with panic | _ | value | error
  all_goals
    apply orderly.tell alternating
    · intro other same
      cases same
      exact alive
    · intro other issues
      cases issues
    · intro other resumption same
      cases same
    · rintro other total (same | same) <;> cases same <;> rfl

end Orderly

end Log

end RoundRobin
