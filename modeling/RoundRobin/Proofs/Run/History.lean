import Mathlib.Data.List.Nodup
import RoundRobin.Proofs.Partition

namespace RoundRobin

/-!
# What a history says and what a scheduler shows

A history tells which coroutine was added under which identity and what the
resumptions of each task ended in. `Life.recorded` says that this is what the
scheduler shows: a task that is ready or being resumed has suspended every time
so far, and one that is recorded or abandoned did so until the result that put
it there.
-/

/-- The task and coroutine that were added, if this was an addition. -/
def Happening.addition? :
    Happening κ α ε →
    Option (TaskId × Coroutine κ α ε)
  | added id coroutine => some (id, coroutine)
  | began _ => none
  | ended _ _ => none

/-- The task whose resumption began, if this was the beginning of one. -/
def Happening.begun? : Happening κ α ε → Option TaskId
  | added _ _ => none
  | began id => some id
  | ended _ _ => none

/-- The result of a resumption of the task, if this was the end of one. -/
def Happening.result?
    (id : TaskId) :
    Happening κ α ε →
    Option (Guarded (Outcome α ε))
  | added _ _ => none
  | began _ => none
  | ended other result => if other = id then some result else none

namespace History

/-- The tasks added, with their coroutines as they were then. -/
def added (history : History κ α ε) :
    List (TaskId × Coroutine κ α ε) :=
  history.filterMap Happening.addition?

/-- The tasks whose resumptions began, in that order. -/
def begun (history : History κ α ε) : List TaskId :=
  history.filterMap Happening.begun?

/-- What the resumptions of a task ended in. -/
def results
    (history : History κ α ε)
    (id : TaskId) :
    List (Guarded (Outcome α ε)) :=
  history.filterMap (Happening.result? id)

@[simp] theorem added_append
    (earlier later : History κ α ε) :
    History.added (earlier ++ later) =
      earlier.added ++ History.added later := by
  simp [added]

@[simp] theorem begun_append (earlier later : History κ α ε) :
    History.begun (earlier ++ later) =
      earlier.begun ++ History.begun later := by
  simp [begun]

@[simp] theorem results_append
    (earlier later : History κ α ε)
    (id : TaskId) :
    History.results (earlier ++ later) id =
      earlier.results id ++ History.results later id := by
  simp [results]

@[simp] theorem added_added
    (id : TaskId)
    (coroutine : Coroutine κ α ε) :
    History.added [.added id coroutine] = [(id, coroutine)] :=
  rfl

@[simp] theorem added_began (id : TaskId) :
    History.added [(.began id : Happening κ α ε)] = [] :=
  rfl

@[simp] theorem added_ended
    (id : TaskId)
    (result : Guarded (Outcome α ε)) :
    History.added [(.ended id result : Happening κ α ε)] = [] :=
  rfl

@[simp] theorem begun_added
    (id : TaskId)
    (coroutine : Coroutine κ α ε) :
    History.begun [.added id coroutine] = [] :=
  rfl

@[simp] theorem begun_began (id : TaskId) :
    History.begun [(.began id : Happening κ α ε)] = [id] :=
  rfl

@[simp] theorem begun_ended
    (id : TaskId)
    (result : Guarded (Outcome α ε)) :
    History.begun [(.ended id result : Happening κ α ε)] = [] :=
  rfl

@[simp] theorem results_added
    (added id : TaskId)
    (coroutine : Coroutine κ α ε) :
    History.results [.added added coroutine] id = [] :=
  rfl

@[simp] theorem results_began
    (begun id : TaskId) :
    History.results [(.began begun : Happening κ α ε)] id = [] :=
  rfl

theorem results_ended_self
    (id : TaskId)
    (result : Guarded (Outcome α ε)) :
    History.results [(.ended id result : Happening κ α ε)] id =
      [result] := by
  simp [results, Happening.result?]

theorem results_ended_other
    {ended id : TaskId}
    (different : ended ≠ id)
    (result : Guarded (Outcome α ε)) :
    History.results [(.ended ended result : Happening κ α ε)] id =
      [] := by
  simp [results, Happening.result?, different]

end History

/-- A number of suspensions in a row. -/
def suspensions (count : Nat) : List (Guarded (Outcome α ε)) :=
  List.replicate count (.ok .suspended)

theorem suspensions_succ (count : Nat) :
    (suspensions (count + 1) : List (Guarded (Outcome α ε))) =
      suspensions count ++ [.ok .suspended] :=
  List.replicate_succ'

@[simp] theorem length_suspensions (count : Nat) :
    (suspensions count : List (Guarded (Outcome α ε))).length =
      count :=
  List.length_replicate

/-- Two resumptions that ended did so in the same way after as many suspensions. -/
@[simp] theorem suspensions_append_inj
    {first second : Nat}
    {left right : Guarded (Outcome α ε)} :
    suspensions first ++ [left] = suspensions second ++ [right] ↔
      first = second ∧ left = right := by
  constructor
  · intro same
    have lengths := congrArg List.length same
    simp only [List.length_append, length_suspensions,
      List.length_singleton, Nat.add_right_cancel_iff] at lengths
    subst lengths
    exact ⟨rfl, by simpa using same⟩
  · rintro ⟨rfl, rfl⟩
    rfl

/-- Only suspensions add up to suspensions. -/
@[simp] theorem suspensions_append_eq
    {first second : Nat}
    {result : Guarded (Outcome α ε)} :
    suspensions first ++ [result] = suspensions second ↔
      second = first + 1 ∧ result = .ok .suspended := by
  constructor
  · intro same
    have lengths := congrArg List.length same
    simp only [List.length_append, length_suspensions,
      List.length_singleton] at lengths
    subst lengths
    rw [suspensions_succ, suspensions_append_inj] at same
    exact ⟨rfl, same.2⟩
  · rintro ⟨rfl, rfl⟩
    exact (suspensions_succ first).symm

@[simp] theorem suspensions_eq_append
    {first second : Nat}
    {result : Guarded (Outcome α ε)} :
    suspensions second = suspensions first ++ [result] ↔
      second = first + 1 ∧ result = .ok .suspended := by
  rw [eq_comm, suspensions_append_eq]

/-- The tasks of a scheduler that have not ended: the ready ones and the running one. -/
def Scheduler.live
    (scheduler : Scheduler κ α ε)
    (running : Option (Task κ α ε)) :
    List (Task κ α ε) :=
  scheduler.ready.toList ++ running.toList

/-- A scheduler shows what its history says. -/
structure Recorded
    (history : History κ α ε)
    (scheduler : Scheduler κ α ε)
    (running : Option (Task κ α ε)) :
    Prop where
  added : history.added.map Prod.fst = scheduler.ids.handedOut
  unissued :
    ∀ id,
      id ∉ scheduler.ids.handedOut →
      history.results id = []
  live :
    ∀ task ∈ scheduler.live running,
      history.results task.id = suspensions task.resumptions
  completed :
    ∀ id value,
      (id, value) ∈ scheduler.completed.toList →
      ∃ count,
        history.results id =
          suspensions count ++ [.ok (.completed value)]
  failed :
    ∀ id error,
      (id, error) ∈ scheduler.failed.toList →
      ∃ count,
        history.results id =
          suspensions count ++ [.ok (.failed error)]
  abandoned :
    ∀ id ∈ scheduler.abandoned.toList,
    ∃ count panic,
      history.results id = suspensions count ++ [.error panic]

/-- Live tasks have been issued. -/
theorem Scheduler.Partitioned.issued_of_live
    {scheduler : Scheduler κ α ε}
    {running : Option (Task κ α ε)}
    (partitioned : scheduler.Partitioned (running.map Task.id))
    {task : Task κ α ε}
    (member : task ∈ scheduler.live running) :
    task.id ∈ scheduler.ids.handedOut := by
  have place :
      task.id ∈ scheduler.readyIds ∨
        running.map Task.id = some task.id := by
    rcases List.mem_append.mp member with ready | current
    · exact .inl (List.mem_map_of_mem ready)
    · rw [Option.mem_toList] at current
      simp [Option.mem_def.mp current]
  rw [IdSource.mem_handedOut_iff, partitioned.issued]
  rcases place with ready | current
  · exact .inl ready
  · exact .inr (.inr (.inr (.inr current)))

/-- A new identity has not been issued. -/
theorem Scheduler.enqueue_fresh
    (scheduler : Scheduler κ α ε)
    (coroutine : Coroutine κ α ε) :
    (scheduler.enqueue coroutine).2 ∉ scheduler.ids.handedOut := by
  rw [IdSource.mem_handedOut_iff]
  exact Nat.lt_irrefl _

theorem Scheduler.mem_live_enqueue
    {scheduler : Scheduler κ α ε}
    {running : Option (Task κ α ε)}
    {coroutine : Coroutine κ α ε}
    {task : Task κ α ε} :
    task ∈ (scheduler.enqueue coroutine).1.live running ↔
      task ∈ scheduler.live running ∨
        task = .new (scheduler.enqueue coroutine).2 coroutine := by
  simp only [live, ready_enqueue, List.mem_append, List.mem_singleton]
  tauto

/-- Beginning a resumption ends no life and starts none. -/
theorem Scheduler.mem_live_of_dequeue?
    {scheduler rest : Scheduler κ α ε}
    {next task : Task κ α ε}
    (dequeued : scheduler.dequeue? = some (next, rest)) :
    task ∈ rest.live (some next) ↔ task ∈ scheduler.live none := by
  simp only [live, (dequeue?_eq_some dequeued).1, Option.toList,
    List.mem_append, List.mem_cons, List.not_mem_nil]
  tauto

/-- The end of a resumption changes nothing that is said of other tasks. -/
theorem Recorded.others
    {history : History κ α ε}
    {scheduler : Scheduler κ α ε}
    {task : Task κ α ε}
    (recorded : Recorded history scheduler (some task))
    (partitioned : scheduler.Partitioned ((some task).map Task.id))
    (result : Guarded (Outcome α ε)) :
    Recorded (history ++ [.ended task.id result]) scheduler none := by
  obtain ⟨notReady, notCompleted, notFailed, notAbandoned⟩ :=
    partitioned.runningApart task.id rfl
  have issued : task.id ∈ scheduler.ids.handedOut :=
    partitioned.issued_of_live (by simp [Scheduler.live])
  have ofOther
      {id : TaskId}
      (different : id ≠ task.id) :
      History.results (history ++ [.ended task.id result]) id =
        history.results id := by
    simp [History.results_ended_other different.symm]
  refine ⟨?_, ?_, ?_, ?_, ?_, ?_⟩
  · simpa using recorded.added
  · intro id absent
    rw [ofOther (ne_of_mem_of_not_mem issued absent).symm]
    exact recorded.unissued id absent
  · intro waiting member
    have ready : waiting ∈ scheduler.ready.toList := by
      simpa [Scheduler.live] using member
    rw [ofOther (ne_of_mem_of_not_mem (List.mem_map_of_mem ready)
      notReady)]
    exact recorded.live waiting (List.mem_append_left _ ready)
  · intro id value member
    have different : id ≠ task.id :=
      ne_of_mem_of_not_mem (Ledger.mem_ids_of_mem member) notCompleted
    rw [ofOther different]
    exact recorded.completed id value member
  · intro id error member
    have different : id ≠ task.id :=
      ne_of_mem_of_not_mem (Ledger.mem_ids_of_mem member) notFailed
    rw [ofOther different]
    exact recorded.failed id error member
  · intro id member
    rw [ofOther (ne_of_mem_of_not_mem member notAbandoned)]
    exact recorded.abandoned id member

/-- The end of a resumption is recorded for its task. -/
theorem Recorded.ended
    {history : History κ α ε}
    {scheduler : Scheduler κ α ε}
    {task : Task κ α ε}
    (recorded : Recorded history scheduler (some task))
    (partitioned : scheduler.Partitioned ((some task).map Task.id))
    (coroutine : Coroutine κ α ε)
    (result : Guarded (Outcome α ε)) :
    Recorded (history ++ [.ended task.id result])
      (scheduler.conclude task coroutine result) none := by
  obtain ⟨added, unissued, live, completed, failed, abandoned⟩ :=
    recorded.others partitioned result
  have ofTask :
      History.results (history ++ [.ended task.id result]) task.id =
        suspensions task.resumptions ++ [result] := by
    rw [History.results_append, History.results_ended_self,
      recorded.live task (by simp [Scheduler.live])]
  have unrecorded : scheduler.Unrecorded task.id := partitioned.unrecorded
  rcases result with panic | _ | value | error
  · refine ⟨added, unissued, live, completed, failed, ?_⟩
    intro id member
    have placed : id ∈ scheduler.abandoned.toList ∨ id = task.id := by
      simpa [Scheduler.conclude, Scheduler.abandon] using member
    rcases placed with earlier | rfl
    · exact abandoned id earlier
    · exact ⟨_, panic, ofTask⟩
  · refine ⟨added, unissued, ?_, completed, failed, abandoned⟩
    intro waiting member
    have placed :
        waiting ∈ scheduler.live none ∨
          waiting = task.resumed coroutine := by
      simpa [Scheduler.conclude, Scheduler.settle, Scheduler.live]
        using member
    rcases placed with earlier | rfl
    · exact live waiting earlier
    · rw [Task.id_resumed, ofTask]
      exact (suspensions_succ task.resumptions).symm
  · refine ⟨added, unissued, live, ?_, failed, abandoned⟩
    intro id other member
    have placed :
        (id, other) ∈ scheduler.completed.toList ∨
          (id, other) = (task.id, value) := by
      simpa [Scheduler.conclude, Scheduler.settle, unrecorded.completed]
        using member
    rcases placed with earlier | same
    · exact completed id other earlier
    · cases same
      exact ⟨_, ofTask⟩
  · refine ⟨added, unissued, live, completed, ?_, abandoned⟩
    intro id other member
    have placed :
        (id, other) ∈ scheduler.failed.toList ∨
          (id, other) = (task.id, error) := by
      simpa [Scheduler.conclude, Scheduler.settle, unrecorded.failed]
        using member
    rcases placed with earlier | same
    · exact failed id other earlier
    · cases same
      exact ⟨_, ofTask⟩

/-- What a step does is recorded, if what happened before was. -/
theorem Step.recorded
    {history last : History κ α ε}
    {scheduler scheduler' : Scheduler κ α ε}
    {running running' : Option (Task κ α ε)}
    (step : Step scheduler running last scheduler' running')
    (partitioned : scheduler.Partitioned (running.map Task.id))
    (before : Recorded history scheduler running) :
    Recorded (history ++ last) scheduler' running' := by
  cases step with
  | still =>
      rw [List.append_nil]
      exact before
  | added _ coroutine =>
      have results (id : TaskId) :
          History.results
              (history ++
                [.added (scheduler.enqueue coroutine).2 coroutine]) id =
            history.results id := by
        simp
      refine ⟨?_, ?_, ?_, ?_, ?_, ?_⟩
      · simp [before.added]
      · intro id unissued
        rw [Scheduler.handedOut_enqueue, List.mem_append, not_or]
          at unissued
        rw [results]
        exact before.unissued id unissued.1
      · intro task member
        rw [results]
        rcases Scheduler.mem_live_enqueue.mp member with
          earlier | rfl
        · exact before.live task earlier
        · exact before.unissued _ (scheduler.enqueue_fresh coroutine)
      · simpa using before.completed
      · simpa using before.failed
      · simpa using before.abandoned
  | @began rest task next =>
      have unchanged := (Scheduler.dequeue?_eq_some next).2
      have results (id : TaskId) :
          History.results (history ++ [.began task.id]) id =
            history.results id := by
        simp
      refine ⟨?_, ?_, ?_, ?_, ?_, ?_⟩
      · rw [unchanged]
        simpa using before.added
      · rw [unchanged]
        simpa using before.unissued
      · intro live member
        rw [results]
        exact
          before.live live
            ((Scheduler.mem_live_of_dequeue? next).mp member)
      · rw [unchanged]
        simpa using before.completed
      · rw [unchanged]
        simpa using before.failed
      · rw [unchanged]
        simpa using before.abandoned
  | ended =>
      exact before.ended partitioned _ _
  | flagged =>
      rw [List.append_nil]
      exact
        ⟨before.added, before.unissued, before.live, before.completed,
          before.failed, before.abandoned⟩

/-- A scheduler shows what has happened in its life. -/
theorem Life.recorded
    {history : History κ α ε}
    {scheduler : Scheduler κ α ε}
    {running : Option (Task κ α ε)}
    (life : Life history scheduler running) :
    Recorded history scheduler running := by
  induction life with
  | made made =>
      rw [Scheduler.eq_of_new_eq_ok made]
      refine ⟨rfl, fun _ _ => rfl, ?_, ?_, ?_, ?_⟩
      all_goals simp [Scheduler.live]
  | step life step inductionHypothesis =>
      exact step.recorded life.partitioned inductionHypothesis

end RoundRobin
