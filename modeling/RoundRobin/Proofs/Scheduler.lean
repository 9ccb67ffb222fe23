import Mathlib.Data.List.Nodup
import RoundRobin.Scheduler.Lookup

namespace RoundRobin

/-!
# What scheduler operations do to the tasks

Adding, taking out, settling and abandoning a task, described by what becomes
of the ready tasks, the ledgers and the abandoned.
-/

namespace Queue

/-- Nothing can be popped exactly if nothing is queued. -/
theorem pop?_eq_none_iff {queue : Queue α} :
    queue.pop? = none ↔ queue.toList = [] := by
  have popped := queue.pop?_map_toList
  cases shape : queue.toList with
  | nil =>
      simpa [shape] using popped
  | cons element rest =>
      cases found : queue.pop? with
      | none => simp [shape, found] at popped
      | some pair => simp

/-- What is popped stood first. -/
theorem toList_of_pop?_eq_some
    {queue rest : Queue α}
    {element : α}
    (popped : queue.pop? = some (element, rest)) :
    queue.toList = element :: rest.toList := by
  have shown := queue.pop?_map_toList
  simp only [popped, Option.map_some] at shown
  split at shown
  · cases shown
  · exact (Option.some.inj shown).symm

end Queue

/-- The identities that a source has handed out, in order. -/
def IdSource.handedOut (source : IdSource) : List TaskId :=
  (List.range source.issued).map TaskId.mk

theorem IdSource.nodup_handedOut (source : IdSource) :
    source.handedOut.Nodup := by
  apply List.Nodup.map _ List.nodup_range
  intro first second same
  exact TaskId.mk.inj same

theorem IdSource.mem_handedOut
    {source : IdSource}
    {id : TaskId} :
    id ∈ source.handedOut ↔ source.hasIssued id = true := by
  rcases id with ⟨index⟩
  simp [handedOut, hasIssued]

theorem IdSource.mem_handedOut_iff
    {source : IdSource}
    {id : TaskId} :
    id ∈ source.handedOut ↔ id.index < source.issued := by
  rw [mem_handedOut]
  simp [hasIssued]

theorem IdSource.handedOut_next (source : IdSource) :
    source.next.1.handedOut =
      source.handedOut ++ [source.next.2] := by
  simp [handedOut, next, List.range_succ]

namespace Ledger

theorem mem_ids_iff
    {ledger : Ledger ν}
    {id : TaskId} :
    id ∈ ledger.ids ↔ ∃ value, (id, value) ∈ ledger.toList := by
  simp [ids]

@[simp] theorem length_record
    {ledger : Ledger ν}
    {id : TaskId}
    (absent : id ∉ ledger.ids)
    (value : ν) :
    (ledger.record id value).length = ledger.length + 1 := by
  rw [← length_toList, toList_record absent, List.length_append]
  rfl

@[simp] theorem length_ids (ledger : Ledger ν) :
    ledger.ids.length = ledger.length := by
  simp [ids]

/-- The task of an entry is recorded. -/
theorem mem_ids_of_mem
    {ledger : Ledger ν}
    {id : TaskId}
    {value : ν}
    (member : (id, value) ∈ ledger.toList) :
    id ∈ ledger.ids :=
  List.mem_map_of_mem (f := Prod.fst) member

/-- What is looked up is the entry, if no task has two. -/
theorem get?_eq_some_iff
    {ledger : Ledger ν}
    (noDuplicates : ledger.ids.Nodup)
    {id : TaskId}
    {value : ν} :
    ledger.get? id = some value ↔ (id, value) ∈ ledger.toList := by
  unfold get?
  unfold ids at noDuplicates
  generalize ledger.toList = entries at noDuplicates ⊢
  induction entries with
  | nil =>
      simp
  | cons entry rest inductionHypothesis =>
      rcases entry with ⟨first, content⟩
      obtain ⟨fresh, restNodup⟩ := List.nodup_cons.mp noDuplicates
      by_cases same : first = id
      · subst same
        have absent (other : ν) : (first, other) ∉ rest := by
          intro member
          have recorded := List.mem_map_of_mem (f := Prod.fst) member
          exact fresh recorded
        simp [absent, eq_comm]
      · have different : id ≠ first := Ne.symm same
        simpa [same, different] using inductionHypothesis restNodup

/-- Nothing is looked up exactly if the task has no entry. -/
theorem get?_eq_none_iff
    {ledger : Ledger ν}
    {id : TaskId} :
    ledger.get? id = none ↔ id ∉ ledger.ids := by
  simp only [get?, ids, Option.map_eq_none_iff, List.find?_eq_none,
    decide_eq_true_eq, List.mem_map, not_exists, not_and]

end Ledger

namespace Scheduler

/-- The task has no entry in either ledger. -/
structure Unrecorded
    (scheduler : Scheduler κ α ε)
    (id : TaskId) :
    Prop where
  completed : id ∉ scheduler.completed.ids
  failed : id ∉ scheduler.failed.ids

/-- Where an issued task lives. -/
theorem stateOf?_of_issued
    {scheduler : Scheduler κ α ε}
    {id : TaskId}
    (issued : id ∈ scheduler.ids.handedOut) :
    scheduler.stateOf? id =
      if id ∈ scheduler.completed.ids then some .completed
      else if id ∈ scheduler.failed.ids then some .failed
      else if id ∈ scheduler.abandoned.toList then some .abandoned
      else some .ready := by
  rw [IdSource.mem_handedOut] at issued
  simp [stateOf?, issued, Ledger.mem_ids]

/-- A task that was not issued lives nowhere. -/
theorem stateOf?_eq_none_iff
    {scheduler : Scheduler κ α ε}
    {id : TaskId} :
    scheduler.stateOf? id = none ↔ id ∉ scheduler.ids.handedOut := by
  constructor
  · intro nowhere issued
    rw [stateOf?_of_issued issued] at nowhere
    split_ifs at nowhere
  · intro unissued
    rw [IdSource.mem_handedOut] at unissued
    simp [stateOf?, unissued]

/-- What lives somewhere was issued. -/
theorem issued_of_stateOf?
    {scheduler : Scheduler κ α ε}
    {id : TaskId}
    {state : TaskState}
    (lives : scheduler.stateOf? id = some state) :
    id ∈ scheduler.ids.handedOut := by
  by_contra unissued
  rw [stateOf?_eq_none_iff.mpr unissued] at lives
  cases lives

/-- A new scheduler holds nothing but its settings. -/
theorem eq_of_new_eq_ok
    {config : SchedulerConfig}
    {scheduler : Scheduler κ α ε}
    (made : new config = .ok scheduler) :
    scheduler = { config := config } := by
  unfold new Queue.reserved? at made
  split at made
  · cases made
  · next ready reserved =>
      split at reserved
      · cases reserved
        cases made
        rfl
      · cases reserved

/-- An added task is the last of the ready ones. -/
@[simp] theorem ready_enqueue
    (scheduler : Scheduler κ α ε)
    (coroutine : Coroutine κ α ε) :
    (scheduler.enqueue coroutine).1.ready.toList =
      scheduler.ready.toList ++
        [.new (scheduler.enqueue coroutine).2 coroutine] :=
  Queue.toList_push _ _

@[simp] theorem readyIds_enqueue
    (scheduler : Scheduler κ α ε)
    (coroutine : Coroutine κ α ε) :
    (scheduler.enqueue coroutine).1.readyIds =
      scheduler.readyIds ++ [(scheduler.enqueue coroutine).2] := by
  simp [readyIds, Queue.ids, Task.new]

@[simp] theorem handedOut_enqueue
    (scheduler : Scheduler κ α ε)
    (coroutine : Coroutine κ α ε) :
    (scheduler.enqueue coroutine).1.ids.handedOut =
      scheduler.ids.handedOut ++
        [(scheduler.enqueue coroutine).2] :=
  scheduler.ids.handedOut_next

@[simp] theorem completed_enqueue
    (scheduler : Scheduler κ α ε)
    (coroutine : Coroutine κ α ε) :
    (scheduler.enqueue coroutine).1.completed =
      scheduler.completed :=
  rfl

@[simp] theorem failed_enqueue
    (scheduler : Scheduler κ α ε)
    (coroutine : Coroutine κ α ε) :
    (scheduler.enqueue coroutine).1.failed = scheduler.failed :=
  rfl

@[simp] theorem abandoned_enqueue
    (scheduler : Scheduler κ α ε)
    (coroutine : Coroutine κ α ε) :
    (scheduler.enqueue coroutine).1.abandoned =
      scheduler.abandoned :=
  rfl

/-- Nothing can be taken out exactly if no task is ready. -/
theorem dequeue?_eq_none_iff {scheduler : Scheduler κ α ε} :
    scheduler.dequeue? = none ↔ scheduler.ready.toList = [] := by
  rw [← Queue.pop?_eq_none_iff]
  simp [dequeue?]

/-- The first ready task is taken out, and nothing else changes. -/
theorem dequeue?_eq_some
    {scheduler rest : Scheduler κ α ε}
    {task : Task κ α ε}
    (dequeued : scheduler.dequeue? = some (task, rest)) :
    scheduler.ready.toList = task :: rest.ready.toList ∧
      rest = { scheduler with ready := rest.ready } := by
  simp only [dequeue?, Option.map_eq_some_iff, Prod.mk.injEq]
    at dequeued
  obtain ⟨⟨first, queue⟩, popped, rfl, rfl⟩ := dequeued
  exact ⟨Queue.toList_of_pop?_eq_some popped, rfl⟩

/-- A task that is the first of the ready ones can be taken out. -/
theorem dequeue?_of_ready
    {scheduler : Scheduler κ α ε}
    {task : Task κ α ε}
    {others : List (Task κ α ε)}
    (ready : scheduler.ready.toList = task :: others) :
    ∃ rest,
      scheduler.dequeue? = some (task, rest) ∧
        rest.ready.toList = others := by
  cases found : scheduler.dequeue? with
  | none =>
      rw [dequeue?_eq_none_iff, ready] at found
      cases found
  | some pair =>
      obtain ⟨first, rest⟩ := pair
      have shape := (dequeue?_eq_some found).1
      rw [ready] at shape
      obtain ⟨rfl, same⟩ := List.cons.inj shape
      exact ⟨rest, rfl, same.symm⟩

/-- The first of the ready tasks is the one that is taken out. -/
theorem readyIds_of_dequeue?
    {scheduler rest : Scheduler κ α ε}
    {task : Task κ α ε}
    (dequeued : scheduler.dequeue? = some (task, rest)) :
    scheduler.readyIds = task.id :: rest.readyIds := by
  simp [readyIds, Queue.ids, (dequeue?_eq_some dequeued).1]

/-- A settled task is ready again unless its outcome is terminal. -/
theorem ready_settle
    (scheduler : Scheduler κ α ε)
    (task : Task κ α ε)
    (outcome : Outcome α ε) :
    (scheduler.settle task outcome).ready.toList =
      if outcome.isTerminal then scheduler.ready.toList
      else scheduler.ready.toList ++ [task] := by
  rcases outcome with _ | value | error
  · exact Queue.toList_push _ _
  · rfl
  · rfl

end Scheduler

end RoundRobin
