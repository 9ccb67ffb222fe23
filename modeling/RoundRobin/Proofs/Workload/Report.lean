import RoundRobin.Proofs.Bookkeeping
import RoundRobin.Proofs.Schedule.ClosedForm
import RoundRobin.Report.Basic

namespace RoundRobin

/-!
# The report on tasks that have all completed

When all tasks of a scheduler have completed, its report shows every task with
its value, and the order of resolution and the counters follow from the numbers
of suspensions. That no task shows an error too rests on the partition of the
tasks, and that the counters fit the ledgers on the books.
-/

/-- The report on tasks that have all completed, one for each entry of a list. -/
def Report.allCompleted
    (entries : List β)
    (label : β → String)
    (suspensions : β → Nat)
    (value : β → Value) :
    Report where
  tasks :=
    entries.mapIdx fun index entry =>
      { id := ⟨index⟩
        label := label entry
        state := .completed
        value := some (value entry)
        error := none }
  resolutionOrder :=
    (sortedBy (fun index => (entries.map suspensions).getD index 0)
      entries.length).map TaskId.mk
  stats :=
    { tasksAdded := entries.length
      tasksCompleted := entries.length
      tasksFailed := 0
      resumptions := (entries.map fun entry => suspensions entry + 1).sum
      suspensions := (entries.map suspensions).sum }

theorem mem_sortedBy
    {key : Nat → Nat}
    {bound number : Nat} :
    number ∈ sortedBy key bound ↔ number < bound := by
  rw [sortedBy, (List.mergeSort_perm _ _).mem_iff, List.mem_range]

@[simp] theorem length_sortedBy
    (key : Nat → Nat)
    (bound : Nat) :
    (sortedBy key bound).length = bound := by
  rw [sortedBy, List.length_mergeSort, List.length_range]

/-- Going through the places of a list is going through the list. -/
theorem map_range_getD
    (entries : List β)
    (amount : β → Nat)
    (make : Nat → γ) :
    ((List.range entries.length).map fun index =>
        make ((entries.map amount).getD index 0)) =
      entries.map fun entry => make (amount entry) := by
  apply List.ext_getElem
  · simp
  · intro index below _
    have within : index < entries.length := by
      simpa using below
    simp [within]

namespace Report

/-- A task whose value has been recorded is reported with that value alone. -/
theorem taskReport_of_completed
    {scheduler : Scheduler κ Value TaskError}
    {running : Option TaskId}
    {id : TaskId}
    {value : Value}
    (partitioned : scheduler.Partitioned running)
    (recorded : (id, value) ∈ scheduler.completed.toList)
    (labels : List (TaskId × String)) :
    taskReport scheduler labels id =
      { id := id
        label := labelOf labels id
        state := .completed
        value := some value
        error := none } := by
  have completed : id ∈ scheduler.completed.ids :=
    Ledger.mem_ids_of_mem recorded
  have state : scheduler.stateOf? id = some .completed :=
    partitioned.stateOf?_eq_completed_iff.mpr completed
  have found : scheduler.completed.get? id = some value :=
    (Ledger.get?_eq_some_iff partitioned.completedNodup).mpr recorded
  have absent : scheduler.failed.get? id = none :=
    Ledger.get?_eq_none_iff.mpr fun failed =>
      partitioned.completedFailed completed failed
  simp [taskReport, Scheduler.resultOf, Scheduler.errorOf, state, found,
    absent, Except.toOption]

/-- Where every task is labelled once, its label is the one that shows. -/
theorem labelOf_mapIdx
    {entries : List β}
    {index : Nat}
    (below : index < entries.length)
    (label : β → String) :
    labelOf
        (entries.mapIdx fun index entry => (⟨index⟩, label entry))
        ⟨index⟩ =
      label entries[index] := by
  have first :
      (entries.mapIdx fun index entry =>
            ((⟨index⟩ : TaskId), label entry)).find?
          (fun labelled => labelled.1 = ⟨index⟩) =
        some (⟨index⟩, label entries[index]) := by
    rw [List.find?_eq_some_iff_getElem]
    refine ⟨by simp, index, by simpa using below, by simp, ?_⟩
    intro other before
    simpa using Nat.ne_of_lt before
  simp [labelOf, first]

end Report

namespace Scheduler.Resolved

variable
  {scheduler : Scheduler κ α ε}
  {count : Nat}
  {suspensions : Nat → Nat}
  {outcome : Nat → Outcome α ε}

/-- The value that a task has completed with is in the ledger. -/
theorem mem_completed
    (resolved : scheduler.Resolved count suspensions outcome)
    {index : Nat}
    {value : α}
    (below : index < count)
    (completes : outcome index = .completed value) :
    ((⟨index⟩ : TaskId), value) ∈ scheduler.completed.toList := by
  rw [resolved.completed, List.mem_filterMap]
  refine ⟨index, mem_sortedBy.mpr below, ?_⟩
  simp [completion?, completes]

/-- The counters of a scheduler all whose tasks have completed. -/
theorem stats_of_completed
    {history : History κ α ε}
    (resolved : scheduler.Resolved count suspensions outcome)
    (balanced : scheduler.Balanced history)
    (completes :
      ∀ index < count, ∃ value, outcome index = .completed value) :
    scheduler.stats =
      { tasksAdded := count
        tasksCompleted := count
        tasksFailed := 0
        resumptions :=
          ((List.range count).map fun index =>
            suspensions index + 1).sum
        suspensions := ((List.range count).map suspensions).sum } := by
  have ready : scheduler.ready.length = 0 := by
    have lengths := congrArg List.length resolved.ready
    simpa [readyIds, Queue.ids] using lengths
  have completed : scheduler.completed.length = count := by
    rw [← Ledger.length_toList, resolved.completed,
      List.filterMap_length_eq_length.mpr, length_sortedBy]
    intro index member
    obtain ⟨value, same⟩ := completes index (mem_sortedBy.mp member)
    simp [completion?, same]
  have failed : scheduler.failed.length = 0 := by
    rw [← Ledger.length_toList, resolved.failed,
      List.filterMap_eq_nil_iff.mpr, List.length_nil]
    intro index member
    obtain ⟨value, same⟩ := completes index (mem_sortedBy.mp member)
    simp [failure?, same]
  have abandoned : scheduler.abandoned.size = 0 := by
    rw [resolved.abandoned]
    rfl
  have added : scheduler.stats.tasksAdded = count := by
    rw [balanced.tasksAdded]
    omega
  have tasksCompleted := balanced.tasksCompleted.trans completed
  have tasksFailed := balanced.tasksFailed.trans failed
  have resumptions := resolved.resumptions
  have suspended := resolved.suspensions
  generalize scheduler.stats = stats at *
  rcases stats with ⟨⟨_, _, _, _⟩, _⟩
  rw [Stats.mk.injEq, Tally.mk.injEq]
  exact
    ⟨⟨resumptions, suspended, tasksCompleted, tasksFailed⟩, added⟩

end Scheduler.Resolved

/-- The report on a scheduler all whose tasks have completed. -/
theorem Scheduler.Resolved.collect
    {scheduler : Scheduler κ Value TaskError}
    {history : History κ Value TaskError}
    {entries : List β}
    {suspensions : β → Nat}
    {outcome : Nat → Outcome Value TaskError}
    {value : β → Value}
    (resolved :
      scheduler.Resolved entries.length
        (fun index => (entries.map suspensions).getD index 0) outcome)
    (life : Life history scheduler none)
    (completes :
      ∀ (index : Nat) (entry : β),
        entries[index]? = some entry →
        outcome index = .completed (value entry))
    (label : β → String) :
    Report.collect scheduler
        (entries.mapIdx fun index entry => (⟨index⟩, label entry)) =
      .allCompleted entries label suspensions value := by
  have completesAt (index : Nat) (below : index < entries.length) :
      outcome index = .completed (value entries[index]) :=
    completes index _ (List.getElem?_eq_getElem below)
  have stats :=
    resolved.stats_of_completed life.balanced fun index below =>
      ⟨_, completesAt index below⟩
  have tasks :
      ((List.range entries.length).map fun index =>
          Report.taskReport scheduler
            (entries.mapIdx fun index entry => (⟨index⟩, label entry))
            ⟨index⟩) =
        (Report.allCompleted entries label suspensions value).tasks := by
    apply List.ext_getElem
    · simp [Report.allCompleted]
    · intro index below _
      have within : index < entries.length := by
        simpa using below
      have recorded :=
        resolved.mem_completed within (completesAt index within)
      simp [Report.allCompleted,
        Report.taskReport_of_completed life.partitioned recorded,
        Report.labelOf_mapIdx within]
  unfold Report.collect
  rw [resolved.resolutionOrder, stats, tasks,
    map_range_getD entries suspensions (· + 1),
    map_range_getD entries suspensions fun number => number]
  rfl

end RoundRobin
