import RoundRobin.Proofs.Run.History
import RoundRobin.Proofs.Solo

namespace RoundRobin

/-!
# The books of a scheduler

A scheduler counts what its resumptions end in, records outcomes in two
ledgers, and keeps the order of resolution apart from both. `Booked` says that
these agree with each other and with what has happened. Every step keeps it,
whatever a resumption ends in; while a task is being resumed, its resumption
has begun but is in no book yet.
-/

/-- The third list is made of the other two, each of them in its order. -/
inductive Interleaved :
    List TaskId →
    List TaskId →
    List TaskId →
    Prop where
  | nil : Interleaved [] [] []
  | left
      {first second whole : List TaskId}
      (earlier : Interleaved first second whole)
      (id : TaskId) :
      Interleaved (first ++ [id]) second (whole ++ [id])
  | right
      {first second whole : List TaskId}
      (earlier : Interleaved first second whole)
      (id : TaskId) :
      Interleaved first (second ++ [id]) (whole ++ [id])

namespace Interleaved

variable {first second whole : List TaskId}

theorem symm (interleaved : Interleaved first second whole) :
    Interleaved second first whole := by
  induction interleaved with
  | nil => exact .nil
  | left _ id inductionHypothesis => exact .right inductionHypothesis id
  | right _ id inductionHypothesis => exact .left inductionHypothesis id

/-- The parts are kept in their order. -/
theorem sublist (interleaved : Interleaved first second whole) :
    first.Sublist whole := by
  induction interleaved with
  | nil => exact .slnil
  | left _ id inductionHypothesis =>
      exact inductionHypothesis.append (.refl [id])
  | right _ id inductionHypothesis =>
      exact inductionHypothesis.trans (List.sublist_append_left _ _)

/-- Nothing is lost, and nothing comes from elsewhere. -/
theorem perm (interleaved : Interleaved first second whole) :
    whole.Perm (first ++ second) := by
  induction interleaved with
  | nil => exact .refl []
  | left _ id inductionHypothesis =>
      rw [List.perm_iff_count] at inductionHypothesis ⊢
      intro other
      have same := inductionHypothesis other
      simp only [List.count_append] at same ⊢
      omega
  | right _ id inductionHypothesis =>
      rw [← List.append_assoc]
      exact inductionHypothesis.append_right [id]

/-- If there are no duplicates, the members of a part are that part. -/
theorem filter_mem
    (interleaved : Interleaved first second whole)
    (noDuplicates : whole.Nodup) :
    whole.filter (fun id => decide (id ∈ first)) = first := by
  induction interleaved with
  | nil => rfl
  | @left first second whole earlier id inductionHypothesis =>
      obtain ⟨wholeNodup, -, apart⟩ :=
        List.nodup_append'.mp noDuplicates
      have others :
          whole.filter (fun other => decide (other ∈ first ++ [id])) =
            whole.filter (fun other => decide (other ∈ first)) := by
        apply List.filter_congr
        intro other member
        have different : other ≠ id := by
          rintro rfl
          exact apart member (by simp)
        simp [different]
      rw [List.filter_append, others, inductionHypothesis wholeNodup]
      simp
  | @right first second whole earlier id inductionHypothesis =>
      obtain ⟨wholeNodup, -, apart⟩ :=
        List.nodup_append'.mp noDuplicates
      have absent : id ∉ first := fun member =>
        apart (earlier.sublist.subset member) (by simp)
      rw [List.filter_append, inductionHypothesis wholeNodup]
      simp [absent]

end Interleaved

/-- The books of a scheduler agree with each other and with what has happened. -/
structure Booked
    (history : History κ α ε)
    (scheduler : Scheduler κ α ε)
    (running : Option (Task κ α ε)) :
    Prop where
  completed :
    scheduler.tally.tasksCompleted = scheduler.completed.length
  failed :
    scheduler.tally.tasksFailed = scheduler.failed.length
  resumptions :
    scheduler.tally.resumptions =
      scheduler.tally.suspensions + scheduler.tally.tasksCompleted +
        scheduler.tally.tasksFailed
  /-- The resumptions that began have ended in an outcome or a panic, or one is under way. -/
  begun :
    history.begun.length =
      scheduler.tally.resumptions + scheduler.abandoned.size +
        running.toList.length
  order :
    Interleaved scheduler.completed.ids scheduler.failed.ids
      scheduler.resolutionOrder.toList

/-- Whatever a resumption ends in, it is counted once. -/
theorem Tally.resumptions_count
    (tally : Tally)
    (kind : TurnKind) :
    (tally.count kind).resumptions = tally.resumptions + 1 := by
  cases kind <;> rfl

/-- Counting a resumption leaves the resumptions the sum of what they ended in. -/
theorem Tally.count_balanced
    {tally : Tally}
    (balanced :
      tally.resumptions =
        tally.suspensions + tally.tasksCompleted + tally.tasksFailed)
    (kind : TurnKind) :
    (tally.count kind).resumptions =
      (tally.count kind).suspensions +
        (tally.count kind).tasksCompleted +
        (tally.count kind).tasksFailed := by
  cases kind with
  | suspended => simp only [count]; omega
  | completed => simp only [count]; omega
  | failed => simp only [count]; omega

/-- The end of a resumption is booked. -/
theorem Booked.ended
    {history : History κ α ε}
    {scheduler : Scheduler κ α ε}
    {task : Task κ α ε}
    (booked : Booked history scheduler (some task))
    (unrecorded : scheduler.Unrecorded task.id)
    (coroutine : Coroutine κ α ε)
    (result : Guarded (Outcome α ε)) :
    Booked (history ++ [.ended task.id result])
      (scheduler.conclude task coroutine result) none := by
  obtain ⟨completed, failed, resumptions, begun, order⟩ := booked
  have begunBefore :
      (History.begun (history ++ [.ended task.id result])).length =
        scheduler.tally.resumptions + scheduler.abandoned.size + 1 := by
    simpa using begun
  cases result with
  | error panic =>
      refine ⟨completed, failed, resumptions, ?_, order⟩
      simpa [Scheduler.conclude, Scheduler.abandon, Nat.add_assoc] using
        begunBefore
  | ok outcome =>
      have balanced := Tally.count_balanced resumptions outcome.kind
      have counted :
          (History.begun
              (history ++ [.ended task.id (.ok outcome)])).length =
            (scheduler.tally.count outcome.kind).resumptions +
              scheduler.abandoned.size := by
        rw [begunBefore, Tally.resumptions_count]
        omega
      cases outcome with
      | suspended =>
          exact ⟨completed, failed, balanced, counted, order⟩
      | completed value =>
          refine ⟨?_, failed, balanced, counted, ?_⟩
          · simp [Scheduler.conclude, Scheduler.settle, Tally.count,
              Outcome.kind, completed, unrecorded.completed]
          · simpa [Scheduler.conclude, Scheduler.settle,
              unrecorded.completed] using order.left task.id
      | failed error =>
          refine ⟨completed, ?_, balanced, counted, ?_⟩
          · simp [Scheduler.conclude, Scheduler.settle, Tally.count,
              Outcome.kind, failed, unrecorded.failed]
          · simpa [Scheduler.conclude, Scheduler.settle,
              unrecorded.failed] using order.right task.id

/-- Every step of a scheduler is booked. -/
theorem Step.booked
    {history last : History κ α ε}
    {scheduler scheduler' : Scheduler κ α ε}
    {running running' : Option (Task κ α ε)}
    (step : Step scheduler running last scheduler' running')
    (partitioned : scheduler.Partitioned (running.map Task.id))
    (before : Booked history scheduler running) :
    Booked (history ++ last) scheduler' running' := by
  cases step with
  | still =>
      rw [List.append_nil]
      exact before
  | added _ coroutine =>
      refine
        ⟨before.completed, before.failed, before.resumptions, ?_,
          before.order⟩
      rw [History.begun_append, History.begun_added, List.append_nil]
      exact before.begun
  | @began rest task next =>
      obtain ⟨completed, failed, resumptions, begun, order⟩ := before
      rw [(Scheduler.dequeue?_eq_some next).2]
      refine ⟨completed, failed, resumptions, ?_, order⟩
      simpa using begun
  | ended =>
      exact before.ended partitioned.unrecorded _ _
  | flagged =>
      rw [List.append_nil]
      exact
        ⟨before.completed, before.failed, before.resumptions,
          before.begun, before.order⟩

/-- Throughout the life of a scheduler its books are kept. -/
theorem Life.booked
    {history : History κ α ε}
    {scheduler : Scheduler κ α ε}
    {running : Option (Task κ α ε)}
    (life : Life history scheduler running) :
    Booked history scheduler running := by
  induction life with
  | made made =>
      rw [Scheduler.eq_of_new_eq_ok made]
      exact ⟨rfl, rfl, rfl, rfl, .nil⟩
  | step life step inductionHypothesis =>
      exact step.booked life.partitioned inductionHypothesis

/-- What a scheduler shows of its books, against what has happened to it. -/
structure Scheduler.Balanced
    (scheduler : Scheduler κ α ε)
    (history : History κ α ε) :
    Prop where
  tasksCompleted :
    scheduler.stats.tasksCompleted = scheduler.completed.length
  tasksFailed :
    scheduler.stats.tasksFailed = scheduler.failed.length
  tasksAdded :
    scheduler.stats.tasksAdded =
      scheduler.ready.length + scheduler.completed.length +
        scheduler.failed.length + scheduler.abandoned.size
  resumptions :
    scheduler.stats.resumptions =
      scheduler.stats.suspensions + scheduler.stats.tasksCompleted +
        scheduler.stats.tasksFailed
  /-- Every time a task was resumed counts, except that it then panicked. -/
  begun :
    history.begun.length =
      scheduler.stats.resumptions + scheduler.abandoned.size
  orderNodup : scheduler.resolutionOrder.toList.Nodup
  orderCompleted :
    scheduler.resolutionOrder.toList.filter
        (fun id => scheduler.stateOf? id = some .completed) =
      scheduler.completed.ids
  orderFailed :
    scheduler.resolutionOrder.toList.filter
        (fun id => scheduler.stateOf? id = some .failed) =
      scheduler.failed.ids
  orderResolved :
    ∀ id ∈ scheduler.resolutionOrder.toList,
      scheduler.stateOf? id = some .completed ∨
        scheduler.stateOf? id = some .failed

/-- Between resumptions the books of a scheduler show that they agree. -/
theorem Life.balanced
    {history : History κ α ε}
    {scheduler : Scheduler κ α ε}
    (life : Life history scheduler none) :
    scheduler.Balanced history := by
  have booked := life.booked
  have partitioned : scheduler.Partitioned none := life.partitioned
  have placed : scheduler.Placed none := life.placed
  have orderNodup : scheduler.resolutionOrder.toList.Nodup := by
    rw [booked.order.perm.nodup_iff, List.nodup_append']
    exact
      ⟨partitioned.completedNodup, partitioned.failedNodup,
        partitioned.completedFailed⟩
  refine
    { tasksCompleted := booked.completed
      tasksFailed := booked.failed
      tasksAdded := ?_
      resumptions := booked.resumptions
      begun := booked.begun
      orderNodup := orderNodup
      orderCompleted := ?_
      orderFailed := ?_
      orderResolved := ?_ }
  · have lengths :
        scheduler.ready.length +
            (scheduler.completed.length +
              (scheduler.failed.length + scheduler.abandoned.size)) =
          scheduler.ids.issued := by
      simpa [Scheduler.places, Scheduler.readyIds, Queue.ids,
        IdSource.handedOut] using List.Perm.length_eq placed
    simp only [Scheduler.stats]
    omega
  · simp only [partitioned.stateOf?_eq_completed_iff]
    exact booked.order.filter_mem orderNodup
  · simp only [partitioned.stateOf?_eq_failed_iff]
    exact booked.order.symm.filter_mem orderNodup
  · intro id member
    rw [partitioned.stateOf?_eq_completed_iff,
      partitioned.stateOf?_eq_failed_iff, ← List.mem_append]
    exact booked.order.perm.subset member

/--
At every moment of every run at which a live scheduler is not resuming a task,
its counters, ledgers and order of resolution agree with each other and with
how often its tasks were resumed; so they do between the operations of a host.
-/
theorem books_balanced
    (launch : κ → Coroutine κ α ε)
    (number : Nat) :
    (∀ {trace : Trace κ α ε} {moment : Moment κ α ε}
      {scheduler : Scheduler κ α ε},
      Run launch trace moment →
      moment.world.scheduler? number = some scheduler →
      moment.running? number = none →
      scheduler.Balanced (trace.about number)) ∧
      ∀ {world : World κ α ε} {scheduler : Scheduler κ α ε},
        Reachable launch world →
        world.scheduler? number = some scheduler →
        ∃ trace,
          Run launch trace ⟨world, []⟩ ∧
            scheduler.Balanced (trace.about number) := by
  refine ⟨?_, ?_⟩
  · intro trace moment scheduler run alive resting
    have life := run.life alive
    rw [resting] at life
    exact life.balanced
  · intro world scheduler reachable alive
    obtain ⟨trace, run⟩ := reachable.run
    exact ⟨trace, run, (run.life alive).balanced⟩

/--
Of four tasks, one completed, one failed, one panicked and one suspended; its
second resumption is yet to come.
-/
theorem books_balanced_after_panic :
    ∃ world trace scheduler,
      Reachable Job.launch world ∧
        Run Job.launch trace ⟨world, []⟩ ∧
        world.scheduler? 0 = some scheduler ∧
        scheduler.stats = ⟨⟨3, 1, 1, 1⟩, 4⟩ ∧
        scheduler.resolutionOrder = #[⟨1⟩, ⟨2⟩] ∧
        scheduler.abandoned = #[⟨3⟩] ∧
        scheduler.Balanced (trace.about 0) ∧
        (trace.about 0).begun.length = 4 := by
  have opened : Reachable Job.launch _ :=
    .opened (.start rfl rfl)
      (show (World.empty none).openScheduler {} = .ok (_, 0) from rfl)
  have suspending : Reachable Job.launch _ :=
    .added opened
      (show
        World.add? _ 0 (.ofResults fun _ => .ok .suspended) =
          some (_, ⟨0⟩) from rfl)
  have failing : Reachable Job.launch _ :=
    .added suspending
      (show
        World.add? _ 0
            (.ofResults fun _ => .ok (.failed (.raised "lost"))) =
          some (_, ⟨1⟩) from rfl)
  have completing : Reachable Job.launch _ :=
    .added failing
      (show
        World.add? _ 0
            (.ofResults fun _ => .ok (.completed (.number 7))) =
          some (_, ⟨2⟩) from rfl)
  have panicking : Reachable Job.launch _ :=
    .added completing
      (show
        World.add? _ 0 (.ofResults fun _ => .error ⟨"gone"⟩) =
          some (_, ⟨3⟩) from rfl)
  have caught : Reachable Job.launch _ :=
    .drained panicking
      (show
        World.drain (World.answer Job.launch 0) 4 0 _ =
          some (_, .panicked ⟨"gone"⟩) from rfl)
  obtain ⟨trace, run, balanced⟩ :=
    (books_balanced Job.launch 0).2 caught rfl
  exact
    ⟨_, trace, _, caught, run, rfl, rfl, rfl, rfl, balanced,
      balanced.begun⟩

end RoundRobin
