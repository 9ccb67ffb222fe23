import RoundRobin.Proofs.Bookkeeping
import RoundRobin.Proofs.Forest.Behaving
import RoundRobin.Proofs.Lookup
import RoundRobin.Proofs.Unwinding

namespace RoundRobin

/-!
# Draining a forest

If the ready tasks of a scheduler behave as finite trees say, a drain of it
comes to an end: it resumes every task of the forest as often as its tree says,
and each of them, those spawned meanwhile included, ends as its tree says. The
induction is on the resumptions that are still to come, over the whole forest;
the queue may well become longer on the way.
-/

/-- An outcome is recorded for a task. -/
def Scheduler.HasEntry
    (scheduler : Scheduler κ α ε)
    (id : TaskId) :
    Except ε α →
    Prop
  | .ok value => (id, value) ∈ scheduler.completed.toList
  | .error error => (id, error) ∈ scheduler.failed.toList

/-- What is recorded stays recorded. -/
theorem Scheduler.Extended.hasEntry
    {scheduler scheduler' : Scheduler κ α ε}
    (extended : scheduler.Extended scheduler')
    {id : TaskId}
    {ending : Except ε α}
    (recorded : scheduler.HasEntry id ending) :
    scheduler'.HasEntry id ending := by
  cases ending with
  | ok value => exact extended.completed.subset recorded
  | error error => exact extended.failed.subset recorded

section

variable
  (launch : κ → Coroutine κ α ε)
  (patience number : Nat)
  (holds : Surroundings κ α ε → Prop)

/-- A task is a member of a forest and behaves as such. -/
def Member.Plays
    (task : Task κ α ε)
    (member : Member α ε) :
    Prop :=
  task.id = member.id ∧
    task.coroutine.Behaves launch patience number holds member.behaviour

/-- What was added became a member of a forest, and behaves as such. -/
def Member.Arises
    (addition : TaskId × Coroutine κ α ε)
    (member : Member α ε) :
    Prop :=
  addition.1 = member.id ∧
    addition.2.Behaves launch patience number holds member.behaviour

/--
What has become of the members of a forest and of those that were issued
meanwhile: nothing of the forest is missing, each has been resumed as often as
it was to be, and its ending is recorded.
-/
structure Grown
    (history : History κ α ε)
    (scheduler : Scheduler κ α ε)
    (members issued : List (Member α ε)) :
    Prop where
  added :
    List.Forall₂ (Member.Arises launch patience number holds)
      history.added issued
  offspring :
    (issued.map Member.behaviour).Perm
      (members.flatMap fun member => member.behaviour.offspring)
  begun : history.begun.Perm ((members ++ issued).flatMap Member.turns)
  entries :
    ∀ member ∈ members ++ issued,
      scheduler.HasEntry member.id member.behaviour.ending

/-- What a turn does to the first member of a forest and to what is ready. -/
structure Grows
    (history : History κ α ε)
    (scheduler scheduler' : Scheduler κ α ε)
    (member : Member α ε)
    (others children : List (Member α ε)) :
    Prop where
  added :
    List.Forall₂ (Member.Arises launch patience number holds)
      history.added children
  spawned : children.map Member.behaviour = member.behaviour.spawned
  begun : history.begun = [member.id]
  ready :
    List.Forall₂ (Member.Plays launch patience number holds)
      scheduler'.ready.toList (others ++ children ++ member.after)
  entry :
    member.behaviour.after? = none →
    scheduler'.HasEntry member.id member.behaviour.ending
  abandoned : scheduler'.abandoned = scheduler.abandoned

end

variable
  {launch : κ → Coroutine κ α ε}
  {patience number : Nat}
  {holds : Surroundings κ α ε → Prop}

/-- A turn and what comes after it make one development of the forest. -/
theorem Grown.cons
    {first later : History κ α ε}
    {scheduler middle final : Scheduler κ α ε}
    {member : Member α ε}
    {others children issued : List (Member α ε)}
    (grows :
      Grows launch patience number holds first scheduler middle member
        others children)
    (grown :
      Grown launch patience number holds later final
        (others ++ children ++ member.after) issued)
    (extended : middle.Extended final) :
    Grown launch patience number holds (first ++ later) final
      (member :: others) (children ++ issued) where
  added := by
    rw [History.added_append]
    exact List.rel_append grows.added grown.added
  offspring := Member.perm_offspring grows.spawned grown.offspring
  begun := by
    rw [History.begun_append, grows.begun]
    exact member.perm_turns grown.begun
  entries other belongs := by
    have ofLater
        (present :
          other ∈ (others ++ children ++ member.after) ++ issued) :
        final.HasEntry other.id other.behaviour.ending :=
      grown.entries other present
    have cases :
        other = member ∨ other ∈ others ∨ other ∈ children ∨
          other ∈ issued := by
      simpa [or_assoc] using belongs
    rcases cases with rfl | isOther | isChild | wasIssued
    · cases left : other.behaviour.after? with
      | none => exact extended.hasEntry (grows.entry left)
      | some rest =>
          rw [(Behaviour.of_after?_eq_some left).2]
          apply grown.entries ⟨other.id, rest⟩
          simp [Member.after, left]
    · exact ofLater (by simp [isOther])
    · exact ofLater (by simp [isChild])
    · exact ofLater (by simp [wasIssued])

/-- A task that has settled has its entry, if its outcome was the last one. -/
theorem Scheduler.hasEntry_conclude
    (scheduler : Scheduler κ α ε)
    (task : Task κ α ε)
    (coroutine : Coroutine κ α ε)
    (ending : Except ε α) :
    (scheduler.conclude task coroutine
        (.ok (.ofEnding ending))).HasEntry task.id ending := by
  cases ending with
  | ok value => exact scheduler.completed.mem_toList_record _ _
  | error error => exact scheduler.failed.mem_toList_record _ _

/-- What arrives and behaves makes members of a forest. -/
theorem Member.exists_of_arrivals
    {behaviours : List (Behaviour α ε)}
    {additions : List (TaskId × Coroutine κ α ε)}
    (behave :
      List.Forall₂
        (fun behaviour addition =>
          addition.2.Behaves launch patience number holds behaviour)
        behaviours additions) :
    ∃ members,
      members.map Member.behaviour = behaviours ∧
        List.Forall₂ (Member.Arises launch patience number holds)
          additions members := by
  induction behave with
  | nil => exact ⟨[], rfl, .nil⟩
  | @cons behaviour addition _ _ behaves _ inductionHypothesis =>
      obtain ⟨members, same, arise⟩ := inductionHypothesis
      exact
        ⟨⟨addition.1, behaviour⟩ :: members, congrArg _ same,
          .cons ⟨rfl, behaves⟩ arise⟩

/-- A task is added as the member of a forest that it has become. -/
theorem Member.plays_new
    {additions : List (TaskId × Coroutine κ α ε)}
    {members : List (Member α ε)}
    (arise :
      List.Forall₂ (Member.Arises launch patience number holds)
        additions members) :
    List.Forall₂ (Member.Plays launch patience number holds)
      (additions.map fun (id, coroutine) => .new id coroutine)
      members :=
  List.forall₂_map_left_iff.mpr arise

/-- What a resumption leaves of its task plays what is left of its member. -/
theorem Member.plays_after
    {task : Task κ α ε}
    {member : Member α ε}
    {coroutine : Coroutine κ α ε}
    {outcome : Outcome α ε}
    (same : task.id = member.id)
    (goesOn :
      Coroutine.GoesOn launch patience number holds member.behaviour
        coroutine outcome) :
    List.Forall₂ (Member.Plays launch patience number holds)
      (if outcome.isTerminal then [] else [task.resumed coroutine])
      member.after := by
  unfold Coroutine.GoesOn at goesOn
  unfold Member.after
  cases left : member.behaviour.after? with
  | none =>
      simp only [left] at goesOn
      subst goesOn
      cases member.behaviour.ending <;> exact .nil
  | some later =>
      simp only [left] at goesOn
      obtain ⟨rfl, behaves⟩ := goesOn
      exact .cons ⟨same, behaves⟩ .nil

/-- Nothing is resumed by arrivals. -/
theorem Arrivals.begun_eq_nil
    {scheduler scheduler' : Scheduler κ α ε}
    {history : History κ α ε}
    (arrivals : Arrivals scheduler history scheduler') :
    history.begun = [] := by
  induction arrivals with
  | nil => rfl
  | snoc _ coroutine inductionHypothesis =>
      rw [History.begun_append, inductionHypothesis]
      rfl

/-- The result of a resumption, and what arrived meanwhile, take a forest further. -/
theorem Arrivals.grows
    {rest reached : Scheduler κ α ε}
    {history : History κ α ε}
    {task : Task κ α ε}
    {coroutine : Coroutine κ α ε}
    {outcome : Outcome α ε}
    {arrived : List (Task κ α ε)}
    {member : Member α ε}
    {others : List (Member α ε)}
    (arrivals : Arrivals rest history reached)
    (ready : reached.ready.toList = rest.ready.toList ++ arrived)
    (same : task.id = member.id)
    (behave :
      List.Forall₂ (fun child arrival => child arrival.coroutine)
        (member.behaviour.spawned.map
          (Coroutine.Behaves launch patience number holds))
        arrived)
    (goesOn :
      Coroutine.GoesOn launch patience number holds member.behaviour
        coroutine outcome)
    (othersPlay :
      List.Forall₂ (Member.Plays launch patience number holds)
        rest.ready.toList others) :
    ∃ children,
      Grows launch patience number holds
        ([.began task.id] ++ history ++ [.ended task.id (.ok outcome)])
        rest (reached.conclude task coroutine (.ok outcome)) member
        others children := by
  obtain rfl :
      (history.added.map fun (id, coroutine) => Task.new id coroutine) =
        arrived := by
    rw [arrivals.ready] at ready
    exact List.append_cancel_left ready
  rw [List.forall₂_map_left_iff, List.forall₂_map_right_iff] at behave
  obtain ⟨children, spawned, arise⟩ :=
    Member.exists_of_arrivals behave
  refine
    ⟨children,
      { added := ?_
        spawned := spawned
        begun := ?_
        ready := ?_
        entry := ?_
        abandoned := ?_ }⟩
  · simpa only [History.added_append, History.added_began,
      History.added_ended, List.nil_append, List.append_nil] using arise
  · rw [History.begun_append, History.begun_append,
      arrivals.begun_eq_nil, ← same]
    rfl
  · have settled :
        (reached.conclude task coroutine (.ok outcome)).ready.toList =
          reached.ready.toList ++
            if outcome.isTerminal then []
            else [task.resumed coroutine] := by
      rw [Scheduler.ready_conclude]
      cases outcome <;> rfl
    rw [settled, arrivals.ready]
    exact
      List.rel_append
        (List.rel_append othersPlay (Member.plays_new arise))
        (Member.plays_after same goesOn)
  · intro last
    simp only [Coroutine.GoesOn, last] at goesOn
    rw [goesOn, ← same]
    exact reached.hasEntry_conclude task coroutine _
  · rw [arrivals.unchanged]
    cases outcome <;> rfl

/-- A turn takes the first task of a forest one resumption further. -/
theorem World.takeTurn_grows
    {world : World κ α ε}
    {scheduler : Scheduler κ α ε}
    {task : Task κ α ε}
    {tasks : List (Task κ α ε)}
    {member : Member α ε}
    {others : List (Member α ε)}
    (driven : world.isDriven number)
    (held : holds (world.around number))
    (alive : world.scheduler? number = some scheduler)
    (ready : scheduler.ready.toList = task :: tasks)
    (plays : member.Plays launch patience number holds task)
    (othersPlay :
      List.Forall₂ (Member.Plays launch patience number holds) tasks
        others)
    (span : Option Nat)
    (layers : List (Layer κ α ε)) :
    ∃ world' turn trace scheduler' children,
      takeTurn (answer launch patience) number world =
          some (world', .ok (some turn)) ∧
        Path launch ⟨world, ⟨⟨number, span⟩, .before⟩ :: layers⟩ trace
          ⟨world',
            ⟨⟨number, span⟩, .after (.ok (some turn))⟩ :: layers⟩ ∧
        holds (world'.around number) ∧
        world'.scheduler? number = some scheduler' ∧
        Grows launch patience number holds (trace.about number)
          scheduler scheduler' member others children := by
  obtain ⟨rest, dequeued, restReady⟩ :=
    Scheduler.dequeue?_of_ready ready
  have next :
      (world.scheduler? number).bind Scheduler.dequeue? =
        some (task, rest) := by
    simp [alive, dequeued]
  have started :
      (world.started number rest task).scheduler? number = some rest := by
    simp [alive]
  have startedDriven :
      (world.started number rest task).isDriven number := by
    rw [isDriven_congr (frames_started world number rest task)]
    exact driven
  obtain
    ⟨stopped, reached, coroutine, outcome, arrived, conducted, alive',
      arrivedReady, behave, held', goesOn⟩ :=
    Coroutine.behaves_iff.mp plays.2 (world.started number rest task)
      rest startedDriven started (by rw [around_started]; exact held)
  obtain ⟨trace, path, kept⟩ :=
    answer_follows launch patience conducted ⟨number, span⟩ rest.config
      task layers
  obtain ⟨arrivedAt, found, arrivals⟩ :=
    kept.arrivals number rest startedDriven started
  rw [alive'] at found
  cases found
  rw [← restReady] at othersPlay
  obtain ⟨children, grows⟩ :=
    arrivals.grows arrivedReady plays.1 behave goesOn othersPlay
  refine
    ⟨stopped.conclude number rest.config task coroutine (.ok outcome),
      ⟨task.id, outcome.kind⟩,
      [(number, .began task.id)] ++ trace ++
        [(number, .ended task.id (.ok outcome))],
      reached.conclude task coroutine (.ok outcome), children, ?_, ?_, ?_,
      ?_, ?_⟩
  · rw [takeTurn_eq]
    simp only [next, conducted]
    rfl
  · exact
      ((Path.single (.began next)).append path).snoc
        (.ended stopped _ rest.config task coroutine (.ok outcome) layers)
  · rw [around_conclude]
    exact held'
  · simp [alive']
  · have about :
        Trace.about
            ([(number, .began task.id)] ++ trace ++
              [(number, .ended task.id (.ok outcome))])
            number =
          [.began task.id] ++ trace.about number ++
            [.ended task.id (.ok outcome)] := by
      simp
    have abandoned : rest.abandoned = scheduler.abandoned := by
      rw [(Scheduler.dequeue?_eq_some dequeued).2]
    rw [about]
    exact { grows with abandoned := grows.abandoned.trans abandoned }

/-- A drive that has not begun a turn is resuming no task. -/
theorem Moment.running?_before
    (world : World κ α ε)
    (number : Nat)
    (span : Option Nat)
    (layers : List (Layer κ α ε)) :
    (Moment.mk world (⟨⟨number, span⟩, .before⟩ :: layers)).running?
        number =
      none := by
  rw [running?_cons, if_pos rfl]
  rfl

/--
As many turns as the forest takes resumptions work it off, and then no task is
ready.
-/
theorem World.turnTimes_grown
    {world : World κ α ε}
    {scheduler : Scheduler κ α ε}
    {members : List (Member α ε)}
    {ready : Nat}
    {layers : List (Layer κ α ε)}
    (coherent :
      Moment.Coherent
        ⟨world, ⟨⟨number, some ready⟩, .before⟩ :: layers⟩)
    (held : holds (world.around number))
    (alive : world.scheduler? number = some scheduler)
    (placed : scheduler.Placed none)
    (play :
      List.Forall₂ (Member.Plays launch patience number holds)
        scheduler.ready.toList members) :
    ∃ world' trace scheduler' issued,
      turnTimes (takeTurn (answer launch patience) number)
            (Behaviour.resumptions (members.map Member.behaviour))
            world =
          some world' ∧
        Path launch
          ⟨world, ⟨⟨number, some ready⟩, .before⟩ :: layers⟩ trace
          ⟨world', ⟨⟨number, some ready⟩, .before⟩ :: layers⟩ ∧
        world'.scheduler? number = some scheduler' ∧
        scheduler'.ready.toList = [] ∧
        scheduler'.abandoned = scheduler.abandoned ∧
        Grown launch patience number holds (trace.about number)
          scheduler' members issued := by
  generalize total :
    Behaviour.resumptions (members.map Member.behaviour) = times
  induction times generalizing world scheduler members with
  | zero =>
      cases members with
      | nil =>
          refine
            ⟨world, [], scheduler, [], rfl, .nil _, alive,
              List.forall₂_nil_right_iff.mp play, rfl, ?_⟩
          exact ⟨.nil, .nil, .nil, by simp⟩
      | cons member others =>
          rw [List.map_cons, Behaviour.resumptions_cons] at total
          cases total
  | succ times inductionHypothesis =>
      cases members with
      | nil => cases total
      | cons member others =>
          obtain ⟨task, tasks, plays, othersPlay, queue⟩ :=
            List.forall₂_cons_right_iff.mp play
          obtain
            ⟨middle, turn, trace, between, children, took, path, held',
              alive', grows⟩ :=
            takeTurn_grows coherent.driven held alive queue plays
              othersPlay (some ready) layers
          have continued :=
            path.snoc
              (.drainContinued middle number ready turn layers)
          rw [List.append_nil] at continued
          have coherent' := continued.coherent coherent
          have placed' : between.Placed none := by
            have passage :=
              continued.passage_of_alive coherent alive alive'
            rw [Moment.running?_before, Moment.running?_before]
              at passage
            exact passage.placed placed
          have fewer :
              Behaviour.resumptions
                  ((others ++ children ++ member.after).map
                    Member.behaviour) =
                times := by
            rw [List.map_cons, Behaviour.resumptions_cons,
              ← grows.spawned, ← member.map_behaviour_after,
              ← List.map_append, ← List.map_append] at total
            exact Nat.succ.inj total
          obtain
            ⟨world', later, scheduler', issued, turned, laterPath,
              alive'', empty, abandoned, grown⟩ :=
            inductionHypothesis coherent' held' alive' placed'
              grows.ready fewer
          have extended : between.Extended scheduler' := by
            have passage :=
              laterPath.passage_of_alive coherent' alive' alive''
            rw [Moment.running?_before] at passage
            exact passage.extended placed'
          refine
            ⟨world', trace ++ later, scheduler', children ++ issued, ?_,
              continued.append laterPath, alive'', empty,
              abandoned.trans grows.abandoned, ?_⟩
          · simpa [turnTimes, took] using turned
          · rw [Trace.about_append]
            exact .cons grows grown extended

/-- Exactly one ledger entry is about a task, and it records the ending. -/
structure Scheduler.RecordsOnce
    (scheduler : Scheduler κ α ε)
    (id : TaskId)
    (ending : Except ε α) :
    Prop where
  once : (scheduler.completed.ids ++ scheduler.failed.ids).count id = 1
  entry : scheduler.HasEntry id ending

/-- In a partition a task has no second entry. -/
theorem Scheduler.HasEntry.recordsOnce
    {scheduler : Scheduler κ α ε}
    {running : Option TaskId}
    {id : TaskId}
    {ending : Except ε α}
    (entry : scheduler.HasEntry id ending)
    (partitioned : scheduler.Partitioned running) :
    scheduler.RecordsOnce id ending := by
  have distinct :
      (scheduler.completed.ids ++ scheduler.failed.ids).Nodup :=
    List.nodup_append'.mpr
      ⟨partitioned.completedNodup, partitioned.failedNodup,
        partitioned.completedFailed⟩
  have present :
      id ∈ scheduler.completed.ids ++ scheduler.failed.ids := by
    cases ending with
    | ok value =>
        exact List.mem_append_left _ (Ledger.mem_ids_of_mem entry)
    | error error =>
        exact List.mem_append_right _ (Ledger.mem_ids_of_mem entry)
  exact ⟨List.count_eq_one_of_mem distinct present, entry⟩

/--
What a drain has done to a scheduler whose ready tasks were the roots of a
forest; the other members were issued during the drain.
-/
structure ForestResolved
    (launch : κ → Coroutine κ α ε)
    (patience number : Nat)
    (holds : Surroundings κ α ε → Prop)
    (scheduler : Scheduler κ α ε)
    (history : History κ α ε)
    (scheduler' : Scheduler κ α ε)
    (forest : List (Behaviour α ε))
    (roots issued : List (Member α ε)) :
    Prop where
  ready : scheduler'.readyIds = []
  /-- There were as many resumptions as the forest takes. -/
  resumptions :
    history.begun.length = Behaviour.resumptions forest
  counted :
    scheduler'.stats.resumptions =
      scheduler.stats.resumptions + Behaviour.resumptions forest
  behaviours : roots.map Member.behaviour = forest
  rooted :
    List.Forall₂ (Member.Plays launch patience number holds)
      scheduler.ready.toList roots
  added :
    List.Forall₂ (Member.Arises launch patience number holds)
      history.added issued
  /-- All of the forest has been issued, and under different identities. -/
  whole :
    ((roots ++ issued).map Member.behaviour).Perm
      (forest.flatMap Behaviour.family)
  distinct : ((roots ++ issued).map Member.id).Nodup
  /-- Each was resumed once more than it was to suspend. -/
  begun : history.begun.Perm ((roots ++ issued).flatMap Member.turns)
  recorded :
    ∀ member ∈ roots ++ issued,
      scheduler'.RecordsOnce member.id member.behaviour.ending

/-- The turns of a forest are as many as it takes resumptions. -/
theorem Member.length_turns (members : List (Member α ε)) :
    (members.flatMap turns).length =
      ((members.map behaviour).map fun behaviour =>
        behaviour.suspensions + 1).sum := by
  rw [List.length_flatMap, List.map_map]
  simp [turns, Function.comp_def]

/-- Members of a forest go by the names of what they are. -/
theorem Member.map_id_eq
    {β : Type u}
    {name : β → TaskId}
    {named : List β}
    {members : List (Member α ε)}
    (same :
      List.Forall₂ (fun one member => name one = member.id) named
        members) :
    members.map Member.id = named.map name := by
  induction same with
  | nil => rfl
  | cons first _ inductionHypothesis =>
      rw [List.map_cons, List.map_cons, first, inductionHypothesis]

/-- Working off a forest resolves it, seen from the life of the scheduler before. -/
theorem Grown.resolved
    {earlier later : History κ α ε}
    {scheduler scheduler' : Scheduler κ α ε}
    {roots issued : List (Member α ε)}
    (grown :
      Grown launch patience number holds later scheduler' roots issued)
    (life : Life earlier scheduler none)
    (life' : Life (earlier ++ later) scheduler' none)
    (rooted :
      List.Forall₂ (Member.Plays launch patience number holds)
        scheduler.ready.toList roots)
    (ready : scheduler'.readyIds = [])
    (abandoned : scheduler'.abandoned = scheduler.abandoned) :
    ForestResolved launch patience number holds scheduler later
      scheduler' (roots.map Member.behaviour) roots issued := by
  have whole :
      ((roots ++ issued).map Member.behaviour).Perm
        ((roots.map Member.behaviour).flatMap Behaviour.family) := by
    rw [List.map_append, List.flatMap_map]
    exact
      (grown.offspring.append_left _).trans
        (List.map_append_flatMap_perm roots _ _)
  have resumptions :
      later.begun.length =
        Behaviour.resumptions (roots.map Member.behaviour) := by
    rw [grown.begun.length_eq, Member.length_turns]
    exact (whole.map _).sum_nat
  refine
    { ready := ready
      resumptions := resumptions
      counted := ?_
      behaviours := rfl
      rooted := rooted
      added := grown.added
      whole := whole
      distinct := ?_
      begun := grown.begun
      recorded := ?_ }
  · have before := life.balanced.begun
    have after := life'.balanced.begun
    rw [History.begun_append, List.length_append, resumptions,
      abandoned] at after
    omega
  · have rootIds : roots.map Member.id = scheduler.readyIds :=
      Member.map_id_eq (rooted.imp fun _ _ plays => plays.1)
    have issuedIds :
        issued.map Member.id = later.added.map Prod.fst :=
      Member.map_id_eq (grown.added.imp fun _ _ arises => arises.1)
    -- What was ready had been issued before, and nothing is issued twice.
    have identities :
        scheduler.ids.handedOut ++ later.added.map Prod.fst =
          scheduler'.ids.handedOut := by
      rw [← life.recorded.added, ← life'.recorded.added,
        History.added_append, List.map_append]
    have distinct := scheduler'.ids.nodup_handedOut
    rw [← identities, List.nodup_append'] at distinct
    rw [List.map_append, rootIds, issuedIds, List.nodup_append']
    refine ⟨life.partitioned.readyNodup, distinct.2.1, ?_⟩
    intro id isReady
    obtain ⟨task, member, rfl⟩ := List.mem_map.mp isReady
    exact
      distinct.2.2
        (life.partitioned.issued_of_live (List.mem_append_left _ member))
  · intro member belongs
    exact (grown.entries member belongs).recordsOnce life'.partitioned

/-- Ready tasks that behave are the roots of a forest. -/
theorem Member.exists_roots
    {tasks : List (Task κ α ε)}
    {forest : List (Behaviour α ε)}
    (behave :
      List.Forall₂
        (fun task behaviour =>
          task.coroutine.Behaves launch patience number holds behaviour)
        tasks forest) :
    ∃ roots,
      roots.map Member.behaviour = forest ∧
        List.Forall₂ (Member.Plays launch patience number holds) tasks
          roots := by
  have additions :
      List.Forall₂
        (fun behaviour (addition : TaskId × Coroutine κ α ε) =>
          addition.2.Behaves launch patience number holds behaviour)
        forest (tasks.map fun task => (task.id, task.coroutine)) :=
    List.forall₂_map_right_iff.mpr behave.flip
  obtain ⟨roots, same, arise⟩ := exists_of_arrivals additions
  rw [List.forall₂_map_left_iff] at arise
  exact ⟨roots, same, arise⟩

/-- A drain whose ready tasks behave comes to an end and resolves their forest. -/
theorem Run.drain_resolved
    {trace : Trace κ α ε}
    {moment : Moment κ α ε}
    {scheduler : Scheduler κ α ε}
    {forest : List (Behaviour α ε)}
    {next : Drive Unit → List (Layer κ α ε)}
    (run : Run launch trace moment)
    (asking : Asking moment.layers (.drain number) next)
    (idle : moment.world.isDriven number = false)
    (alive : moment.world.scheduler? number = some scheduler)
    (held : holds (moment.world.around number))
    (behave :
      List.Forall₂
        (fun task behaviour =>
          task.coroutine.Behaves launch patience number holds behaviour)
        scheduler.ready.toList forest) :
    ∃ world' later scheduler' roots issued,
      (∀ turns,
        Behaviour.resumptions forest < turns →
        World.drain (World.answer launch patience) turns number
            moment.world =
          some (world', .finished ())) ∧
        Path launch moment later ⟨world', next (.finished ())⟩ ∧
        world'.scheduler? number = some scheduler' ∧
        ForestResolved launch patience number holds scheduler
          (later.about number) scheduler' forest roots issued := by
  obtain ⟨roots, rfl, rooted⟩ := Member.exists_roots behave
  have resting :
      Moment.running? moment number = none :=
    run.tracked.coherent.running?_eq_none idle moment.world
  have life := run.life alive
  rw [resting] at life
  have entered :
      Path launch moment []
        ⟨moment.world.draining number scheduler,
          ⟨⟨number, some scheduler.ready.length⟩, .before⟩ ::
            moment.layers⟩ :=
    .single (.drainEntered asking idle alive)
  have drainingAlive :
      (moment.world.draining number scheduler).scheduler? number =
        some { scheduler with draining := true } := by
    simp [alive]
  obtain
    ⟨middle, later, last, issued, turned, path, lastAlive, empty,
      abandoned, grown⟩ :=
    World.turnTimes_grown (entered.coherent run.tracked.coherent)
      (by rw [World.around_draining]; exact held) drainingAlive
      life.placed rooted
  have nothingReady :
      (middle.scheduler? number).bind Scheduler.dequeue? = none := by
    rw [lastAlive]
    exact Scheduler.dequeue?_eq_none_iff.mpr empty
  have whole :
      Path launch moment later
        ⟨middle.drained number (.ok ()), next (.finished ())⟩ := by
    have idled := (entered.append path).snoc (.idled nothingReady)
    have left := idled.snoc (.drainLeft asking)
    rw [List.nil_append, List.append_nil, List.append_nil] at left
    exact left
  have alive' :
      (middle.drained number (.ok ())).scheduler? number =
        some { last with draining := false } := by
    simp [lastAlive]
  have life' := (run.append whole).life alive'
  rw [asking.running? _ moment.world, resting, Trace.about_append] at life'
  refine
    ⟨middle.drained number (.ok ()), later,
      { last with draining := false }, roots, issued, ?_, whole, alive',
      ?_⟩
  · intro turns enough
    have looped :
        World.drainLoop
            (World.takeTurn (World.answer launch patience) number) turns
            (moment.world.draining number scheduler) =
          some (middle, .ok ()) := by
      refine
        World.drainLoop_eq_some_iff.mpr
          ⟨_, enough, middle, turned, ?_⟩
      rw [World.takeTurn_eq, nothingReady]
      rfl
    rw [World.drain_eq _ turns idle alive, looped]
    rfl
  · refine Grown.resolved ?_ life life' rooted ?_ abandoned
    · exact
        ⟨grown.added, grown.offspring, grown.begun, grown.entries⟩
    · rw [Scheduler.readyIds, Queue.ids]
      exact congrArg (List.map Task.id) empty

end RoundRobin
