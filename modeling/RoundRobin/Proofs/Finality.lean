import RoundRobin.Proofs.Likeness.Run
import RoundRobin.Proofs.Watched
import RoundRobin.Workload

namespace RoundRobin

/-!
# Nothing is resumed after it has ended

Each run of tasks that are built as trees is matched by a run in which the
trees are watched, and each run of watched trees is matched by a run of the
trees. The alarm of the watch is an activity of any kind: it could log, spawn,
drive other schedulers, report a result of its own, or go on for ever. Since
all of this is left open and yet the runs agree in everything that shows, the
alarm never sounds in any of them. In particular no coroutine of a tree is
resumed after it has completed, failed or panicked, no routine is stepped after
it has terminated, and what a coroutine would do then does not matter.
-/

namespace Tree

/--
A tree and the watched tree, as far as they have come: no coroutine that is in
place in the tree has ended.
-/
inductive Standing (alarm : Alarm κ) :
    Coroutine κ α ε →
    Coroutine κ α ε →
    Prop where
  | mk
      (tree : Tree κ α ε)
      {state : tree.coroutine.State}
      {state' : (tree.watched alarm).State}
      (ongoing : tree.Ongoing alarm state state') :
      Standing alarm { tree.coroutine with state := state }
        { tree.watched alarm with state := state' }

theorem standing_coroutine
    (alarm : Alarm κ)
    (tree : Tree κ α ε) :
    Standing alarm tree.coroutine (tree.watched alarm) :=
  .mk tree (tree.alike_watched alarm).initial

/-- A resumption that suspends leaves nothing in place that has ended. -/
theorem Standing.resume
    {alarm : Alarm κ}
    {coroutine coroutine' : Coroutine κ α ε}
    (standing : Standing alarm coroutine coroutine') :
    coroutine.resume.Like (Advanced (Standing alarm))
      coroutine'.resume := by
  cases standing with
  | mk tree ongoing =>
      apply ((tree.alike_watched alarm).advance ongoing).map
      rintro reached reached' ⟨same, goesOn⟩
      exact ⟨same, fun suspended => .mk tree (goesOn suspended)⟩

/-- The worlds differ in that all tasks of the other are watched. -/
def watching
    (alarm : Alarm κ)
    (built : Tree κ α ε → Prop) :
    Likeness κ α ε where
  added coroutine coroutine' :=
    ∃ tree,
      built tree ∧
        tree.coroutine = coroutine ∧
        tree.watched alarm = coroutine'
  coroutines := Standing alarm
  configs := Eq
  shown _ := true
  coroutines_of_added := by
    rintro _ _ ⟨tree, -, rfl, rfl⟩
    exact standing_coroutine alarm tree
  resumed := Standing.resume
  running same := .inl (congrArg SchedulerConfig.logResumptions same)
  suspended same := .inl (congrArg SchedulerConfig.logResumptions same)

section Between

variable
  (alarm : Alarm κ)
  {built : Tree κ α ε → Prop}
  {program : κ → Tree κ α ε}
  (programs : ∀ job, built (program job))

include programs

theorem watching_between :
    (watching alarm built).Between (fun job => (program job).coroutine)
      fun job => (program job).watched alarm where
  launched job := ⟨program job, programs job, rfl, rfl⟩
  made opens := ⟨_, _, rfl, opens⟩

theorem watching_symm_between :
    (watching alarm built).symm.Between
      (fun job => (program job).watched alarm)
      fun job => (program job).coroutine where
  launched job := ⟨program job, programs job, rfl, rfl⟩
  made opens := ⟨_, _, rfl, opens⟩

end Between

end Tree

/-- A ready task has a counterpart in every world that is like its own. -/
theorem Likeness.Worlds.ready
    {likeness : Likeness κ α ε}
    {world world' : World κ α ε}
    (worlds : likeness.Worlds world world')
    {number : Nat}
    {scheduler : Scheduler κ α ε}
    (alive : world.scheduler? number = some scheduler)
    {task : Task κ α ε}
    (ready : task ∈ scheduler.ready.toList) :
    ∃ task', likeness.Tasks task task' := by
  obtain ⟨scheduler', -, schedulers⟩ := worlds.alive alive
  cases schedulers with
  | mk _ tasks =>
      obtain ⟨⟨place, within⟩, rfl⟩ := List.mem_iff_get.mp ready
      exact ⟨_, tasks.get within (tasks.length_eq ▸ within)⟩

/--
Whatever the alarm does, nobody can tell from a run whether the trees in it are
watched: every run of trees is matched by one of the watched trees in which the
same happens, and the other way round. Besides, no coroutine that is in place
in a ready task has ended.
-/
theorem no_resumption_after_end
    (alarm : Alarm κ)
    {built : Tree κ α ε → Prop}
    {program : κ → Tree κ α ε}
    (programs : ∀ job, built (program job)) :
    (∀ {trace : Trace κ α ε} {moment : Moment κ α ε},
      Run (fun job => (program job).coroutine) trace moment →
      (∀ number id coroutine,
        (number, .added id coroutine) ∈ trace →
        ∃ tree, built tree ∧ tree.coroutine = coroutine) →
      ∃ trace' moment',
        Run (fun job => (program job).watched alarm) trace' moment' ∧
          (Tree.watching alarm built).Traces trace trace' ∧
          (Tree.watching alarm built).Moments moment moment') ∧
      ∀ {trace' : Trace κ α ε} {moment' : Moment κ α ε},
        Run (fun job => (program job).watched alarm) trace' moment' →
        (∀ number id coroutine,
          (number, .added id coroutine) ∈ trace' →
          ∃ tree, built tree ∧ tree.watched alarm = coroutine) →
        (∃ trace moment,
          Run (fun job => (program job).coroutine) trace moment ∧
            (Tree.watching alarm built).symm.Traces trace' trace ∧
            (Tree.watching alarm built).symm.Moments moment' moment) ∧
          ∀ {number : Nat} {scheduler : Scheduler κ α ε}
            {task : Task κ α ε},
            moment'.world.scheduler? number = some scheduler →
            task ∈ scheduler.ready.toList →
            ∃ coroutine, Tree.Standing alarm coroutine task.coroutine := by
  refine ⟨?_, ?_⟩
  · intro trace moment run trees
    apply Likeness.run (Tree.watching_between alarm programs) run
    intro number id coroutine added
    obtain ⟨tree, isBuilt, rfl⟩ := trees number id coroutine added
    exact ⟨_, tree, isBuilt, rfl, rfl⟩
  · intro trace' moment' run' trees
    have covers :
        (Tree.watching alarm built).symm.Covers trace' := by
      intro number id coroutine added
      obtain ⟨tree, isBuilt, rfl⟩ := trees number id coroutine added
      exact ⟨_, tree, isBuilt, rfl, rfl⟩
    obtain ⟨trace, moment, run, traces, moments⟩ :=
      Likeness.run (Tree.watching_symm_between alarm programs) run'
        covers
    refine ⟨⟨trace, moment, run, traces, moments⟩, ?_⟩
    intro number scheduler task alive ready
    obtain ⟨_, ⟨standing⟩⟩ := moments.worlds.ready alive ready
    exact ⟨_, standing⟩

/-- The alarm that panics. -/
def Alarm.panic : Alarm κ :=
  fun _ state => .done (state, .error ⟨"resumed after its end"⟩)

/-- A routine that completes at once, and then one that suspends before. -/
def Tree.relay : Tree κ Nat TaskError :=
  .andThen (.routine (Coroutine.countdown 0 1)) (fun _ => none)
    fun value => .routine (Coroutine.countdown 1 (value + 1))

/--
A relay is resumed once: its first routine completes, and its second suspends.
If it is watched nothing else happens, and it is ready in the end with nothing
in place that has ended.
-/
theorem no_resumption_after_end_of_relay :
    ∃ (trace trace' : Trace Unit Nat TaskError)
      (moment moment' : Moment Unit Nat TaskError)
      (scheduler' : Scheduler Unit Nat TaskError),
      Run (fun _ => Tree.relay.coroutine) trace moment ∧
        trace.about 0 =
          [.added ⟨0⟩ Tree.relay.coroutine, .began ⟨0⟩,
            .ended ⟨0⟩ (.ok .suspended)] ∧
        Run (fun _ => Tree.relay.watched Alarm.panic) trace' moment' ∧
        (Tree.watching Alarm.panic (· = Tree.relay)).Traces trace
          trace' ∧
        moment'.world.scheduler? 0 = some scheduler' ∧
        scheduler'.ready.length = 1 ∧
        ∀ task ∈ scheduler'.ready.toList,
          ∃ coroutine,
            Tree.Standing Alarm.panic coroutine task.coroutine := by
  have matched :=
    @no_resumption_after_end Unit Nat TaskError Alarm.panic
      (· = Tree.relay) (fun _ => Tree.relay) fun _ => rfl
  have opened : Run (fun _ : Unit => Tree.relay.coroutine) _ _ :=
    (Run.start rfl rfl).append
      (.single
        (.opened
          (show (World.empty none).openScheduler {} = .ok (_, 0)
            from rfl)))
  have added : Run (fun _ : Unit => Tree.relay.coroutine) _ _ :=
    opened.append
      (.single
        (.added rfl
          (show World.add? _ 0 Tree.relay.coroutine = some (_, ⟨0⟩)
            from rfl)))
  have entered : Run (fun _ => Tree.relay.coroutine) _ _ :=
    added.append
      (.single (.stepEntered (.host (.step 0)) rfl rfl))
  have began : Run (fun _ => Tree.relay.coroutine) _ _ :=
    entered.append (.single (.began rfl))
  have ended :
      Run (fun _ => Tree.relay.coroutine)
        [(0, .added ⟨0⟩ Tree.relay.coroutine), (0, .began ⟨0⟩),
          (0, .ended ⟨0⟩ (.ok .suspended))]
        _ :=
    began.append
      (.single (.ended _ _ _ _ _ (.ok .suspended) []))
  obtain ⟨trace', moment', run', traces, moments⟩ := by
    apply matched.1 ended
    intro number id coroutine member
    simp only [List.mem_cons, Prod.mk.injEq, Happening.added.injEq,
      reduceCtorEq, and_false, or_false, List.not_mem_nil] at member
    exact ⟨_, rfl, member.2.2.symm⟩
  obtain ⟨scheduler', alive', schedulers⟩ :=
    moments.worlds.alive (show World.scheduler? _ 0 = some _ from rfl)
  have trees' :
      ∀ number id coroutine,
        (number, .added id coroutine) ∈ trace' →
        ∃ tree,
          tree = Tree.relay ∧ tree.watched Alarm.panic = coroutine := by
    intro number id coroutine member
    obtain ⟨_, tree, isBuilt, -, same⟩ :=
      traces.covers number id coroutine member
    exact ⟨tree, isBuilt, same⟩
  refine
    ⟨_, trace', _, moment', scheduler', ended, rfl, run', traces, alive',
      schedulers.length_ready, ?_⟩
  intro task ready
  exact (matched.2 run' trees').2 alive' ready

end RoundRobin
