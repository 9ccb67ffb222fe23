import RoundRobin.Proofs.Likeness.World

namespace RoundRobin

/-!
# Runs that are like each other

Moments are like each other if their worlds are and if the drives under way in
them have come equally far, with what is left of each resumption making the
same requests whatever the replies. Every move of the one is then matched by
the same move of the other. So every run is matched, move by move, by a run in
which the tasks have other coroutines and the schedulers other settings.
-/

namespace Likeness

variable (likeness : Likeness κ α ε)

/-- Drives that have come equally far with a turn. -/
inductive Phases : Phase κ α ε → Phase κ α ε → Prop where
  | before : Phases .before .before
  | during
      {config config' : SchedulerConfig}
      {task task' : Task κ α ε}
      {activity activity' :
        Activity κ (Coroutine κ α ε × Guarded (Outcome α ε))}
      (configs : likeness.configs config config')
      (tasks : likeness.Tasks task task')
      (activities :
        activity.Like (Advanced likeness.coroutines) activity') :
      Phases (.during ⟨config, task, activity⟩)
        (.during ⟨config', task', activity'⟩)
  | after
      (result : Guarded (Option Turn)) :
      Phases (.after result) (.after result)

/-- Drives of the same scheduler that have come equally far. -/
inductive Layers : Layer κ α ε → Layer κ α ε → Prop where
  | mk
      {frame : Frame}
      {phase phase' : Phase κ α ε}
      (phases : likeness.Phases phase phase') :
      Layers ⟨frame, phase⟩ ⟨frame, phase'⟩

/-- Like worlds with like drives under way. -/
structure Moments (moment moment' : Moment κ α ε) : Prop where
  worlds : likeness.Worlds moment.world moment'.world
  layers : List.Forall₂ likeness.Layers moment.layers moment'.layers

/-- The same happening, but for the coroutine that becomes a task. -/
inductive Happenings : Happening κ α ε → Happening κ α ε → Prop where
  | added
      {id : TaskId}
      {coroutine coroutine' : Coroutine κ α ε}
      (alike : likeness.added coroutine coroutine') :
      Happenings (.added id coroutine) (.added id coroutine')
  | began
      (id : TaskId) :
      Happenings (.began id) (.began id)
  | ended
      (id : TaskId)
      (result : Guarded (Outcome α ε)) :
      Happenings (.ended id result) (.ended id result)

/-- The same happenings in the same order, each to the same scheduler. -/
def Traces (trace trace' : Trace κ α ε) : Prop :=
  List.Forall₂
    (fun entry entry' =>
      entry.1 = entry'.1 ∧ likeness.Happenings entry.2 entry'.2)
    trace trace'

/-- How the jobs and settings of one run have their counterparts in another. -/
structure Between
    (launch launch' : κ → Coroutine κ α ε) :
    Prop where
  launched : ∀ job, likeness.added (launch job) (launch' job)
  /-- Settings for which a scheduler can be made have such counterparts. -/
  made :
    ∀ {config : SchedulerConfig} {scheduler : Scheduler κ α ε},
      Scheduler.new config = .ok scheduler →
      ∃ (config' : SchedulerConfig) (scheduler' : Scheduler κ α ε),
        likeness.configs config config' ∧
          Scheduler.new config' = .ok scheduler'

/-- The coroutines that become tasks have counterparts. -/
def Covers (trace : Trace κ α ε) : Prop :=
  ∀ number id coroutine,
    (number, .added id coroutine) ∈ trace →
    ∃ coroutine', likeness.added coroutine coroutine'

variable {likeness}

/-- What becomes a task in the other has its counterpart in the one. -/
theorem Traces.covers
    {trace trace' : Trace κ α ε}
    (traces : likeness.Traces trace trace') :
    likeness.symm.Covers trace' := by
  intro number id coroutine' member
  induction traces with
  | nil => cases member
  | @cons entry _ _ _ same _ inductionHypothesis =>
      cases member with
      | tail _ member => exact inductionHypothesis member
      | head =>
          obtain ⟨number', happening⟩ := entry
          rcases same with ⟨-, ⟨alike⟩⟩
          exact ⟨_, alike⟩

/-- Whoever is in control of the one is so in the other, and is replied to alike. -/
theorem asking
    {layers layers' : List (Layer κ α ε)}
    (layerwise : List.Forall₂ likeness.Layers layers layers')
    {request : Request κ}
    {next : request.Reply → List (Layer κ α ε)}
    (asking : Asking layers request next) :
    ∃ next' : request.Reply → List (Layer κ α ε),
      Asking layers' request next' ∧
        ∀ reply,
          List.Forall₂ likeness.Layers (next reply) (next' reply) := by
  cases asking with
  | host =>
      cases layerwise
      exact ⟨_, .host request, fun _ => .nil⟩
  | task =>
      cases layerwise with
      | cons head tail =>
          rcases head with ⟨_ | ⟨configs, tasks, activities⟩ | _⟩
          cases activities with
          | ask later =>
              refine ⟨_, .task, fun reply => ?_⟩
              exact .cons (.mk (.during configs tasks (later reply))) tail

/-- A request that is answered at once is answered alike. -/
theorem Worlds.answer
    {launch launch' : κ → Coroutine κ α ε}
    (between : likeness.Between launch launch')
    {world world' reached : World κ α ε}
    (worlds : likeness.Worlds world world')
    {request : Request κ}
    {reply : request.Reply}
    (answered :
      World.answer launch 0 request world = some (reached, reply)) :
    ∃ reached',
      World.answer launch' 0 request world' = some (reached', reply) ∧
        likeness.Worlds reached reached' := by
  cases request with
  | spawn number job =>
      obtain ⟨spawned, same⟩ :=
        worlds.spawn number fun _ _ =>
          likeness.coroutines_of_added (between.launched job)
      simp only [World.answer, Option.some.injEq] at answered
      rw [answered] at spawned same
      exact ⟨_, congrArg some (Prod.ext rfl same), spawned⟩
  | inspect number =>
      cases answered
      exact
        ⟨world', by simp only [World.answer, worlds.attachment], worlds⟩
  | step number => cases answered
  | drain number => cases answered
  | observe observation =>
      cases answered
      exact ⟨_, rfl, worlds.observe observation⟩
  | announce severity text =>
      cases answered
      exact ⟨_, rfl, worlds.emit _⟩
  | readClock =>
      cases answered
      obtain ⟨read, same⟩ := worlds.readClock
      exact ⟨_, congrArg some (Prod.ext rfl same), read⟩

/-- Alike coroutines that are spawned show alike in traces. -/
theorem Worlds.spawnTrace
    {world world' : World κ α ε}
    (worlds : likeness.Worlds world world')
    (number : Nat)
    {coroutine coroutine' : Coroutine κ α ε}
    (alike :
      ∀ scheduler,
        world.scheduler? number = some scheduler →
        likeness.added coroutine coroutine') :
    likeness.Traces (world.spawnTrace number coroutine)
      (world'.spawnTrace number coroutine') := by
  unfold World.spawnTrace
  rcases worlds.scheduler?_cases number with
    ⟨absent, absent'⟩ | ⟨scheduler, _, found, found', schedulers⟩
  · rw [absent, absent']
    exact .nil
  · have added := alike scheduler found
    have same :=
      (schedulers.enqueue (likeness.coroutines_of_added added)).2
    rw [found, found']
    simp only [same]
    exact .cons ⟨rfl, .added added⟩ .nil

/-- A request that is answered at once shows alike in traces. -/
theorem Worlds.requestTrace
    {launch launch' : κ → Coroutine κ α ε}
    (between : likeness.Between launch launch')
    {world world' : World κ α ε}
    (worlds : likeness.Worlds world world')
    (request : Request κ) :
    likeness.Traces (world.requestTrace launch request)
      (world'.requestTrace launch' request) := by
  cases request with
  | spawn number job =>
      exact worlds.spawnTrace number fun _ _ => between.launched job
  | _ => exact .nil

/-- Every move of the one is matched by a move of the other. -/
theorem Moments.move
    {launch launch' : κ → Coroutine κ α ε}
    (between : likeness.Between launch launch')
    {moment moment' reached : Moment κ α ε}
    {trace : Trace κ α ε}
    (moments : likeness.Moments moment moment')
    (move : Move launch moment trace reached)
    (covers : likeness.Covers trace) :
    ∃ trace' reached',
      Move launch' moment' trace' reached' ∧
        likeness.Traces trace trace' ∧
        likeness.Moments reached reached' := by
  obtain ⟨world', layers'⟩ := moment'
  obtain ⟨worlds, layerwise⟩ := moments
  dsimp only at worlds layerwise
  cases move with
  | opened opens =>
      obtain ⟨scheduler, made, -, -⟩ := World.openScheduler_eq_ok opens
      obtain ⟨config', scheduler', configs, made'⟩ := between.made made
      obtain ⟨opened', opens', worlds'⟩ :=
        worlds.openScheduler configs made' opens
      exact ⟨_, _, .opened opens', .nil, ⟨worlds', layerwise⟩⟩
  | @added world _ number coroutine id layers idle adds =>
      obtain ⟨coroutine', added⟩ :=
        covers number id coroutine List.mem_cons_self
      obtain ⟨added', adds', worlds'⟩ :=
        worlds.add? (likeness.coroutines_of_added added) adds
      have idle' : world'.isDriven number = false := by
        rw [worlds.isDriven, idle]
      exact
        ⟨_, _, .added idle' adds', .cons ⟨rfl, .added added⟩ .nil,
          ⟨worlds', layerwise⟩⟩
  | spawned world number coroutine layers =>
      obtain ⟨coroutine', alike⟩ :
          ∃ coroutine',
            ∀ scheduler,
              world.scheduler? number = some scheduler →
              likeness.added coroutine coroutine' := by
        cases alive : world.scheduler? number with
        | none => exact ⟨coroutine, by simp⟩
        | some scheduler =>
            have shown :
                (number,
                    .added (scheduler.enqueue coroutine).2 coroutine) ∈
                  world.spawnTrace number coroutine := by
              simp [World.spawnTrace, alive]
            obtain ⟨coroutine', added⟩ := covers _ _ _ shown
            exact ⟨coroutine', fun _ _ => added⟩
      have spawned :=
        worlds.spawn number fun scheduler alive =>
          likeness.coroutines_of_added (alike scheduler alive)
      exact
        ⟨_, _, .spawned world' number coroutine' layers',
          worlds.spawnTrace number alike, ⟨spawned.1, layerwise⟩⟩
  | @dropped _ number _ idle =>
      have idle' : world'.isDriven number = false := by
        rw [worlds.isDriven, idle]
      exact
        ⟨_, _, .dropped idle', .nil, ⟨worlds.drop number, layerwise⟩⟩
  | @consumed _ number _ idle =>
      have idle' : world'.isDriven number = false := by
        rw [worlds.isDriven, idle]
      exact
        ⟨_, _, .consumed idle', .nil,
          ⟨worlds.consume number, layerwise⟩⟩
  | @replied world _ layers request next reply asks answered =>
      obtain ⟨next', asks', replies⟩ := asking layerwise asks
      obtain ⟨reached', answered', worlds'⟩ :=
        worlds.answer between answered
      exact
        ⟨_, _, .replied asks' answered',
          worlds.requestTrace between request,
          ⟨worlds', replies reply⟩⟩
  | stepRefused asks refused =>
      obtain ⟨next', asks', replies⟩ := asking layerwise asks
      rw [← worlds.refusal?] at refused
      exact
        ⟨_, _, .stepRefused asks' refused, .nil, ⟨worlds, replies _⟩⟩
  | drainRefused asks refused =>
      obtain ⟨next', asks', replies⟩ := asking layerwise asks
      rw [← worlds.refusal?] at refused
      exact
        ⟨_, _, .drainRefused asks' refused, .nil, ⟨worlds, replies _⟩⟩
  | @stepEntered _ scheduler _ number next asks idle alive =>
      obtain ⟨next', asks', -⟩ := asking layerwise asks
      obtain ⟨scheduler', alive', -⟩ := worlds.alive alive
      have idle' : world'.isDriven number = false := by
        rw [worlds.isDriven, idle]
      exact
        ⟨_, _, .stepEntered asks' idle' alive', .nil,
          ⟨worlds.enter _, .cons (.mk .before) layerwise⟩⟩
  | @drainEntered _ scheduler _ number next asks idle alive =>
      obtain ⟨next', asks', -⟩ := asking layerwise asks
      obtain ⟨scheduler', alive', schedulers⟩ := worlds.alive alive
      have idle' : world'.isDriven number = false := by
        rw [worlds.isDriven, idle]
      refine ⟨_, _, .drainEntered asks' idle' alive', .nil, ?_⟩
      rw [schedulers.length_ready]
      exact
        ⟨(worlds.enter _).setDraining number true,
          .cons (.mk .before) layerwise⟩
  | @idled world frame layers empty =>
      cases layerwise with
      | cons head tail =>
          rcases head with ⟨⟨⟩⟩
          rcases worlds.next_cases frame.scheduler with
            ⟨-, empty'⟩ | ⟨_, _, _, _, next, -⟩
          · exact
              ⟨_, _, .idled empty', .nil,
                ⟨worlds, .cons (.mk (.after _)) tail⟩⟩
          · rw [empty] at next
            cases next
  | @began world frame layers task rest next =>
      cases layerwise with
      | cons head tail =>
          rcases head with ⟨⟨⟩⟩
          rcases worlds.next_cases frame.scheduler with
            ⟨empty, -⟩ |
              ⟨_, task', _, rest', found, next', tasks, schedulers⟩
          · rw [next] at empty
            cases empty
          · rw [next] at found
            cases found
            have resumed :
                task.coroutine.resume.Like
                  (Advanced likeness.coroutines)
                  task'.coroutine.resume := by
              cases tasks with
              | mk alike => exact likeness.resumed alike
            refine ⟨_, _, .began next', ?_, ?_⟩
            · rw [tasks.id]
              exact .cons ⟨rfl, .began task.id⟩ .nil
            · refine ⟨worlds.started _ schedulers tasks, ?_⟩
              exact
                .cons (.mk (.during schedulers.configs tasks resumed))
                  tail
  | ended world frame config task coroutine result layers =>
      cases layerwise with
      | cons head tail =>
          rcases head with ⟨_ | ⟨configs, tasks, activities⟩ | _⟩
          cases activities with
          | @done _ final ends =>
              obtain ⟨coroutine', result'⟩ := final
              obtain ⟨same, goesOn⟩ := ends
              dsimp only at same goesOn
              subst same
              refine ⟨_, _, .ended world' frame _ _ _ _ _, ?_, ?_⟩
              · rw [tasks.id]
                exact .cons ⟨rfl, .ended task.id result⟩ .nil
              · rw [tasks.id]
                exact
                  ⟨worlds.conclude _ configs tasks goesOn,
                    .cons (.mk (.after _)) tail⟩
  | @stepLeft _ _ number result next asks =>
      cases layerwise with
      | cons head tail =>
          rcases head with ⟨⟨⟩⟩
          obtain ⟨next', asks', replies⟩ := asking tail asks
          exact
            ⟨_, _, .stepLeft asks', .nil, ⟨worlds.leave, replies _⟩⟩
  | drainContinued world number ready turn layers =>
      cases layerwise with
      | cons head tail =>
          rcases head with ⟨⟨⟩⟩
          exact
            ⟨_, _, .drainContinued world' number ready turn _, .nil,
              ⟨worlds, .cons (.mk .before) tail⟩⟩
  | @drainLeft _ _ number ready next asks =>
      cases layerwise with
      | cons head tail =>
          rcases head with ⟨⟨⟩⟩
          obtain ⟨next', asks', replies⟩ := asking tail asks
          have left :=
            ((worlds.setDraining number false).emitDrained number).leave
          exact ⟨_, _, .drainLeft asks', .nil, ⟨left, replies _⟩⟩
  | @drainUnwound _ _ number ready panic next asks =>
      cases layerwise with
      | cons head tail =>
          rcases head with ⟨⟨⟩⟩
          obtain ⟨next', asks', replies⟩ := asking tail asks
          have left := (worlds.setDraining number false).leave
          exact ⟨_, _, .drainUnwound asks', .nil, ⟨left, replies _⟩⟩

/-- Every path of the one is matched by a path of the other. -/
theorem Moments.path
    {launch launch' : κ → Coroutine κ α ε}
    (between : likeness.Between launch launch')
    {moment moment' reached : Moment κ α ε}
    {trace : Trace κ α ε}
    (moments : likeness.Moments moment moment')
    (path : Path launch moment trace reached)
    (covers : likeness.Covers trace) :
    ∃ trace' reached',
      Path launch' moment' trace' reached' ∧
        likeness.Traces trace trace' ∧
        likeness.Moments reached reached' := by
  induction path with
  | nil => exact ⟨[], moment', .nil _, .nil, moments⟩
  | snoc _ move inductionHypothesis =>
      obtain ⟨trace', middle', path', traces, middles⟩ :=
        inductionHypothesis fun number id coroutine member =>
          covers number id coroutine (List.mem_append_left _ member)
      obtain ⟨last', reached', move', lasts, reacheds⟩ :=
        middles.move between move fun number id coroutine member =>
          covers number id coroutine (List.mem_append_right _ member)
      exact
        ⟨trace' ++ last', reached', path'.snoc move',
          List.rel_append traces lasts, reacheds⟩

/-- Every run has its counterpart. -/
theorem run
    {launch launch' : κ → Coroutine κ α ε}
    (between : likeness.Between launch launch')
    {trace : Trace κ α ε}
    {moment : Moment κ α ε}
    (run : Run launch trace moment)
    (covers : likeness.Covers trace) :
    ∃ trace' moment',
      Run launch' trace' moment' ∧
        likeness.Traces trace trace' ∧
        likeness.Moments moment moment' := by
  obtain ⟨world, slots, frames, path⟩ := run
  have slotwise :
      List.Forall₂ likeness.Slots world.slots world.slots := by
    rw [slots]
    exact .nil
  have initial : likeness.Moments ⟨world, []⟩ ⟨world, []⟩ :=
    ⟨.mk slotwise rfl, .nil⟩
  obtain ⟨trace', moment', path', traces, moments⟩ :=
    initial.path between path covers
  exact
    ⟨trace', moment', ⟨world, slots, frames, path'⟩, traces, moments⟩

end Likeness

end RoundRobin
