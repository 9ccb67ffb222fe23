import RoundRobin.Proofs.Run.Life

namespace RoundRobin

/-!
# Carried-out drives are runs

`World.answer` carries drives out at once and `Move` goes through them move by
move. The results here join the two: whatever a turn, a step, a drain or a
whole resumption leads to when it is carried out, a path leads to as well.
Besides the path, each result says what happened meanwhile to the schedulers
that were being driven already. They cannot be driven again, so they can only
have been given tasks.
-/

/-- A scheduler is given tasks through spawners, and nothing else. -/
inductive Arrivals :
    Scheduler κ α ε →
    History κ α ε →
    Scheduler κ α ε →
    Prop where
  | nil
      (scheduler : Scheduler κ α ε) :
      Arrivals scheduler [] scheduler
  | snoc
      {scheduler scheduler' : Scheduler κ α ε}
      {history : History κ α ε}
      (earlier : Arrivals scheduler history scheduler')
      (coroutine : Coroutine κ α ε) :
      Arrivals scheduler
        (history ++ [.added (scheduler'.enqueue coroutine).2 coroutine])
        (scheduler'.enqueue coroutine).1

/-- Tasks that arrive later arrive behind the earlier ones. -/
theorem Arrivals.append
    {scheduler scheduler' scheduler'' : Scheduler κ α ε}
    {leading trailing : History κ α ε}
    (first : Arrivals scheduler leading scheduler')
    (later : Arrivals scheduler' trailing scheduler'') :
    Arrivals scheduler (leading ++ trailing) scheduler'' := by
  induction later with
  | nil =>
      simpa using first
  | snoc _ coroutine inductionHypothesis =>
      rw [← List.append_assoc]
      exact .snoc inductionHypothesis coroutine

/--
What carrying out changes: the drives under way are those from before, and the
schedulers that are to be kept are given tasks at most.
-/
structure Conducted
    (kept : Nat → Prop)
    (world : World κ α ε)
    (trace : Trace κ α ε)
    (world' : World κ α ε) :
    Prop where
  frames : world'.frames = world.frames
  arrivals :
    ∀ number scheduler,
      kept number →
      world.scheduler? number = some scheduler →
      ∃ scheduler',
        world'.scheduler? number = some scheduler' ∧
          Arrivals scheduler (trace.about number) scheduler'

namespace Conducted

/-- A world that shows the same schedulers and drives is as good. -/
theorem unchanged
    {kept : Nat → Prop}
    {world world' : World κ α ε}
    (frames : world'.frames = world.frames)
    (same :
      ∀ number,
        kept number →
        world'.scheduler? number = world.scheduler? number) :
    Conducted kept world [] world' where
  frames := frames
  arrivals number scheduler member alive :=
    ⟨scheduler, (same number member).trans alive, .nil scheduler⟩

theorem append
    {kept : Nat → Prop}
    {world world' world'' : World κ α ε}
    {leading trailing : Trace κ α ε}
    (first : Conducted kept world leading world')
    (later : Conducted kept world' trailing world'') :
    Conducted kept world (leading ++ trailing) world'' where
  frames := later.frames.trans first.frames
  arrivals number scheduler member alive := by
    obtain ⟨scheduler', alive', earlier⟩ :=
      first.arrivals number scheduler member alive
    obtain ⟨scheduler'', alive'', rest⟩ :=
      later.arrivals number scheduler' member alive'
    refine ⟨scheduler'', alive'', ?_⟩
    rw [Trace.about_append]
    exact earlier.append rest

/-- Adding a task through a spawner keeps every scheduler. -/
theorem spawn
    (kept : Nat → Prop)
    (world : World κ α ε)
    (addressed : Nat)
    (coroutine : Coroutine κ α ε) :
    Conducted kept world (world.spawnTrace addressed coroutine)
      (world.spawn addressed coroutine).1 where
  frames := world.frames_spawn addressed coroutine
  arrivals number scheduler _ alive := by
    rw [World.scheduler?_spawn]
    unfold World.spawnTrace
    by_cases same : addressed = number
    · subst same
      refine ⟨(scheduler.enqueue coroutine).1, by simp [alive], ?_⟩
      simpa [alive] using (Arrivals.nil scheduler).snoc coroutine
    · refine ⟨scheduler, by simp [same, alive], ?_⟩
      cases world.scheduler? addressed with
      | none => exact .nil scheduler
      | some other => simpa [same] using .nil scheduler

end Conducted

/-- What a turn of a scheduler does. -/
inductive TurnTaken
    (number : Nat)
    (world : World κ α ε) :
    Trace κ α ε →
    World κ α ε →
    Guarded (Option Turn) →
    Prop where
  | idle
      (empty :
        (world.scheduler? number).bind Scheduler.dequeue? = none) :
      TurnTaken number world [] world (.ok none)
  | resumed
      {task : Task κ α ε}
      {rest : Scheduler κ α ε}
      {trace : Trace κ α ε}
      {stopped : World κ α ε}
      {coroutine : Coroutine κ α ε}
      {result : Guarded (Outcome α ε)}
      (next :
        (world.scheduler? number).bind Scheduler.dequeue? =
          some (task, rest))
      (conducted :
        Conducted (fun other => world.isDriven other)
          (world.started number rest task) trace stopped) :
      TurnTaken number world
        ([(number, .began task.id)] ++ trace ++
          [(number, .ended task.id result)])
        (stopped.conclude number rest.config task coroutine result)
        (Turn.ofResult task.id result)

/-- A turn leaves the schedulers alone that are driven around it. -/
theorem TurnTaken.conducted
    {number : Nat}
    {world world' : World κ α ε}
    {trace : Trace κ α ε}
    {result : Guarded (Option Turn)}
    (taken : TurnTaken number world trace world' result)
    {kept : Nat → Prop}
    (apart : ¬ kept number)
    (driven : ∀ other, kept other → world.isDriven other) :
    Conducted kept world trace world' := by
  have different (other : Nat) (member : kept other) :
      number ≠ other := by
    intro same
    subst same
    exact apart member
  cases taken with
  | idle => exact .unchanged rfl fun _ _ => rfl
  | @resumed task rest trace stopped coroutine result next conducted =>
      refine ⟨?_, ?_⟩
      · rw [World.frames_conclude, conducted.frames,
          World.frames_started]
      · intro other scheduler member alive
        have started :
            (world.started number rest task).scheduler? other =
              some scheduler := by
          simp [different other member, alive]
        obtain ⟨scheduler', alive', arrivals⟩ :=
          conducted.arrivals other scheduler (driven other member)
            started
        refine ⟨scheduler', ?_, ?_⟩
        · simp [different other member, alive']
        · simpa [different other member] using arrivals

namespace World

/-- Carrying out activities by the answers follows paths. -/
def FollowsPaths
    (launch : κ → Coroutine κ α ε)
    (answer : Answerer κ α ε) :
    Prop :=
  ∀ {activity : Activity κ (Coroutine κ α ε × Guarded (Outcome α ε))}
    {world world' : World κ α ε}
    {result : Coroutine κ α ε × Guarded (Outcome α ε)},
    activity.conduct answer world = some (world', result) →
    ∀ frame config task layers,
      ∃ trace,
        Path launch
            ⟨world,
              ⟨frame, .during ⟨config, task, activity⟩⟩ :: layers⟩
            trace
            ⟨world',
              ⟨frame, .during ⟨config, task, .done result⟩⟩ ::
                layers⟩ ∧
          Conducted (fun number => world.isDriven number) world trace
            world'

variable
  {launch : κ → Coroutine κ α ε}
  {answer : Answerer κ α ε}
  {number : Nat}
  {world world' : World κ α ε}
  {layers : List (Layer κ α ε)}

/-- A turn that is taken follows a path. -/
theorem takeTurn_path
    (follows : FollowsPaths launch answer)
    {result : Guarded (Option Turn)}
    (taken : takeTurn answer number world = some (world', result))
    (span : Option Nat)
    (layers : List (Layer κ α ε)) :
    ∃ trace,
      Path launch
          ⟨world, ⟨⟨number, span⟩, .before⟩ :: layers⟩
          trace
          ⟨world', ⟨⟨number, span⟩, .after result⟩ :: layers⟩ ∧
        TurnTaken number world trace world' result := by
  rw [takeTurn_eq] at taken
  cases next : (world.scheduler? number).bind Scheduler.dequeue? with
  | none =>
      simp only [next, Option.some.injEq, Prod.mk.injEq] at taken
      obtain ⟨rfl, rfl⟩ := taken
      exact ⟨[], .single (.idled next), .idle next⟩
  | some pair =>
      obtain ⟨task, rest⟩ := pair
      simp only [next, Option.map_eq_some_iff, Prod.mk.injEq] at taken
      obtain ⟨⟨stopped, coroutine, ended⟩, carried, rfl, rfl⟩ := taken
      obtain ⟨trace, path, conducted⟩ :=
        follows carried ⟨number, span⟩ rest.config task layers
      have driven (other : Nat) :
          (world.started number rest task).isDriven other =
            world.isDriven other :=
        isDriven_congr (frames_started world number rest task) other
      refine
        ⟨[(number, .began task.id)] ++ trace ++
            [(number, .ended task.id ended)],
          ?_, ?_⟩
      · exact
          ((Path.single (.began next)).append path).snoc
            (.ended stopped _ rest.config task coroutine ended layers)
      · apply TurnTaken.resumed next
        simpa only [driven] using conducted

/-- Take turns in a row, each of which resumes a task that does not panic. -/
def turnTimes
    (turn : World κ α ε → Option (World κ α ε × Guarded (Option Turn))) :
    (times : Nat) →
    World κ α ε →
    Option (World κ α ε)
  | 0, world => some world
  | times + 1, world =>
      match turn world with
      | some (world, .ok (some _)) => turnTimes turn times world
      | _ => none

/--
A drain that is carried out is a number of turns in a row and then one that
finds no task ready or panics.
-/
theorem drainLoop_eq_some_iff
    {turn : World κ α ε → Option (World κ α ε × Guarded (Option Turn))}
    {patience : Nat}
    {result : Guarded Unit} :
    drainLoop turn patience world = some (world', result) ↔
      ∃ times < patience,
      ∃ middle,
        turnTimes turn times world = some middle ∧
          turn middle = some (world', result.map fun _ => none) := by
  constructor
  · intro drained
    induction patience generalizing world with
    | zero => simp [drainLoop] at drained
    | succ patience inductionHypothesis =>
        simp only [drainLoop] at drained
        cases taken : turn world with
        | none => simp [taken] at drained
        | some pair =>
            obtain ⟨next, panic | _ | report⟩ := pair
            · simp only [taken, Option.some.injEq, Prod.mk.injEq]
                at drained
              obtain ⟨rfl, rfl⟩ := drained
              exact ⟨0, Nat.succ_pos _, world, rfl, taken⟩
            · simp only [taken, Option.some.injEq, Prod.mk.injEq]
                at drained
              obtain ⟨rfl, rfl⟩ := drained
              exact ⟨0, Nat.succ_pos _, world, rfl, taken⟩
            · simp only [taken] at drained
              obtain ⟨times, fewer, middle, turned, last⟩ :=
                inductionHypothesis drained
              refine
                ⟨times + 1, Nat.succ_lt_succ fewer, middle, ?_, last⟩
              simpa [turnTimes, taken] using turned
  · rintro ⟨times, enough, middle, turned, last⟩
    induction times generalizing world patience with
    | zero =>
        cases turned
        cases patience with
        | zero => cases enough
        | succ fewer =>
            rcases result with panic | _
            · simp [drainLoop, last, Except.map]
            · simp [drainLoop, last, Except.map]
    | succ times inductionHypothesis =>
        cases patience with
        | zero => cases enough
        | succ fewer =>
            simp only [turnTimes] at turned
            split at turned
            · next taken =>
                simp only [drainLoop, taken]
                exact
                  inductionHypothesis (Nat.lt_of_succ_lt_succ enough)
                    turned
            · cases turned

/-- The turns of a drain follow a path. -/
theorem turnTimes_path
    (follows : FollowsPaths launch answer)
    {times : Nat}
    (turned :
      turnTimes (takeTurn answer number) times world = some world')
    (ready : Nat)
    (kept : Nat → Prop)
    (apart : ¬ kept number)
    (driven : ∀ other, kept other → world.isDriven other)
    (layers : List (Layer κ α ε)) :
    ∃ trace,
      Path launch
          ⟨world, ⟨⟨number, some ready⟩, .before⟩ :: layers⟩
          trace
          ⟨world', ⟨⟨number, some ready⟩, .before⟩ :: layers⟩ ∧
        Conducted kept world trace world' := by
  induction times generalizing world with
  | zero =>
      cases turned
      exact ⟨[], .nil _, .unchanged rfl fun _ _ => rfl⟩
  | succ times inductionHypothesis =>
      simp only [turnTimes] at turned
      split at turned
      · next middle turn taken =>
          obtain ⟨trace, path, turnTaken⟩ :=
            takeTurn_path follows taken (some ready) layers
          have conducted := turnTaken.conducted apart driven
          have stillDriven
              (other : Nat)
              (member : kept other) :
              middle.isDriven other := by
            rw [isDriven_congr conducted.frames]
            exact driven other member
          obtain ⟨rest, restPath, restConducted⟩ :=
            inductionHypothesis turned stillDriven
          refine ⟨trace ++ rest, ?_, conducted.append restConducted⟩
          have continued :=
            path.snoc
              (.drainContinued middle number ready turn layers)
          rw [List.append_nil] at continued
          exact continued.append restPath
      · cases turned

/-- The turns of a drain that is carried out follow a path. -/
theorem drainLoop_path
    (follows : FollowsPaths launch answer)
    {patience : Nat}
    {result : Guarded Unit}
    (drained :
      drainLoop (takeTurn answer number) patience world =
        some (world', result))
    (ready : Nat)
    (kept : Nat → Prop)
    (apart : ¬ kept number)
    (driven : ∀ other, kept other → world.isDriven other)
    (layers : List (Layer κ α ε)) :
    ∃ trace,
      Path launch
          ⟨world, ⟨⟨number, some ready⟩, .before⟩ :: layers⟩
          trace
          ⟨world',
            ⟨⟨number, some ready⟩,
                .after (result.map fun _ => none)⟩ ::
              layers⟩ ∧
        Conducted kept world trace world' := by
  obtain ⟨times, -, middle, turned, last⟩ :=
    drainLoop_eq_some_iff.mp drained
  obtain ⟨trace, path, conducted⟩ :=
    turnTimes_path follows turned ready kept apart driven layers
  obtain ⟨final, finalPath, turnTaken⟩ :=
    takeTurn_path follows last (some ready) layers
  have stillDriven
      (other : Nat)
      (member : kept other) :
      middle.isDriven other := by
    rw [isDriven_congr conducted.frames]
    exact driven other member
  exact
    ⟨trace ++ final, path.append finalPath,
      conducted.append (turnTaken.conducted apart stillDriven)⟩

/-- Entering a drive leaves the others under way. -/
theorem isDriven_enter_of_isDriven
    (frame : Frame)
    {other : Nat}
    (driven : world.isDriven other) :
    (world.enter frame).isDriven other := by
  simp only [isDriven, frames_enter, List.any_cons, Bool.or_eq_true]
  exact .inr driven

/-- A step that is carried out follows a path. -/
theorem stepOnce_path
    (follows : FollowsPaths launch answer)
    {drive : Drive (Option Turn)}
    (stepped : stepOnce answer number world = some (world', drive))
    {next : Drive (Option Turn) → List (Layer κ α ε)}
    (asking : Asking layers (.step number) next) :
    ∃ trace,
      Path launch ⟨world, layers⟩ trace ⟨world', next drive⟩ ∧
        Conducted (fun other => world.isDriven other) world trace
          world' := by
  rcases refusal?_cases (Option Turn) world number with
    ⟨refusal, refused⟩ | ⟨idle, scheduler, alive⟩
  · rw [stepOnce_of_refusal? answer refused] at stepped
    cases stepped
    exact
      ⟨[], .single (.stepRefused asking refused),
        .unchanged rfl fun _ _ => rfl⟩
  · rw [stepOnce_eq answer idle alive] at stepped
    simp only [Option.map_eq_some_iff, Prod.mk.injEq] at stepped
    obtain ⟨⟨turned, result⟩, taken, rfl, rfl⟩ := stepped
    obtain ⟨trace, path, turnTaken⟩ :=
      takeTurn_path follows taken none layers
    have conducted :
        Conducted (fun other => world.isDriven other)
          (world.enter ⟨number, none⟩) trace turned := by
      apply turnTaken.conducted
      · simp [idle]
      · intro other driven
        exact isDriven_enter_of_isDriven _ driven
    refine ⟨trace, ?_, ?_, ?_⟩
    · have entered :=
        (Path.single (.stepEntered asking idle alive)).append path
      have left := entered.snoc (.stepLeft asking)
      simpa using left
    · simp [conducted.frames]
    · exact conducted.arrivals

/-- A drain that is carried out follows a path. -/
theorem drain_path
    (follows : FollowsPaths launch answer)
    {patience : Nat}
    {drive : Drive Unit}
    (drained :
      drain answer patience number world = some (world', drive))
    {next : Drive Unit → List (Layer κ α ε)}
    (asking : Asking layers (.drain number) next) :
    ∃ trace,
      Path launch ⟨world, layers⟩ trace ⟨world', next drive⟩ ∧
        Conducted (fun other => world.isDriven other) world trace
          world' := by
  rcases refusal?_cases Unit world number with
    ⟨refusal, refused⟩ | ⟨idle, scheduler, alive⟩
  · rw [drain_of_refusal? answer patience refused] at drained
    cases drained
    exact
      ⟨[], .single (.drainRefused asking refused),
        .unchanged rfl fun _ _ => rfl⟩
  · rw [drain_eq answer patience idle alive] at drained
    simp only [Option.map_eq_some_iff, Prod.mk.injEq] at drained
    obtain ⟨⟨turned, result⟩, looped, rfl, rfl⟩ := drained
    obtain ⟨trace, path, conducted⟩ :=
      drainLoop_path follows looped scheduler.ready.length
        (fun other => world.isDriven other) (by simp [idle])
        (fun other driven => isDriven_enter_of_isDriven _ driven)
        layers
    -- The schedulers driven around the drain are all different from its own.
    have different
        (other : Nat)
        (member : world.isDriven other = true) :
        number ≠ other := by
      intro same
      subst same
      simp [idle] at member
    refine ⟨trace, ?_, ?_, ?_⟩
    · have entered :=
        (Path.single (.drainEntered asking idle alive)).append path
      rcases result with panic | _
      · have left := entered.snoc (.drainUnwound asking)
        rw [List.nil_append, List.append_nil] at left
        exact left
      · have left := entered.snoc (.drainLeft asking)
        rw [List.nil_append, List.append_nil] at left
        exact left
    · simp [conducted.frames]
    · intro other before member found
      obtain ⟨scheduler', alive', arrived⟩ :=
        conducted.arrivals other before member
          (by simp [different other member, found])
      refine ⟨scheduler', ?_, arrived⟩
      simp [different other member, alive']

/-- What is answered with some patience at once is answered so without. -/
theorem answer_eq_zero
    {request : Request κ}
    (atOnce : request.DrivesNone)
    (patience : Nat) :
    World.answer launch patience request world =
      World.answer launch 0 request world := by
  cases request with
  | step number => exact (atOnce.1 number rfl).elim
  | drain number => exact (atOnce.2 number rfl).elim
  | _ => cases patience <;> rfl

/-- What is answered at once is answered. -/
theorem answer_isSome
    {request : Request κ}
    (atOnce : request.DrivesNone)
    (patience : Nat)
    (world : World κ α ε) :
    (World.answer launch patience request world).isSome := by
  rw [answer_eq_zero atOnce]
  cases request with
  | step number => exact (atOnce.1 number rfl).elim
  | drain number => exact (atOnce.2 number rfl).elim
  | _ => rfl

/-- A request that is answered at once is followed by one move. -/
theorem answer_zero_path
    {request : Request κ}
    {reply : request.Reply}
    (answered :
      World.answer launch 0 request world = some (world', reply))
    {next : request.Reply → List (Layer κ α ε)}
    (asking : Asking layers request next) :
    Path launch ⟨world, layers⟩ (world.requestTrace launch request)
        ⟨world', next reply⟩ ∧
      Conducted (fun other => world.isDriven other) world
        (world.requestTrace launch request) world' := by
  refine ⟨.single (.replied asking answered), ?_⟩
  rcases answer_zero_cases answered with
    ⟨addressed, job, rfl, rfl⟩ | ⟨noSpawn, slots, frames⟩
  · exact .spawn _ world addressed (launch job)
  · rw [requestTrace_eq_nil launch world noSpawn]
    exact .unchanged frames fun other _ => by simp [scheduler?, slots]

/-- Any request that is answered follows a path. -/
theorem answer_path
    (follows :
      ∀ fewer < patience,
        FollowsPaths launch (World.answer launch fewer))
    {request : Request κ}
    {reply : request.Reply}
    (answered :
      World.answer launch patience request world =
        some (world', reply))
    {next : request.Reply → List (Layer κ α ε)}
    (asking : Asking layers request next) :
    ∃ trace,
      Path launch ⟨world, layers⟩ trace ⟨world', next reply⟩ ∧
        Conducted (fun other => world.isDriven other) world trace
          world' := by
  cases request with
  | step number =>
      cases patience with
      | zero => cases answered
      | succ fewer =>
          exact
            stepOnce_path (follows fewer (Nat.lt_succ_self fewer))
              answered asking
  | drain number =>
      cases patience with
      | zero => cases answered
      | succ fewer =>
          exact
            drain_path (follows fewer (Nat.lt_succ_self fewer))
              answered asking
  | _ =>
      rw [answer_eq_zero (by simp [Request.DrivesNone])] at answered
      exact ⟨_, answer_zero_path answered asking⟩

/--
Whatever the patience, carrying out an activity by `World.answer` follows a
path.
-/
theorem answer_follows
    (launch : κ → Coroutine κ α ε)
    (patience : Nat) :
    FollowsPaths launch (World.answer launch patience) := by
  -- Nested drives are answered with less patience; within one patience, the
  -- activity becomes shorter with each reply.
  induction patience using Nat.strongRecOn with
  | ind patience follows =>
      intro activity
      induction activity with
      | done ended =>
          intro world world' result conducted frame config task layers
          cases conducted
          exact ⟨[], .nil _, .unchanged rfl fun _ _ => rfl⟩
      | ask request next inductionHypothesis =>
          intro world world' result conducted frame config task layers
          simp only [Activity.conduct] at conducted
          cases answered :
              World.answer launch patience request world with
          | none =>
              simp [answered] at conducted
          | some pair =>
              obtain ⟨middle, reply⟩ := pair
              simp only [answered] at conducted
              have asking :
                  Asking
                    (⟨frame, .during ⟨config, task, .ask request next⟩⟩ ::
                      layers)
                    request
                    fun reply =>
                      ⟨frame, .during ⟨config, task, next reply⟩⟩ ::
                        layers :=
                .task
              obtain ⟨first, path, kept⟩ :=
                answer_path follows answered asking
              obtain ⟨rest, restPath, restKept⟩ :=
                inductionHypothesis reply conducted frame config task
                  layers
              refine ⟨first ++ rest, path.append restPath, ?_⟩
              have driven (other : Nat) :
                  middle.isDriven other = world.isDriven other :=
                isDriven_congr kept.frames other
              apply kept.append
              simpa only [driven] using restKept

end World

/-- The worlds that a host brings about by the operations on schedulers. -/
inductive Reachable (launch : κ → Coroutine κ α ε) :
    World κ α ε →
    Prop where
  | start
      {world : World κ α ε}
      (slots : world.slots = [])
      (frames : world.frames = []) :
      Reachable launch world
  | opened
      {world world' : World κ α ε}
      {config : SchedulerConfig}
      {number : Nat}
      (earlier : Reachable launch world)
      (opened : world.openScheduler config = .ok (world', number)) :
      Reachable launch world'
  | added
      {world world' : World κ α ε}
      {number : Nat}
      {coroutine : Coroutine κ α ε}
      {id : TaskId}
      (earlier : Reachable launch world)
      (added : world.add? number coroutine = some (world', id)) :
      Reachable launch world'
  | spawned
      {world : World κ α ε}
      (earlier : Reachable launch world)
      (number : Nat)
      (coroutine : Coroutine κ α ε) :
      Reachable launch (world.spawn number coroutine).1
  | dropped
      {world : World κ α ε}
      (earlier : Reachable launch world)
      (number : Nat) :
      Reachable launch (world.drop number)
  | consumed
      {world : World κ α ε}
      (earlier : Reachable launch world)
      (number : Nat) :
      Reachable launch (world.consume number)
  | stepped
      {world world' : World κ α ε}
      {patience number : Nat}
      {drive : Drive (Option Turn)}
      (earlier : Reachable launch world)
      (stepped :
        World.stepOnce (World.answer launch patience) number world =
          some (world', drive)) :
      Reachable launch world'
  | drained
      {world world' : World κ α ε}
      {patience turns number : Nat}
      {drive : Drive Unit}
      (earlier : Reachable launch world)
      (drained :
        World.drain (World.answer launch patience) turns number world =
          some (world', drive)) :
      Reachable launch world'

/-- Whatever a host brings about is reached by a run. -/
theorem Reachable.run
    {launch : κ → Coroutine κ α ε}
    {world : World κ α ε}
    (reachable : Reachable launch world) :
    ∃ trace, Run launch trace ⟨world, []⟩ := by
  induction reachable with
  | start slots frames =>
      exact ⟨[], .start slots frames⟩
  | opened _ opened inductionHypothesis =>
      obtain ⟨trace, run⟩ := inductionHypothesis
      exact ⟨_, run.append (.single (.opened opened))⟩
  | added _ added inductionHypothesis =>
      obtain ⟨trace, run⟩ := inductionHypothesis
      have coherent := run.tracked.coherent
      exact
        ⟨_, run.append (.single (.added (coherent.idle _) added))⟩
  | spawned _ number coroutine inductionHypothesis =>
      obtain ⟨trace, run⟩ := inductionHypothesis
      exact
        ⟨_, run.append (.single (.spawned _ number coroutine []))⟩
  | dropped _ number inductionHypothesis =>
      obtain ⟨trace, run⟩ := inductionHypothesis
      have coherent := run.tracked.coherent
      exact
        ⟨_, run.append (.single (.dropped (coherent.idle number)))⟩
  | consumed _ number inductionHypothesis =>
      obtain ⟨trace, run⟩ := inductionHypothesis
      have coherent := run.tracked.coherent
      exact
        ⟨_, run.append (.single (.consumed (coherent.idle number)))⟩
  | stepped _ stepped inductionHypothesis =>
      obtain ⟨trace, run⟩ := inductionHypothesis
      obtain ⟨later, path, -⟩ :=
        World.stepOnce_path (World.answer_follows launch _) stepped
          (.host _)
      exact ⟨_, run.append path⟩
  | drained _ drained inductionHypothesis =>
      obtain ⟨trace, run⟩ := inductionHypothesis
      obtain ⟨later, path, -⟩ :=
        World.drain_path (World.answer_follows launch _) drained
          (.host _)
      exact ⟨_, run.append path⟩

end RoundRobin
