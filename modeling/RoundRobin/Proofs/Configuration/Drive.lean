import RoundRobin.Proofs.Configuration.World
import RoundRobin.Proofs.Run.Conduct

namespace RoundRobin

/-!
# Driving schedulers under other settings

Driving a scheduler in one of two worlds that differ in settings is driving it
in the other: with any patience neither drive comes to an end, or both end in
the same result and in worlds that differ in settings. Drives nest, so this is
shown for answering requests with a given patience from driving with less.
-/

/-- Neither has a result, or both have the same in worlds that differ in settings. -/
inductive Agreeing
    {κ α ε : Type}
    {ρ : Type u}
    (pairs : SchedulerConfig → SchedulerConfig → Prop) :
    Option (World κ α ε × ρ) →
    Option (World κ α ε × ρ) →
    Prop where
  | unfinished : Agreeing pairs none none
  | finished
      {world world' : World κ α ε}
      (reconfigured : Reconfigured pairs world world')
      (result : ρ) :
      Agreeing pairs (some (world, result)) (some (world', result))

/-- Pairs of a world and a result whose worlds differ in settings only. -/
theorem Agreeing.of_pair
    {pairs : SchedulerConfig → SchedulerConfig → Prop}
    {ρ : Type u}
    {reached reached' : World κ α ε × ρ}
    (reconfigured : Reconfigured pairs reached.1 reached'.1)
    (same : reached'.2 = reached.2) :
    Agreeing pairs (some reached) (some reached') := by
  obtain ⟨world, result⟩ := reached
  obtain ⟨world', result'⟩ := reached'
  cases same
  exact .finished reconfigured result

/-- What is made of either result keeps the worlds to differ in settings only. -/
theorem Agreeing.map
    {pairs : SchedulerConfig → SchedulerConfig → Prop}
    {ρ : Type u}
    {τ : Type v}
    {reached reached' : Option (World κ α ε × ρ)}
    (agreeing : Agreeing pairs reached reached')
    {made made' : World κ α ε × ρ → World κ α ε × τ}
    (reconfigured :
      ∀ {world world' : World κ α ε} (result : ρ),
        Reconfigured pairs world world' →
        Reconfigured pairs (made (world, result)).1
          (made' (world', result)).1)
    (same :
      ∀ (world world' : World κ α ε) (result : ρ),
        (made' (world', result)).2 = (made (world, result)).2) :
    Agreeing pairs (reached.map made) (reached'.map made') := by
  cases agreeing with
  | unfinished => exact .unfinished
  | finished worlds result =>
      exact .of_pair (reconfigured result worlds) (same _ _ result)

/-- Whatever is asked for is answered alike in worlds that differ in settings. -/
def World.Answerer.Agrees
    (pairs : SchedulerConfig → SchedulerConfig → Prop)
    (answer : World.Answerer κ α ε) :
    Prop :=
  ∀ (request : Request κ) {world world' : World κ α ε},
    Reconfigured pairs world world' →
    Agreeing pairs (answer request world) (answer request world')

namespace World

variable
  {pairs : SchedulerConfig → SchedulerConfig → Prop}
  {answer : Answerer κ α ε}
  {world world' : World κ α ε}

/-- An activity is carried through alike. -/
theorem conduct_agreeing
    (agrees : Answerer.Agrees pairs answer)
    {ρ : Type u}
    (activity : Activity κ ρ)
    (reconfigured : Reconfigured pairs world world') :
    Agreeing pairs (activity.conduct answer world)
      (activity.conduct answer world') := by
  induction activity generalizing world world' with
  | done result => exact .finished reconfigured result
  | ask request next inductionHypothesis =>
      simp only [Activity.conduct]
      have answered := agrees request reconfigured
      generalize answer request world = reached at answered ⊢
      generalize answer request world' = reached' at answered ⊢
      cases answered with
      | unfinished => exact .unfinished
      | finished reconfigured reply =>
          exact inductionHypothesis reply reconfigured

/-- The same task takes its turn in both, or neither has one. -/
theorem takeTurn_agreeing
    (agrees : Answerer.Agrees pairs answer)
    (number : Nat)
    (reconfigured : Reconfigured pairs world world') :
    Agreeing pairs (takeTurn answer number world)
      (takeTurn answer number world') := by
  rw [takeTurn_eq, takeTurn_eq]
  rcases reconfigured.worlds.next_cases number with
    ⟨empty, empty'⟩ |
      ⟨task, task', rest, rest', next, next', tasks, schedulers⟩
  · rw [empty, empty']
    exact .finished reconfigured _
  · rw [next, next']
    cases Likeness.eq_of_reconfigured tasks
    dsimp only
    have conducted :=
      conduct_agreeing agrees task.coroutine.resume
        (reconfigured.started number schedulers task)
    refine conducted.map ?_ fun _ _ _ => rfl
    intro stopped stopped' ended reconfigured
    exact
      reconfigured.conclude number schedulers.configs task ended.1
        ended.2

/-- As many turns are taken in both. -/
theorem drainLoop_agreeing
    (agrees : Answerer.Agrees pairs answer)
    (number patience : Nat)
    (reconfigured : Reconfigured pairs world world') :
    Agreeing pairs (drainLoop (takeTurn answer number) patience world)
      (drainLoop (takeTurn answer number) patience world') := by
  induction patience generalizing world world' with
  | zero => exact .unfinished
  | succ patience inductionHypothesis =>
      simp only [drainLoop]
      have turned := takeTurn_agreeing agrees number reconfigured
      generalize takeTurn answer number world = reached at turned ⊢
      generalize takeTurn answer number world' = reached' at turned ⊢
      cases turned with
      | unfinished => exact .unfinished
      | finished reconfigured result =>
          rcases result with panic | _ | turn
          · exact .finished reconfigured _
          · exact .finished reconfigured _
          · exact inductionHypothesis reconfigured

/-- A step is refused in both, or it goes alike. -/
theorem stepOnce_agreeing
    (agrees : Answerer.Agrees pairs answer)
    (number : Nat)
    (reconfigured : Reconfigured pairs world world') :
    Agreeing pairs (stepOnce answer number world)
      (stepOnce answer number world') := by
  have refusals :=
    reconfigured.worlds.refusal? (Option Turn) number
  rcases refusal?_cases (Option Turn) world number with
    ⟨refusal, refused⟩ | ⟨idle, scheduler, alive⟩
  · rw [stepOnce_of_refusal? answer refused,
      stepOnce_of_refusal? answer (refusals.trans refused)]
    exact .finished reconfigured refusal
  · obtain ⟨scheduler', alive', -⟩ := reconfigured.worlds.alive alive
    have idle' : world'.isDriven number = false := by
      rw [reconfigured.worlds.isDriven, idle]
    rw [stepOnce_eq answer idle alive, stepOnce_eq answer idle' alive']
    have turned :=
      takeTurn_agreeing agrees number
        (reconfigured.enter ⟨number, none⟩)
    exact
      turned.map (fun _ reconfigured => reconfigured.leave)
        fun _ _ _ => rfl

/-- A drain is refused in both, or it goes alike. -/
theorem drain_agreeing
    (agrees : Answerer.Agrees pairs answer)
    (patience number : Nat)
    (reconfigured : Reconfigured pairs world world') :
    Agreeing pairs (drain answer patience number world)
      (drain answer patience number world') := by
  have refusals := reconfigured.worlds.refusal? Unit number
  rcases refusal?_cases Unit world number with
    ⟨refusal, refused⟩ | ⟨idle, scheduler, alive⟩
  · rw [drain_of_refusal? answer patience refused,
      drain_of_refusal? answer patience (refusals.trans refused)]
    exact .finished reconfigured refusal
  · obtain ⟨scheduler', alive', schedulers⟩ :=
      reconfigured.worlds.alive alive
    have idle' : world'.isDriven number = false := by
      rw [reconfigured.worlds.isDriven, idle]
    rw [drain_eq answer patience idle alive,
      drain_eq answer patience idle' alive', World.draining,
      World.draining, schedulers.length_ready]
    have looped :=
      drainLoop_agreeing agrees number patience
        ((reconfigured.enter
          ⟨number, some scheduler.ready.length⟩).setDraining number true)
    refine looped.map ?_ fun _ _ _ => rfl
    intro stopped stopped' result reconfigured
    have flagged := reconfigured.setDraining number false
    rcases result with panic | _
    · exact flagged.leave
    · exact (flagged.emitDrained number).leave

/-- What is answered at once is answered alike. -/
theorem answer_zero_agrees
    (launch : κ → Coroutine κ α ε)
    (pairs : SchedulerConfig → SchedulerConfig → Prop) :
    Answerer.Agrees pairs (World.answer launch 0) := by
  intro request world world' reconfigured
  cases request with
  | spawn number job =>
      obtain ⟨spawned, same⟩ := reconfigured.spawn number (launch job)
      exact .of_pair spawned same
  | inspect number =>
      simp only [World.answer]
      rw [reconfigured.worlds.attachment]
      exact .finished reconfigured _
  | step number => exact .unfinished
  | drain number => exact .unfinished
  | observe observation =>
      exact
        .finished
          (reconfigured.unlogged
            (reconfigured.worlds.observe observation) rfl)
          ()
  | announce severity text =>
      exact .finished (reconfigured.emit rfl) ()
  | readClock =>
      obtain ⟨read, same⟩ := reconfigured.worlds.readClock
      exact .of_pair (reconfigured.unlogged read rfl) same

/-- Whatever a coroutine asks for is answered alike, with any patience. -/
theorem answer_agrees
    (launch : κ → Coroutine κ α ε)
    (pairs : SchedulerConfig → SchedulerConfig → Prop)
    (patience : Nat) :
    Answerer.Agrees pairs (World.answer launch patience) := by
  -- Nested drives are answered with less patience.
  induction patience with
  | zero => exact answer_zero_agrees launch pairs
  | succ patience inductionHypothesis =>
      intro request world world' reconfigured
      cases request with
      | step number =>
          exact
            stepOnce_agreeing inductionHypothesis number reconfigured
      | drain number =>
          exact
            drain_agreeing inductionHypothesis patience number
              reconfigured
      | _ =>
          rw [answer_eq_zero (by simp [Request.DrivesNone]),
            answer_eq_zero (by simp [Request.DrivesNone])]
          exact answer_zero_agrees launch pairs _ reconfigured

end World

end RoundRobin
