import RoundRobin.Proofs.Forest.Behaviour
import RoundRobin.Proofs.Schedule.Lasting
import RoundRobin.Proofs.Scheduler

namespace RoundRobin

/-!
# Coroutines that behave as given

A coroutine behaves as a tree says if its resumptions spawn, suspend and end as
the tree says, and what it spawns behaves as the branches say. As with lasting,
what it does besides may depend on what is around its scheduler, so this is
relative to a condition on the surroundings that each resumption is to keep.
Every tree is the behaviour of some coroutine, in any surroundings.
-/

namespace Coroutine

variable
  (launch : κ → Coroutine κ α ε)
  (patience number : Nat)
  (holds : Surroundings κ α ε → Prop)

/--
Resumed by a scheduler in surroundings that hold, the coroutine ends its
resumption with an outcome and becomes what it is to become; meanwhile its
scheduler is given tasks that are as they are to be, in that order.
-/
def Yields
    (children : List (Coroutine κ α ε → Prop))
    (becomes : Coroutine κ α ε → Outcome α ε → Prop)
    (coroutine : Coroutine κ α ε) :
    Prop :=
  ∀ world scheduler,
    world.isDriven number →
    world.scheduler? number = some scheduler →
    holds (world.around number) →
    ∃ world' scheduler' coroutine' outcome arrived,
      coroutine.resume.conduct (World.answer launch patience) world =
          some (world', coroutine', .ok outcome) ∧
        world'.scheduler? number = some scheduler' ∧
        scheduler'.ready.toList = scheduler.ready.toList ++ arrived ∧
        List.Forall₂ (fun child task => child task.coroutine) children
          arrived ∧
        holds (world'.around number) ∧
        becomes coroutine' outcome

/-- The coroutine behaves as given, if so much of its next resumption's spawning is put in front. -/
def BehavesAfter :
    Behaviour α ε →
    (children : List (Coroutine κ α ε → Prop)) →
    Coroutine κ α ε →
    Prop
  | .ends ending, children =>
      Yields launch patience number holds children fun _ outcome =>
        outcome = .ofEnding ending
  | .suspends later, children =>
      Yields launch patience number holds children
        fun coroutine' outcome =>
          outcome = .suspended ∧ BehavesAfter later [] coroutine'
  | .spawns child later, children =>
      BehavesAfter later (children ++ [BehavesAfter child []])

/-- The coroutine behaves as given. -/
def Behaves
    (behaviour : Behaviour α ε) :
    Coroutine κ α ε →
    Prop :=
  BehavesAfter launch patience number holds behaviour []

/-- What a coroutine becomes by a resumption, given what it is to do after it. -/
def GoesOn
    (behaviour : Behaviour α ε)
    (coroutine' : Coroutine κ α ε)
    (outcome : Outcome α ε) :
    Prop :=
  match behaviour.after? with
  | none => outcome = .ofEnding behaviour.ending
  | some later =>
      outcome = .suspended ∧
        Behaves launch patience number holds later coroutine'

variable
  {launch : κ → Coroutine κ α ε}
  {patience number : Nat}
  {holds : Surroundings κ α ε → Prop}

theorem behavesAfter_iff
    {behaviour : Behaviour α ε}
    {children : List (Coroutine κ α ε → Prop)}
    {coroutine : Coroutine κ α ε} :
    BehavesAfter launch patience number holds behaviour children
        coroutine ↔
      Yields launch patience number holds
        (children ++
          behaviour.spawned.map
            (Behaves launch patience number holds))
        (GoesOn launch patience number holds behaviour) coroutine := by
  induction behaviour generalizing children with
  | ends ending =>
      simp only [BehavesAfter, Behaviour.spawned, List.map_nil,
        List.append_nil]
      rfl
  | suspends later _ =>
      simp only [BehavesAfter, Behaviour.spawned, List.map_nil,
        List.append_nil]
      rfl
  | spawns child later _ inductionHypothesis =>
      simp only [BehavesAfter, inductionHypothesis, Behaviour.spawned,
        List.map_cons, List.append_assoc, List.cons_append,
        List.nil_append]
      rfl

/-- A coroutine behaves as given if its next resumption does and what this leaves. -/
theorem behaves_iff
    {behaviour : Behaviour α ε}
    {coroutine : Coroutine κ α ε} :
    Behaves launch patience number holds behaviour coroutine ↔
      Yields launch patience number holds
        (behaviour.spawned.map (Behaves launch patience number holds))
        (GoesOn launch patience number holds behaviour) coroutine := by
  unfold Behaves
  rw [behavesAfter_iff, List.nil_append]
  rfl

end Coroutine

/-- What a behaviour is after its next resumption, and the outcome of this one. -/
def Behaviour.next (behaviour : Behaviour α ε) :
    Behaviour α ε × Outcome α ε :=
  match behaviour.after? with
  | none => (.ends behaviour.ending, .ofEnding behaviour.ending)
  | some later => (later, .suspended)

/-- What is asked for until a behaviour suspends or ends, and what it is then. -/
def Behaviour.activity
    (number : Nat) :
    Behaviour α ε →
    Activity (Behaviour α ε) (Behaviour α ε × Guarded (Outcome α ε))
  | ends ending => .done (ends ending, .ok (.ofEnding ending))
  | suspends later => .done (later, .ok .suspended)
  | spawns child later =>
      .ask (.spawn number child) fun _ => later.activity number

namespace Coroutine

/-- The coroutine that spawns onto a scheduler, suspends and ends as a tree says. -/
def ofBehaviour
    (number : Nat)
    (behaviour : Behaviour α ε) :
    Coroutine (Behaviour α ε) α ε where
  State := Behaviour α ε
  state := behaviour
  advance := Behaviour.activity number

variable
  {patience number : Nat}
  {holds : Surroundings (Behaviour α ε) α ε → Prop}

/-- A resumption adds what it is to spawn, and changes nothing else of schedulers and drives. -/
theorem conduct_activity
    (behaviour : Behaviour α ε)
    {world : World (Behaviour α ε) α ε}
    {scheduler : Scheduler (Behaviour α ε) α ε}
    (alive : world.scheduler? number = some scheduler) :
    ∃ world' scheduler' arrived,
      (behaviour.activity number).conduct
            (World.answer (ofBehaviour number) patience) world =
          some (world', behaviour.next.1, .ok behaviour.next.2) ∧
        world'.scheduler? number = some scheduler' ∧
        scheduler'.ready.toList = scheduler.ready.toList ++ arrived ∧
        arrived.map Task.coroutine =
          behaviour.spawned.map (ofBehaviour number) ∧
        world'.around number = world.around number := by
  induction behaviour generalizing world scheduler with
  | ends ending =>
      exact
        ⟨world, scheduler, [], rfl, alive, (List.append_nil _).symm, rfl,
          rfl⟩
  | suspends later _ =>
      exact
        ⟨world, scheduler, [], rfl, alive, (List.append_nil _).symm, rfl,
          rfl⟩
  | spawns child later _ inductionHypothesis =>
      have spawned :
          (world.spawn number (ofBehaviour number child)).1.scheduler?
              number =
            some (scheduler.enqueue (ofBehaviour number child)).1 := by
        simp [World.scheduler?_spawn, alive]
      have around :
          (world.spawn number (ofBehaviour number child)).1.around
              number =
            world.around number := by
        apply World.around_congr
        · intro other different
          simp [World.scheduler?_spawn, Ne.symm different]
        · rw [World.frames_spawn]
      obtain
        ⟨world', scheduler', arrived, conducted, alive', ready,
          coroutines, around'⟩ :=
        inductionHypothesis spawned
      refine
        ⟨world', scheduler',
          .new (scheduler.enqueue (ofBehaviour number child)).2
              (ofBehaviour number child) ::
            arrived,
          ?_, alive', ?_, ?_, around'.trans around⟩
      · simp only [Behaviour.activity, Activity.conduct]
        rw [World.answer_eq_zero (by simp [Request.DrivesNone])]
        exact conducted
      · simp [ready]
      · simp [Task.new, Behaviour.spawned, coroutines]

/-- The coroutine of a tree behaves as the tree, if those of its parts do so. -/
theorem behaves_of_parts
    {behaviour : Behaviour α ε}
    (children :
      ∀ child ∈ behaviour.spawned,
        Behaves (ofBehaviour number) patience number holds child
          (ofBehaviour number child))
    (later :
      ∀ later ∈ behaviour.after?,
        Behaves (ofBehaviour number) patience number holds later
          (ofBehaviour number later)) :
    Behaves (ofBehaviour number) patience number holds behaviour
      (ofBehaviour number behaviour) := by
  rw [behaves_iff]
  intro world scheduler _ alive held
  obtain
    ⟨world', scheduler', arrived, conducted, alive', ready, coroutines,
      around⟩ :=
    conduct_activity behaviour alive
  refine
    ⟨world', scheduler', ofBehaviour number behaviour.next.1,
      behaviour.next.2, arrived, ?_, alive', ready, ?_, ?_, ?_⟩
  · rw [resume, Activity.conduct_map]
    exact congrArg (Option.map _) conducted
  · have matched :
        List.Forall₂ (Behaves (ofBehaviour number) patience number holds)
          behaviour.spawned (arrived.map Task.coroutine) := by
      rw [coroutines, List.forall₂_map_right_iff, List.forall₂_same]
      exact children
    rw [List.forall₂_map_left_iff]
    exact List.forall₂_map_right_iff.mp matched
  · rw [around]
    exact held
  · unfold GoesOn Behaviour.next
    cases left : behaviour.after? with
    | none => rfl
    | some rest => exact ⟨rfl, later rest left⟩

/-- Every tree is the behaviour of the coroutine that is made from it. -/
theorem behaves_ofBehaviour (behaviour : Behaviour α ε) :
    Behaves (ofBehaviour number) patience number holds behaviour
      (ofBehaviour number behaviour) := by
  -- The parts of a resumption are collected on the way to its end.
  suffices whole :
      (∀ child ∈ behaviour.spawned,
          Behaves (ofBehaviour number) patience number holds child
            (ofBehaviour number child)) ∧
        ∀ later ∈ behaviour.after?,
          Behaves (ofBehaviour number) patience number holds later
            (ofBehaviour number later) by
    exact behaves_of_parts whole.1 whole.2
  induction behaviour with
  | ends ending =>
      simp [Behaviour.spawned, Behaviour.after?]
  | suspends later ofLater =>
      have behaves := behaves_of_parts ofLater.1 ofLater.2
      simpa [Behaviour.spawned, Behaviour.after?] using behaves
  | spawns child later ofChild ofLater =>
      have behaves := behaves_of_parts ofChild.1 ofChild.2
      simpa [Behaviour.spawned, Behaviour.after?, behaves] using ofLater

end Coroutine

end RoundRobin
