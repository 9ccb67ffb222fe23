import Mathlib.Algebra.GroupWithZero.Nat
import Mathlib.Data.List.Forall2
import Mathlib.Data.List.Perm.Basic
import RoundRobin.Outcome
import RoundRobin.Task.Id

namespace RoundRobin

/-!
# Finite behaviour trees

A behaviour is what a coroutine will do: it spawns, suspends and at last ends.
What it spawns has a behaviour of its own, so a behaviour is a tree. It is
written down in the order of events: a resumption is the spawning up to the
next suspension or to the end.

A resumption takes the first part off a behaviour. What is left then, together
with what has been spawned, holds one resumption less than before; this is the
measure by which working off a forest of behaviours comes to an end.
-/

/-- What a coroutine does from some moment on. -/
inductive Behaviour (α ε : Type) where
  /-- It completes with a value or fails with an error. -/
  | ends (ending : Except ε α)
  | suspends (later : Behaviour α ε)
  /-- It spawns a coroutine and goes on. -/
  | spawns (child later : Behaviour α ε)

/-- The outcome of a resumption that ends a coroutine. -/
def Outcome.ofEnding : Except ε α → Outcome α ε
  | .ok value => .completed value
  | .error error => .failed error

namespace Behaviour

/-- What it ends in. -/
def ending : Behaviour α ε → Except ε α
  | ends ending => ending
  | suspends later => later.ending
  | spawns _ later => later.ending

/-- How often it suspends. -/
def suspensions : Behaviour α ε → Nat
  | ends _ => 0
  | suspends later => later.suspensions + 1
  | spawns _ later => later.suspensions

/-- What it spawns in its next resumption. -/
def spawned : Behaviour α ε → List (Behaviour α ε)
  | ends _ => []
  | suspends _ => []
  | spawns child later => child :: later.spawned

/-- What it does after its next resumption, unless this is the last one. -/
def after? : Behaviour α ε → Option (Behaviour α ε)
  | ends _ => none
  | suspends later => some later
  | spawns _ later => later.after?

/-- What it spawns in all its resumptions, and what that spawns in turn. -/
def offspring : Behaviour α ε → List (Behaviour α ε)
  | ends _ => []
  | suspends later => later.offspring
  | spawns child later => child :: (child.offspring ++ later.offspring)

/-- The behaviour itself and its offspring. -/
def family (behaviour : Behaviour α ε) : List (Behaviour α ε) :=
  behaviour :: behaviour.offspring

/-- How many resumptions all members of a forest take together. -/
def resumptions (forest : List (Behaviour α ε)) : Nat :=
  ((forest.flatMap family).map fun behaviour =>
    behaviour.suspensions + 1).sum

/-- The offspring comes from the next resumption or from a later one. -/
theorem offspring_eq (behaviour : Behaviour α ε) :
    behaviour.offspring =
      behaviour.spawned.flatMap family ++
        behaviour.after?.toList.flatMap offspring := by
  induction behaviour with
  | ends ending => rfl
  | suspends later _ => simp [offspring, spawned, after?]
  | spawns child later _ inductionHypothesis =>
      simp [offspring, spawned, after?, family, inductionHypothesis]

/-- Without another resumption there is no suspension. -/
theorem suspensions_eq_zero
    {behaviour : Behaviour α ε}
    (last : behaviour.after? = none) :
    behaviour.suspensions = 0 := by
  induction behaviour with
  | ends ending => rfl
  | suspends later _ => cases last
  | spawns child later _ inductionHypothesis =>
      exact inductionHypothesis last

/-- What is left after a resumption suspends once less and ends alike. -/
theorem of_after?_eq_some
    {behaviour later : Behaviour α ε}
    (left : behaviour.after? = some later) :
    behaviour.suspensions = later.suspensions + 1 ∧
      behaviour.ending = later.ending := by
  induction behaviour with
  | ends ending => cases left
  | suspends later' _ =>
      cases left
      exact ⟨rfl, rfl⟩
  | spawns child later' _ inductionHypothesis =>
      exact inductionHypothesis left

/-- One resumption of a behaviour is the next one, and the others are of what is left. -/
theorem replicate_suspensions
    (behaviour : Behaviour α ε)
    (id : TaskId) :
    List.replicate (behaviour.suspensions + 1) id =
      id ::
        behaviour.after?.toList.flatMap fun later =>
          List.replicate (later.suspensions + 1) id := by
  cases left : behaviour.after? with
  | none => simp [suspensions_eq_zero left]
  | some later =>
      simp [(of_after?_eq_some left).1, List.replicate_succ]

@[simp] theorem resumptions_append
    (first second : List (Behaviour α ε)) :
    resumptions (first ++ second) =
      resumptions first + resumptions second := by
  simp [resumptions]

/-- A resumption is one less for the forest that it leaves. -/
theorem resumptions_cons
    (behaviour : Behaviour α ε)
    (forest : List (Behaviour α ε)) :
    resumptions (behaviour :: forest) =
      resumptions
          (forest ++ behaviour.spawned ++ behaviour.after?.toList) +
        1 := by
  have own :
      resumptions [behaviour] =
        resumptions behaviour.spawned +
          resumptions behaviour.after?.toList + 1 := by
    cases left : behaviour.after? with
    | none =>
        simp [resumptions, family, offspring_eq behaviour, left,
          suspensions_eq_zero left]
        omega
    | some later =>
        simp [resumptions, family, offspring_eq behaviour, left,
          (of_after?_eq_some left).1]
        omega
  have split :
      resumptions (behaviour :: forest) =
        resumptions [behaviour] + resumptions forest :=
    resumptions_append [behaviour] forest
  rw [split, own]
  simp only [resumptions_append]
  omega

end Behaviour

/-- A task of a forest. -/
structure Member (α ε : Type) where
  id : TaskId
  behaviour : Behaviour α ε

namespace Member

/-- The task, once for each of its resumptions. -/
def turns (member : Member α ε) : List TaskId :=
  List.replicate (member.behaviour.suspensions + 1) member.id

/-- The task as it is after its next resumption, unless it has ended then. -/
def after (member : Member α ε) : List (Member α ε) :=
  member.behaviour.after?.toList.map fun later =>
    { id := member.id, behaviour := later }

theorem turns_eq (member : Member α ε) :
    member.turns = member.id :: member.after.flatMap turns := by
  unfold turns after
  rw [Behaviour.replicate_suspensions, List.flatMap_map]

@[simp] theorem map_behaviour_after (member : Member α ε) :
    member.after.map Member.behaviour =
      member.behaviour.after?.toList := by
  simp [after, Function.comp_def]

/--
What a forest spawns is what the next resumption of its first member spawns,
and what is spawned by the forest that this resumption leaves.
-/
theorem perm_offspring
    {member : Member α ε}
    {others children issued : List (Member α ε)}
    (spawned :
      children.map Member.behaviour = member.behaviour.spawned)
    (later :
      (issued.map Member.behaviour).Perm
        ((others ++ children ++ member.after).flatMap fun other =>
          other.behaviour.offspring)) :
    ((children ++ issued).map Member.behaviour).Perm
      ((member :: others).flatMap fun other =>
        other.behaviour.offspring) := by
  have ofChildren :
      (member.behaviour.spawned ++
          children.flatMap fun child => child.behaviour.offspring).Perm
        (member.behaviour.spawned.flatMap Behaviour.family) := by
    rw [← spawned, List.flatMap_map]
    exact List.map_append_flatMap_perm children _ _
  have ofRest :
      (member.after.flatMap fun other => other.behaviour.offspring) =
        member.behaviour.after?.toList.flatMap Behaviour.offspring := by
    simp [after, List.flatMap_map]
  classical
  rw [List.perm_iff_count] at later ofChildren ⊢
  intro behaviour
  have ofLater := later behaviour
  have ofSpawned := ofChildren behaviour
  simp only [List.map_append, spawned, List.flatMap_append,
    List.flatMap_cons, ofRest, Behaviour.offspring_eq member.behaviour,
    List.count_append] at ofLater ofSpawned ⊢
  omega

/-- The turns of a forest are the next one of its first member, and those of what it leaves. -/
theorem perm_turns
    (member : Member α ε)
    {others children issued : List (Member α ε)}
    {later : List TaskId}
    (turns :
      later.Perm
        (((others ++ children ++ member.after) ++ issued).flatMap
          Member.turns)) :
    (member.id :: later).Perm
      (((member :: others) ++ (children ++ issued)).flatMap
        Member.turns) := by
  rw [List.perm_iff_count] at turns ⊢
  intro id
  have ofLater := turns id
  simp only [List.flatMap_append, List.flatMap_cons, turns_eq member,
    List.cons_append, List.count_cons, List.count_append] at ofLater ⊢
  omega

end Member

end RoundRobin
