import Mathlib.Algebra.GroupWithZero.Nat
import Mathlib.Data.List.Nodup
import RoundRobin.Outcome
import RoundRobin.Task.Id

namespace RoundRobin

/-!
# The order in which a round-robin queue resumes its tasks

A task that will suspend a certain number of times and then end in an outcome
has an itinerary. A queue of itineraries is worked off from the front, and who
suspends goes to the back. `Itinerary.rota` is the resulting order in closed
form: passes over the whole queue, each of them leaving out who has ended. A
queue in the middle of a pass has a front part, still to be resumed in this
pass, and a back part that waits for the next one.
-/

/-- How often a task is still going to suspend, and what it then ends in. -/
structure Itinerary (α ε : Type) where
  id : TaskId
  suspensions : Nat
  outcome : Outcome α ε

namespace Itinerary

/-- Working off a queue gives these outcomes of resumptions. -/
inductive WorkedOff :
    List (Itinerary α ε) →
    List (TaskId × Outcome α ε) →
    Prop where
  | nil :
      WorkedOff [] []
  | suspended
      {id : TaskId}
      {suspensions : Nat}
      {outcome : Outcome α ε}
      {rest : List (Itinerary α ε)}
      {events : List (TaskId × Outcome α ε)}
      (later : WorkedOff (rest ++ [⟨id, suspensions, outcome⟩]) events) :
      WorkedOff (⟨id, suspensions + 1, outcome⟩ :: rest)
        ((id, .suspended) :: events)
  | ended
      {id : TaskId}
      {outcome : Outcome α ε}
      {rest : List (Itinerary α ε)}
      {events : List (TaskId × Outcome α ε)}
      (later : WorkedOff rest events) :
      WorkedOff (⟨id, 0, outcome⟩ :: rest) ((id, outcome) :: events)

/-- What the resumption of a task in a pass ends in, if it takes part. -/
def event
    (pass : Nat)
    (itinerary : Itinerary α ε) :
    TaskId × Outcome α ε :=
  (itinerary.id,
    if pass < itinerary.suspensions then .suspended
    else itinerary.outcome)

/-- The resumptions of a pass: who has suspended in all the earlier ones takes part. -/
def events
    (itineraries : List (Itinerary α ε))
    (pass : Nat) :
    List (TaskId × Outcome α ε) :=
  (itineraries.filter fun itinerary =>
    pass ≤ itinerary.suspensions).map (event pass)

/-- The greatest number of suspensions. -/
def longest (itineraries : List (Itinerary α ε)) : Nat :=
  (itineraries.map suspensions).foldr max 0

/-- All resumptions, pass for pass. -/
def rota
    (itineraries : List (Itinerary α ε)) :
    List (TaskId × Outcome α ε) :=
  (List.range (longest itineraries + 1)).flatMap (events itineraries)

/-- What is left of itineraries after a pass over all of them. -/
def remaining : List (Itinerary α ε) → List (Itinerary α ε)
  | [] => []
  | ⟨_, 0, _⟩ :: rest => remaining rest
  | ⟨id, fewer + 1, outcome⟩ :: rest =>
      ⟨id, fewer, outcome⟩ :: remaining rest

theorem events_zero (itineraries : List (Itinerary α ε)) :
    events itineraries 0 = itineraries.map (event 0) := by
  simp [events]

/-- A later pass is an earlier one of what is left. -/
theorem events_succ
    (itineraries : List (Itinerary α ε))
    (pass : Nat) :
    events itineraries (pass + 1) =
      events (remaining itineraries) pass := by
  induction itineraries with
  | nil => rfl
  | cons itinerary rest inductionHypothesis =>
      rcases itinerary with ⟨id, _ | fewer, outcome⟩
      · simpa [events, remaining] using inductionHypothesis
      · by_cases takesPart : pass ≤ fewer
        · simpa [events, remaining, event, takesPart]
            using inductionHypothesis
        · simpa [events, remaining, takesPart] using inductionHypothesis

theorem le_longest
    {itinerary : Itinerary α ε}
    {itineraries : List (Itinerary α ε)}
    (member : itinerary ∈ itineraries) :
    itinerary.suspensions ≤ longest itineraries := by
  induction member with
  | head rest =>
      exact Nat.le_max_left _ _
  | tail other _ inductionHypothesis =>
      exact Nat.le_trans inductionHypothesis (Nat.le_max_right _ _)

theorem longest_remaining (itineraries : List (Itinerary α ε)) :
    longest (remaining itineraries) ≤ longest itineraries := by
  induction itineraries with
  | nil => exact Nat.le_refl _
  | cons itinerary rest inductionHypothesis =>
      rcases itinerary with ⟨id, _ | fewer, outcome⟩
      · simpa [longest, remaining] using inductionHypothesis
      · simp only [longest, remaining, List.map_cons, List.foldr_cons]
          at inductionHypothesis ⊢
        omega

/-- Beyond the longest itinerary the passes are empty. -/
theorem flatMap_events
    {itineraries : List (Itinerary α ε)}
    {bound : Nat}
    (enough : longest itineraries ≤ bound) :
    (List.range (bound + 1)).flatMap (events itineraries) =
      rota itineraries := by
  induction enough with
  | refl => rfl
  | @step bound enough inductionHypothesis =>
      have empty : events itineraries (bound + 1) = [] := by
        simp only [events, List.map_eq_nil_iff, List.filter_eq_nil_iff,
          decide_eq_true_eq, Nat.not_le]
        intro itinerary member
        exact Nat.lt_succ_of_le (Nat.le_trans (le_longest member) enough)
      rw [List.range_succ, List.flatMap_append, inductionHypothesis]
      simp [empty]

/-- The first pass takes everybody; the others are those of what is left. -/
theorem rota_eq (itineraries : List (Itinerary α ε)) :
    rota itineraries =
      itineraries.map (event 0) ++
        rota (remaining itineraries) := by
  have enough :
      longest itineraries ≤ longest itineraries + 1 :=
    Nat.le_succ _
  rw [← flatMap_events enough, List.range_succ_eq_map,
    List.flatMap_cons, events_zero, List.flatMap_map]
  simp only [Nat.succ_eq_add_one, events_succ]
  rw [flatMap_events (longest_remaining itineraries)]

namespace WorkedOff

variable
  {itineraries : List (Itinerary α ε)}
  {events : List (TaskId × Outcome α ε)}

/-- The front part of a queue is empty, or the first task is the first of it. -/
theorem eq_append_of_cons
    {first : Itinerary α ε}
    {rest : List (Itinerary α ε)}
    (resumed :
      ∀ front back,
        rest = front ++ back →
        events =
          (first :: front).map (event 0) ++
            rota (back ++ remaining (first :: front)))
    {front back : List (Itinerary α ε)}
    (split : first :: rest = front ++ back) :
    events =
      front.map (event 0) ++ rota (back ++ remaining front) := by
  cases front with
  | nil =>
      rw [List.nil_append] at split
      subst split
      rw [resumed rest [] (List.append_nil rest).symm]
      simpa [remaining] using (rota_eq (first :: rest)).symm
  | cons other front =>
      rw [List.cons_append] at split
      obtain ⟨same, behind⟩ := List.cons.inj split
      subst same
      exact resumed front back behind

/--
From the middle of a pass, the front part is resumed and then, pass for pass,
what waits together with what is left of the front part.
-/
theorem eq_append
    (worked : WorkedOff itineraries events)
    {front back : List (Itinerary α ε)}
    (split : itineraries = front ++ back) :
    events =
      front.map (event 0) ++ rota (back ++ remaining front) := by
  induction worked generalizing front back with
  | nil =>
      obtain ⟨rfl, rfl⟩ := List.append_eq_nil_iff.mp split.symm
      rfl
  | @suspended id suspensions outcome rest events later
      inductionHypothesis =>
      refine eq_append_of_cons ?_ split
      intro front back split
      -- The task suspends and waits behind all others for the next pass.
      have behind :
          rest ++ [⟨id, suspensions, outcome⟩] =
            front ++ (back ++ [⟨id, suspensions, outcome⟩]) := by
        rw [split, List.append_assoc]
      rw [inductionHypothesis behind]
      simp [event, remaining]
  | @ended id outcome rest events later inductionHypothesis =>
      refine eq_append_of_cons ?_ split
      intro front back split
      rw [inductionHypothesis split]
      simp [event, remaining]

/-- A queue is worked off pass for pass. -/
theorem eq_rota (worked : WorkedOff itineraries events) :
    events = rota itineraries := by
  have all := worked.eq_append (List.append_nil itineraries).symm
  rw [List.nil_append, ← rota_eq] at all
  exact all

/-- Each task is resumed once more than it suspends. -/
theorem length_eq (worked : WorkedOff itineraries events) :
    events.length =
      (itineraries.map fun itinerary =>
        itinerary.suspensions + 1).sum := by
  induction worked with
  | nil => rfl
  | suspended _ inductionHypothesis =>
      simp only [List.length_cons, inductionHypothesis, List.map_append,
        List.map_cons, List.map_nil, List.sum_append, List.sum_cons,
        List.sum_nil]
      omega
  | ended _ inductionHypothesis =>
      simp only [List.length_cons, inductionHypothesis, List.map_cons,
        List.sum_cons]
      omega

/-- The suspensions are as many as foreseen. -/
theorem countP_suspended
    (worked : WorkedOff itineraries events)
    (terminal :
      ∀ itinerary ∈ itineraries, itinerary.outcome.isTerminal) :
    (events.countP fun event => !event.2.isTerminal) =
      (itineraries.map suspensions).sum := by
  induction worked with
  | nil => rfl
  | @suspended id suspensions outcome rest events later
      inductionHypothesis =>
      have ends : outcome.isTerminal = true :=
        terminal _ List.mem_cons_self
      have counted := inductionHypothesis (by
        intro itinerary member
        rcases List.mem_append.mp member with inRest | isLast
        · exact terminal itinerary (List.mem_cons_of_mem _ inRest)
        · rw [List.mem_singleton] at isLast
          subst isLast
          exact ends)
      simp only [List.map_append, List.map_cons, List.map_nil,
        List.sum_append, List.sum_cons, List.sum_nil] at counted ⊢
      rw [List.countP_cons, counted]
      simp [Outcome.isTerminal]
      omega
  | @ended id outcome rest events later inductionHypothesis =>
      have counted := inductionHypothesis fun itinerary member =>
        terminal itinerary (List.mem_cons_of_mem _ member)
      have ends : outcome.isTerminal = true :=
        terminal _ List.mem_cons_self
      simp [counted, ends]

end WorkedOff

/-- In a pass, just those end whose suspensions are as many as there were passes. -/
theorem filter_events
    {itineraries : List (Itinerary α ε)}
    (terminal :
      ∀ itinerary ∈ itineraries, itinerary.outcome.isTerminal)
    (pass : Nat) :
    (events itineraries pass).filter (fun event => event.2.isTerminal) =
      (itineraries.filter fun itinerary =>
        itinerary.suspensions = pass).map fun itinerary =>
          (itinerary.id, itinerary.outcome) := by
  induction itineraries with
  | nil => rfl
  | cons itinerary rest inductionHypothesis =>
      have ends : itinerary.outcome.isTerminal = true :=
        terminal itinerary List.mem_cons_self
      have others := inductionHypothesis fun other member =>
        terminal other (List.mem_cons_of_mem _ member)
      unfold events at others ⊢
      rcases Nat.lt_trichotomy pass itinerary.suspensions with
        goesOn | same | gone
      · simpa [event, goesOn, Nat.le_of_lt goesOn, Nat.ne_of_gt goesOn,
          Outcome.isTerminal] using others
      · subst same
        simpa [event, ends] using others
      · simpa [Nat.not_le_of_lt gone, Nat.ne_of_lt gone] using others

end Itinerary

/-- The numbers below a bound, one class of equal keys after the other. -/
def classwise
    (key : Nat → Nat)
    (bound greatest : Nat) :
    List Nat :=
  (List.range (greatest + 1)).flatMap fun value =>
    (List.range bound).filter fun number => key number = value

/-- The numbers below a bound, ordered by a key, and equal keys by the number. -/
def sortedBy
    (key : Nat → Nat)
    (bound : Nat) :
    List Nat :=
  (List.range bound).mergeSort fun first second =>
    key first < key second ∨ key first = key second ∧ first ≤ second

theorem pairwise_classwise
    (key : Nat → Nat)
    (bound greatest : Nat) :
    (classwise key bound greatest).Pairwise fun first second =>
      key first < key second ∨
        key first = key second ∧ first < second := by
  unfold classwise
  rw [List.pairwise_flatMap]
  refine ⟨?_, ?_⟩
  · intro value _
    apply (List.pairwise_lt_range.filter _).imp_of_mem
    intro first second isFirst isSecond ordered
    simp only [List.mem_filter, decide_eq_true_eq] at isFirst isSecond
    exact .inr ⟨isFirst.2.trans isSecond.2.symm, ordered⟩
  · apply List.pairwise_lt_range.imp
    intro lesser greater ordered first isFirst second isSecond
    simp only [List.mem_filter, decide_eq_true_eq] at isFirst isSecond
    left
    rw [isFirst.2, isSecond.2]
    exact ordered

theorem mem_classwise
    {key : Nat → Nat}
    {bound greatest : Nat}
    (bounded : ∀ number < bound, key number ≤ greatest)
    {number : Nat} :
    number ∈ classwise key bound greatest ↔
      number ∈ List.range bound := by
  simp only [classwise, List.mem_flatMap, List.mem_filter,
    List.mem_range, decide_eq_true_eq]
  constructor
  · rintro ⟨value, -, below, -⟩
    exact below
  · intro below
    exact
      ⟨key number, Nat.lt_succ_of_le (bounded number below), below, rfl⟩

theorem pairwise_sortedBy
    (key : Nat → Nat)
    (bound : Nat) :
    (sortedBy key bound).Pairwise fun first second =>
      key first < key second ∨
        key first = key second ∧ first ≤ second := by
  unfold sortedBy
  apply (List.pairwise_mergeSort _ _ _).imp
  · intro first second ordered
    exact of_decide_eq_true ordered
  · intro first second third
    simp only [decide_eq_true_eq]
    omega
  · intro first second
    simp only [Bool.or_eq_true, decide_eq_true_eq]
    omega

/-- Going through the classes of equal keys sorts by the key. -/
theorem classwise_eq_sortedBy
    {key : Nat → Nat}
    {bound greatest : Nat}
    (bounded : ∀ number < bound, key number ≤ greatest) :
    classwise key bound greatest = sortedBy key bound := by
  have ordered := pairwise_classwise key bound greatest
  have noDuplicates : (classwise key bound greatest).Nodup := by
    apply ordered.imp
    rintro first _ before rfl
    omega
  have antisymmetric
      (first second : Nat)
      (_ : first ∈ classwise key bound greatest)
      (_ : second ∈ sortedBy key bound)
      (_ :
        key first < key second ∨
          key first = key second ∧ first ≤ second)
      (_ :
        key second < key first ∨
          key second = key first ∧ second ≤ first) :
      first = second := by
    omega
  apply List.Perm.eq_of_pairwise antisymmetric
  · apply ordered.imp
    intro first second before
    omega
  · exact pairwise_sortedBy key bound
  · have members :
        (classwise key bound greatest).Perm (List.range bound) :=
      (List.perm_ext_iff_of_nodup noDuplicates List.nodup_range).mpr
        fun _ => mem_classwise bounded
    exact members.trans (List.mergeSort_perm _ _).symm

end RoundRobin
