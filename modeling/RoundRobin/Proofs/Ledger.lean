import RoundRobin.Proofs.Resumption.Search
import RoundRobin.Proofs.Scheduler

namespace RoundRobin.Ledger

/-!
# Ledgers keep their order

A history of a ledger is what has been recorded in it and taken from it, one
operation after the other, each record being of a task without an entry. What
stands in the ledger can be told from the history alone: what was recorded and not
taken since, in the order in which it was recorded. Every way to look at the ledger
agrees with that, and each entry that was recorded either stands or has been given
away once.
-/

/-- What is done to a ledger. -/
inductive Operation (ν : Type) where
  | record (id : TaskId) (value : ν)
  | take (id : TaskId)

namespace Operation

/-- The entry that is recorded, if one is. -/
def recorded? : Operation ν → Option (TaskId × ν)
  | record id value => some (id, value)
  | take _ => none

/-- Whether it is the value of the task that is taken. -/
def takes (id : TaskId) : Operation ν → Bool
  | record _ _ => false
  | take taken => taken = id

end Operation

/-- What a history of operations gives away and leaves in a ledger that was new. -/
inductive After :
    List (Operation ν) →
    List (TaskId × ν) →
    Ledger ν →
    Prop where
  | new : After [] [] {}
  | recorded
      {history : List (Operation ν)}
      {given : List (TaskId × ν)}
      {ledger : Ledger ν}
      (earlier : After history given ledger)
      (id : TaskId)
      (fresh : ledger.contains id = false)
      (value : ν) :
      After (history ++ [.record id value]) given (ledger.record id value)
  | taken
      {history : List (Operation ν)}
      {given : List (TaskId × ν)}
      {ledger : Ledger ν}
      (earlier : After history given ledger)
      (id : TaskId) :
      After (history ++ [.take id])
        (given ++
          ((ledger.take id).2.map fun value => (id, value)).toList)
        (ledger.take id).1

/-- The entries that were recorded in a history and not taken since, the oldest first. -/
def standing : List (Operation ν) → List (TaskId × ν)
  | [] => []
  | .take _ :: later => standing later
  | .record id value :: later =>
      if later.any (Operation.takes id) then standing later
      else (id, value) :: standing later

section

variable
  {history later : List (Operation ν)}
  {given : List (TaskId × ν)}
  {ledger : Ledger ν}
  {id : TaskId}
  {value : ν}

/-- Of what stood before, what is not taken later stands before what is recorded later. -/
theorem standing_append (history later : List (Operation ν)) :
    standing (history ++ later) =
      ((standing history).filter fun entry =>
          !later.any (Operation.takes entry.1)) ++
        standing later := by
  induction history with
  | nil => rfl
  | cons operation rest inductionHypothesis =>
      cases operation with
      | take id => exact inductionHypothesis
      | record id value =>
          simp only [List.cons_append, standing, List.any_append,
            inductionHypothesis]
          cases rest.any (Operation.takes id) with
          | true => simp only [Bool.true_or, ↓reduceIte]
          | false =>
              cases taken : later.any (Operation.takes id) with
              | true => simp [taken]
              | false => simp [taken]

/-- What is standing was recorded. -/
theorem record_mem_of_mem_standing (member : (id, value) ∈ standing history) :
    .record id value ∈ history := by
  induction history with
  | nil => cases member
  | cons operation rest inductionHypothesis =>
      cases operation with
      | take taken =>
          exact List.mem_cons_of_mem _ (inductionHypothesis member)
      | record recorded content =>
          rw [standing] at member
          split at member
          · exact List.mem_cons_of_mem _ (inductionHypothesis member)
          · rcases List.mem_cons.mp member with same | older
            · cases same
              exact List.mem_cons_self
            · exact List.mem_cons_of_mem _ (inductionHypothesis older)

/-- A task of which nothing is recorded after it was taken has no standing entry. -/
theorem not_mem_standing_of_taken
    (unrecorded : ∀ value, .record id value ∉ later) :
    (id, value) ∉ standing (history ++ .take id :: later) := by
  rw [standing_append, List.mem_append, not_or]
  constructor
  · intro member
    have kept := (List.mem_filter.mp member).2
    simp [Operation.takes] at kept
  · intro member
    exact unrecorded value (record_mem_of_mem_standing member)

/-- If no task has two entries, all but that of the task are left. -/
theorem toList_take_eq_filter
    (noDuplicates : ledger.ids.Nodup)
    (id : TaskId) :
    (ledger.take id).1.toList =
      ledger.toList.filter fun entry => entry.1 ≠ id := by
  rw [toList_take]
  unfold ids at noDuplicates
  generalize ledger.toList = entries at noDuplicates ⊢
  induction entries with
  | nil => rfl
  | cons entry rest inductionHypothesis =>
      obtain ⟨fresh, restNodup⟩ := List.nodup_cons.mp noDuplicates
      by_cases same : entry.1 = id
      · have others : ∀ other ∈ rest, decide (other.1 ≠ id) = true := by
          intro other member
          have differs : other.1 ≠ entry.1 := fun equal =>
            fresh (equal ▸ List.mem_map_of_mem (f := Prod.fst) member)
          simpa [same] using differs
        rw [List.eraseP_cons_of_pos (by simpa using same),
          List.filter_cons_of_neg (by simpa using same),
          List.filter_eq_self.mpr others]
      · rw [List.eraseP_cons_of_neg (by simpa using same),
          List.filter_cons_of_pos (by simpa using same),
          inductionHypothesis restNodup]

/-- Taking the value of a task that has none changes nothing. -/
theorem take_of_absent (absent : id ∉ ledger.ids) :
    ledger.take id = (ledger, none) := by
  have unmatched :
      ∀ entry ∈ ledger.toList, ¬ decide (entry.1 = id) = true := by
    intro entry member same
    have equal := of_decide_eq_true same
    exact absent (equal ▸ List.mem_map_of_mem (f := Prod.fst) member)
  have unchanged :
      (ledger.toList.eraseP fun entry => entry.1 = id) = ledger.toList :=
    List.eraseP_of_forall_not unmatched
  rw [take, unchanged, get?_eq_none_iff.mpr absent]
  rfl

/-- The entry of a task and what is left when it is taken are the ledger. -/
theorem perm_take
    (noDuplicates : ledger.ids.Nodup)
    (member : (id, value) ∈ ledger.toList) :
    ledger.toList.Perm ((id, value) :: (ledger.take id).1.toList) := by
  obtain ⟨entry, before, after, -, same, apart, rest⟩ :=
    List.exists_of_eraseP (p := fun entry => decide (entry.1 = id))
      member (decide_eq_true rfl)
  have found : entry = (id, value) := by
    have there : entry ∈ ledger.toList := by
      rw [apart]
      exact List.mem_append_right before List.mem_cons_self
    rcases entry with ⟨task, content⟩
    obtain rfl : task = id := of_decide_eq_true same
    have first := (get?_eq_some_iff noDuplicates).mpr there
    have second := (get?_eq_some_iff noDuplicates).mpr member
    rw [Option.some.inj (first.symm.trans second)]
  rw [toList_take, rest, apart, found]
  exact List.perm_middle

/-- The entries are given away one by one, and then there are none. -/
theorem yields_emptying (ledger : Ledger ν) :
    ledger.emptying.Yields ledger.toList (emptying {}) := by
  obtain ⟨⟨entries⟩⟩ := ledger
  change (emptying ⟨entries.toArray⟩).Yields entries (emptying {})
  induction entries with
  | nil => exact .nil _
  | cons entry rest inductionHypothesis =>
      exact .cons rfl inductionHypothesis

namespace After

/-- No task has two entries. -/
theorem nodup_ids (after : After history given ledger) :
    ledger.ids.Nodup := by
  induction after with
  | new => exact List.nodup_nil
  | @recorded history given ledger earlier id fresh value inductionHypothesis =>
      exact nodup_ids_record inductionHypothesis id value
  | taken earlier id inductionHypothesis =>
      rw [ids, toList_take]
      exact (List.eraseP_sublist.map Prod.fst).nodup inductionHypothesis

/-- What stands in the ledger is told by its history. -/
theorem toList_eq (after : After history given ledger) :
    ledger.toList = standing history := by
  induction after with
  | new => rfl
  | recorded earlier id fresh value inductionHypothesis =>
      rw [toList_record (not_mem_ids.mpr fresh), standing_append,
        inductionHypothesis]
      simp [standing, Operation.takes]
  | taken earlier id inductionHypothesis =>
      rw [toList_take_eq_filter earlier.nodup_ids, standing_append,
        inductionHypothesis]
      simp [standing, Operation.takes, eq_comm]

/-- What was recorded stands in the ledger or was given away, and only once. -/
theorem perm_recorded (after : After history given ledger) :
    (ledger.toList ++ given).Perm (history.filterMap Operation.recorded?) := by
  induction after with
  | new => exact .nil
  | @recorded history given ledger earlier id fresh value inductionHypothesis =>
      have moved :
          (ledger.toList ++ [(id, value)] ++ given).Perm
            (ledger.toList ++ given ++ [(id, value)]) := by
        rw [List.append_assoc, List.append_assoc]
        exact List.perm_append_comm.append_left _
      rw [toList_record (not_mem_ids.mpr fresh), List.filterMap_append]
      exact moved.trans (inductionHypothesis.append_right [(id, value)])
  | @taken history given ledger earlier id inductionHypothesis =>
      have same :
          (history ++ [Operation.take id]).filterMap
              Operation.recorded? =
            history.filterMap Operation.recorded? := by
        rw [List.filterMap_append]
        exact List.append_nil _
      rw [same]
      refine .trans ?_ inductionHypothesis
      by_cases present : id ∈ ledger.ids
      · obtain ⟨value, member⟩ := mem_ids_iff.mp present
        have got : (ledger.take id).2 = some value :=
          (get?_eq_some_iff earlier.nodup_ids).mpr member
        have parted := perm_take earlier.nodup_ids member
        rw [got, ← List.append_assoc]
        exact
          List.perm_append_singleton (id, value) _ |>.trans
            (parted.symm.append_right given)
      · rw [take_of_absent present]
        exact .of_eq (congrArg _ (List.append_nil given))

end After

end

/--
How a ledger stands after a history that gave some entries away: in every respect
as what stands by the history.
-/
structure KeptInOrder
    (history : List (Operation ν))
    (given : List (TaskId × ν))
    (ledger : Ledger ν) :
    Prop where
  /--
  The entries are what was recorded and not taken since, in the order of recording,
  each with the value that was recorded.
  -/
  entries : ledger.toList = standing history
  /-- The tasks are those of the entries, in the same order. -/
  ids : ledger.ids = (standing history).map Prod.fst
  noDuplicates : ledger.ids.Nodup
  length : ledger.length = (standing history).length
  isEmpty : ledger.isEmpty = true ↔ standing history = []
  contains :
    ∀ id,
      ledger.contains id = true ↔
        ∃ value, (id, value) ∈ standing history
  get :
    ∀ id value,
      ledger.get? id = some value ↔ (id, value) ∈ standing history
  /-- A value that is taken leaves all other entries as they were, in their order. -/
  taken :
    ∀ id value,
      (id, value) ∈ standing history →
      (ledger.take id).2 = some value ∧
        (ledger.take id).1.toList =
          (standing history).filter fun entry => entry.1 ≠ id
  /-- Where there is no value to take, nothing changes. -/
  untaken :
    ∀ id,
      (∀ value, (id, value) ∉ standing history) →
      ledger.take id = (ledger, none)
  /-- A value that was taken is not taken again, unless one is recorded again. -/
  once :
    ∀ (earlier later : List (Operation ν)) (id : TaskId),
      history = earlier ++ .take id :: later →
      (∀ value, .record id value ∉ later) →
      ledger.take id = (ledger, none)
  /-- Every entry that was recorded stands or was given away, and only once. -/
  conserved :
    (standing history ++ given).Perm
      (history.filterMap Operation.recorded?)
  /-- Given away one after the other, the entries come in the same order. -/
  yields : ledger.emptying.Yields (standing history) (emptying {})
  /-- Behind them there are none. -/
  exhausted :
    (emptying {} : Source (TaskId × ν)).pull {} = ({}, none)

/-- Whatever is recorded in a ledger and taken from it, the ledger keeps its order. -/
theorem kept_in_order
    {history : List (Operation ν)}
    {given : List (TaskId × ν)}
    {ledger : Ledger ν}
    (after : After history given ledger) :
    KeptInOrder history given ledger := by
  have entries := after.toList_eq
  have noDuplicates := after.nodup_ids
  have absent
      {id : TaskId}
      (missing : ∀ value, (id, value) ∉ standing history) :
      ledger.take id = (ledger, none) := by
    apply take_of_absent
    intro present
    obtain ⟨value, member⟩ := mem_ids_iff.mp present
    exact missing value (entries ▸ member)
  refine
    { entries := entries
      ids := congrArg (List.map Prod.fst) entries
      noDuplicates := noDuplicates
      length := ?_
      isEmpty := ?_
      contains := ?_
      get := ?_
      taken := ?_
      untaken := fun _ => absent
      once := ?_
      conserved := ?_
      yields := ?_
      exhausted := rfl }
  · rw [← length_toList, entries]
  · rw [← entries, isEmpty, Array.isEmpty_iff, toList,
      Array.toList_eq_nil_iff]
  · intro id
    rw [← mem_ids, mem_ids_iff, entries]
  · intro id value
    rw [get?_eq_some_iff noDuplicates, entries]
  · intro id value member
    rw [← entries] at member ⊢
    exact
      ⟨(get?_eq_some_iff noDuplicates).mpr member,
        toList_take_eq_filter noDuplicates id⟩
  · intro earlier later id split unrecorded
    apply absent
    intro value
    rw [split]
    exact not_mem_standing_of_taken unrecorded
  · rw [← entries]
    exact after.perm_recorded
  · rw [← entries]
    exact yields_emptying ledger

/-- The middle one of three is taken and recorded anew, and then the first is taken. -/
theorem kept_in_order_past_removals :
    ∃ ledger : Ledger Nat,
      After
          [.record ⟨0⟩ 10, .record ⟨1⟩ 11, .record ⟨2⟩ 12, .take ⟨1⟩,
            .record ⟨1⟩ 21, .take ⟨0⟩]
          [(⟨1⟩, 11), (⟨0⟩, 10)]
          ledger ∧
        ledger.toList = [(⟨2⟩, 12), (⟨1⟩, 21)] ∧
        ledger.ids = [⟨2⟩, ⟨1⟩] ∧
        ledger.get? ⟨1⟩ = some 21 ∧
        ledger.take ⟨0⟩ = (ledger, none) := by
  have after :=
    After.new.recorded ⟨0⟩ rfl 10
      |>.recorded ⟨1⟩ rfl 11
      |>.recorded ⟨2⟩ rfl 12
      |>.taken ⟨1⟩
      |>.recorded ⟨1⟩ rfl 21
      |>.taken ⟨0⟩
  have kept := kept_in_order after
  refine
    ⟨_, after, kept.entries, kept.ids, (kept.get ⟨1⟩ 21).mpr ?_,
      kept.once
        [.record ⟨0⟩ 10, .record ⟨1⟩ 11, .record ⟨2⟩ 12, .take ⟨1⟩,
          .record ⟨1⟩ 21]
        [] ⟨0⟩ rfl ?_⟩
  · decide
  · intro value member
    cases member

end RoundRobin.Ledger
